/-!
# Blanks

Which characters separate words, how a text is trimmed of them at both ends, and how it is cut
into words. Main statements: what is trimmed has no character of the trimmed class at
either end.
-/

namespace BrowserScenario.Text

/-- A character that separates words: the ASCII blanks and separators and the blanks of
Unicode. -/
def isBlank (c : Char) : Bool :=
  let n := c.toNat
  (9 ≤ n && n ≤ 13) || (28 ≤ n && n ≤ 32) || n == 133 || n == 160 || n == 5760
    || (8192 ≤ n && n ≤ 8202) || n == 8232 || n == 8233 || n == 8239 || n == 8287 || n == 12288

/-- A character with the Unicode property White_Space: a blank other than the four ASCII
separators of records and fields. -/
def isWhiteSpace (c : Char) : Bool :=
  isBlank c && !(28 ≤ c.toNat && c.toNat ≤ 31)

/-- The list without its longest tail of characters in a class. -/
def dropTail (member : Char → Bool) (s : List Char) : List Char :=
  (s.reverse.dropWhile member).reverse

/-- The list without the characters of a class at either end. -/
def trimBy (member : Char → Bool) (s : List Char) : List Char :=
  dropTail member (s.dropWhile member)

/-- The text without the blanks at either end. -/
def trim (s : String) : String :=
  String.ofList (trimBy isBlank s.toList)

/-- The words of a list of characters, read after the letters of an unfinished word in reverse. -/
def wordsAfter (pending : List Char) : List Char → List (List Char)
  | [] => if pending.isEmpty then [] else [pending.reverse]
  | c :: rest =>
    if isBlank c then
      if pending.isEmpty then wordsAfter [] rest else pending.reverse :: wordsAfter [] rest
    else wordsAfter (c :: pending) rest

/-- The maximal runs of characters that are not blank, in order. -/
def words (s : String) : List String :=
  (wordsAfter [] s.toList).map String.ofList

/-- Trimming a class leaves none of its characters in front. -/
theorem trimBy_head (member : Char → Bool) (s : List Char) {c : Char} {rest : List Char}
    (h : trimBy member s = c :: rest) : member c = false := by
  unfold trimBy dropTail at h
  have hpre : (((s.dropWhile member).reverse.dropWhile member).reverse) <+: s.dropWhile member := by
    have := List.dropWhile_suffix member (l := (s.dropWhile member).reverse)
    simpa using List.reverse_prefix.mpr this
  rw [h] at hpre
  obtain ⟨tail, htail⟩ := hpre
  have hhead : (s.dropWhile member).head? = some c := by simp [← htail]
  have := List.head?_dropWhile_not member s
  rw [hhead] at this
  simpa using this

/-- Trimming a class leaves none of its characters at the end. -/
theorem trimBy_last (member : Char → Bool) (s : List Char) {c : Char}
    (h : (trimBy member s).getLast? = some c) : member c = false := by
  unfold trimBy dropTail at h
  rw [List.getLast?_reverse] at h
  have := List.head?_dropWhile_not member (s.dropWhile member).reverse
  rw [h] at this
  simpa using this

end BrowserScenario.Text
