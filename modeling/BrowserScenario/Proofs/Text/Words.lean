import BrowserScenario.Text.Blank
import Mathlib.Data.List.TakeWhile

/-!
# Words of a text

A text is cut into words at its blanks: a word is a run of characters that are not blank, and it
is as long as it can be. Main statement: the words that are read from a text are its words, in
order, and no other list is.
-/

namespace BrowserScenario.Text

/-- The words of a list of characters, in order: runs of characters that are not blank, each of
which ends before a blank or with the list. -/
inductive WordsOf : List Char → List (List Char) → Prop
  | nil : WordsOf [] []
  | blank {c : Char} {rest : List Char} {found : List (List Char)} (hc : isBlank c = true)
    (h : WordsOf rest found) : WordsOf (c :: rest) found
  | word {word rest : List Char} {found : List (List Char)} (hne : word ≠ [])
    (hword : ∀ c ∈ word, isBlank c = false) (hend : ∀ c, rest.head? = some c → isBlank c = true)
    (h : WordsOf rest found) : WordsOf (word ++ rest) (word :: found)

variable {s pending rest : List Char} {found : List (List Char)}

/-- Characters that are not blank are added to the unfinished word. -/
theorem wordsAfter_append {word : List Char} (hword : ∀ c ∈ word, isBlank c = false) :
    wordsAfter pending (word ++ rest) = wordsAfter (word.reverse ++ pending) rest := by
  induction word generalizing pending with
  | nil => rfl
  | cons c others ih =>
    obtain ⟨hc, hothers⟩ := List.forall_mem_cons.1 hword
    rw [List.cons_append, wordsAfter, if_neg (by rw [hc]; exact Bool.false_ne_true), ih hothers,
      List.reverse_cons, List.append_assoc, List.singleton_append]

/-- An unfinished word is finished before a blank and at the end. -/
theorem wordsAfter_of_ended (hpending : pending ≠ [])
    (hend : ∀ c, rest.head? = some c → isBlank c = true) :
    wordsAfter pending rest = pending.reverse :: wordsAfter [] rest := by
  have hempty : pending.isEmpty = false := by simpa using hpending
  cases rest with
  | nil => simp [wordsAfter, hempty]
  | cons c others => simp [wordsAfter, hempty, hend c rfl]

/-- The words of a list of characters are those that are read. -/
theorem wordsAfter_of_wordsOf (h : WordsOf s found) : wordsAfter [] s = found := by
  induction h with
  | nil => rfl
  | blank hc _ ih =>
    rw [wordsAfter, if_pos hc]
    exact ih
  | word hne hword hend _ ih =>
    rw [wordsAfter_append hword, List.append_nil,
      wordsAfter_of_ended (List.reverse_ne_nil_iff.2 hne) hend, List.reverse_reverse, ih]

/-- Every list of characters has words. -/
theorem exists_wordsOf (s : List Char) : ∃ found, WordsOf s found := by
  induction hlength : s.length using Nat.strongRecOn generalizing s with
  | ind length ih =>
    cases s with
    | nil => exact ⟨[], .nil⟩
    | cons c others =>
      cases hc : isBlank c with
      | true =>
        obtain ⟨found, hfound⟩ := ih others.length (by simp [← hlength]) others rfl
        exact ⟨found, .blank hc hfound⟩
      | false =>
        -- The first word is the longest start without a blank, and the rest is shorter.
        let word := others.takeWhile fun c => !isBlank c
        let rest := others.dropWhile fun c => !isBlank c
        have hsplit : c :: others = (c :: word) ++ rest := by
          simp [word, rest, List.takeWhile_append_dropWhile]
        have hshorter : rest.length < length := by
          have hle : rest.length ≤ others.length := List.length_dropWhile_le _ _
          have hcons : (c :: others).length = others.length + 1 := List.length_cons
          omega
        obtain ⟨found, hfound⟩ := ih rest.length hshorter rest rfl
        have hword : ∀ d ∈ c :: word, isBlank d = false := by
          intro d hd
          rcases List.mem_cons.1 hd with rfl | hd
          · exact hc
          · simpa using List.mem_takeWhile_imp hd
        have hend : ∀ d, rest.head? = some d → isBlank d = true := by
          intro d hd
          have hnot := List.head?_dropWhile_not (fun c => !isBlank c) others
          rw [hd] at hnot
          simpa using hnot
        rw [hsplit]
        exact ⟨_, .word (List.cons_ne_nil c word) hword hend hfound⟩

/-- A text is among the words that are read exactly when it is one of the words. -/
theorem mem_words_iff {text word : String} (h : WordsOf text.toList found) :
    word ∈ words text ↔ word.toList ∈ found := by
  rw [words, wordsAfter_of_wordsOf h, List.mem_map]
  apply Iff.intro
  · intro hmem
    obtain ⟨letters, hletters, rfl⟩ := hmem
    rwa [String.toList_ofList]
  · intro hmem
    exact ⟨word.toList, hmem, String.ofList_toList⟩

/-- The words that are read from a text are its words. -/
theorem wordsOf_iff {text : String} {found : List String} :
    WordsOf text.toList (found.map String.toList) ↔ found = words text := by
  have hwords : (words text).map String.toList = wordsAfter [] text.toList := by
    simp [words, Function.comp_def]
  apply Iff.intro
  · intro h
    have hread := wordsAfter_of_wordsOf h
    rw [words, hread]
    simp [Function.comp_def]
  · intro h
    obtain ⟨others, hothers⟩ := exists_wordsOf text.toList
    rw [h, hwords, wordsAfter_of_wordsOf hothers]
    exact hothers

end BrowserScenario.Text
