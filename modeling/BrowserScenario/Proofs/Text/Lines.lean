import BrowserScenario.Proofs.Text.Pieces
import BrowserScenario.Text.Lines

/-!
# Lines with their endings

A text is written as lines that end in any of the three ways, in any mixture, and a last line that
does not end. A return and an empty line that ends with a line feed are the same text as one line
that ends with both, so that the empty line is not read. Main statement: what is read from the lines
of a text, where nothing is read from empty lines, is what is read from the lines that were written.
-/

namespace BrowserScenario.Text

/-- The ways in which a line ends. -/
inductive LineEnd
  | lineFeed
  | carriageReturn
  | both
deriving DecidableEq, Repr

/-- The characters of an ending. -/
def LineEnd.chars : LineEnd → List Char
  | .lineFeed => ['\n']
  | .carriageReturn => ['\r']
  | .both => ['\r', '\n']

/-- The text of lines with their endings and of a last line without one. -/
def textOfLines (lines : List (List Char × LineEnd)) (last : List Char) : List Char :=
  lines.flatMap (fun line => line.1 ++ line.2.chars) ++ last

/-- A line with none of the characters that end lines. -/
structure IsOneLine (line : List Char) : Prop where
  no_feed : '\n' ∉ line
  no_return : '\r' ∉ line

variable {β : Type} {line rest : List Char}

/-- A character that is no return is kept. -/
theorem unifyNewlines_cons {c : Char} (hc : c ≠ '\r') (rest : List Char) :
    unifyNewlines (c :: rest) = c :: unifyNewlines rest := by
  rw [unifyNewlines.eq_3, if_neg hc]
  exact fun _ heq => absurd heq hc

/-- Characters that are no returns are kept. -/
theorem unifyNewlines_append (h : '\r' ∉ line) (rest : List Char) :
    unifyNewlines (line ++ rest) = line ++ unifyNewlines rest := by
  induction line with
  | nil => rfl
  | cons c more ih =>
    obtain ⟨hc, hmore⟩ := List.ne_and_not_mem_of_not_mem_cons h
    rw [List.cons_append, unifyNewlines_cons (Ne.symm hc), ih hmore, List.cons_append]

/-- A line that ends with a line feed is the first of the lines. -/
theorem splitLines_append (h : '\n' ∉ line) (rest : List Char) :
    splitLines (line ++ '\n' :: rest) = line :: splitLines rest := by
  rw [splitLines, splitAtChar_append, splitAtChar_of_not_mem h]
  rfl

/-- What is read from a line that ends stands before what is read from the others. -/
theorem filterMap_lines_append (read : List Char → Option β) (hread : read [] = none)
    (hline : IsOneLine line) (ending : LineEnd) (rest : List Char) :
    (splitLines (unifyNewlines (line ++ ending.chars ++ rest))).filterMap read =
      [line].filterMap read ++ (splitLines (unifyNewlines rest)).filterMap read := by
  have hfeed (rest : List Char) :
      (splitLines (line ++ '\n' :: unifyNewlines rest)).filterMap read =
        [line].filterMap read ++ (splitLines (unifyNewlines rest)).filterMap read := by
    rw [splitLines_append hline.no_feed, ← List.singleton_append, List.filterMap_append]
  rw [List.append_assoc, unifyNewlines_append hline.no_return]
  cases ending with
  | lineFeed => exact hfeed rest
  | both => exact hfeed rest
  | carriageReturn =>
    cases rest with
    | nil => exact hfeed []
    | cons c others =>
      by_cases hc : c = '\n'
      · subst hc
        -- The two characters are one ending, and the line between them is lost.
        have hempty : (splitLines (unifyNewlines ('\n' :: others))).filterMap read =
            (splitLines (unifyNewlines others)).filterMap read := by
          rw [unifyNewlines_cons (by decide), ← List.nil_append ('\n' :: unifyNewlines others),
            splitLines_append List.not_mem_nil, List.filterMap_cons_none hread]
        rw [hempty]
        exact hfeed others
      · have hunify : unifyNewlines ('\r' :: c :: others) = '\n' :: unifyNewlines (c :: others) := by
          rw [unifyNewlines.eq_3, if_pos rfl]
          exact fun _ _ heq => absurd (List.cons.inj heq).1 hc
        change (splitLines (line ++ unifyNewlines ('\r' :: c :: others))).filterMap read = _
        rw [hunify]
        exact hfeed (c :: others)

/-- What is read from the lines of a text is what is read from the lines that were written, where
nothing is read from empty lines. -/
theorem filterMap_lines_textOfLines (read : List Char → Option β) (hread : read [] = none)
    (lines : List (List Char × LineEnd)) (last : List Char)
    (hlines : ∀ line ∈ lines.map Prod.fst ++ [last], IsOneLine line) :
    (splitLines (unifyNewlines (textOfLines lines last))).filterMap read =
      (lines.map Prod.fst ++ [last]).filterMap read := by
  induction lines with
  | nil =>
    have hlast : IsOneLine last := hlines last (by simp)
    change (splitLines (unifyNewlines last)).filterMap read = _
    rw [unifyNewlines_eq_self hlast.no_return, splitLines, splitAtChar_of_not_mem hlast.no_feed]
    rfl
  | cons line rest ih =>
    rw [List.map_cons, List.cons_append, List.forall_mem_cons] at hlines
    have htext : textOfLines (line :: rest) last =
        line.1 ++ line.2.chars ++ textOfLines rest last := by
      simp [textOfLines]
    rw [htext, filterMap_lines_append read hread hlines.1, ih hlines.2, ← List.filterMap_append]
    rfl

end BrowserScenario.Text
