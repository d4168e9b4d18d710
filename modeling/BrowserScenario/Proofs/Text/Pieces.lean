import BrowserScenario.Text.Split

/-!
# Cutting at separators

A text that has no separator in it is one piece, and a separator that stands in a text begins a new
piece. Main statement: cutting undoes putting pieces together that have no separator in them.
-/

namespace BrowserScenario.Text

variable {pieces : List (List Char)}

/-- A text is cut at a separator that stands in it. -/
theorem splitAtChar_append (separator : Char) (first rest : List Char) :
    splitAtChar separator (first ++ separator :: rest) =
      splitAtChar separator first ++ splitAtChar separator rest := by
  induction first with
  | nil => simp [splitAtChar]
  | cons c more ih =>
    rw [List.cons_append, splitAtChar, splitAtChar, ih]
    by_cases hc : c = separator
    · simp [hc]
    · cases hpieces : splitAtChar separator more with
      | nil => exact absurd hpieces (splitAtChar_ne_nil separator more)
      | cons piece others => simp [hc]

/-- A text without a separator is one piece. -/
theorem splitAtChar_of_not_mem {separator : Char} {piece : List Char} (h : separator ∉ piece) :
    splitAtChar separator piece = [piece] := by
  induction piece with
  | nil => rfl
  | cons c more ih =>
    obtain ⟨hc, hmore⟩ := List.ne_and_not_mem_of_not_mem_cons h
    rw [splitAtChar, if_neg (Ne.symm hc), ih hmore]

/-- Cutting undoes putting pieces together that have no separator in them. -/
theorem splitAtChar_joinChars {separator : Char} (hpieces : ∀ piece ∈ pieces, separator ∉ piece)
    (hne : pieces ≠ []) : splitAtChar separator (joinChars separator pieces) = pieces := by
  induction pieces with
  | nil => exact absurd rfl hne
  | cons piece more ih =>
    obtain ⟨hpiece, hmore⟩ := List.forall_mem_cons.1 hpieces
    cases more with
    | nil => exact splitAtChar_of_not_mem hpiece
    | cons next others =>
      rw [joinChars, splitAtChar_append, splitAtChar_of_not_mem hpiece, ih hmore (by simp)]
      · rfl
      · simp

end BrowserScenario.Text
