/-!
# Pieces between separators

A list of characters is cut at every occurrence of a separator; putting the pieces together again
with the separator between them gives the list back. Main statements: joining undoes cutting, and
no piece has the separator in it.
-/

namespace BrowserScenario.Text

/-- The pieces between the occurrences of a separator, one more than there are of it. -/
def splitAtChar (separator : Char) : List Char → List (List Char)
  | [] => [[]]
  | c :: rest =>
    if c = separator then [] :: splitAtChar separator rest
    else
      match splitAtChar separator rest with
      | [] => [[c]]
      | piece :: more => (c :: piece) :: more

/-- Pieces put together with a separator between them. -/
def joinChars (separator : Char) : List (List Char) → List Char
  | [] => []
  | [piece] => piece
  | piece :: more => piece ++ separator :: joinChars separator more

/-- There is always a piece. -/
theorem splitAtChar_ne_nil (separator : Char) (s : List Char) : splitAtChar separator s ≠ [] := by
  cases s with
  | nil => simp [splitAtChar]
  | cons c rest =>
    unfold splitAtChar
    split
    · simp
    · split <;> simp

/-- Joining the pieces gives the list back. -/
theorem joinChars_splitAtChar (separator : Char) (s : List Char) :
    joinChars separator (splitAtChar separator s) = s := by
  induction s with
  | nil => rfl
  | cons c rest ih =>
    unfold splitAtChar
    cases hpieces : splitAtChar separator rest with
    | nil => exact absurd hpieces (splitAtChar_ne_nil separator rest)
    | cons piece more =>
      rw [hpieces] at ih
      by_cases hc : c = separator
      · simp [hc, joinChars, ih]
      · cases more with
        | nil => simpa [hc, joinChars] using ih
        | cons next others => simpa [hc, joinChars] using ih

/-- No piece has the separator in it. -/
theorem not_mem_of_mem_splitAtChar {separator : Char} {s piece : List Char}
    (h : piece ∈ splitAtChar separator s) : separator ∉ piece := by
  induction s generalizing piece with
  | nil => simp_all [splitAtChar]
  | cons c rest ih =>
    unfold splitAtChar at h
    by_cases hc : c = separator
    · rw [if_pos hc, List.mem_cons] at h
      rcases h with rfl | h
      · simp
      · exact ih h
    · rw [if_neg hc] at h
      cases hpieces : splitAtChar separator rest with
      | nil => exact absurd hpieces (splitAtChar_ne_nil separator rest)
      | cons first more =>
        rw [hpieces] at h ih
        simp only [List.mem_cons] at h
        rcases h with rfl | h
        · intro hmem
          rcases List.mem_cons.mp hmem with heq | hmem
          · exact hc heq.symm
          · exact ih (by simp) hmem
        · exact ih (by simp [h])

end BrowserScenario.Text
