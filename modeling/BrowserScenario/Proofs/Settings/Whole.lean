import BrowserScenario.Proofs.Data.Checked
import BrowserScenario.Proofs.Number.Decimal
import BrowserScenario.Proofs.Text.Trim
import BrowserScenario.Settings.Field

/-!
# Whole numbers of settings

A setting that is a whole number may be written in decimal, with a sign and with white space around
it. Main statement: it is then read as this number, unless it has more digits than are converted; so
a negative number is never taken for another one, however it is written.
-/

namespace BrowserScenario.Settings

open BrowserScenario.Number BrowserScenario.Text

variable {before sign digits after : List Char} {negative : Bool}

/-- A digit is neither of the marks of a written number, nor white space. -/
theorem digit_shape {c : Char} (h : c.isDigit = true) :
    c ≠ '.' ∧ c ≠ '_' ∧ isWhiteSpace c = false := by
  have hdecimal : isDecimal c = true := by
    rw [isDecimal, digitValue?_of_isDigit h]
    rfl
  refine ⟨?_, ?_, ?_⟩
  · rintro rfl
    exact absurd h (by decide)
  · rintro rfl
    exact absurd h (by decide)
  · rw [isWhiteSpace, not_isBlank_of_isDecimal hdecimal, Bool.false_and]

/-- Digits alone are the digits of a whole number, with a sign or without one. -/
theorem wholeDigits?_of_digits (signed : Bool) (hne : digits ≠ [])
    (hdigits : ∀ c ∈ digits, c.isDigit = true) : wholeDigits? signed digits = some digits := by
  have hfraction : withoutEmptyFraction digits = digits := by
    have hpoint : digits.dropWhile (· != '.') = [] := by
      rw [List.dropWhile_eq_nil_iff]
      intro c hc
      simpa using (digit_shape (hdigits c hc)).1
    unfold withoutEmptyFraction
    rw [hpoint]
  have hzeros : (digits.dropWhile (· == '0')).head? ≠ some '_' := by
    intro hhead
    have hmem : '_' ∈ digits := (List.dropWhile_sublist _).subset (List.mem_of_head? hhead)
    exact (digit_shape (hdigits _ hmem)).2.1 rfl
  have hplain : withoutUnderscores? digits = none := by
    have hunderscore : '_' ∉ digits := fun hmem => (digit_shape (hdigits _ hmem)).2.1 rfl
    unfold withoutUnderscores?
    simp [hunderscore]
  unfold wholeDigits?
  simp only [hfraction, hplain, Option.getD_none]
  simpa [hzeros, hne] using hdigits

/-- A sign and digits are trimmed. -/
theorem isTrimmed_of_digits (hsign : SignOf sign negative) (hne : digits ≠ [])
    (hdigits : ∀ c ∈ digits, c.isDigit = true) : IsTrimmed isWhiteSpace (sign ++ digits) := by
  obtain ⟨first, more, rfl⟩ := List.exists_cons_of_ne_nil hne
  constructor
  · intro c hhead
    cases hsign with
    | absent =>
      obtain rfl : first = c := Option.some.inj hhead
      exact (digit_shape (hdigits first List.mem_cons_self)).2.2
    | plus =>
      obtain rfl : '+' = c := Option.some.inj hhead
      rfl
    | minus =>
      obtain rfl : '-' = c := Option.some.inj hhead
      rfl
  · intro c hlast
    rw [List.getLast?_append_of_ne_nil _ hne] at hlast
    exact (digit_shape (hdigits c (List.mem_of_getLast? hlast))).2.2

/-- A whole number in decimal, with white space around it, is read as this number, unless it has
more digits than are converted. -/
theorem integerOfText_of_digits (hbefore : ∀ c ∈ before, isWhiteSpace c = true)
    (hafter : ∀ c ∈ after, isWhiteSpace c = true) (hsign : SignOf sign negative) (hne : digits ≠ [])
    (hdigits : ∀ c ∈ digits, c.isDigit = true) :
    integerOfText (before ++ (sign ++ digits) ++ after) =
      if digitLimit < (digits.dropWhile (· == '0')).length then .fail .largeInteger
      else .valid (withSign negative (digitsValue 10 digits)) := by
  have hsplit : splitSign (sign ++ digits) = (negative, digits) := by
    refine splitSign_append hsign fun c hc => ?_
    rw [isDecimal, digitValue?_of_isDigit (hdigits c (List.mem_of_head? hc))]
    rfl
  unfold integerOfText
  rw [trimBy_of_isTrimmed hbefore hafter (isTrimmed_of_digits hsign hne hdigits), hsplit]
  simp only [wholeDigits?_of_digits negative hne hdigits]

/-- The value of a digit other than zero is above zero. -/
theorem digitValue?_pos {c : Char} (h : c.isDigit = true) (hzero : c ≠ '0') :
    0 < (digitValue? c).getD 0 := by
  have hrange : 48 ≤ c.toNat ∧ c.toNat ≤ 57 := by
    simpa [Char.isDigit, UInt32.le_iff_toNat_le] using h
  have hne : c.toNat ≠ 48 := fun heq => hzero (Char.toNat_inj.1 heq)
  rw [digitValue?_of_isDigit h]
  change 0 < c.toNat - 48
  omega

/-- Digits of which one is not zero have a value above zero. -/
theorem digitsValue_pos (hdigits : ∀ c ∈ digits, c.isDigit = true) (h : ∃ c ∈ digits, c ≠ '0') :
    0 < digitsValue 10 digits := by
  induction digits using List.reverseRecOn with
  | nil =>
    obtain ⟨c, hc, -⟩ := h
    exact absurd hc List.not_mem_nil
  | append_singleton digits last ih =>
    obtain ⟨hinit, hlast⟩ := List.forall_mem_append.1 hdigits
    rw [digitsValue_concat]
    by_cases hzero : last = '0'
    · have hothers : ∃ c ∈ digits, c ≠ '0' := by
        obtain ⟨c, hc, hne⟩ := h
        rcases List.mem_append.1 hc with hc | hc
        · exact ⟨c, hc, hne⟩
        · exact absurd ((List.mem_singleton.1 hc).trans hzero) hne
      have hpos := ih hinit hothers
      omega
    · have hpos := digitValue?_pos (hlast last List.mem_cons_self) hzero
      omega

/-- A value that is a negative whole number: it is read as one, or it is a floating point number
without a fraction, of any size, or it spells a minus and digits that are not all zero, however
many, with white space around them. -/
inductive IsNegative : Data → Prop
  | read {data : Data} {n : Int} (h : integer data = .valid n) (hn : n < 0) : IsNegative data
  | floating {x : Binary64} {n : Int} (h : x.toInt? = some n) (hn : n < 0) : IsNegative (.float x)
  | written {data : Data} {before digits after : List Char}
    (h : Checked.Spells data (String.ofList (before ++ '-' :: digits ++ after)))
    (hbefore : ∀ c ∈ before, isWhiteSpace c = true) (hafter : ∀ c ∈ after, isWhiteSpace c = true)
    (hdigits : ∀ c ∈ digits, c.isDigit = true) (hsome : ∃ c ∈ digits, c ≠ '0') : IsNegative data

/-- What spells a text is read as a whole number by its text. -/
theorem integer_of_spells {data : Data} {s : String} (h : Checked.Spells data s) :
    integer data = integerOfText s.toList := by
  cases h with
  | text s => rfl
  | bytes chars =>
    exact Checked.ofBytes_utf8Bytes (fun s => integerOfText s.toList) .unreadableInteger chars

/-- A negative number is read as one below zero, or not at all. -/
theorem IsNegative.integer_cases {data : Data} (h : IsNegative data) :
    (∃ n < 0, integer data = .valid n) ∨ ∃ mismatch, integer data = .fail mismatch := by
  cases h with
  | read h hn => exact .inl ⟨_, hn, h⟩
  | floating h hn =>
    simp only [integer, h]
    split
    · exact .inr ⟨_, rfl⟩
    · split
      · exact .inl ⟨_, hn, rfl⟩
      · exact .inr ⟨_, rfl⟩
  | @written _ before digits after h hbefore hafter hdigits hsome =>
    have hpos : 0 < digitsValue 10 digits := digitsValue_pos hdigits hsome
    have hne : digits ≠ [] := by
      obtain ⟨c, hc, -⟩ := hsome
      exact List.ne_nil_of_mem hc
    have hread := integerOfText_of_digits hbefore hafter .minus hne hdigits
    change integerOfText (before ++ '-' :: digits ++ after) = _ at hread
    rw [integer_of_spells h, String.toList_ofList, hread]
    split
    · exact .inr ⟨_, rfl⟩
    · refine .inl ⟨_, ?_, rfl⟩
      change -(digitsValue 10 digits : Int) < 0
      omega

end BrowserScenario.Settings
