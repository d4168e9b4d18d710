import BrowserScenario.Proofs.Number.Decimal
import BrowserScenario.Run.Step
import Mathlib.Data.List.TakeWhile
import Mathlib.Data.Nat.Digits.Defs

/-!
# Whole numbers at the start of fields

A field of a record is read for the whole number that it starts with. What counts are its blanks, a
sign and the run of digits after them, of whatever script they are; nothing after that run matters.
Main statement: a field that starts with a whole number is read as this number, and refused only for
the number of its digits; every other field, one that is absent included, is read as the default.
-/

namespace BrowserScenario

open BrowserScenario.Number BrowserScenario.Text

namespace Number

/-- A text starts with a whole number, here by its sign and the values of its digits: after blanks
and at most one sign come decimal digits, and what follows them is none. Neither a sign nor a digit
is a blank, so these are all the blanks that the text starts with. -/
inductive StartsWithNumber : List Char → Bool → List Nat → Prop
  | intro {blanks sign digits rest : List Char} {negative : Bool} {values : List Nat}
    (hblanks : ∀ c ∈ blanks, isBlank c = true) (hsign : SignOf sign negative)
    (hne : digits ≠ []) (hvalues : digits.map digitValue? = values.map some)
    (hrest : ∀ c ∈ rest.head?, digitValue? c = none) :
    StartsWithNumber (blanks ++ (sign ++ (digits ++ rest))) negative values

variable {text digits : List Char} {negative : Bool} {values : List Nat}

/-- A character is no decimal digit when it has no value as one. -/
theorem isDecimal_eq_false_iff {c : Char} : isDecimal c = false ↔ digitValue? c = none := by
  rw [isDecimal, Option.isSome_eq_false_iff, Option.isNone_iff_eq_none]

/-- Characters with values are decimal digits. -/
theorem isDecimal_of_map_eq (hvalues : digits.map digitValue? = values.map some) :
    ∀ c ∈ digits, isDecimal c = true := by
  intro c hc
  have hmem : digitValue? c ∈ values.map some := hvalues ▸ List.mem_map_of_mem hc
  obtain ⟨value, -, hvalue⟩ := List.mem_map.1 hmem
  rw [isDecimal, ← hvalue]
  rfl

/-- Decimal digits have values. -/
theorem exists_values (hdigits : ∀ c ∈ digits, isDecimal c = true) :
    ∃ values : List Nat, digits.map digitValue? = values.map some := by
  refine ⟨digits.map fun c => (digitValue? c).getD 0, ?_⟩
  rw [List.map_map]
  refine List.map_congr_left fun c hc => ?_
  obtain ⟨value, hvalue⟩ := Option.isSome_iff_exists.1 (hdigits c hc)
  simp [hvalue]

/-- The number that digits stand for is the sum of their values, each times the power of ten of its
place. -/
theorem digitsValue_eq_ofDigits (hvalues : digits.map digitValue? = values.map some) :
    digitsValue 10 digits = Nat.ofDigits 10 values.reverse := by
  calc digitsValue 10 digits
      = (digits.map digitValue?).foldl (fun value digit => value * 10 + digit.getD 0) 0 := by
        rw [digitsValue, List.foldl_map]
    _ = values.foldl (fun value digit => value * 10 + digit) 0 := by
        rw [hvalues, List.foldl_map]
        rfl
    _ = Nat.ofDigits 10 values.reverse := by
        rw [Nat.ofDigits_eq_foldr, List.foldr_reverse]
        simp only [Nat.cast_id, Nat.mul_comm, Nat.add_comm]

/-- A sign that is split off stood in front of the rest. -/
theorem exists_sign (text : List Char) :
    ∃ sign, SignOf sign (splitSign text).1 ∧ text = sign ++ (splitSign text).2 := by
  unfold splitSign
  split
  · exact ⟨['+'], .plus, rfl⟩
  · exact ⟨['-'], .minus, rfl⟩
  · exact ⟨[], .absent, rfl⟩

/-- A text that starts with a whole number is read as this number, unless it has too many digits. -/
theorem leadingInteger_of_startsWithNumber (default : Int)
    (h : StartsWithNumber text negative values) :
    leadingInteger default text =
      if digitLimit < values.length then .error ⟨values.length⟩
      else .ok (withSign negative (Nat.ofDigits 10 values.reverse)) := by
  obtain ⟨hblanks, hsign, hne, hvalues, hrest⟩ := h
  have hlength := congrArg List.length hvalues
  rw [List.length_map, List.length_map] at hlength
  rw [leadingInteger_of_digits default hblanks hsign hne (isDecimal_of_map_eq hvalues)
    fun c hc => isDecimal_eq_false_iff.2 (hrest c hc)]
  unfold limitedValue
  rw [hlength, digitsValue_eq_ofDigits hvalues]

/-- A text that starts with a whole number has digits after its blanks and a sign. -/
theorem StartsWithNumber.takeWhile_ne_nil (h : StartsWithNumber text negative values) :
    (splitSign (text.dropWhile isBlank)).2.takeWhile isDecimal ≠ [] := by
  obtain ⟨hblanks, hsign, hne, hvalues, hrest⟩ := h
  rename_i blanks sign digits rest
  have hdigits := isDecimal_of_map_eq hvalues
  have hhead : ∀ c ∈ (digits ++ rest).head?, isDecimal c = true := by
    rw [List.head?_append_of_ne_nil _ hne]
    exact fun c hc => hdigits c (List.mem_of_head? hc)
  rw [dropWhile_isBlank_append hblanks hsign hhead, splitSign_append hsign hhead,
    List.takeWhile_append_of_pos hdigits]
  exact List.append_ne_nil_of_left_ne_nil hne _

/-- A text with digits after its blanks and a sign starts with a whole number: the blanks are all that
there are, and the digits are the longest run of them. -/
theorem exists_startsWithNumber
    (hne : (splitSign (text.dropWhile isBlank)).2.takeWhile isDecimal ≠ []) :
    ∃ negative values, StartsWithNumber text negative values := by
  obtain ⟨sign, hsign, hsplit⟩ := exists_sign (text.dropWhile isBlank)
  generalize (splitSign (text.dropWhile isBlank)).1 = negative at hsign
  generalize (splitSign (text.dropWhile isBlank)).2 = after at hne hsplit
  have hblanks : ∀ c ∈ text.takeWhile isBlank, isBlank c = true := fun _ => List.mem_takeWhile_imp
  have hdigits : ∀ c ∈ after.takeWhile isDecimal, isDecimal c = true :=
    fun _ => List.mem_takeWhile_imp
  obtain ⟨values, hvalues⟩ := exists_values hdigits
  have hrest : ∀ c ∈ (after.dropWhile isDecimal).head?, digitValue? c = none := by
    intro c hc
    have hnot := List.head?_dropWhile_not isDecimal after
    rw [Option.mem_def.1 hc] at hnot
    exact isDecimal_eq_false_iff.1 hnot
  have htext : text = text.takeWhile isBlank ++
      (sign ++ (after.takeWhile isDecimal ++ after.dropWhile isDecimal)) := by
    rw [List.takeWhile_append_dropWhile, ← hsplit, List.takeWhile_append_dropWhile]
  rw [htext]
  exact ⟨negative, values, .intro hblanks hsign hne hvalues hrest⟩

/-- A text that does not start with a whole number is read as the default. -/
theorem leadingInteger_of_forall_not (default : Int)
    (h : ∀ negative values, ¬ StartsWithNumber text negative values) :
    leadingInteger default text = .ok default := by
  have hnone : (splitSign (text.dropWhile isBlank)).2.takeWhile isDecimal = [] := by
    by_contra hsome
    obtain ⟨negative, values, hstarts⟩ := exists_startsWithNumber hsome
    exact h negative values hstarts
  unfold leadingInteger
  simp only [hnone]

/-- An empty text does not start with a whole number. -/
theorem not_startsWithNumber_nil : ¬ StartsWithNumber [] negative values := by
  intro h
  exact h.takeWhile_ne_nil rfl

end Number

/-- A field that starts with a whole number of at most 4300 digits is read as this number, and one
with more digits is refused; a field that does not start with a whole number, such as one that is
absent or empty, is read as the default. So the decimal of a whole number is read as this number,
with any blanks in front of it and with anything after it that does not start with a digit. -/
theorem integerField_exact (default : Int) (field : Option String) :
    (∀ negative values, StartsWithNumber (field.getD "").toList negative values →
      (values.length ≤ 4300 →
        integerField default field = .ok (withSign negative (Nat.ofDigits 10 values.reverse))) ∧
      (4300 < values.length →
        integerField default field = .error (.tooManyDigits ⟨values.length⟩) ∧
          Rejection.kind (.tooManyDigits ⟨values.length⟩) = "ValueError")) ∧
    ((∀ negative values, ¬ StartsWithNumber (field.getD "").toList negative values) →
      integerField default field = .ok default) ∧
    (field = none ∨ field = some "" → integerField default field = .ok default) ∧
    ∀ (n : Int) (blanks rest : String), (Nat.toDigits 10 n.natAbs).length ≤ 4300 →
      (∀ c ∈ blanks.toList, isBlank c = true) → (∀ c ∈ rest.toList.head?, isDecimal c = false) →
        integerField default (some (blanks ++ Data.intText n ++ rest)) = .ok n := by
  have hother (field : Option String)
      (h : ∀ negative values, ¬ StartsWithNumber (field.getD "").toList negative values) :
      integerField default field = .ok default := by
    rw [integerField, leadingInteger_of_forall_not default h]
    rfl
  refine ⟨fun negative values h => ⟨fun hfew => ?_, fun hmany => ⟨?_, rfl⟩⟩, hother field,
    fun hnone => hother field ?_, fun n blanks rest hfew hblanks hrest => ?_⟩
  · have hlimit : ¬ digitLimit < values.length := Nat.not_lt.2 hfew
    rw [integerField, leadingInteger_of_startsWithNumber default h, if_neg hlimit]
    rfl
  · have hlimit : digitLimit < values.length := hmany
    rw [integerField, leadingInteger_of_startsWithNumber default h, if_pos hlimit]
    rfl
  · rcases hnone with rfl | rfl
    · exact fun _ _ => not_startsWithNumber_nil
    · exact fun _ _ => not_startsWithNumber_nil
  · rw [integerField, Option.getD_some, String.toList_append, String.toList_append,
      List.append_assoc, leadingInteger_intText default n hfew hblanks hrest]
    rfl

/-- Digits of another script after blanks and a minus are read, and a suffix is not; zeros in front
count as digits; a sign that a blank follows is the default; and so is a field that is absent. -/
theorem integerField_exact_otherScript :
    integerField 7 (some "\u00a0\t-\u0660\u0664\u0662ms") = .ok (-42) ∧
      integerField 7 (some (String.ofList (List.replicate 4301 '0'))) =
        .error (.tooManyDigits ⟨4301⟩) ∧
      integerField 7 (some "- 5") = .ok 7 ∧ integerField 7 none = .ok 7 ∧
      integerField 7 (some (" " ++ Data.intText (-250) ++ "ms")) = .ok (-250) := by
  have hscript : StartsWithNumber "\u00a0\t-\u0660\u0664\u0662ms".toList true [0, 4, 2] :=
    @StartsWithNumber.intro "\u00a0\t".toList ['-'] "\u0660\u0664\u0662".toList "ms".toList _ _
      (List.all_eq_true.1 (by decide)) .minus (by decide) (by decide) (by rintro _ ⟨⟩; rfl)
  have hzeros (count : Nat) :
      StartsWithNumber (String.ofList (List.replicate (count + 1) '0')).toList false
        (List.replicate (count + 1) 0) := by
    rw [String.toList_ofList, ← List.append_nil (List.replicate (count + 1) '0')]
    refine @StartsWithNumber.intro [] [] (List.replicate (count + 1) '0') [] _ _ (by simp) .absent
      (by simp) ?_ (by simp)
    rw [List.map_replicate, List.map_replicate]
    rfl
  have hsign : ∀ negative values, ¬ StartsWithNumber "- 5".toList negative values :=
    fun negative values h => h.takeWhile_ne_nil (by decide)
  refine ⟨((integerField_exact 7 (some _)).1 true _ hscript).1 (by decide), ?_,
    (integerField_exact 7 (some "- 5")).2.1 hsign,
    (integerField_exact 7 none).2.2.1 (.inl rfl),
    (integerField_exact 7 none).2.2.2 (-250) " " "ms" (by decide) (List.all_eq_true.1 (by decide))
      (by rintro _ ⟨⟩; rfl)⟩
  have hrefused := ((integerField_exact 7 (some _)).1 false _ (hzeros 4300)).2
  rw [List.length_replicate] at hrefused
  exact (hrefused (by decide)).1

end BrowserScenario
