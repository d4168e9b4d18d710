import BrowserScenario.Data.Checked
import BrowserScenario.Proofs.Text.Utf8
import Mathlib.Data.List.Forall2

/-!
# Checks that are made of others

When a check made of others gives a value, and which mismatches it finds. A value turned into
another, and the check of a part seen from the whole, succeed as the check they are made of; the
checks of the items of a list succeed when each does; and bytes are checked as the text that they
are. One mismatch is not listed with the others but breaks off the check, that of a number of too
many digits. Main statements: the values of a list are those of its items, in order; and so are its
mismatches, each seen from the position of its item; and a check made of others is broken off
exactly when one of these is.
-/

namespace BrowserScenario.Checked

open BrowserScenario.Text

variable {α β : Type}

/-- A check that fails gives no value. -/
theorem fail_ne_valid (mismatch : Mismatch) (value : α) : fail mismatch ≠ .valid value := by
  intro h
  exact nomatch h

/-- A value turned into another comes from a value. -/
theorem map_eq_valid_iff (f : α → β) (checked : Checked α) (result : β) :
    (f <$> checked) = .valid result ↔ ∃ value, checked = .valid value ∧ result = f value := by
  cases checked with
  | valid value =>
    apply Iff.intro
    · intro h
      exact ⟨value, rfl, (Checked.valid.inj h).symm⟩
    · intro h
      obtain ⟨other, hother, rfl⟩ := h
      cases hother
      rfl
  | invalid first more =>
    apply Iff.intro
    · intro h
      exact nomatch h
    · intro h
      obtain ⟨other, hother, -⟩ := h
      exact nomatch hother

/-- The check of a part gives its value wherever the part is. -/
theorem within_eq_valid_iff (part : PathPart) (checked : Checked α) (value : α) :
    within part checked = .valid value ↔ checked = .valid value := by
  cases checked with
  | valid other => rfl
  | invalid first more =>
    apply Iff.intro
    · intro h
      exact nomatch h
    · intro h
      exact nomatch h

/-- The items of a list from a position on give their values in order. -/
theorem eachFrom_eq_valid_iff (check : Data → Checked α) (position : Nat) (items : List Data)
    (values : List α) :
    eachFrom check position items = .valid values ↔
      List.Forall₂ (fun item value => check item = .valid value) items values := by
  induction items generalizing position values with
  | nil =>
    rw [List.forall₂_nil_left_iff, eachFrom]
    apply Iff.intro
    · intro h
      exact (Checked.valid.inj h).symm
    · intro heq
      subst heq
      rfl
  | cons item rest ih =>
    rw [eachFrom, seq_eq_valid_iff, List.forall₂_cons_left_iff]
    apply Iff.intro
    · intro h
      obtain ⟨f, others, hf, hothers, rfl⟩ := h
      obtain ⟨value, hvalue, rfl⟩ := (map_eq_valid_iff _ _ _).1 hf
      exact ⟨value, others, (within_eq_valid_iff _ _ _).1 hvalue, (ih _ _).1 hothers, rfl⟩
    · intro h
      obtain ⟨value, others, hvalue, hothers, rfl⟩ := h
      refine ⟨List.cons value, others, ?_, (ih _ _).2 hothers, rfl⟩
      exact (map_eq_valid_iff _ _ _).2 ⟨value, (within_eq_valid_iff _ _ _).2 hvalue, rfl⟩

/-- The items of a list give their values in order. -/
theorem each_eq_valid_iff (check : Data → Checked α) (items : List Data) (values : List α) :
    each check items = .valid values ↔
      List.Forall₂ (fun item value => check item = .valid value) items values :=
  eachFrom_eq_valid_iff check 0 items values

/-- The mismatches of a part are seen from the whole. -/
theorem mismatches_within (part : PathPart) (checked : Checked α) :
    (within part checked).mismatches = checked.mismatches.map (lift part) := by
  cases checked <;> rfl

/-- The mismatches of a list from a position on are those of its items, in order. -/
theorem mismatches_eachFrom (check : Data → Checked α) (position : Nat) (items : List Data) :
    (eachFrom check position items).mismatches =
      (items.zipIdx position).flatMap fun entry =>
        (check entry.1).mismatches.map (lift (.index entry.2)) := by
  induction items generalizing position with
  | nil => rfl
  | cons item rest ih =>
    rw [eachFrom, mismatches_seq, mismatches_map, mismatches_within, ih, List.zipIdx_cons,
      List.flatMap_cons]

/-- The mismatches of a list are those of its items, in order. -/
theorem mismatches_each (check : Data → Checked α) (items : List Data) :
    (each check items).mismatches =
      items.zipIdx.flatMap fun entry =>
        (check entry.1).mismatches.map (lift (.index entry.2)) :=
  mismatches_eachFrom check 0 items

/-- A value that spells a text: the text itself, or its bytes. -/
inductive Spells : Data → String → Prop
  | text (s : String) : Spells (.text s) s
  | bytes (chars : List Char) : Spells (.bytes (utf8Bytes chars)) (String.ofList chars)

/-- The bytes of a text are checked as the text. -/
theorem ofBytes_utf8Bytes (check : String → Checked α) (mismatch : Mismatch) (chars : List Char) :
    ofBytes check mismatch (utf8Bytes chars) = check (String.ofList chars) := by
  have hdecoded : decodeUtf8 (utf8Bytes chars) = .ok chars := decodeUtf8_eq_ok_iff.2 rfl
  unfold ofBytes
  rw [hdecoded]

/-- Bytes that are no text do not fit. -/
theorem ofBytes_of_not_isUtf8 (check : String → Checked α) (mismatch : Mismatch)
    {content : List UInt8} (h : ¬ IsUtf8 content) :
    ofBytes check mismatch content = fail mismatch := by
  obtain ⟨failure, hfailure⟩ := decodeUtf8_eq_error_iff.2 h
  unfold ofBytes
  rw [hfailure]

/-- What spells a text is taken for it, and nothing else is taken for a text. -/
theorem plainText_cases (data : Data) :
    (∃ s, Spells data s ∧ plainText data = .valid s) ∨
      (∀ s, ¬ Spells data s) ∧ ∃ mismatch, plainText data = fail mismatch := by
  cases data with
  | text s => exact .inl ⟨s, .text s, rfl⟩
  | bytes content =>
    by_cases hcontent : IsUtf8 content
    · obtain ⟨chars, rfl⟩ := hcontent
      exact .inl ⟨_, .bytes chars, ofBytes_utf8Bytes _ _ chars⟩
    · refine .inr ⟨fun s h => ?_, .notTextBytes, ofBytes_of_not_isUtf8 _ _ hcontent⟩
      cases h with
      | bytes chars => exact hcontent ⟨chars, rfl⟩
  | _ => exact .inr ⟨fun s h => (nomatch h), .notText, rfl⟩

/-- A check that is not broken off: whatever it finds is listed. -/
def IsListed (checked : Checked α) : Prop :=
  ∀ located ∈ checked.mismatches, located.mismatch ≠ .longNumber

/-- A value leaves nothing to be listed. -/
theorem isListed_valid (value : α) : (Checked.valid value).IsListed :=
  List.forall_mem_nil _

/-- A check that fails is broken off by a number of too many digits alone. -/
theorem isListed_fail_iff {mismatch : Mismatch} :
    (fail mismatch : Checked α).IsListed ↔ mismatch ≠ .longNumber :=
  List.forall_mem_singleton

/-- A value turned into another changes nothing about what is listed. -/
theorem isListed_map_iff {f : α → β} {checked : Checked α} :
    (f <$> checked).IsListed ↔ checked.IsListed := by
  rw [IsListed, mismatches_map, IsListed]

/-- Both checks are listed exactly when each is. -/
theorem isListed_seq_iff {first : Checked (α → β)} {second : Checked α} :
    (first <*> second).IsListed ↔ first.IsListed ∧ second.IsListed := by
  rw [IsListed, mismatches_seq]
  exact List.forall_mem_append

/-- The check of a part is listed wherever the part is. -/
theorem isListed_within_iff {part : PathPart} {checked : Checked α} :
    (within part checked).IsListed ↔ checked.IsListed := by
  rw [IsListed, mismatches_within]
  exact List.forall_mem_map

/-- The checks of the items of a list are listed exactly when each is. -/
theorem isListed_each_iff {check : Data → Checked α} {items : List Data} :
    (each check items).IsListed ↔ ∀ item ∈ items, (check item).IsListed := by
  unfold each
  generalize 0 = position
  induction items generalizing position with
  | nil => exact iff_of_true (isListed_valid _) (List.forall_mem_nil _)
  | cons item rest ih =>
    rw [eachFrom, isListed_seq_iff, isListed_map_iff, isListed_within_iff, ih, List.forall_mem_cons]

/-- Bytes are listed if the text that they are is. -/
theorem isListed_ofBytes {check : String → Checked α} {mismatch : Mismatch}
    (hcheck : ∀ s, (check s).IsListed) (h : mismatch ≠ .longNumber) (content : List UInt8) :
    (ofBytes check mismatch content).IsListed := by
  unfold ofBytes
  split
  · exact hcheck _
  · exact isListed_fail_iff.2 h

/-- What is wrong with a plain text is listed. -/
theorem isListed_plainText (data : Data) : (plainText data).IsListed := by
  cases data with
  | text s => exact isListed_valid s
  | bytes content => exact isListed_ofBytes isListed_valid (by decide) content
  | _ => exact isListed_fail_iff.2 (by decide)

end BrowserScenario.Checked
