import BrowserScenario.Time.Calendar
import Mathlib.Algebra.Group.Nat.Defs
import Mathlib.Data.Char
import Mathlib.Data.List.Lex
import Mathlib.Order.Interval.Set.Defs
import Mathlib.Order.Lattice
import Mathlib.Order.Monotone.Basic

/-!
# Numbers in fields of fixed width

A record is a list of numbers, each written with zeros in front up to the width of its field and
followed by the mark of the field. Main statement: of the records in which every number fits its
field, the one that comes first is the one whose numbers come first.
-/

namespace BrowserScenario.Time

/-- Lists of one length keep their order whatever follows them. -/
theorem append_lt_append_of_lt {α : Type} [LT α] {xs ys : List α} (us vs : List α)
    (hlength : xs.length = ys.length) (h : xs < ys) : xs ++ us < ys ++ vs := by
  induction xs generalizing ys with
  | nil =>
    rw [List.eq_nil_of_length_eq_zero hlength.symm] at h
    exact absurd h (List.not_lt_nil [])
  | cons x xs ih =>
    obtain ⟨y, ys, rfl⟩ := List.exists_cons_of_length_eq_add_one hlength.symm
    rw [List.cons_append, List.cons_append, List.cons_lt_cons_iff]
    rcases List.cons_lt_cons_iff.1 h with hhead | ⟨hhead, htail⟩
    · exact .inl hhead
    · exact .inr ⟨hhead, ih (Nat.succ.inj hlength) htail⟩

/-- A field of a record: the width of its number and the mark after it. -/
structure Field where
  width : Nat
  mark : Char

/-- Numbers written one after the other, each in its field. -/
def record : List Field → List Nat → List Char
  | field :: layout, n :: ns => padded field.width n ++ field.mark :: record layout ns
  | _, _ => []

/-- A number has no more digits than its field, and the field has some. -/
def Field.Fits (field : Field) (n : Nat) : Prop :=
  1 ≤ field.width ∧ n < 10 ^ field.width

/-- A number with one more digit ends with its last digit. -/
theorem padded_succ {width : Nat} (h : 1 ≤ width) (n : Nat) :
    padded (width + 1) n = padded width (n / 10) ++ [Nat.digitChar (n % 10)] := by
  obtain ⟨before, rfl⟩ := Nat.exists_eq_add_of_le' h
  unfold padded
  rcases Nat.lt_or_ge n 10 with hn | hn
  · rw [Nat.toDigits_of_lt_base hn, Nat.div_eq_of_lt hn, Nat.mod_eq_of_lt hn]
    simp [List.replicate_succ']
  · rw [Nat.toDigits_of_base_le (by decide) hn]
    simp

/-- A number that fits fills its field. -/
theorem length_padded {width n : Nat} (hwidth : 1 ≤ width) (h : n < 10 ^ width) :
    (padded width n).length = width := by
  have hdigits := (Nat.length_toDigits_le_iff (by decide) hwidth).2 h
  simp only [padded, List.length_append, List.length_replicate]
  omega

/-- Digits come in the order of their values. -/
theorem digitChar_lt : ∀ first < 10, ∀ second < 10,
    first < second → Nat.digitChar first < Nat.digitChar second := by
  decide

/-- Numbers of one width come in the order of their texts. -/
theorem padded_strictMono {width : Nat} (hwidth : 1 ≤ width) :
    StrictMonoOn (padded width) (Set.Iio (10 ^ width)) := by
  induction width, hwidth using Nat.le_induction with
  | base =>
    intro first hfirst second hsecond h
    have hone (n : Nat) (hn : n < 10) : padded 1 n = [Nat.digitChar n] := by
      simp [padded, Nat.toDigits_of_lt_base hn]
    rw [hone first hfirst, hone second hsecond, List.cons_lt_cons_iff]
    exact .inl (digitChar_lt first hfirst second hsecond h)
  | succ width hwidth ih =>
    intro first hfirst second hsecond h
    have hfits {n : Nat} (hn : n ∈ Set.Iio (10 ^ (width + 1))) : n / 10 < 10 ^ width := by
      rw [Set.mem_Iio, Nat.pow_succ] at hn
      omega
    rw [padded_succ hwidth, padded_succ hwidth]
    rcases Nat.lt_or_ge (first / 10) (second / 10) with hlt | hge
    · refine append_lt_append_of_lt _ _ ?_ (ih (hfits hfirst) (hfits hsecond) hlt)
      rw [length_padded hwidth (hfits hfirst), length_padded hwidth (hfits hsecond)]
    · have heq : first / 10 = second / 10 := by omega
      rw [heq]
      refine List.append_left_lt (List.cons_lt_cons_iff.2 (.inl ?_))
      exact digitChar_lt _ (Nat.mod_lt _ (by decide)) _ (Nat.mod_lt _ (by decide)) (by omega)

/-- A record is as long as its fields and their marks together. -/
theorem length_record {layout : List Field} {ns : List Nat}
    (h : List.Forall₂ Field.Fits layout ns) :
    (record layout ns).length = layout.foldr (fun field length => field.width + 1 + length) 0 := by
  induction h with
  | nil => rfl
  | cons hn _ ih =>
    rw [record, List.length_append, length_padded hn.1 hn.2, List.length_cons, ih, List.foldr_cons]
    omega

/-- Records come in the order of their numbers. -/
theorem record_strictMono (layout : List Field) :
    StrictMonoOn (record layout) {ns | List.Forall₂ Field.Fits layout ns} := by
  intro first hfirst second hsecond h
  induction hfirst generalizing second with
  | nil =>
    cases hsecond
    exact absurd h (List.not_lt_nil [])
  | cons hn _ ih =>
    cases hsecond with
    | cons hm hms =>
      rw [record, record]
      rcases List.cons_lt_cons_iff.1 h with hhead | ⟨rfl, htail⟩
      · refine append_lt_append_of_lt _ _ ?_ (padded_strictMono hn.1 hn.2 hm.2 hhead)
        rw [length_padded hn.1 hn.2, length_padded hm.1 hm.2]
      · exact List.append_left_lt (List.cons_lt_cons_iff.2 (.inr ⟨rfl, ih hms htail⟩))

end BrowserScenario.Time
