import BrowserScenario.Text.Blank
import Mathlib.Data.List.DropRight
import Mathlib.Data.List.Induction
import Mathlib.Data.List.TakeWhile

/-!
# Trimmed texts

A text is trimmed of a class of characters when it neither begins nor ends with one of them. Main
statement: what a text is trimmed to is the one trimmed text that it consists of when characters of
the class are taken away before and after it.
-/

namespace BrowserScenario.Text

/-- A text that neither begins nor ends with a character of a class. -/
structure IsTrimmed (member : Char → Bool) (s : List Char) : Prop where
  head : ∀ c, s.head? = some c → member c = false
  last : ∀ c, s.getLast? = some c → member c = false

variable {member : Char → Bool} {s before after trimmed : List Char}

/-- No text is a trimmed one. -/
theorem isTrimmed_nil : IsTrimmed member [] :=
  ⟨fun _ h => (nomatch h), fun _ h => (nomatch h)⟩

/-- What a text is trimmed to is trimmed. -/
theorem isTrimmed_trimBy (member : Char → Bool) (s : List Char) :
    IsTrimmed member (trimBy member s) := by
  refine ⟨fun c hhead => ?_, fun c hlast => trimBy_last member s hlast⟩
  obtain ⟨rest, hrest⟩ := List.head?_eq_some_iff.1 hhead
  exact trimBy_head member s hrest

/-- A text is what it is trimmed to between characters of the class. -/
theorem exists_trimBy (member : Char → Bool) (s : List Char) :
    ∃ before after, (∀ c ∈ before, member c = true) ∧ (∀ c ∈ after, member c = true) ∧
      s = before ++ trimBy member s ++ after := by
  refine ⟨s.takeWhile member, (s.dropWhile member).rtakeWhile member,
    fun c => List.mem_takeWhile_imp, fun c => List.mem_rtakeWhile_imp, ?_⟩
  have hlast : trimBy member s ++ (s.dropWhile member).rtakeWhile member = s.dropWhile member :=
    List.rdropWhile_append_rtakeWhile
  rw [List.append_assoc, hlast, List.takeWhile_append_dropWhile]

/-- Characters of the class at the end are dropped, and no others. -/
theorem dropTail_append (hafter : ∀ c ∈ after, member c = true)
    (hlast : ∀ c, s.getLast? = some c → member c = false) : dropTail member (s ++ after) = s := by
  have hreverse : (s ++ after).reverse = after.reverse ++ s.reverse := List.reverse_append
  have hstops : s.rdropWhile member = s := by
    rw [List.rdropWhile_eq_self_iff]
    intro hne
    rw [hlast _ (List.getLast?_eq_some_getLast hne)]
    exact Bool.false_ne_true
  rw [dropTail, hreverse, List.dropWhile_append_of_pos (by simpa using hafter)]
  exact hstops

/-- Characters of the class in front of a trimmed text and behind it are trimmed away. -/
theorem trimBy_of_isTrimmed (hbefore : ∀ c ∈ before, member c = true)
    (hafter : ∀ c ∈ after, member c = true) (htrimmed : IsTrimmed member trimmed) :
    trimBy member (before ++ trimmed ++ after) = trimmed := by
  unfold trimBy
  rw [List.append_assoc, List.dropWhile_append_of_pos hbefore]
  cases trimmed with
  | nil =>
    rw [List.nil_append, List.dropWhile_eq_nil_iff.2 hafter]
    rfl
  | cons c rest =>
    have hc : ¬ member c = true := by simp [htrimmed.head c rfl]
    rw [List.cons_append, List.dropWhile_cons_of_neg hc]
    exact dropTail_append hafter htrimmed.last

/-- A text is trimmed to the one trimmed text that stands in it between characters of the class. -/
theorem trimBy_eq_iff : trimBy member s = trimmed ↔ IsTrimmed member trimmed ∧
    ∃ before after, (∀ c ∈ before, member c = true) ∧ (∀ c ∈ after, member c = true) ∧
      s = before ++ trimmed ++ after := by
  constructor
  · rintro rfl
    exact ⟨isTrimmed_trimBy member s, exists_trimBy member s⟩
  · rintro ⟨htrimmed, before, after, hbefore, hafter, rfl⟩
    exact trimBy_of_isTrimmed hbefore hafter htrimmed

/-- A text that does not begin with a character of the class is trimmed behind alone. -/
theorem exists_trimBy_of_head (hhead : ∀ c, s.head? = some c → member c = false) :
    ∃ after, (∀ c ∈ after, member c = true) ∧ s = trimBy member s ++ after := by
  obtain ⟨before, after, hbefore, hafter, hs⟩ := exists_trimBy member s
  cases before with
  | nil => exact ⟨after, hafter, hs⟩
  | cons c more =>
    have hc : member c = false := hhead c (by rw [hs]; rfl)
    exact absurd (hbefore c List.mem_cons_self) (by simp [hc])

/-- Nothing is dropped from in front of a character outside the class. -/
theorem dropTail_append_cons {c : Char} (hc : member c = false) (before rest : List Char) :
    dropTail member (before ++ c :: rest) = before ++ c :: dropTail member rest := by
  change (before ++ c :: rest).rdropWhile member = before ++ c :: rest.rdropWhile member
  induction rest using List.reverseRecOn with
  | nil => exact List.rdropWhile_concat_neg member before c (by simp [hc])
  | append_singleton rest last ih =>
    have hassoc : before ++ c :: (rest ++ [last]) = (before ++ c :: rest) ++ [last] := by simp
    rw [hassoc]
    by_cases hlast : member last = true
    · rw [List.rdropWhile_concat_pos member _ last hlast, ih,
        List.rdropWhile_concat_pos member rest last hlast]
    · rw [List.rdropWhile_concat_neg member _ last hlast,
        List.rdropWhile_concat_neg member rest last hlast, hassoc]

/-- A text that begins with a character outside the class, after some of the class, is trimmed to
one that begins with this character. -/
theorem trimBy_append_cons {c : Char} (hbefore : ∀ c ∈ before, member c = true)
    (hc : member c = false) (rest : List Char) :
    trimBy member (before ++ c :: rest) = c :: dropTail member rest := by
  rw [trimBy, List.dropWhile_append_of_pos hbefore, List.dropWhile_cons_of_neg (by simp [hc])]
  exact dropTail_append_cons hc [] rest

/-- It makes no difference to trimming whether the end was trimmed before. -/
theorem trimBy_dropTail (member : Char → Bool) (s : List Char) :
    trimBy member (dropTail member s) = trimBy member s := by
  obtain ⟨before, after, hbefore, hafter, hs⟩ := exists_trimBy member (dropTail member s)
  have htail : dropTail member s ++ s.rtakeWhile member = s := List.rdropWhile_append_rtakeWhile
  refine (trimBy_eq_iff.2 ⟨isTrimmed_trimBy member _, before, after ++ s.rtakeWhile member, hbefore,
    ?_, ?_⟩).symm
  · exact List.forall_mem_append.2 ⟨hafter, fun c => List.mem_rtakeWhile_imp⟩
  · rw [← List.append_assoc, ← hs, htail]

end BrowserScenario.Text
