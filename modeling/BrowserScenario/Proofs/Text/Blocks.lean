import BrowserScenario.Proofs.Text.Utf8

/-!
# Text read in blocks

A block of a text ends anywhere, inside a character too. The bytes of a character that the block
does not finish are left over and are carried to the next block. Main statement: a text is read in
blocks as it is.
-/

namespace BrowserScenario.Text

/-- Bytes that a character is begun with, or none. -/
def IsUnfinished (bytes : List UInt8) : Prop :=
  ∀ first rest, bytes = first :: rest → utf8Step first rest = .unfinished

variable {first : UInt8} {bytes more : List UInt8} {c : Char} {chars : List Char}

/-- A character is not finished by fewer bytes than it has. -/
theorem utf8Step_of_startsChar (h : StartsChar first (bytes ++ more) c []) (hmore : more ≠ []) :
    utf8Step first bytes = .unfinished := by
  generalize hall : bytes ++ more = all at h
  unfold utf8Step
  cases h with
  | one h => exact absurd (List.append_eq_nil_iff.1 hall).2 hmore
  | two h hb =>
    cases bytes with
    | nil =>
      rw [h]
      rfl
    | cons b rest =>
      obtain ⟨-, hrest⟩ := List.cons.inj hall
      exact absurd (List.append_eq_nil_iff.1 hrest).2 hmore
  | three h hb hc =>
    rcases bytes with - | ⟨b, - | ⟨d, rest⟩⟩
    · rw [h]
      rfl
    · obtain ⟨rfl, -⟩ := List.cons.inj hall
      rw [h]
      simp only [hb]
      rfl
    · obtain ⟨-, hrest⟩ := List.cons.inj (List.cons.inj hall).2
      exact absurd (List.append_eq_nil_iff.1 hrest).2 hmore
  | four h hb hc hd =>
    rcases bytes with - | ⟨b, - | ⟨d, - | ⟨e, rest⟩⟩⟩
    · rw [h]
      rfl
    · obtain ⟨rfl, -⟩ := List.cons.inj hall
      rw [h]
      simp only [hb]
      rfl
    · obtain ⟨rfl, hrest⟩ := List.cons.inj hall
      obtain ⟨rfl, -⟩ := List.cons.inj hrest
      rw [h]
      simp only [hb, hc]
      rfl
    · obtain ⟨-, hrest⟩ := List.cons.inj (List.cons.inj (List.cons.inj hall).2).2
      exact absurd (List.append_eq_nil_iff.1 hrest).2 hmore

/-- Reading stops at a character that is not finished. -/
theorem utf8Chars_of_isUnfinished {read : List Char} {start : Nat} (h : IsUnfinished bytes) :
    utf8Chars read start bytes = .ok (read.reverse, bytes) := by
  cases bytes with
  | nil => rw [utf8Chars]
  | cons first rest =>
    have hstep := h first rest rfl
    rw [utf8Chars]
    generalize utf8Step first rest = step at hstep ⊢
    subst hstep
    rfl

/-- Bytes that are part of a character, and not all of it, are unfinished. -/
theorem isUnfinished_of_append (h : String.utf8EncodeChar c = bytes ++ more) (hmore : more ≠ []) :
    IsUnfinished bytes := by
  rintro first rest rfl
  obtain ⟨other, others, hbytes, hstarts⟩ := startsChar_encode c []
  rw [List.append_nil, h] at hbytes
  obtain ⟨rfl, rfl⟩ := List.cons.inj hbytes
  exact utf8Step_of_startsChar hstarts hmore

/-- The bytes that a text begins with are read up to the last character that they finish. -/
theorem exists_utf8Chars_of_append (read : List Char) (start : Nat)
    (h : bytes ++ more = utf8Bytes chars) :
    ∃ front rest leftover, utf8Chars read start bytes = .ok (read.reverse ++ front, leftover) ∧
      IsUnfinished leftover ∧ leftover ++ more = utf8Bytes rest ∧ chars = front ++ rest := by
  induction chars generalizing bytes read start with
  | nil =>
    obtain ⟨rfl, rfl⟩ := List.append_eq_nil_iff.1 h
    refine ⟨[], [], [], ?_, fun _ _ heq => (nomatch heq), rfl, rfl⟩
    rw [utf8Chars, List.append_nil]
  | cons c others ih =>
    have hfinished (tail : List UInt8) (hbytes : bytes = String.utf8EncodeChar c ++ tail)
        (hothers : tail ++ more = utf8Bytes others) :
        ∃ front rest leftover, utf8Chars read start bytes = .ok (read.reverse ++ front, leftover) ∧
          IsUnfinished leftover ∧ leftover ++ more = utf8Bytes rest ∧
            c :: others = front ++ rest := by
      obtain ⟨first, following, hfollowing, hstarts⟩ := startsChar_encode c tail
      obtain ⟨front, rest, leftover, hread, hleftover, hrest, rfl⟩ :=
        ih (c :: read) (start + 1 + (following.length - tail.length)) hothers
      refine ⟨c :: front, rest, leftover, ?_, hleftover, hrest, rfl⟩
      rw [hbytes, hfollowing, utf8Chars_of_char (utf8Step_eq_char_iff.2 hstarts), hread,
        List.reverse_cons, List.append_assoc, List.singleton_append]
    change bytes ++ more = String.utf8EncodeChar c ++ utf8Bytes others at h
    rcases List.append_eq_append_iff.1 h with ⟨missing, hchar, hmore⟩ | ⟨tail, hbytes, hrest⟩
    · by_cases hmissing : missing = []
      · subst hmissing
        rw [List.append_nil] at hchar
        exact hfinished [] (by rw [hchar, List.append_nil]) hmore
      · have hunfinished := isUnfinished_of_append hchar hmissing
        refine ⟨[], c :: others, bytes, ?_, hunfinished, h, rfl⟩
        rw [utf8Chars_of_isUnfinished hunfinished, List.append_nil]
    · exact hfinished tail hbytes hrest.symm

/-- A text is read in blocks, after the bytes that are carried over. -/
theorem decodeUtf8Blocks_of_append {carried : List UInt8} (hcarried : IsUnfinished carried)
    (h : carried ++ bytes = utf8Bytes chars) : decodeUtf8Blocks carried bytes = .ok chars := by
  induction hlength : bytes.length using Nat.strongRecOn generalizing carried bytes chars with
  | ind length ih =>
    rw [decodeUtf8Blocks]
    split
    · rename_i hempty
      subst hempty
      rw [List.append_nil] at h
      cases carried with
      | nil =>
        rw [eq_nil_of_utf8Bytes h.symm]
        rfl
      | cons first rest =>
        obtain ⟨c, others, -, hstep⟩ := utf8Step_of_utf8Bytes h
        exact nomatch (hcarried first rest rfl).symm.trans hstep
    · rename_i hne
      have hblock : carried ++ bytes.take blockSize ++ bytes.drop blockSize = utf8Bytes chars := by
        rw [List.append_assoc, List.take_append_drop, h]
      obtain ⟨front, rest, leftover, hread, hleftover, hrest, rfl⟩ :=
        exists_utf8Chars_of_append [] 0 hblock
      have hshorter : (bytes.drop blockSize).length < length := by
        have hpositive := List.length_pos_iff.2 hne
        rw [List.length_drop, ← hlength, blockSize]
        omega
      rw [hread]
      simp only [ih _ hshorter hleftover hrest rfl]
      rfl

/-- A text is read in blocks as it is. -/
theorem decodeUtf8Blocks_utf8Bytes (chars : List Char) :
    decodeUtf8Blocks [] (utf8Bytes chars) = .ok chars :=
  decodeUtf8Blocks_of_append (fun _ _ heq => (nomatch heq)) rfl

end BrowserScenario.Text
