import BrowserScenario.Text.Utf8

/-!
# Bytes that are text

A character is written in one to four bytes; the first of them tells how many they are. The bytes
of a text are those of its characters in order. Reading follows the bytes step by step: a step
that reads a character takes exactly the bytes of this character away. Main statement: the reader
of whole byte sequences gives some characters exactly when the bytes are those of the characters,
so bytes that are no text are always refused.
-/

namespace BrowserScenario.Text

/-- The bytes of characters. -/
def utf8Bytes (chars : List Char) : List UInt8 :=
  chars.flatMap String.utf8EncodeChar

/-- Bytes that are those of some characters. -/
def IsUtf8 (bytes : List UInt8) : Prop :=
  ∃ chars, bytes = utf8Bytes chars

/-- A number below 256 is the number of its byte. -/
theorem toNat_byte {n : Nat} (h : n < 256) : (UInt8.ofNat n).toNat = n := by
  rw [UInt8.toNat_ofNat']
  exact Nat.mod_eq_of_lt h

/-- The byte of the number of a byte is that byte. -/
theorem byte_of_eq_toNat {b : UInt8} {n : Nat} (h : n = b.toNat) : UInt8.ofNat n = b := by
  rw [h]
  exact UInt8.ofNat_toNat

/-- The bytes of the character with a code. -/
theorem utf8EncodeChar_ofNat {n : Nat} (h : n.isValidChar) :
    String.utf8EncodeChar (Char.ofNat n) =
      if n ≤ 0x7f then [.ofNat n]
      else if n ≤ 0x7ff then [.ofNat (n / 64 % 0x20 + 0xc0), .ofNat (n % 0x40 + 0x80)]
      else if n ≤ 0xffff then
        [.ofNat (n / 4096 % 0x10 + 0xe0), .ofNat (n / 64 % 0x40 + 0x80), .ofNat (n % 0x40 + 0x80)]
      else
        [.ofNat (n / 262144 % 0x08 + 0xf0), .ofNat (n / 4096 % 0x40 + 0x80),
          .ofNat (n / 64 % 0x40 + 0x80), .ofNat (n % 0x40 + 0x80)] := by
  have hcode : (Char.ofNat n).val.toNat = n := by
    rw [Char.ofNat, dif_pos h]
    rfl
  unfold String.utf8EncodeChar
  rw [hcode]

/-- A byte that continues a character is one from 128 to 191. -/
theorem isContinuation_iff {b : UInt8} : isContinuation b = true ↔ b.toNat / 64 = 2 := by
  simp [isContinuation]

/-- A second byte continues a character and keeps its code in the range that the first byte
stands for. -/
theorem isSecond_iff {first second : UInt8} :
    isSecond first second = true ↔ second.toNat / 64 = 2 ∧
      (first.toNat = 0xE0 → 0xA0 ≤ second.toNat) ∧ (first.toNat = 0xED → second.toNat < 0xA0) ∧
      (first.toNat = 0xF0 → 0x90 ≤ second.toNat) ∧ (first.toNat = 0xF4 → second.toNat < 0x90) := by
  simp only [isSecond, isContinuation, Bool.and_eq_true, Bool.not_eq_true', Bool.and_eq_false_iff,
    beq_iff_eq, beq_eq_false_iff_ne, decide_eq_false_iff_not]
  omega

/-- The number of bytes of a character, by the range of its first byte. -/
theorem sequenceLength_cases (first : UInt8) :
    (first.toNat < 0x80 ∧ sequenceLength first = 1) ∨
      (0xC2 ≤ first.toNat ∧ first.toNat < 0xE0 ∧ sequenceLength first = 2) ∨
      (0xE0 ≤ first.toNat ∧ first.toNat < 0xF0 ∧ sequenceLength first = 3) ∨
      (0xF0 ≤ first.toNat ∧ first.toNat < 0xF5 ∧ sequenceLength first = 4) ∨
      (0x80 ≤ first.toNat ∧ (first.toNat < 0xC2 ∨ 0xF5 ≤ first.toNat) ∧
        sequenceLength first = 0) := by
  simp only [sequenceLength]
  repeat' split
  all_goals omega

/-- The first bytes of characters of one byte. -/
theorem sequenceLength_eq_one {first : UInt8} :
    sequenceLength first = 1 ↔ first.toNat < 0x80 := by
  have hcases := sequenceLength_cases first
  omega

/-- The first bytes of characters of two bytes. -/
theorem sequenceLength_eq_two {first : UInt8} :
    sequenceLength first = 2 ↔ 0xC2 ≤ first.toNat ∧ first.toNat < 0xE0 := by
  have hcases := sequenceLength_cases first
  omega

/-- The first bytes of characters of three bytes. -/
theorem sequenceLength_eq_three {first : UInt8} :
    sequenceLength first = 3 ↔ 0xE0 ≤ first.toNat ∧ first.toNat < 0xF0 := by
  have hcases := sequenceLength_cases first
  omega

/-- The first bytes of characters of four bytes. -/
theorem sequenceLength_eq_four {first : UInt8} :
    sequenceLength first = 4 ↔ 0xF0 ≤ first.toNat ∧ first.toNat < 0xF5 := by
  have hcases := sequenceLength_cases first
  omega

/-- No character has more than four bytes. -/
theorem sequenceLength_le_four (first : UInt8) : sequenceLength first ≤ 4 := by
  have hcases := sequenceLength_cases first
  omega

/-- Bytes that start with those of a character, by the number of them: the first byte, what
follows it, the character and the bytes after it. -/
inductive StartsChar : UInt8 → List UInt8 → Char → List UInt8 → Prop
  | one {first : UInt8} {rest : List UInt8} (h : sequenceLength first = 1) :
    StartsChar first rest (.ofNat first.toNat) rest
  | two {first b : UInt8} {rest : List UInt8} (h : sequenceLength first = 2)
    (hb : isSecond first b = true) :
    StartsChar first (b :: rest) (.ofNat (first.toNat % 32 * 64 + b.toNat % 64)) rest
  | three {first b c : UInt8} {rest : List UInt8} (h : sequenceLength first = 3)
    (hb : isSecond first b = true) (hc : isContinuation c = true) :
    StartsChar first (b :: c :: rest)
      (.ofNat (first.toNat % 16 * 4096 + b.toNat % 64 * 64 + c.toNat % 64)) rest
  | four {first b c d : UInt8} {rest : List UInt8} (h : sequenceLength first = 4)
    (hb : isSecond first b = true) (hc : isContinuation c = true) (hd : isContinuation d = true) :
    StartsChar first (b :: c :: d :: rest)
      (.ofNat (first.toNat % 8 * 262144 + b.toNat % 64 * 4096 + c.toNat % 64 * 64 + d.toNat % 64))
      rest

variable {first : UInt8} {bytes rest : List UInt8} {c : Char} {read chars : List Char}

/-- A step reads a character exactly where the bytes start with one. -/
theorem utf8Step_eq_char_iff :
    utf8Step first bytes = .char c rest ↔ StartsChar first bytes c rest := by
  apply Iff.intro
  · intro h
    unfold utf8Step at h
    split at h
    · exact nomatch h
    · rename_i hlength
      obtain ⟨rfl, rfl⟩ := Utf8Step.char.inj h
      exact .one hlength
    · exact nomatch h
    · rename_i hlength
      split at h
      · exact nomatch h
      · rename_i hb
        obtain ⟨rfl, rfl⟩ := Utf8Step.char.inj h
        exact .two hlength (by simpa using hb)
    · split at h <;> exact nomatch h
    · rename_i hlength
      split at h
      · exact nomatch h
      · split at h
        · exact nomatch h
        · rename_i hb hc
          obtain ⟨rfl, rfl⟩ := Utf8Step.char.inj h
          exact .three hlength (by simpa using hb) (by simpa using hc)
    · split at h <;> exact nomatch h
    · split at h
      · exact nomatch h
      · split at h <;> exact nomatch h
    · rename_i hzero hone htwo hthree
      have hlength : sequenceLength first = 4 := by
        have hle := sequenceLength_le_four first
        replace hzero : sequenceLength first ≠ 0 := hzero
        replace hone : sequenceLength first ≠ 1 := hone
        replace htwo : sequenceLength first ≠ 2 := htwo
        replace hthree : sequenceLength first ≠ 3 := hthree
        omega
      split at h
      · exact nomatch h
      · split at h
        · exact nomatch h
        · split at h
          · exact nomatch h
          · rename_i hb hc hd
            obtain ⟨rfl, rfl⟩ := Utf8Step.char.inj h
            exact .four hlength (by simpa using hb) (by simpa using hc) (by simpa using hd)
  · intro h
    unfold utf8Step
    cases h with
    | one h =>
      rw [h]
      rfl
    | two h hb =>
      rw [h]
      simp only [hb]
      rfl
    | three h hb hc =>
      rw [h]
      simp only [hb, hc]
      rfl
    | four h hb hc hd =>
      rw [h]
      simp only [hb, hc, hd]
      rfl

/-- The bytes that a character was read from are the bytes of this character. -/
theorem StartsChar.eq_encode (h : StartsChar first bytes c rest) :
    first :: bytes = String.utf8EncodeChar c ++ rest := by
  cases h with
  | one h =>
    have hfirst := sequenceLength_eq_one.1 h
    rw [utf8EncodeChar_ofNat (Or.inl (by omega)), if_pos (by omega), byte_of_eq_toNat rfl]
    rfl
  | @two b _ h hb =>
    have hfirst := sequenceLength_eq_two.1 h
    have hb := isSecond_iff.1 hb
    rw [utf8EncodeChar_ofNat (Or.inl (by omega)), if_neg (by omega), if_pos (by omega),
      byte_of_eq_toNat (b := first) (by omega), byte_of_eq_toNat (b := b) (by omega)]
    rfl
  | @three b c _ h hb hc =>
    have hfirst := sequenceLength_eq_three.1 h
    have hb := isSecond_iff.1 hb
    have hc := isContinuation_iff.1 hc
    rw [utf8EncodeChar_ofNat (by unfold Nat.isValidChar; omega), if_neg (by omega),
      if_neg (by omega), if_pos (by omega), byte_of_eq_toNat (b := first) (by omega),
      byte_of_eq_toNat (b := b) (by omega), byte_of_eq_toNat (b := c) (by omega)]
    rfl
  | @four b c d _ h hb hc hd =>
    have hfirst := sequenceLength_eq_four.1 h
    have hb := isSecond_iff.1 hb
    have hc := isContinuation_iff.1 hc
    have hd := isContinuation_iff.1 hd
    rw [utf8EncodeChar_ofNat (by unfold Nat.isValidChar; omega), if_neg (by omega),
      if_neg (by omega), if_neg (by omega), byte_of_eq_toNat (b := first) (by omega),
      byte_of_eq_toNat (b := b) (by omega), byte_of_eq_toNat (b := c) (by omega),
      byte_of_eq_toNat (b := d) (by omega)]
    rfl

/-- The bytes of a character start with this character, whatever follows. -/
theorem startsChar_encode (c : Char) (rest : List UInt8) :
    ∃ first bytes, String.utf8EncodeChar c ++ rest = first :: bytes ∧
      StartsChar first bytes c rest := by
  have hvalid : c.val.toNat < 0xD800 ∨ (0xDFFF < c.val.toNat ∧ c.val.toNat < 0x110000) := c.valid
  have hcode : Char.ofNat c.val.toNat = c := Char.ofNat_toNat c
  generalize c.val.toNat = n at hvalid hcode
  subst hcode
  rw [utf8EncodeChar_ofNat hvalid]
  -- In each range of codes, the digits to base 64 are put together to the code again.
  split
  · refine ⟨_, _, rfl, ?_⟩
    have hfirst := toNat_byte (show n < 256 by omega)
    have hstarts : StartsChar (.ofNat n) rest _ rest := .one (sequenceLength_eq_one.2 (by omega))
    rwa [hfirst] at hstarts
  split
  · refine ⟨_, _, rfl, ?_⟩
    have hfirst := toNat_byte (show n / 64 % 0x20 + 0xc0 < 256 by omega)
    have hb := toNat_byte (show n % 0x40 + 0x80 < 256 by omega)
    have hcode : (n / 64 % 0x20 + 0xc0) % 32 * 64 + (n % 0x40 + 0x80) % 64 = n := by omega
    have hstarts : StartsChar (.ofNat (n / 64 % 0x20 + 0xc0)) (.ofNat (n % 0x40 + 0x80) :: rest)
        _ rest :=
      .two (sequenceLength_eq_two.2 (by omega)) (isSecond_iff.2 (by omega))
    rwa [hfirst, hb, hcode] at hstarts
  split
  · refine ⟨_, _, rfl, ?_⟩
    have hfirst := toNat_byte (show n / 4096 % 0x10 + 0xe0 < 256 by omega)
    have hb := toNat_byte (show n / 64 % 0x40 + 0x80 < 256 by omega)
    have hc := toNat_byte (show n % 0x40 + 0x80 < 256 by omega)
    have hcode : (n / 4096 % 0x10 + 0xe0) % 16 * 4096 + (n / 64 % 0x40 + 0x80) % 64 * 64
        + (n % 0x40 + 0x80) % 64 = n := by omega
    have hstarts : StartsChar (.ofNat (n / 4096 % 0x10 + 0xe0))
        (.ofNat (n / 64 % 0x40 + 0x80) :: .ofNat (n % 0x40 + 0x80) :: rest) _ rest :=
      .three (sequenceLength_eq_three.2 (by omega)) (isSecond_iff.2 (by omega))
        (isContinuation_iff.2 (by omega))
    rwa [hfirst, hb, hc, hcode] at hstarts
  · refine ⟨_, _, rfl, ?_⟩
    have hfirst := toNat_byte (show n / 262144 % 0x08 + 0xf0 < 256 by omega)
    have hb := toNat_byte (show n / 4096 % 0x40 + 0x80 < 256 by omega)
    have hc := toNat_byte (show n / 64 % 0x40 + 0x80 < 256 by omega)
    have hd := toNat_byte (show n % 0x40 + 0x80 < 256 by omega)
    have hcode : (n / 262144 % 0x08 + 0xf0) % 8 * 262144 + (n / 4096 % 0x40 + 0x80) % 64 * 4096
        + (n / 64 % 0x40 + 0x80) % 64 * 64 + (n % 0x40 + 0x80) % 64 = n := by omega
    have hstarts : StartsChar (.ofNat (n / 262144 % 0x08 + 0xf0))
        (.ofNat (n / 4096 % 0x40 + 0x80) :: .ofNat (n / 64 % 0x40 + 0x80)
          :: .ofNat (n % 0x40 + 0x80) :: rest) _ rest :=
      .four (sequenceLength_eq_four.2 (by omega)) (isSecond_iff.2 (by omega))
        (isContinuation_iff.2 (by omega)) (isContinuation_iff.2 (by omega))
    rwa [hfirst, hb, hc, hd, hcode] at hstarts

/-- The bytes of characters are read by a step to the first of the characters. -/
theorem utf8Step_of_utf8Bytes (h : first :: bytes = utf8Bytes chars) :
    ∃ c more, chars = c :: more ∧ utf8Step first bytes = .char c (utf8Bytes more) := by
  cases chars with
  | nil => exact nomatch h
  | cons c more =>
    obtain ⟨other, others, hbytes, hstarts⟩ := startsChar_encode c (utf8Bytes more)
    obtain ⟨rfl, rfl⟩ := List.cons.inj (h.trans hbytes)
    exact ⟨c, more, rfl, utf8Step_eq_char_iff.2 hstarts⟩

/-- Only no characters have no bytes. -/
theorem eq_nil_of_utf8Bytes (h : utf8Bytes chars = []) : chars = [] := by
  cases chars with
  | nil => rfl
  | cons c more =>
    obtain ⟨first, bytes, hbytes, -⟩ := startsChar_encode c (utf8Bytes more)
    exact nomatch hbytes.symm.trans h

/-- Reading goes on after a character. -/
theorem utf8Chars_of_char {start : Nat} (h : utf8Step first bytes = .char c rest) :
    utf8Chars read start (first :: bytes) =
      utf8Chars (c :: read) (start + 1 + (bytes.length - rest.length)) rest := by
  rw [utf8Chars]
  generalize utf8Step first bytes = step at h ⊢
  subst h
  rfl

/-- Where no character is read, bytes are left over or refused. -/
theorem utf8Chars_ne_of_noChar {start : Nat} (h : ∀ c rest, utf8Step first bytes ≠ .char c rest) :
    utf8Chars read start (first :: bytes) ≠ .ok (chars, []) := by
  rw [utf8Chars]
  generalize utf8Step first bytes = step at h ⊢
  cases step with
  | char c rest => exact absurd rfl (h c rest)
  | unfinished => simp
  | invalid fault count =>
    simp only
    split <;> simp

/-- Bytes are read up to their end exactly when they are those of characters, which are added to
the characters read before. -/
theorem utf8Chars_eq_done_iff {start : Nat} :
    utf8Chars read start bytes = .ok (chars, []) ↔
      ∃ more, bytes = utf8Bytes more ∧ chars = read.reverse ++ more := by
  have hstuck : ∀ {first : UInt8} {bytes : List UInt8} {read : List Char} {start : Nat},
      (∀ c rest, utf8Step first bytes ≠ .char c rest) →
        (utf8Chars read start (first :: bytes) = .ok (chars, []) ↔
          ∃ more, first :: bytes = utf8Bytes more ∧ chars = read.reverse ++ more) := by
    intro first bytes read start hstep
    refine iff_of_false (utf8Chars_ne_of_noChar hstep) fun h => ?_
    obtain ⟨more, hbytes, -⟩ := h
    obtain ⟨c, others, -, hchar⟩ := utf8Step_of_utf8Bytes hbytes
    exact hstep _ _ hchar
  induction read, start, bytes using utf8Chars.induct with
  | case1 read start =>
    rw [utf8Chars]
    apply Iff.intro
    · intro h
      obtain ⟨rfl, -⟩ := Prod.mk.inj (Except.ok.inj h)
      exact ⟨[], rfl, (List.append_nil _).symm⟩
    · intro h
      obtain ⟨more, hbytes, rfl⟩ := h
      rw [eq_nil_of_utf8Bytes hbytes.symm, List.append_nil]
  | case2 read start first bytes c rest hstep ih =>
    rw [utf8Chars_of_char hstep]
    refine Iff.trans ih ?_
    apply Iff.intro
    · intro h
      obtain ⟨more, rfl, rfl⟩ := h
      exact ⟨c :: more, (utf8Step_eq_char_iff.1 hstep).eq_encode, by simp⟩
    · intro h
      obtain ⟨more, hbytes, rfl⟩ := h
      obtain ⟨other, others, rfl, hother⟩ := utf8Step_of_utf8Bytes hbytes
      obtain ⟨rfl, rfl⟩ := Utf8Step.char.inj (hstep.symm.trans hother)
      exact ⟨others, rfl, by simp⟩
  | case3 read start first bytes hstep =>
    exact hstuck fun c rest hchar => nomatch hstep.symm.trans hchar
  | case4 read start first bytes fault count hstep =>
    exact hstuck fun c rest hchar => nomatch hstep.symm.trans hchar
  | case5 read start first bytes fault count hstep =>
    exact hstuck fun c rest hchar => nomatch hstep.symm.trans hchar

/-- Bytes left over are a failure. -/
theorem leftoverFailure_eq_none_iff {start : Nat} :
    leftoverFailure start bytes = none ↔ bytes = [] := by
  cases bytes with
  | nil => simp [leftoverFailure]
  | cons first rest =>
    simp only [leftoverFailure]
    split
    · simp
    · simp

/-- The reader of bytes gives characters exactly when the bytes are those of the characters. -/
theorem decodeUtf8_eq_ok_iff : decodeUtf8 bytes = .ok chars ↔ bytes = utf8Bytes chars := by
  have hdone : utf8Chars [] 0 bytes = .ok (chars, []) ↔ bytes = utf8Bytes chars := by
    rw [utf8Chars_eq_done_iff]
    simp
  rw [← hdone, decodeUtf8]
  rcases utf8Chars [] 0 bytes with failure | ⟨others, leftover⟩
  · simp
  · by_cases hleftover : leftover = []
    · subst hleftover
      simp [leftoverFailure]
    · have hfailure : leftoverFailure (bytes.length - leftover.length) leftover ≠ none := by
        rwa [Ne, leftoverFailure_eq_none_iff]
      obtain ⟨failure, hfailure⟩ := Option.ne_none_iff_exists'.1 hfailure
      simp [hfailure, hleftover]

/-- Bytes are refused exactly when they are not those of any characters. -/
theorem decodeUtf8_eq_error_iff :
    (∃ failure, decodeUtf8 bytes = .error failure) ↔ ¬ IsUtf8 bytes := by
  cases hread : decodeUtf8 bytes with
  | error failure =>
    refine iff_of_true ⟨failure, rfl⟩ fun h => ?_
    obtain ⟨chars, hchars⟩ := h
    exact nomatch hread.symm.trans (decodeUtf8_eq_ok_iff.2 hchars)
  | ok chars =>
    refine iff_of_false (by simp) fun h => h ⟨chars, decodeUtf8_eq_ok_iff.1 hread⟩

end BrowserScenario.Text
