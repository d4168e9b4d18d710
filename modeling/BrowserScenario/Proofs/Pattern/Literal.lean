import BrowserScenario.Proofs.Scenario.Selected
import Mathlib.Data.List.Forall2

/-!
# Patterns that stand for themselves

A pattern without any of the marks that have a meaning of their own is read as its characters, one
after the other, and is found in a text where characters stand that agree with them. Main statement:
in a text of ASCII characters such a pattern of ASCII characters is found exactly when the text
contains it, at any place, once both are in lower case.
-/

namespace BrowserScenario.Pattern

open BrowserScenario.Text Read

/-- The characters that have a meaning of their own in a pattern. -/
def marks : List Char := ['\\', '|', '(', ')', '[', '.', '^', '$', '*', '+', '?', '\x7b']

/-- The nodes of characters that stand for themselves. -/
def characters (chars : List Char) : List Node :=
  chars.map fun c => .char c.toNat

/-- The switches of a pattern that turns none on: case is ignored, in all alphabets. -/
def plainSwitches : Switches :=
  { Switches.none with ignoreCase := true, unicode := true }

/-- The pattern of characters that stand for themselves. -/
def literal (chars : List Char) : Compiled :=
  ⟨Node.ofList (characters chars), plainSwitches, groupWidth []⟩

section Reading

variable {c : Char} {chars more : List Char} {reader next : Reader}

/-- A step of reading that succeeded is gone on with from where it ended. -/
theorem run_bind_of_ok {α β : Type} {step : Read α} {value : α} (rest : α → Read β)
    (h : step.run reader = .ok (value, next)) :
    (step >>= rest).run reader = (rest value).run next := by
  rw [StateT.run_bind, h]
  rfl

/-- A character that is no mark is a unit. -/
theorem unitOf_of_not_mem_marks (hc : c ∉ marks) (more : List Char) : unitOf (c :: more) = [c] := by
  have hslash : c ≠ '\\' := by
    rintro rfl
    exact hc (by decide)
  simp [unitOf, hslash]

/-- Without marks nothing is left to escape. -/
theorem ne_escape_of_noMarks (h : ∀ c ∈ chars, c ∉ marks) : chars ≠ ['\\'] := by
  rintro rfl
  exact h '\\' List.mem_cons_self (by decide)

/-- Nothing is left after the end. -/
theorem run_peek_of_end (h : reader.rest = []) : peek.run reader = .ok ([], reader) := by
  change Except.ok (unitOf reader.rest, reader) = _
  rw [h]
  rfl

/-- A character that is no mark is read as itself. -/
theorem items_cons (hrest : reader.rest = c :: more) (hc : c ∉ marks) (hmore : more ≠ ['\\'])
    (first : Bool) (fuel : Nat) (read : List Node) :
    (items false first (fuel + 1) read).run reader =
      (items false first fuel (.char c.toNat :: read)).run
        { reader with rest := more, position := reader.position + 1 } := by
  have hunit : unitOf reader.rest = [c] := by rw [hrest, unitOf_of_not_mem_marks hc]
  have hpeek : peek.run reader = .ok ([c], reader) := by
    rw [← hunit]
    rfl
  have htake : take.run reader =
      .ok ([c], { reader with rest := more, position := reader.position + 1 }) := by
    simp only [take, checkEscape, StateT.run_bind, StateT.run_get, pure_bind, hrest,
      unitOf_of_not_mem_marks hc, List.length_singleton, List.drop_one, List.tail_cons, if_neg hmore]
    rfl
  simp only [marks, List.mem_cons, List.not_mem_nil, or_false, not_or] at hc
  rw [items, run_bind_of_ok _ hpeek]
  -- None of the characters with a meaning of their own is met.
  simp only [hc, false_implies]
  rw [run_bind_of_ok _ htake]
  simp [hc]

/-- Characters without marks are read as themselves up to the end. -/
theorem items_characters (h : ∀ c ∈ chars, c ∉ marks) (hrest : reader.rest = chars) (first : Bool)
    {fuel : Nat} (hfuel : chars.length ≤ fuel) (read : List Node) :
    (items false first fuel read).run reader =
      .ok ((characters chars).reverse ++ read,
        { reader with rest := [], position := reader.position + chars.length }) := by
  induction chars generalizing reader fuel read with
  | nil =>
    have hend : { reader with rest := [] } = reader := by rw [← hrest]
    cases fuel with
    | zero => exact congrArg (fun left => Except.ok (read, left)) hend.symm
    | succ fuel =>
      rw [items, run_bind_of_ok _ (run_peek_of_end hrest)]
      exact congrArg (fun left => Except.ok (read, left)) hend.symm
  | cons c more ih =>
    obtain ⟨hc, hmore⟩ := List.forall_mem_cons.1 h
    cases fuel with
    | zero => exact nomatch hfuel
    | succ fuel =>
      rw [items_cons hrest hc (ne_escape_of_noMarks hmore), ih hmore rfl (Nat.le_of_succ_le_succ hfuel)]
      simp [characters, Nat.add_assoc, Nat.add_comm 1]

/-- No character is accepted at the end. -/
theorem run_accept_of_end (h : reader.rest = []) (expected : Char) :
    (accept expected).run reader = .ok (false, reader) := by
  rw [accept, run_bind_of_ok _ (run_peek_of_end h)]
  rfl

/-- Characters without marks are one alternative. -/
theorem alternatives_characters (h : ∀ c ∈ chars, c ∉ marks) (hrest : reader.rest = chars)
    {fuel : Nat} (hfuel : chars.length ≤ fuel) :
    (alternatives true false (fuel + 1) true).run reader =
      .ok ([Node.ofList (characters chars)],
        { reader with rest := [], position := reader.position + chars.length }) := by
  have hitems := items_characters h hrest true hfuel []
  rw [List.append_nil] at hitems
  rw [alternatives, Bool.and_self, run_bind_of_ok _ hitems,
    run_bind_of_ok _ (run_accept_of_end rfl '|'), List.reverse_reverse]
  rfl

/-- A pattern of characters without marks is faultless. -/
theorem check_characters (groups : Nat → Width) (chars : List Char) :
    check false groups (Node.ofList (characters chars)) = .ok () := by
  induction chars with
  | nil => rfl
  | cons c more ih =>
    cases more with
    | nil => rfl
    | cons next others => exact ih

/-- The start of reading a pattern. -/
def startOf [names : CharacterNames] (chars : List Char) : Reader :=
  ⟨chars, 0, { Switches.none with ignoreCase := true }, [], [], none, [], names⟩

/-- Characters without marks are a whole pattern. -/
theorem whole_characters [CharacterNames] (h : ∀ c ∈ chars, c ∉ marks) {fuel : Nat}
    (hfuel : chars.length ≤ fuel) :
    (whole (fuel + 1)).run (startOf chars) =
      .ok (Node.ofList (characters chars),
        { startOf chars with rest := [], position := chars.length }) := by
  have hstart : checkEscape (startOf chars).rest 0 = pure () := if_neg (ne_escape_of_noMarks h)
  have hread := alternatives_characters h (rfl : (startOf chars).rest = chars) hfuel
  rw [show (startOf chars).position + chars.length = chars.length from Nat.zero_add _] at hread
  unfold whole
  simp only [StateT.run_bind, StateT.run_get, StateT.run_pure, StateT.run_map, pure_bind, hstart,
    hread]
  rfl

/-- A text that is read without a fault is a pattern. -/
theorem compile_of_read [CharacterNames] {text : String} {node : Node}
    (hread : (whole (4 * text.toList.length + 8)).run (startOf text.toList) = .ok (node, next))
    (hcheck : check next.switches.template (groupWidth next.widths) node = .ok ()) :
    compile text = .ok ⟨node, { next.switches with unicode := !next.switches.ascii },
      groupWidth next.widths⟩ := by
  unfold startOf at hread
  simp only [compile, hread, hcheck]

/-- A text without marks is a pattern that stands for itself. -/
theorem compile_of_noMarks [CharacterNames] {text : String} (h : ∀ c ∈ text.toList, c ∉ marks) :
    compile text = .ok (literal text.toList) := by
  have hfuel : text.toList.length ≤ 4 * text.toList.length + 7 := by omega
  exact compile_of_read (whole_characters h hfuel) (check_characters _ _)

end Reading

section Matching

variable {groups : Nat → Width} {switches : Switches}

/-- Nodes one after the other are matched one after the other. -/
theorem matching_ofList_cons (node : Node) (more : List Node) (continuation : Continuation) :
    (Node.ofList (node :: more)).matching groups switches continuation =
      node.matching groups switches
        ((Node.ofList more).matching groups switches continuation) := by
  cases more with
  | nil => rfl
  | cons next others => rfl

/-- What begins with characters that agree with some begins with one that agrees with the first, and
goes on in the same way. -/
theorem exists_forall₂_cons_iff {agree : Char → Char → Prop} {c d : Char} {more rest : List Char} :
    (∃ found back, d :: rest = found ++ back ∧ List.Forall₂ agree (c :: more) found) ↔
      agree c d ∧ ∃ found back, rest = found ++ back ∧ List.Forall₂ agree more found := by
  constructor
  · rintro ⟨found, back, hrest, hfound⟩
    cases hfound with
    | cons hagree hmore =>
      obtain ⟨rfl, rfl⟩ := List.cons.inj hrest
      exact ⟨hagree, _, back, rfl, hmore⟩
  · rintro ⟨hagree, found, back, rfl, hmore⟩
    exact ⟨d :: found, back, rfl, .cons hagree hmore⟩

/-- Characters are matched where characters stand that agree with them. -/
theorem matching_characters_iff {chars : List Char} {cursor : Cursor} {captures : Captures} :
    ((Node.ofList (characters chars)).matching groups switches stop cursor captures).isSome = true ↔
      ∃ found back, cursor.after = found ++ back ∧
        List.Forall₂ (fun c d => sameCode switches c.toNat d = true) chars found := by
  induction chars generalizing cursor with
  | nil =>
    constructor
    · intro _
      exact ⟨[], cursor.after, rfl, .nil⟩
    · intro _
      rfl
  | cons c more ih =>
    change ((Node.ofList (.char c.toNat :: characters more)).matching _ _ _ _ _).isSome = true ↔ _
    rw [matching_ofList_cons]
    change (single (sameCode switches c.toNat) _ cursor captures).isSome = true ↔ _
    cases hafter : cursor.after with
    | nil => simp [single, Cursor.next?, hafter]
    | cons d rest =>
      simp only [single, Cursor.next?, hafter, exists_forall₂_cons_iff]
      by_cases hagree : sameCode switches c.toNat d = true
      · rw [if_pos hagree, ih]
        simp [hagree]
      · simp [hagree]

/-- A literal pattern is found in a text that contains characters that agree with its own. -/
theorem matchesIn_literal_iff {chars : List Char} {text : String} :
    (literal chars).MatchesIn text ↔ ∃ found, found <:+: text.toList ∧
      List.Forall₂ (fun c d => sameCode plainSwitches c.toNat d = true) chars found := by
  unfold Compiled.MatchesIn literal
  simp only [matching_characters_iff]
  constructor
  · rintro ⟨before, after, htext, found, back, rfl, hfound⟩
    exact ⟨found, ⟨before, back, by rw [htext, List.append_assoc]⟩, hfound⟩
  · rintro ⟨found, ⟨before, back, htext⟩, hfound⟩
    exact ⟨before, found ++ back, by rw [← htext, List.append_assoc], found, back, rfl, hfound⟩

end Matching

section Ascii

variable {c d : Char}

/-- An ASCII character has a code point below 128. -/
theorem ascii_iff : c.val < 128 ↔ c.toNat < 128 := UInt32.lt_iff_toNat_lt

/-- The lower-case form of an ASCII character is one. -/
theorem toLower_ascii (h : c.val < 128) : c.toLower.val < 128 := by
  have hall : ∀ n < 128, (Char.ofNat n).toLower.val < 128 := by decide +kernel
  simpa using hall c.toNat (ascii_iff.1 h)

/-- No ASCII character shares an upper-case form with another one in lower case. -/
theorem not_ascii_of_mem_siblingsOf (h : c.val < 128) (hd : d ∈ siblingsOf c) : ¬ d.val < 128 := by
  have hall : ∀ n < 128, ∀ code ∈ (caseSiblings.lookup n).getD [],
      ¬ (Char.ofNat code).val < 128 := by decide +kernel
  obtain ⟨code, hcode, rfl⟩ := List.mem_map.1 hd
  exact hall c.toNat (ascii_iff.1 h) code hcode

/-- ASCII characters agree when their lower-case forms are the same. -/
theorem sameCode_iff_of_ascii (hc : c.val < 128) (hd : d.val < 128) :
    sameCode plainSwitches c.toNat d = true ↔ c.toLower = d.toLower := by
  have hlower {c : Char} (h : c.val < 128) : lowerCode plainSwitches c.toNat = c.toLower.toNat := by
    change (lowerChar (Char.ofNat c.toNat)).toNat = _
    rw [Char.ofNat_toNat, lowerChar_of_ascii h]
  have hsibling : d.toLower.toNat ∉ siblingCodes plainSwitches c.toLower.toNat := by
    change d.toLower.toNat ∉ (siblingsOf (Char.ofNat c.toLower.toNat)).map Char.toNat
    rw [Char.ofNat_toNat, List.mem_map]
    rintro ⟨sibling, hsibling, hsame⟩
    rw [Char.toNat_inj.1 hsame] at hsibling
    exact not_ascii_of_mem_siblingsOf (toLower_ascii hc) hsibling (toLower_ascii hd)
  have hignored : plainSwitches.ignoreCase = true := rfl
  rw [sameCode, if_pos hignored]
  simp only [hlower hc, hlower hd, Bool.or_eq_true, beq_iff_eq, List.contains_iff_mem, hsibling,
    or_false, Char.toNat_inj]
  exact eq_comm

/-- ASCII characters agree one by one when they are the same in lower case. -/
theorem forall₂_sameCode_iff_of_ascii {chars found : List Char} (hchars : ∀ c ∈ chars, c.val < 128)
    (hfound : ∀ d ∈ found, d.val < 128) :
    List.Forall₂ (fun c d => sameCode plainSwitches c.toNat d = true) chars found ↔
      chars.map Char.toLower = found.map Char.toLower := by
  induction chars generalizing found with
  | nil => rw [List.forall₂_nil_left_iff, List.map_nil, List.nil_eq, List.map_eq_nil_iff]
  | cons c more ih =>
    cases found with
    | nil => simp
    | cons d others =>
      obtain ⟨hc, hmore⟩ := List.forall_mem_cons.1 hchars
      obtain ⟨hd, hothers⟩ := List.forall_mem_cons.1 hfound
      rw [List.forall₂_cons, sameCode_iff_of_ascii hc hd, ih hmore hothers, List.map_cons,
        List.map_cons, List.cons.injEq]

/-- In a text of ASCII characters a pattern of ASCII characters without marks is found exactly when
the text contains it, both in lower case. -/
theorem matchesIn_literal_iff_of_ascii {pattern text : String}
    (hpattern : ∀ c ∈ pattern.toList, c.val < 128) (htext : ∀ c ∈ text.toList, c.val < 128) :
    (literal pattern.toList).MatchesIn text ↔
      pattern.toLower.toList <:+: text.toLower.toList := by
  have hlower (s : String) : s.toLower.toList = s.toList.map Char.toLower := String.toList_map
  rw [matchesIn_literal_iff, hlower, hlower, List.infix_map_iff]
  refine exists_congr fun found => and_congr_right fun hfound => ?_
  exact forall₂_sameCode_iff_of_ascii hpattern fun d hd => htext d (hfound.subset hd)

end Ascii

end BrowserScenario.Pattern
