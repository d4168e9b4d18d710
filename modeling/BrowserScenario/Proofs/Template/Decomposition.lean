import BrowserScenario.Template
import Mathlib.Data.List.TakeWhile

/-!
# Markers and literal text

A text is a literal, and then markers, each followed by a literal. A literal is bare: no marker
starts inside it, however far it is read beyond the literal. Main statements: each text has one
and only one such decomposition, and filling the text puts the values between the literals or
names the first marker that has no value.
-/

namespace BrowserScenario.Template

/-- What can be named between the braces of a marker. -/
def IsName (name : List Char) : Prop :=
  name ≠ [] ∧ '\x7d' ∉ name

/-- The marker of a name. -/
def marker (name : List Char) : List Char :=
  '$' :: '\x7b' :: (name ++ ['\x7d'])

/-- A text that starts with a marker. -/
def StartsMarker (text : List Char) : Prop :=
  ∃ name after, IsName name ∧ text = marker name ++ after

/-- A literal in which no marker starts when it is read on into what follows it. -/
def Bare (literal rest : List Char) : Prop :=
  ∀ before after, literal = before ++ after → after ≠ [] → ¬ StartsMarker (after ++ rest)

/-- A marker, by its name, with the literal that follows it. -/
structure Piece where
  name : List Char
  literal : List Char
deriving DecidableEq, Repr

/-- The text of markers with their literals. -/
def piecesText : List Piece → List Char
  | [] => []
  | piece :: rest => marker piece.name ++ (piece.literal ++ piecesText rest)

/-- A literal and then markers, each followed by a literal. -/
structure Decomposition where
  lead : List Char
  pieces : List Piece
deriving DecidableEq, Repr

/-- What a decomposition of a text has to be: its parts make up the text, its names are names,
and its literals are bare. -/
structure Decomposition.IsOf (parts : Decomposition) (text : List Char) : Prop where
  text_eq : text = parts.lead ++ piecesText parts.pieces
  names : ∀ piece ∈ parts.pieces, IsName piece.name
  lead_bare : Bare parts.lead (piecesText parts.pieces)
  literals_bare : ∀ before piece after, parts.pieces = before ++ piece :: after →
    Bare piece.literal (piecesText after)

/-- A text is read up to its first closing brace, and that brace is the first character left. -/
theorem eq_of_readToBrace {rest name after : List Char} {closing : Char}
    (htake : rest.takeWhile (· != '\x7d') = name)
    (hdrop : rest.dropWhile (· != '\x7d') = closing :: after) :
    '\x7d' ∉ name ∧ rest = name ++ '\x7d' :: after := by
  have hbrace : closing = '\x7d' := by
    have hhead := List.head?_dropWhile_not (· != '\x7d') rest
    rw [hdrop] at hhead
    simpa using hhead
  subst hbrace
  refine ⟨fun hmem => ?_, ?_⟩
  · rw [← htake] at hmem
    have hpass := List.mem_takeWhile_imp hmem
    simp at hpass
  · rw [← htake, ← hdrop, List.takeWhile_append_dropWhile]

/-- A name is read up to the brace that closes it, whatever follows. -/
theorem readToBrace {name : List Char} (hname : '\x7d' ∉ name) (after : List Char) :
    (name ++ '\x7d' :: after).takeWhile (· != '\x7d') = name ∧
      (name ++ '\x7d' :: after).dropWhile (· != '\x7d') = '\x7d' :: after := by
  have hopen : ∀ c ∈ name, (c != '\x7d') = true := by
    intro c hc
    have hne : c ≠ '\x7d' := by
      intro heq
      exact hname (heq ▸ hc)
    simpa using hne
  rw [List.takeWhile_append_of_pos hopen, List.dropWhile_append_of_pos hopen]
  simp

/-- The reader of markers finds exactly the markers that a text starts with. -/
theorem marker?_eq_some_iff {text name after : List Char} :
    marker? text = some (name, after) ↔ IsName name ∧ text = marker name ++ after := by
  apply Iff.intro
  · intro h
    unfold marker? at h
    split at h
    · rename_i rest
      split at h
      · rename_i first more closing tail htake hdrop
        obtain ⟨rfl, rfl⟩ : first :: more = name ∧ tail = after := by simpa using h
        obtain ⟨hname, hrest⟩ := eq_of_readToBrace htake hdrop
        refine ⟨⟨by simp, hname⟩, ?_⟩
        rw [hrest]
        simp [marker]
      · simp at h
    · simp at h
  · intro h
    obtain ⟨⟨hne, hname⟩, rfl⟩ := h
    obtain ⟨htake, hdrop⟩ := readToBrace hname after
    obtain ⟨first, more, rfl⟩ := List.exists_cons_of_ne_nil hne
    have htext : marker (first :: more) ++ after =
        '$' :: '\x7b' :: (first :: more ++ '\x7d' :: after) := by
      simp [marker]
    rw [htext, marker?, htake, hdrop]

example : marker? "$\x7b\x7d".toList = none := rfl

example : marker? "$$\x7bA\x7d".toList = none := rfl

example : marker? "$\x7ba$\x7bB\x7d".toList = some ("a$\x7bB".toList, []) := rfl

/-- The reader of markers finds nothing exactly where no marker starts. -/
theorem marker?_eq_none_iff {text : List Char} : marker? text = none ↔ ¬ StartsMarker text := by
  apply Iff.intro
  · intro h hother
    obtain ⟨name, after, hname, htext⟩ := hother
    have hsome := marker?_eq_some_iff.2 ⟨hname, htext⟩
    rw [h] at hsome
    exact nomatch hsome
  · intro h
    cases hmarker : marker? text with
    | none => rfl
    | some found =>
      obtain ⟨name, after⟩ := found
      obtain ⟨hname, htext⟩ := marker?_eq_some_iff.1 hmarker
      exact absurd ⟨name, after, hname, htext⟩ h

/-- A decomposition with a marker put before it. -/
def Decomposition.withMarker (name : List Char) (parts : Decomposition) : Decomposition :=
  ⟨[], ⟨name, parts.lead⟩ :: parts.pieces⟩

/-- A decomposition with a literal character put before it. -/
def Decomposition.withLiteral (c : Char) (parts : Decomposition) : Decomposition :=
  ⟨c :: parts.lead, parts.pieces⟩

/-- The decomposition that reading a text from left to right leads to. -/
def decompose (text : List Char) : Decomposition :=
  match _h : marker? text with
  | some (name, after) => (decompose after).withMarker name
  | none =>
    match text with
    | [] => ⟨[], []⟩
    | c :: rest => (decompose rest).withLiteral c
termination_by text.length
decreasing_by
  · exact marker?_rest_lt _h
  · simp

/-- An empty text has no parts. -/
theorem decompose_nil : decompose [] = ⟨[], []⟩ := by
  rw [decompose]
  rfl

/-- A text that starts with a marker is read as the marker and what follows it. -/
theorem decompose_of_marker {text name after : List Char}
    (h : marker? text = some (name, after)) :
    decompose text = (decompose after).withMarker name := by
  rw [decompose]
  split
  · rename_i other rest hother
    obtain ⟨rfl, rfl⟩ : name = other ∧ after = rest := by simpa [h] using hother
    rfl
  · rename_i hnone
    exact nomatch hnone.symm.trans h

/-- A text that starts with no marker is read by its first character. -/
theorem decompose_of_literal {c : Char} {rest : List Char} (h : marker? (c :: rest) = none) :
    decompose (c :: rest) = (decompose rest).withLiteral c := by
  rw [decompose]
  split
  · rename_i hsome
    exact nomatch h.symm.trans hsome
  · rfl

/-- A name is found as it is before the brace that closes it, whatever follows. -/
theorem marker_append_inj {name other after rest : List Char} (hname : IsName name)
    (hother : IsName other) (h : marker name ++ after = marker other ++ rest) :
    name = other ∧ after = rest := by
  have hfirst : marker? (marker name ++ after) = some (name, after) :=
    marker?_eq_some_iff.2 ⟨hname, rfl⟩
  have hsecond : marker? (marker name ++ after) = some (other, rest) :=
    marker?_eq_some_iff.2 ⟨hother, h⟩
  rw [hfirst] at hsecond
  simpa using hsecond

/-- An empty literal is bare. -/
theorem bare_nil (rest : List Char) : Bare [] rest := by
  intro before after h hne
  exact absurd (List.append_eq_nil_iff.1 h.symm).2 hne

/-- A literal is bare when no marker starts at its first character and what follows that is
bare. -/
theorem bare_cons {c : Char} {literal rest : List Char} :
    Bare (c :: literal) rest ↔ ¬ StartsMarker (c :: literal ++ rest) ∧ Bare literal rest := by
  apply Iff.intro
  · intro h
    refine ⟨h [] (c :: literal) rfl (by simp), fun before after hsplit hne => ?_⟩
    exact h (c :: before) after (by rw [hsplit]; rfl) hne
  · intro h before after hsplit hne
    obtain ⟨hfirst, hrest⟩ := h
    cases before with
    | nil =>
      obtain rfl : c :: literal = after := hsplit
      exact hfirst
    | cons first more =>
      obtain ⟨rfl, rfl⟩ := List.cons.inj hsplit
      exact hrest more after rfl hne

namespace Decomposition

/-- An empty text has the decomposition without parts, and no other. -/
theorem isOf_nil {parts : Decomposition} : parts.IsOf [] ↔ parts = ⟨[], []⟩ := by
  apply Iff.intro
  · intro h
    obtain ⟨lead, pieces⟩ := parts
    have hlead : lead = [] := (List.append_eq_nil_iff.1 h.text_eq.symm).1
    have hpieces : piecesText pieces = [] := (List.append_eq_nil_iff.1 h.text_eq.symm).2
    cases pieces with
    | nil => rw [hlead]
    | cons piece rest => exact nomatch hpieces
  · intro heq
    subst heq
    exact ⟨rfl, by simp, bare_nil [], by simp⟩

/-- Where a marker starts, a decomposition is that marker and a decomposition of what follows
the marker. -/
theorem isOf_marker {parts : Decomposition} {name after : List Char} (hname : IsName name) :
    parts.IsOf (marker name ++ after) ↔
      ∃ following : Decomposition, following.IsOf after ∧ parts = following.withMarker name := by
  apply Iff.intro
  · intro h
    obtain ⟨lead, pieces⟩ := parts
    have htext : marker name ++ after = lead ++ piecesText pieces := h.text_eq
    have hlead : lead = [] := by
      by_contra hne
      exact h.lead_bare [] lead rfl hne ⟨name, after, hname, htext.symm⟩
    subst hlead
    cases pieces with
    | nil => exact nomatch htext
    | cons piece rest =>
      have hpiece : IsName piece.name := h.names piece List.mem_cons_self
      obtain ⟨rfl, rfl⟩ := marker_append_inj hname hpiece htext
      refine ⟨⟨piece.literal, rest⟩, ⟨rfl, fun other hother => ?_, ?_, ?_⟩, rfl⟩
      · exact h.names other (List.mem_cons_of_mem _ hother)
      · exact h.literals_bare [] piece rest rfl
      · intro before other following hsplit
        have hsplit' : rest = before ++ other :: following := hsplit
        exact h.literals_bare (piece :: before) other following (by rw [hsplit']; rfl)
  · intro h
    obtain ⟨following, h, rfl⟩ := h
    refine ⟨?_, ?_, bare_nil _, ?_⟩
    · rw [h.text_eq]
      rfl
    · intro piece hpiece
      rcases List.mem_cons.1 hpiece with rfl | hmem
      · exact hname
      · exact h.names piece hmem
    · intro before piece after hsplit
      cases before with
      | nil =>
        obtain ⟨rfl, rfl⟩ := List.cons.inj hsplit
        exact h.lead_bare
      | cons first more =>
        obtain ⟨rfl, hmore⟩ := List.cons.inj hsplit
        exact h.literals_bare more piece after hmore

/-- Where no marker starts, a decomposition is a literal character and a decomposition of what
follows it. -/
theorem isOf_cons {parts : Decomposition} {c : Char} {rest : List Char}
    (hmarker : ¬ StartsMarker (c :: rest)) :
    parts.IsOf (c :: rest) ↔
      ∃ following : Decomposition, following.IsOf rest ∧ parts = following.withLiteral c := by
  apply Iff.intro
  · intro h
    obtain ⟨lead, pieces⟩ := parts
    have htext : c :: rest = lead ++ piecesText pieces := h.text_eq
    cases lead with
    | nil =>
      cases pieces with
      | nil => exact nomatch htext
      | cons piece more =>
        have hpiece : IsName piece.name := h.names piece List.mem_cons_self
        exact absurd ⟨piece.name, _, hpiece, htext⟩ hmarker
    | cons first lead =>
      obtain ⟨rfl, hrest⟩ := List.cons.inj htext
      have hlead := (bare_cons.1 h.lead_bare).2
      exact ⟨⟨lead, pieces⟩, ⟨hrest, h.names, hlead, h.literals_bare⟩, rfl⟩
  · intro h
    obtain ⟨following, h, rfl⟩ := h
    have htext := h.text_eq
    refine ⟨?_, h.names, bare_cons.2 ⟨?_, h.lead_bare⟩, h.literals_bare⟩
    · rw [htext]
      rfl
    · have hread : following.lead ++ piecesText (following.withLiteral c).pieces = rest :=
        htext.symm
      rw [List.cons_append, hread]
      exact hmarker

/-- A text has exactly one decomposition, the one that reading from left to right leads to. -/
theorem isOf_iff {parts : Decomposition} {text : List Char} :
    parts.IsOf text ↔ parts = decompose text := by
  induction text using decompose.induct generalizing parts with
  | case1 text name after hmarker ih =>
    obtain ⟨hname, htext⟩ := marker?_eq_some_iff.1 hmarker
    rw [decompose_of_marker hmarker, htext, isOf_marker hname]
    apply Iff.intro
    · intro h
      obtain ⟨following, hfollowing, rfl⟩ := h
      rw [ih.1 hfollowing]
    · intro h
      exact ⟨decompose after, ih.2 rfl, h⟩
  | case2 hmarker =>
    rw [decompose_nil]
    exact isOf_nil
  | case3 c rest hmarker ih =>
    rw [decompose_of_literal hmarker, isOf_cons (marker?_eq_none_iff.1 hmarker)]
    apply Iff.intro
    · intro h
      obtain ⟨following, hfollowing, rfl⟩ := h
      rw [ih.1 hfollowing]
    · intro h
      exact ⟨decompose rest, ih.2 rfl, h⟩

end Decomposition

end BrowserScenario.Template
