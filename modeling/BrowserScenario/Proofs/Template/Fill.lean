import BrowserScenario.Proofs.Template.Decomposition

/-!
# Filled text

Filling reads a text once from left to right. Its effect is told by the decomposition of the text:
literals stay as they are, each marker gives way to the value of its name, and no value is read
for markers. A text that is not empty is never filled to an empty one. Main statement: a text whose
names all have values is filled with them, and any other text is refused for the first name that
has none.
-/

namespace BrowserScenario.Template

variable {values : Variables}

/-- A name that stands for something: it has a value, and one that is not empty. -/
def HasValue (values : Variables) (name : List Char) : Prop :=
  ∃ value, values.get? (String.ofList name) = some value ∧ value ≠ ""

/-- The characters that a name stands for. -/
def valueChars (values : Variables) (name : List Char) : List Char :=
  ((values.get? (String.ofList name)).getD "").toList

/-- Literals with the value of a name before each of them. -/
def piecesFilled (values : Variables) : List Piece → List Char
  | [] => []
  | piece :: rest => valueChars values piece.name ++ (piece.literal ++ piecesFilled values rest)

/-- The literals of a decomposition with the values of its names between them. -/
def Decomposition.filled (values : Variables) (parts : Decomposition) : List Char :=
  parts.lead ++ piecesFilled values parts.pieces

/-- A name that stands for something is given its value. -/
theorem valueOf?_of_hasValue {name : List Char} (h : HasValue values name) :
    valueOf? values name = some (valueChars values name) := by
  obtain ⟨value, hvalue, hne⟩ := h
  have hempty : value.isEmpty = false := by simpa using hne
  simp only [valueOf?, valueChars, hvalue, hempty]
  rfl

/-- A name that stands for nothing is given no value. -/
theorem valueOf?_of_not_hasValue {name : List Char} (h : ¬ HasValue values name) :
    valueOf? values name = none := by
  unfold valueOf?
  split
  · rename_i value hvalue
    have hempty : value = "" := by
      by_contra hne
      exact h ⟨value, hvalue, hne⟩
    simp [hempty]
  · rfl

/-- A text that starts with a marker is filled from the value of its name on. -/
theorem fillChars_of_marker {text name after value : List Char}
    (h : marker? text = some (name, after)) (hvalue : valueOf? values name = some value) :
    fillChars values text = (fillChars values after).map (value ++ ·) := by
  rw [fillChars]
  split
  · rename_i other rest hother
    obtain ⟨rfl, rfl⟩ : name = other ∧ after = rest := by simpa [h] using hother
    simp only [hvalue]
    cases fillChars values after <;> rfl
  · rename_i hnone
    simp [h] at hnone

/-- A text that starts with the marker of a name without a value is refused for this name. -/
theorem fillChars_of_missing {text name after : List Char}
    (h : marker? text = some (name, after)) (hvalue : valueOf? values name = none) :
    fillChars values text = .error (String.ofList name) := by
  rw [fillChars]
  split
  · rename_i other rest hother
    obtain ⟨rfl, rfl⟩ : name = other ∧ after = rest := by simpa [h] using hother
    simp only [hvalue]
  · rename_i hnone
    simp [h] at hnone

/-- A text that starts with no marker is filled from its second character on. -/
theorem fillChars_of_literal {c : Char} {rest : List Char} (h : marker? (c :: rest) = none) :
    fillChars values (c :: rest) = (fillChars values rest).map (c :: ·) := by
  rw [fillChars]
  split
  · rename_i hsome
    simp [h] at hsome
  · cases hrest : fillChars values rest <;> simp only [hrest] <;> rfl

/-- A value that is put in for a name is not empty. -/
theorem ne_nil_of_valueOf? {name value : List Char} (h : valueOf? values name = some value) :
    value ≠ [] := by
  unfold valueOf? at h
  split at h
  · split at h
    · exact nomatch h
    · rename_i hempty
      obtain rfl := Option.some.inj h
      simpa using hempty
  · exact nomatch h

/-- A text that starts with a marker is filled with the value of its name and with what fills the
text after the marker. -/
theorem exists_of_fillChars_marker {text name after filled : List Char}
    (hmarker : marker? text = some (name, after)) (h : fillChars values text = .ok filled) :
    ∃ value rest, valueOf? values name = some value ∧ fillChars values after = .ok rest ∧
      filled = value ++ rest := by
  cases hvalue : valueOf? values name with
  | none =>
    rw [fillChars_of_missing hmarker hvalue] at h
    exact nomatch h
  | some value =>
    rw [fillChars_of_marker hmarker hvalue] at h
    cases hafter : fillChars values after with
    | error missing =>
      rw [hafter] at h
      exact nomatch h
    | ok rest =>
      rw [hafter] at h
      exact ⟨value, rest, rfl, rfl, (Except.ok.inj h).symm⟩

/-- A text that starts with no marker is filled with its first character and with what fills the
text after it. -/
theorem exists_of_fillChars_literal {c : Char} {rest filled : List Char}
    (hmarker : ¬ StartsMarker (c :: rest)) (h : fillChars values (c :: rest) = .ok filled) :
    ∃ others, fillChars values rest = .ok others ∧ filled = c :: others := by
  rw [fillChars_of_literal (marker?_eq_none_iff.2 hmarker)] at h
  cases hrest : fillChars values rest with
  | error missing =>
    rw [hrest] at h
    exact nomatch h
  | ok others =>
    rw [hrest] at h
    exact ⟨others, rfl, (Except.ok.inj h).symm⟩

/-- What fills a text that is not empty is not empty: it starts with a value or with the first
character of the text. -/
theorem fillChars_ne_nil {text filled : List Char} (hne : text ≠ [])
    (h : fillChars values text = .ok filled) : filled ≠ [] := by
  cases hmarker : marker? text with
  | some found =>
    obtain ⟨name, after⟩ := found
    obtain ⟨value, rest, hvalue, -, rfl⟩ := exists_of_fillChars_marker hmarker h
    exact List.append_ne_nil_of_left_ne_nil (ne_nil_of_valueOf? hvalue) rest
  | none =>
    obtain ⟨c, rest, rfl⟩ := List.exists_cons_of_ne_nil hne
    obtain ⟨others, -, rfl⟩ := exists_of_fillChars_literal (marker?_eq_none_iff.1 hmarker) h
    exact List.cons_ne_nil c others

/-- A text that is not empty is never filled to an empty one. -/
theorem fill_ne_empty {text filled : String} (hne : text ≠ "")
    (h : fill values text = .ok filled) : filled ≠ "" := by
  unfold fill at h
  split at h
  · rename_i chars hchars
    obtain rfl := Except.ok.inj h
    have hchars := fillChars_ne_nil (by simpa using hne) hchars
    simpa using hchars
  · exact nomatch h

/-- A text whose names all stand for something is filled with their values. -/
theorem fillChars_filled {text : List Char}
    (h : ∀ piece ∈ (decompose text).pieces, HasValue values piece.name) :
    fillChars values text = .ok ((decompose text).filled values) := by
  induction text using decompose.induct with
  | case1 text name after hmarker ih =>
    rw [decompose_of_marker hmarker] at h ⊢
    have hname : HasValue values name := h _ List.mem_cons_self
    have hafter := ih fun piece hpiece => h piece (List.mem_cons_of_mem _ hpiece)
    rw [fillChars_of_marker hmarker (valueOf?_of_hasValue hname), hafter]
    rfl
  | case2 hmarker =>
    rw [fillChars, decompose_nil]
    rfl
  | case3 c rest hmarker ih =>
    rw [decompose_of_literal hmarker] at h ⊢
    rw [fillChars_of_literal hmarker, ih h]
    rfl

/-- A text is refused for the first of its names that stands for nothing. -/
theorem fillChars_missing {text : List Char} {before after : List Piece} {piece : Piece}
    (hsplit : (decompose text).pieces = before ++ piece :: after)
    (hbefore : ∀ earlier ∈ before, HasValue values earlier.name)
    (hpiece : ¬ HasValue values piece.name) :
    fillChars values text = .error (String.ofList piece.name) := by
  induction text using decompose.induct generalizing before with
  | case1 text name rest hmarker ih =>
    rw [decompose_of_marker hmarker] at hsplit
    cases before with
    | nil =>
      obtain ⟨rfl, -⟩ := List.cons.inj hsplit
      exact fillChars_of_missing hmarker (valueOf?_of_not_hasValue hpiece)
    | cons first more =>
      obtain ⟨rfl, hmore⟩ := List.cons.inj hsplit
      have hname : HasValue values name := hbefore _ List.mem_cons_self
      have hrest := ih hmore fun earlier hmem => hbefore earlier (List.mem_cons_of_mem _ hmem)
      rw [fillChars_of_marker hmarker (valueOf?_of_hasValue hname), hrest]
      rfl
  | case2 hmarker =>
    rw [decompose_nil] at hsplit
    simp at hsplit
  | case3 c rest hmarker ih =>
    rw [decompose_of_literal hmarker] at hsplit
    rw [fillChars_of_literal hmarker, ih hsplit hbefore]
    rfl

/-- Every text has one decomposition, and filling the text is told by it. When all names stand
for something, the result is the literals with the values between them; otherwise the text is
refused for the first name that stands for nothing. -/
theorem fill_eq_decomposed (values : Variables) (text : String) :
    ∃ parts : Decomposition, parts.IsOf text.toList ∧
      (∀ other : Decomposition, other.IsOf text.toList → other = parts) ∧
      ((∀ piece ∈ parts.pieces, HasValue values piece.name) →
        fill values text = .ok (String.ofList (parts.filled values))) ∧
      ∀ before piece after, parts.pieces = before ++ piece :: after →
        (∀ earlier ∈ before, HasValue values earlier.name) → ¬ HasValue values piece.name →
          fill values text = .error (String.ofList piece.name) := by
  refine ⟨decompose text.toList, Decomposition.isOf_iff.2 rfl, ?_, ?_, ?_⟩
  · intro other hother
    exact Decomposition.isOf_iff.1 hother
  · intro h
    rw [fill, fillChars_filled h]
  · intro before piece after hsplit hbefore hpiece
    rw [fill, fillChars_missing hsplit hbefore hpiece]

end BrowserScenario.Template
