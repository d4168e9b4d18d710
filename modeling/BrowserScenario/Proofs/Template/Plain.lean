import BrowserScenario.Proofs.Template.Fill

/-!
# Text without markers

A text is plain when no marker starts anywhere in it. Filling leaves plain text as it is, whatever
the variables. Values are inert when none of them has a dollar sign and none starts with an
opening brace; they may have braces elsewhere. Main statement: text that is filled with inert
values is plain. Literal text next to a value makes no marker with it, even if it ends in a dollar
sign or in a marker that is not closed.
-/

namespace BrowserScenario.Template

variable {values : Variables}

/-- A text in which no marker starts. -/
def Plain (text : String) : Prop :=
  Bare text.toList []

/-- Values that cannot take part in a marker: they have no dollar sign and do not start with an
opening brace. -/
def Inert (values : Variables) : Prop :=
  ∀ name value, values.get? name = some value →
    '$' ∉ value.toList ∧ value.toList.head? ≠ some '\x7b'

/-- Plain characters are filled as they are. -/
theorem fillChars_of_bare {text : List Char} (h : Bare text []) :
    fillChars values text = .ok text := by
  induction text with
  | nil =>
    rw [fillChars]
    rfl
  | cons c rest ih =>
    obtain ⟨hmarker, hrest⟩ := bare_cons.1 h
    rw [List.append_nil] at hmarker
    rw [fillChars_of_literal (marker?_eq_none_iff.2 hmarker), ih hrest]
    rfl

/-- A plain text is filled as it is. -/
theorem fill_of_plain {text : String} (h : Plain text) : fill values text = .ok text := by
  rw [fill, fillChars_of_bare h]
  exact congrArg Except.ok String.ofList_toList

/-- A text that starts with a marker starts with a dollar sign, an opening brace, and a name up to
a closing brace. -/
theorem startsMarker_iff {text : List Char} :
    StartsMarker text ↔
      ∃ name after, IsName name ∧ text = '$' :: '\x7b' :: (name ++ '\x7d' :: after) := by
  unfold StartsMarker marker
  simp

/-- No marker starts at a character that is no dollar sign. -/
theorem not_startsMarker_of_ne {c : Char} (hc : c ≠ '$') (rest : List Char) :
    ¬ StartsMarker (c :: rest) := by
  intro h
  obtain ⟨name, after, -, htext⟩ := startsMarker_iff.1 h
  exact hc (List.cons.inj htext).1

/-- Characters without a closing brace are plain. -/
theorem bare_of_noBrace {text : List Char} (h : '\x7d' ∉ text) : Bare text [] := by
  intro before after hsplit hne hmarker
  obtain ⟨name, rest, -, htext⟩ := startsMarker_iff.1 hmarker
  rw [List.append_nil] at htext
  rw [hsplit, htext] at h
  simp at h

/-- Characters without a dollar sign may stand in front of plain ones. -/
theorem bare_append_of_noDollar {front rest : List Char} (hfront : '$' ∉ front)
    (hrest : Bare rest []) : Bare (front ++ rest) [] := by
  induction front with
  | nil => exact hrest
  | cons c more ih =>
    obtain ⟨hc, hmore⟩ := List.ne_and_not_mem_of_not_mem_cons hfront
    exact bare_cons.2 ⟨not_startsMarker_of_ne hc.symm _, ih hmore⟩

/-- The value that is put in for a name is inert. -/
theorem Inert.valueOf (hvalues : Inert values) {name value : List Char}
    (h : valueOf? values name = some value) : '$' ∉ value ∧ value.head? ≠ some '\x7b' := by
  unfold valueOf? at h
  split at h
  · rename_i text htext
    split at h
    · exact nomatch h
    · obtain rfl : text.toList = value := Option.some.inj h
      exact hvalues _ _ htext
  · exact nomatch h

/-- With inert values, what is filled starts with an opening brace only if the text does, and then
the rest is filled on its own. -/
theorem eq_brace_of_fillChars (hvalues : Inert values) {text filled : List Char}
    (h : fillChars values text = .ok ('\x7b' :: filled)) :
    ∃ rest, text = '\x7b' :: rest ∧ fillChars values rest = .ok filled := by
  cases hmarker : marker? text with
  | some found =>
    obtain ⟨name, after⟩ := found
    obtain ⟨value, rest, hvalue, -, hfilled⟩ := exists_of_fillChars_marker hmarker h
    obtain ⟨first, more, rfl⟩ := List.exists_cons_of_ne_nil (ne_nil_of_valueOf? hvalue)
    obtain ⟨rfl, -⟩ := List.cons.inj hfilled
    exact absurd rfl (hvalues.valueOf hvalue).2
  | none =>
    cases text with
    | nil =>
      rw [fillChars] at h
      exact absurd (Except.ok.inj h) (by simp)
    | cons c rest =>
      obtain ⟨others, hrest, hfilled⟩ :=
        exists_of_fillChars_literal (marker?_eq_none_iff.1 hmarker) h
      obtain ⟨rfl, rfl⟩ := List.cons.inj hfilled
      exact ⟨rest, rfl, hrest⟩

/-- A literal character starts no marker after what follows it was filled. -/
theorem not_startsMarker_of_fillChars (hvalues : Inert values) {c : Char}
    {rest filled : List Char} (hmarker : ¬ StartsMarker (c :: rest))
    (h : fillChars values rest = .ok filled) : ¬ StartsMarker (c :: filled) := by
  intro hfilled
  obtain ⟨name, after, ⟨hname, hclosed⟩, htext⟩ := startsMarker_iff.1 hfilled
  obtain ⟨rfl, rfl⟩ := List.cons.inj htext
  obtain ⟨tail, rfl, htail⟩ := eq_brace_of_fillChars hvalues h
  by_cases hbrace : '\x7d' ∈ tail
  · -- Something up to the first closing brace would be a name unless it is empty.
    obtain ⟨between, following, rfl, hbetween⟩ := List.eq_append_cons_of_mem hbrace
    cases between with
    | nil =>
      have hbrace' : ¬ StartsMarker ('\x7d' :: following) := not_startsMarker_of_ne (by decide) _
      obtain ⟨others, -, hothers⟩ := exists_of_fillChars_literal hbrace' htail
      obtain ⟨first, more, rfl⟩ := List.exists_cons_of_ne_nil hname
      obtain ⟨rfl, -⟩ := List.cons.inj hothers
      exact hclosed List.mem_cons_self
    | cons first more =>
      exact hmarker (startsMarker_iff.2 ⟨first :: more, following, ⟨by simp, hbetween⟩, rfl⟩)
  · -- Without a closing brace there is no marker in the rest, so it is left as it is.
    rw [fillChars_of_bare (bare_of_noBrace hbrace)] at htail
    rw [Except.ok.inj htail] at hbrace
    exact hbrace (by simp)

/-- Characters that are filled with inert values are plain. -/
theorem bare_of_fillChars (hvalues : Inert values) {text filled : List Char}
    (h : fillChars values text = .ok filled) : Bare filled [] := by
  induction text using decompose.induct generalizing filled with
  | case1 text name after hmarker ih =>
    obtain ⟨value, rest, hvalue, hafter, rfl⟩ := exists_of_fillChars_marker hmarker h
    exact bare_append_of_noDollar (hvalues.valueOf hvalue).1 (ih hafter)
  | case2 hmarker =>
    rw [fillChars] at h
    obtain rfl : [] = filled := Except.ok.inj h
    exact bare_nil []
  | case3 c rest hmarker ih =>
    have hliteral := marker?_eq_none_iff.1 hmarker
    obtain ⟨others, hrest, rfl⟩ := exists_of_fillChars_literal hliteral h
    refine bare_cons.2 ⟨?_, ih hrest⟩
    rw [List.append_nil]
    exact not_startsMarker_of_fillChars hvalues hliteral hrest

/-- A text that is filled with inert values is plain. -/
theorem plain_of_fill (hvalues : Inert values) {text filled : String}
    (h : fill values text = .ok filled) : Plain filled := by
  unfold fill at h
  split at h
  · rename_i chars hchars
    obtain rfl : String.ofList chars = filled := Except.ok.inj h
    unfold Plain
    rw [String.toList_ofList]
    exact bare_of_fillChars hvalues hchars
  · exact nomatch h

end BrowserScenario.Template
