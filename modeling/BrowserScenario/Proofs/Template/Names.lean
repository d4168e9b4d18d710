import BrowserScenario.Proofs.Template.Fill

/-!
# Names that a text asks for

The names of the markers of a text, in their order, decide whether the text can be filled: it can
when each of them stands for something, and otherwise the first that does not is reported. The
same holds of whatever is computed from several texts one after the other. Main statement:
computations that are put together ask for the names of their parts in turn.
-/

namespace BrowserScenario.Template

variable {values : Variables} {α β : Type}

/-- The names of the markers of a text, in order. -/
def names (text : String) : List (List Char) :=
  (decompose text.toList).pieces.map Piece.name

/-- A computation asks for names in an order: it gives a value when all of them stand for
something, and otherwise reports the first that does not. -/
structure AsksFor (values : Variables) (names : List (List Char)) (computed : Except String α) :
    Prop where
  isOk : (∀ name ∈ names, HasValue values name) → ∃ value, computed = .ok value
  missing : ∀ before name after, names = before ++ name :: after →
    (∀ earlier ∈ before, HasValue values earlier) → ¬ HasValue values name →
      computed = .error (String.ofList name)

/-- All names stand for something, or there is a first that does not. -/
theorem hasValue_or_missing (values : Variables) (names : List (List Char)) :
    (∀ name ∈ names, HasValue values name) ∨ ∃ before name after,
      names = before ++ name :: after ∧ (∀ earlier ∈ before, HasValue values earlier) ∧
        ¬ HasValue values name := by
  induction names with
  | nil => exact Or.inl (by simp)
  | cons first rest ih =>
    by_cases hfirst : HasValue values first
    · rcases ih with hrest | ⟨before, name, after, rfl, hbefore, hname⟩
      · exact Or.inl (List.forall_mem_cons.2 ⟨hfirst, hrest⟩)
      · exact Or.inr ⟨first :: before, name, after, rfl,
          List.forall_mem_cons.2 ⟨hfirst, hbefore⟩, hname⟩
    · exact Or.inr ⟨[], first, rest, rfl, by simp, hfirst⟩

namespace AsksFor

variable {first second : List (List Char)} {computed : Except String α}

/-- A value that is there asks for no name. -/
theorem ok (value : α) : AsksFor values [] (.ok value) := by
  refine ⟨fun _ => ⟨value, rfl⟩, ?_⟩
  intro before name after hsplit
  exact absurd hsplit (by simp)

/-- A sequence asks for the names of its first part and then for those of its second. -/
theorem bind {next : α → Except String β} (h : AsksFor values first computed)
    (hnext : ∀ value, AsksFor values second (next value)) :
    AsksFor values (first ++ second) (computed >>= next) := by
  refine ⟨fun hnames => ?_, fun before name after hsplit hbefore hname => ?_⟩
  · obtain ⟨value, rfl⟩ := h.isOk fun name hmem => hnames name (List.mem_append_left _ hmem)
    exact (hnext value).isOk fun name hmem => hnames name (List.mem_append_right _ hmem)
  · -- The missing name is one of the second part exactly when the first part is done before it.
    have hsecond : ∀ more, before = first ++ more → second = more ++ name :: after →
        (computed >>= next) = .error (String.ofList name) := by
      rintro more rfl hmore
      obtain ⟨value, rfl⟩ :=
        h.isOk fun earlier hmem => hbefore earlier (List.mem_append_left _ hmem)
      exact (hnext value).missing more name after hmore
        (fun earlier hmem => hbefore earlier (List.mem_append_right _ hmem)) hname
    rcases List.append_eq_append_iff.1 hsplit with ⟨more, hbefore', hmore⟩ | ⟨more, rfl, hmore⟩
    · exact hsecond more hbefore' hmore
    · cases more with
      | nil => exact hsecond [] (by simp) hmore.symm
      | cons head tail =>
        obtain ⟨rfl, -⟩ := List.cons.inj hmore
        rw [h.missing before name tail rfl hbefore hname]
        rfl

/-- A value turned into another asks for the same names. -/
theorem map (f : α → β) (h : AsksFor values first computed) :
    AsksFor values first (f <$> computed) := by
  refine ⟨fun hnames => ?_, fun before name after hsplit hbefore hname => ?_⟩
  · obtain ⟨value, rfl⟩ := h.isOk hnames
    exact ⟨f value, rfl⟩
  · rw [h.missing before name after hsplit hbefore hname]
    rfl

/-- The items of a list ask for their names in turn. -/
theorem mapM {compute : α → Except String β} {namesOf : α → List (List Char)}
    (h : ∀ item, AsksFor values (namesOf item) (compute item)) (items : List α) :
    AsksFor values (items.flatMap namesOf) (items.mapM compute) := by
  induction items with
  | nil => exact ok []
  | cons item rest ih =>
    rw [List.mapM_cons, List.flatMap_cons]
    exact (h item).bind fun value => ih.map (value :: ·)

/-- A computation gives a value exactly when all names that it asks for stand for something. -/
theorem isOk_iff (h : AsksFor values first computed) :
    (∃ value, computed = .ok value) ↔ ∀ name ∈ first, HasValue values name := by
  refine ⟨fun hvalue => ?_, h.isOk⟩
  obtain ⟨value, hvalue⟩ := hvalue
  rcases hasValue_or_missing values first with hall | ⟨before, name, after, hsplit, hbefore, hname⟩
  · exact hall
  · rw [h.missing before name after hsplit hbefore hname] at hvalue
    exact nomatch hvalue

/-- A name that is reported is one that is asked for. -/
theorem mem_of_error {name : String} (h : AsksFor values first computed)
    (herror : computed = .error name) : name.toList ∈ first := by
  rcases hasValue_or_missing values first with hall | ⟨before, missing, after, rfl, hbefore, hname⟩
  · obtain ⟨value, hvalue⟩ := h.isOk hall
    rw [hvalue] at herror
    exact nomatch herror
  · rw [h.missing before missing after rfl hbefore hname] at herror
    obtain rfl := Except.error.inj herror
    simp

end AsksFor

/-- Filling a text asks for the names of its markers. -/
theorem fill_asksFor (values : Variables) (text : String) :
    AsksFor values (names text) (fill values text) := by
  refine ⟨fun hnames => ?_, fun before name after hsplit hbefore hname => ?_⟩
  · have hpieces : ∀ piece ∈ (decompose text.toList).pieces, HasValue values piece.name :=
      fun piece hmem => hnames _ (List.mem_map_of_mem hmem)
    exact ⟨_, by rw [fill, fillChars_filled hpieces]⟩
  · obtain ⟨earlier, later, hpieces, rfl, hlater⟩ := List.map_eq_append_iff.1 hsplit
    obtain ⟨piece, following, rfl, rfl, rfl⟩ := List.map_eq_cons_iff.1 hlater
    rw [fill, fillChars_missing hpieces
      (fun other hmem => hbefore _ (List.mem_map_of_mem hmem)) hname]

end BrowserScenario.Template
