import BrowserScenario.Proofs.Time.Stamp
import BrowserScenario.Suite.Context

/-!
# Artifacts of one name

A stamp has a fixed length, so the name of a screenshot can be taken apart although both the
identity and the stamp in it may have hyphens. Identities become one when they differ only in
characters that stand as underscores. Main statement: two screenshots have one path when their
identities become one and they are taken in one millisecond, and two traces that are kept have one
path when their identities become one.
-/

namespace BrowserScenario.Files

open BrowserScenario.Suite BrowserScenario.Time

/-- A letter, a digit, an underscore or a hyphen. -/
def IsNameCharacter (c : Char) : Prop :=
  ('A' ≤ c ∧ c ≤ 'Z') ∨ ('a' ≤ c ∧ c ≤ 'z') ∨ ('0' ≤ c ∧ c ≤ '9') ∨ c = '_' ∨ c = '-'

/-- A character that stands as an underscore in the name of an artifact: the underscore itself, and
all that names do not have. -/
def IsUnderscored (c : Char) : Prop :=
  c = '_' ∨ ¬ IsNameCharacter c

/-- Characters that are one in the name of an artifact. -/
def BecomeOne (c d : Char) : Prop :=
  c = d ∨ IsUnderscored c ∧ IsUnderscored d

variable {c d : Char} {first second path name other : List Char} {taken later : Instant}

/-- The safe characters are those of names. -/
theorem isSafe_iff : isSafe c = true ↔ IsNameCharacter c := by
  have hupper : c.isUpper = true ↔ 'A' ≤ c ∧ c ≤ 'Z' := decide_eq_true_iff
  have hlower : c.isLower = true ↔ 'a' ≤ c ∧ c ≤ 'z' := by
    change (decide ('a' ≤ c) && decide (c ≤ 'z')) = true ↔ _
    rw [Bool.and_eq_true, decide_eq_true_iff, decide_eq_true_iff]
  have hdigit : c.isDigit = true ↔ '0' ≤ c ∧ c ≤ '9' := by
    change (decide ('0' ≤ c) && decide (c ≤ '9')) = true ↔ _
    rw [Bool.and_eq_true, decide_eq_true_iff, decide_eq_true_iff]
  change (((c.isUpper || c.isLower) || c.isDigit) || c == '_' || c == '-') = true ↔ _
  simp only [Bool.or_eq_true, beq_iff_eq, hupper, hlower, hdigit, or_assoc, IsNameCharacter]

/-- What stands as an underscore is made one. -/
theorem safeChar_eq_underscore_iff : safeChar c = '_' ↔ IsUnderscored c := by
  unfold safeChar IsUnderscored
  rw [← isSafe_iff]
  split
  · rename_i hsafe
    simp [hsafe]
  · rename_i hother
    simp [hother]

/-- Every other character stands for itself. -/
theorem safeChar_of_not_isUnderscored (h : ¬ IsUnderscored c) : safeChar c = c := by
  have hsafe : IsNameCharacter c := by
    by_contra hother
    exact h (.inr hother)
  exact if_pos (isSafe_iff.2 hsafe)

/-- Two characters are made the same when they are the same, or both stand as underscores. -/
theorem safeChar_eq_iff : safeChar c = safeChar d ↔ BecomeOne c d := by
  by_cases hc : IsUnderscored c
  · rw [safeChar_eq_underscore_iff.2 hc, eq_comm, safeChar_eq_underscore_iff]
    constructor
    · intro hd
      exact .inr ⟨hc, hd⟩
    · rintro (rfl | ⟨-, hd⟩)
      · exact hc
      · exact hd
  · rw [safeChar_of_not_isUnderscored hc]
    constructor
    · intro heq
      by_cases hd : IsUnderscored d
      · exact absurd (.inl (heq.trans (safeChar_eq_underscore_iff.2 hd))) hc
      · exact .inl (heq.trans (safeChar_of_not_isUnderscored hd))
    · rintro (rfl | ⟨hunderscored, -⟩)
      · exact (safeChar_of_not_isUnderscored hc).symm
      · exact absurd hunderscored hc

/-- Two identities are made the same when they have one length and, at every position, characters
that become one. -/
theorem safeName_eq_iff : safeName first = safeName second ↔
    first.length = second.length ∧ ∀ (position : Nat) (c d : Char),
      first[position]? = some c → second[position]? = some d → BecomeOne c d := by
  constructor
  · intro h
    refine ⟨by simpa [safeName] using congrArg List.length h, fun position c d hc hd => ?_⟩
    have hposition := congrArg (·[position]?) h
    simpa [safeName, hc, hd, safeChar_eq_iff] using hposition
  · rintro ⟨hlength, hpositions⟩
    refine List.ext_getElem (by simpa [safeName] using hlength) fun position hfirst hsecond => ?_
    simp only [safeName, List.getElem_map, safeChar_eq_iff]
    exact hpositions position _ _ (List.getElem?_eq_getElem _) (List.getElem?_eq_getElem _)

/-- Two names in one directory have one path when they are the same. -/
theorem joinName_inj : joinName path name = joinName path other ↔ name = other := by
  unfold joinName
  split <;> simp

/-- The name of a screenshot tells what the identity is made and the stamp: stamps are of one length,
so the hyphen between the two is always at the same distance from the end. -/
theorem screenshotName_inj :
    screenshotName first taken.stamp = screenshotName second later.stamp ↔
      safeName first = safeName second ∧ taken.stamp = later.stamp := by
  unfold screenshotName
  constructor
  · intro h
    have hlength : ('-' :: taken.stamp).length = ('-' :: later.stamp).length := by
      rw [List.length_cons, List.length_cons, taken.length_stamp, later.length_stamp]
    obtain ⟨hname, hstamp⟩ := List.append_inj' (List.append_cancel_right h) hlength
    exact ⟨hname, List.tail_eq_of_cons_eq hstamp⟩
  · rintro ⟨hname, hstamp⟩
    rw [hname, hstamp]

/-- Two screenshots in one directory of results have one path when their names are the same. -/
theorem screenshotPath_inj {directory : List Char} {results : Option (List Char)} :
    screenshotPath directory first results taken = screenshotPath directory second results later ↔
      safeName first = safeName second ∧ taken.millisecond = later.millisecond := by
  rw [screenshotPath, screenshotPath, joinName_inj, screenshotName_inj, stamp_eq_iff]

/-- Two traces in one directory of results have one path when their identities become one. -/
theorem tracePath_inj {directory : List Char} {results : Option (List Char)} :
    tracePath directory first results = tracePath directory second results ↔
      safeName first = safeName second := by
  rw [tracePath, tracePath, joinName_inj, List.append_left_inj]

/-- A trace that is kept is saved at its path. -/
theorem eq_tracePath_of_mem {ε : Type} {tracer : Tracer ε} {tree : Tree} {directory id : List Char}
    {results : Option (List Char)}
    (h : .stopTracing (some path) ∈ (tracer.stopTracing tree directory id true results).calls) :
    path = tracePath directory id results := by
  rw [Tracer.calls_stopTracing, if_pos rfl] at h
  split at h
  · obtain rfl := Option.some.inj (ContextCall.stopTracing.inj (List.mem_singleton.1 h))
    rfl
  · exact absurd h List.not_mem_nil

/-- Two screenshots in one directory of results have one path exactly when their identities become
one and both are taken in one millisecond of universal time. Identities become one exactly when they
have one length and, at every position, the same character or two that stand as underscores. This
alone decides whether two traces that are kept have one path, whatever files there are. -/
theorem artifacts_collide_iff (directory first second : List Char)
    (results : Option (List Char)) :
    (∀ taken later : Instant,
      screenshotPath directory first results taken =
          screenshotPath directory second results later ↔
        safeName first = safeName second ∧ taken.millisecond = later.millisecond) ∧
    (safeName first = safeName second ↔
      first.length = second.length ∧ ∀ (position : Nat) (c d : Char),
        first[position]? = some c → second[position]? = some d → BecomeOne c d) ∧
    ∀ (ε : Type) (tracer : Tracer ε) (before after : Tree) (kept other : List Char),
      .stopTracing (some kept) ∈ (tracer.stopTracing before directory first true results).calls →
      .stopTracing (some other) ∈ (tracer.stopTracing after directory second true results).calls →
        (kept = other ↔ safeName first = safeName second) := by
  refine ⟨fun taken later => screenshotPath_inj, safeName_eq_iff, ?_⟩
  intro ε tracer before after kept other hkept hother
  rw [eq_tracePath_of_mem hkept, eq_tracePath_of_mem hother, tracePath_inj]

/-- Half past ten on the first of January 2025. -/
def halfPastTen : Instant := ⟨63871324200000123, by decide⟩

/-- A time in the same millisecond. -/
def momentLater : Instant := ⟨63871324200000999, by decide⟩

/-- Identities with a slash and a colon have one screenshot in one millisecond, and one trace; an
identity with a hyphen in the same place has another screenshot. -/
theorem artifacts_collide_iff_slash :
    screenshotPath "/w".toList "a/b".toList none halfPastTen =
      screenshotPath "/w".toList "a:b".toList none momentLater ∧
    screenshotPath "/w".toList "a/b".toList none halfPastTen ≠
      screenshotPath "/w".toList "a-b".toList none halfPastTen ∧
    ∃ path, .stopTracing (some path) ∈
        (Tracer.plain.stopTracing .empty "/w".toList "a/b".toList true none).calls ∧
      .stopTracing (some path) ∈
        (Tracer.plain.stopTracing .empty "/w".toList "a:b".toList true none).calls := by
  have hmade : (Tree.empty.ensureDirectories (traceDirectory "/w".toList none)).2.isNone := by
    decide +kernel
  have hkept (id : List Char) : .stopTracing (some (tracePath "/w".toList id none)) ∈
      (Tracer.plain.stopTracing .empty "/w".toList id true none).calls := by
    rw [Tracer.calls_stopTracing, if_pos rfl, if_pos hmade]
    exact List.mem_singleton_self _
  obtain ⟨hpictures, -, htraces⟩ := artifacts_collide_iff "/w".toList "a/b".toList "a:b".toList none
  have hothers := (artifacts_collide_iff "/w".toList "a/b".toList "a-b".toList none).1
  have htrace := (htraces _ Tracer.plain _ _ _ _ (hkept _) (hkept _)).2 (by decide)
  refine ⟨(hpictures _ _).2 (by decide), fun heq => ?_, _, hkept _, htrace ▸ hkept _⟩
  exact absurd ((hothers _ _).1 heq).1 (by decide)

end BrowserScenario.Files
