import BrowserScenario.Proofs.Files.Location

/-!
# Names of pictures

The name of a picture is that of its scenario, made safe, and the stamp of an instant; both are of
letters, digits, underscores and hyphens alone, whatever the identity of the scenario has in it.
Main statements: the name of a picture is proper, so a picture lies directly inside the directory
of pictures.
-/

namespace BrowserScenario.Files

open BrowserScenario.Time

/-- A name of a picture: letters, digits, underscores and hyphens, and the ending of pictures. -/
def IsPictureName (name : List Char) : Prop :=
  ∃ stem, name = stem ++ ".png".toList ∧ ∀ c ∈ stem, isSafe c = true

/-- A name made safe is safe. -/
theorem isSafe_of_mem_safeName {id : List Char} {c : Char} (h : c ∈ safeName id) :
    isSafe c = true := by
  obtain ⟨other, -, rfl⟩ := List.mem_map.1 h
  unfold safeChar
  split
  · assumption
  · rfl

/-- The digits of a padded number are safe. -/
theorem isSafe_of_mem_padded {width n : Nat} {c : Char} (h : c ∈ padded width n) :
    isSafe c = true := by
  rcases List.mem_append.1 h with hzero | hdigit
  · rw [List.eq_of_mem_replicate hzero]
    rfl
  · have hc : c.isDigit = true := Nat.isDigit_of_mem_toDigits (by decide) (by decide) hdigit
    simp [isSafe, Char.isAlphanum, hc]

/-- The stamp of an instant is safe. -/
theorem isSafe_of_mem_stamp {instant : Instant} {c : Char} (h : c ∈ instant.stamp) :
    isSafe c = true := by
  have hpadded (width n : Nat) : ∀ c ∈ padded width n, isSafe c = true :=
    fun c => isSafe_of_mem_padded
  have hletters : isSafe 'T' = true ∧ isSafe 'Z' = true ∧ isSafe '-' = true := by decide
  revert c
  simp only [Instant.stamp, Moment.stampChars, Date.chars, List.forall_mem_append,
    List.forall_mem_cons, List.not_mem_nil, false_implies, implies_true, hletters, true_and,
    and_true]
  and_intros <;> exact hpadded _ _

/-- The name of a screenshot is one of a picture. -/
theorem isPictureName_screenshotName (id : List Char) (instant : Instant) :
    IsPictureName (screenshotName id instant.stamp) := by
  refine ⟨safeName id ++ '-' :: instant.stamp, rfl, ?_⟩
  rw [List.forall_mem_append, List.forall_mem_cons]
  exact ⟨fun c => isSafe_of_mem_safeName, rfl, fun c => isSafe_of_mem_stamp⟩

/-- A safe name with an ending of some length leads one directory down. -/
theorem isProper_of_safe {stem ending : List Char} (hstem : ∀ c ∈ stem, isSafe c = true)
    (hlong : 2 < ending.length) (hending : '/' ∉ ending) : IsProper (stem ++ ending) := by
  have hlength : (stem ++ ending).length = stem.length + ending.length := List.length_append
  refine ⟨fun heq => ?_, fun heq => ?_, fun heq => ?_, fun hslash => ?_⟩
  · rw [heq, List.length_nil] at hlength
    omega
  · rw [heq, List.length_singleton] at hlength
    omega
  · rw [heq] at hlength
    change 2 = _ at hlength
    omega
  · rcases List.mem_append.1 hslash with hslash | hslash
    · exact absurd (hstem '/' hslash) (by decide)
    · exact hending hslash

/-- A name of a picture leads one directory down. -/
theorem IsPictureName.isProper {name : List Char} (h : IsPictureName name) : IsProper name := by
  obtain ⟨stem, rfl, hstem⟩ := h
  exact isProper_of_safe hstem (by decide) (by decide)

/-- A screenshot lies directly inside the directory of screenshots, under its name. -/
theorem namesOf_screenshotPath (directory id : List Char) (results : Option (List Char))
    (instant : Instant) :
    namesOf (screenshotPath directory id results instant) =
      namesOf (screenshotDirectory directory results) ++ [screenshotName id instant.stamp] :=
  namesOf_joinName (isPictureName_screenshotName id instant).isProper _

/-- The path of a screenshot is absolute. -/
theorem isAbsolute_screenshotPath (directory id : List Char) (results : Option (List Char))
    (instant : Instant) : isAbsolute (screenshotPath directory id results instant) = true := by
  refine isAbsolute_joinName (isAbsolute_joinName ?_ _) _
  unfold resultsRoot
  split
  · exact isAbsolute_clean directory _
  · exact isAbsolute_clean directory _

end BrowserScenario.Files
