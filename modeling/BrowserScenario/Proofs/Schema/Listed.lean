import BrowserScenario.Proofs.Schema.Member
import BrowserScenario.Scenario.Load

/-!
# Checks that are not broken off

A whole number that stands for a text is written in decimal, which a number of too many digits is
not; such a number breaks off the check of the document it is in, and nothing is listed. Decoded
JSON has no such number. Main statements: a document is broken off exactly when such a number is
among what its check finds, and the check of decoded JSON never is.
-/

namespace BrowserScenario.Schema

variable {α : Type} {data : Data} {members : Members}

/-- A check that no decoded JSON breaks off. -/
def Lists (check : Data → Checked α) : Prop :=
  ∀ data, data.IsJson → (check data).IsListed

/-- The check of a text is broken off exactly by a whole number of too many digits. -/
theorem text_isListed_iff :
    (text data).IsListed ↔ ∀ n, data = .int n → Number.isWritable n = true := by
  unfold text
  split
  · rename_i n
    simp only [Data.int.injEq, forall_eq']
    split
    · rename_i hn
      exact iff_of_true (Checked.isListed_valid _) hn
    · rename_i hn
      exact iff_of_false (fun h => Checked.isListed_fail_iff.1 h rfl) hn
  · exact iff_of_true (Checked.isListed_valid _) fun n h => nomatch h
  · rename_i hint _
    exact iff_of_true (Checked.isListed_plainText _) fun n h => absurd h (hint n)

/-- The check of a text is not broken off. -/
theorem text_lists : Lists text := by
  intro data hdata
  refine text_isListed_iff.2 fun n heq => ?_
  subst heq
  exact Data.isJson_int_iff.1 hdata

/-- The check of an optional text is not broken off. -/
theorem optionalText_lists : Lists optionalText := by
  intro data hdata
  unfold optionalText
  split
  · exact Checked.isListed_valid _
  · exact Checked.isListed_map_iff.2 (text_lists _ hdata)

/-- The check of a number is not broken off. -/
theorem isListed_number (data : Data) : (number data).IsListed := by
  have htext (s : String) : (numberOfText s).IsListed := by
    unfold numberOfText
    split
    · exact Checked.isListed_valid _
    · exact Checked.isListed_fail_iff.2 (by decide)
  cases data with
  | bool b => exact Checked.isListed_valid _
  | int n =>
    simp only [number]
    split
    · exact Checked.isListed_valid _
    · exact Checked.isListed_fail_iff.2 (by decide)
  | float x => exact Checked.isListed_valid x
  | text s => exact htext s
  | bytes content => exact Checked.isListed_ofBytes htext (by decide) content
  | _ => exact Checked.isListed_fail_iff.2 (by decide)

/-- The check of an optional delay is not broken off. -/
theorem optionalDelay_lists : Lists optionalDelay := by
  have hdelay (data : Data) : (nonnegative data).IsListed := by
    have hnumber := isListed_number data
    unfold nonnegative
    cases hchecked : number data with
    | valid x =>
      simp only
      split
      · exact Checked.isListed_valid x
      · exact Checked.isListed_fail_iff.2 (by decide)
    | invalid first more =>
      rw [hchecked] at hnumber
      exact hnumber
  intro data _
  unfold optionalDelay
  split
  · exact Checked.isListed_valid _
  · exact Checked.isListed_map_iff.2 (hdelay _)

/-- The check of a member that has to be there is not broken off if that of its value is not. -/
theorem isListed_required {check : Data → Checked α} (hcheck : Lists check)
    (hmembers : (Data.map members).IsJson) (name : String) :
    (required name check members).IsListed := by
  unfold required
  rw [Checked.isListed_within_iff]
  split
  · rename_i hmember
    exact hcheck _ (hmembers.member hmember)
  · exact Checked.isListed_fail_iff.2 (by decide)

/-- The check of a member that may be absent is not broken off if that of its value is not. -/
theorem isListed_withDefault {check : Data → Checked α} (hcheck : Lists check)
    (hmembers : (Data.map members).IsJson) (name : String) (default : α) :
    (withDefault name default check members).IsListed := by
  unfold withDefault
  split
  · rename_i hmember
    exact Checked.isListed_within_iff.2 (hcheck _ (hmembers.member hmember))
  · exact Checked.isListed_valid _

/-- The check of an optional text member is not broken off. -/
theorem isListed_textMember (hmembers : (Data.map members).IsJson) (name : String) :
    (textMember name members).IsListed :=
  isListed_withDefault optionalText_lists hmembers name none

/-- The check of the class that suppresses a click is not broken off. -/
theorem isListed_skipClassMember (hmembers : (Data.map members).IsJson) :
    (skipClassMember members).IsListed := by
  unfold skipClassMember
  split
  · rename_i hmember
    exact Checked.isListed_within_iff.2 (optionalText_lists _ (hmembers.member hmember))
  · exact isListed_textMember hmembers _

/-- The check of a list is not broken off if that of its items is not. -/
theorem listOf_lists {check : Data → Checked α} (hcheck : Lists check) : Lists (listOf check) := by
  intro data hdata
  unfold listOf
  split
  · rename_i items hitems
    obtain rfl := (listItems?_eq_some_iff hdata).1 hitems
    exact Checked.isListed_each_iff.2 fun item hitem =>
      hcheck item (Data.isJson_list_iff.1 hdata item hitem)
  · exact Checked.isListed_fail_iff.2 (by decide)

/-- The check of an object of one of several kinds is not broken off if that of no kind is. -/
theorem tagged_lists {discriminator : String} {kinds : List (String × (Members → Checked α))}
    (hkinds : ∀ kind ∈ kinds, ∀ members, (Data.map members).IsJson → (kind.2 members).IsListed) :
    Lists (tagged discriminator kinds) := by
  intro data hdata
  unfold tagged
  split
  · exact Checked.isListed_fail_iff.2 nofun
  · rename_i members hmembers
    obtain rfl := (members?_eq_some_iff hdata).1 hmembers
    split
    · exact Checked.isListed_fail_iff.2 nofun
    · rename_i tag _
      split
      · exact Checked.isListed_fail_iff.2 nofun
      · rename_i name check hkind
        have hmem : (name, check) ∈ kinds := by
          cases tag with
          | text s => exact List.mem_of_find?_eq_some hkind
          | _ => exact nomatch hkind
        exact Checked.isListed_within_iff.2 (hkinds _ hmem members hdata)

/-- The check of a step is not broken off. -/
theorem step_lists : Lists step := by
  refine tagged_lists fun kind hkind members hmembers => ?_
  have htext := isListed_textMember hmembers
  have hskip := isListed_skipClassMember hmembers
  have hdelay := isListed_withDefault optionalDelay_lists hmembers
  simp only [stepKinds, List.mem_cons, List.not_mem_nil, or_false] at hkind
  rcases hkind with rfl | rfl | rfl | rfl | rfl | rfl | rfl | rfl <;>
    simp only [Checked.isListed_seq_iff, Checked.isListed_map_iff, htext, hskip, hdelay, and_self]

/-- The check of an expectation is not broken off. -/
theorem expectation_lists : Lists expectation := by
  refine tagged_lists fun kind hkind members hmembers => ?_
  have htext := isListed_textMember hmembers
  simp only [expectationKinds, List.mem_cons, List.not_mem_nil, or_false] at hkind
  rcases hkind with rfl | rfl | rfl | rfl | rfl | rfl | rfl <;>
    simp only [Checked.isListed_seq_iff, Checked.isListed_map_iff, htext, and_self]

/-- The check of tags is not broken off. -/
theorem tags_lists : Lists tags := by
  intro data hdata
  unfold tags
  split
  · rename_i items hitems
    obtain rfl := (listItems?_eq_some_iff hdata).1 hitems
    exact Checked.isListed_map_iff.2 (Checked.isListed_each_iff.2 fun item hitem =>
      text_lists item (Data.isJson_list_iff.1 hdata item hitem))
  · exact Checked.isListed_fail_iff.2 (by decide)

/-- The check of a scenario is not broken off. -/
theorem scenario_lists : Lists scenario := by
  intro data hdata
  unfold scenario
  split
  · exact Checked.isListed_fail_iff.2 nofun
  · rename_i members hmembers
    obtain rfl := (members?_eq_some_iff hdata).1 hmembers
    have htext := isListed_required text_lists hdata
    have hsteps := isListed_withDefault (listOf_lists step_lists) hdata
    have hexpectations := isListed_withDefault (listOf_lists expectation_lists) hdata
    have htags := isListed_withDefault tags_lists hdata
    simp only [Checked.isListed_seq_iff, Checked.isListed_map_iff, htext, hsteps, hexpectations,
      htags, and_self]

/-- A document that is broken off has an error of its own. -/
theorem ofDocument_eq_longNumber_iff :
    Scenario.ofDocument data = .error .longNumber ↔ ¬ (document data).IsListed := by
  unfold Scenario.ofDocument
  cases document data with
  | valid scenarios =>
    exact iff_of_false (fun h => nomatch h) fun h => h (Checked.isListed_valid scenarios)
  | invalid first more =>
    have hany : (first :: more).any (·.mismatch == .longNumber) = true ↔
        ¬ (Checked.invalid first more : Checked (List Scenario)).IsListed := by
      unfold Checked.IsListed Checked.mismatches
      rw [List.any_eq_true]
      push Not
      simp only [beq_iff_eq]
    simp only
    by_cases hlong : (first :: more).any (·.mismatch == .longNumber) = true
    · rw [if_pos hlong]
      exact iff_of_true rfl (hany.1 hlong)
    · rw [if_neg hlong]
      exact iff_of_false (fun h => nomatch h) fun h => hlong (hany.2 h)

/-- The problems of a document that is refused and not broken off are what its check finds. -/
theorem problems_of_isListed {error : LoadError} (hlisted : (document data).IsListed)
    (h : Scenario.ofDocument data = .error error) :
    error.kind = "ScenarioValidationError" ∧
      error.problems = (document data).mismatches.map .mismatch ∧ error.problems ≠ [] := by
  have hlong : error ≠ .longNumber := by
    intro heq
    subst heq
    exact ofDocument_eq_longNumber_iff.1 h hlisted
  unfold Scenario.ofDocument at h
  cases hchecked : document data with
  | valid scenarios =>
    rw [hchecked] at h
    exact nomatch h
  | invalid first more =>
    simp only [hchecked] at h
    split at h
    · exact absurd (Except.error.inj h).symm hlong
    · obtain rfl := Except.error.inj h
      exact ⟨rfl, rfl, List.cons_ne_nil _ _⟩

end BrowserScenario.Schema
