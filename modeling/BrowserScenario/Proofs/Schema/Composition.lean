import BrowserScenario.Proofs.Schema.Document
import BrowserScenario.Proofs.Schema.Listed

/-!
# Documents are checked record by record

A document with a list of records is checked by checking each record on its own. A problem names the
place of its record in the list, so it is the problem that the record has in a document of its own,
with another place. Main statement: a document is accepted exactly when each of its records is, its
scenarios are then those of its records, and otherwise its problems are those of its records, one
after the other, none of them hidden, changed or moved by those of another record. Only a number of
too many digits, which is in no record of JSON, breaks off the check of the document as it does that
of its record.
-/

namespace BrowserScenario.Schema

/-- The document with a list of records, under the name that is preferred. -/
def listing (records : List Data) : Data :=
  .map [(.text "testScenarios", .list records)]

/-- The problems of a decoded document, none if it is accepted. -/
def problemsOf (data : Data) : List DocumentProblem :=
  match Scenario.ofDocument data with
  | .ok _ => []
  | .error error => error.problems

/-- A mismatch in a record, moved to the place of another record. -/
def atRecord (position : Nat) (located : Located) : Located :=
  match located.path with
  | list :: _ :: rest => { located with path := list :: .index position :: rest }
  | _ => located

/-- A problem of a record, moved to the place of another record. -/
def problemAt (position : Nat) : DocumentProblem → DocumentProblem
  | .mismatch located => .mismatch (atRecord position located)
  | problem => problem

/-- A mismatch of a record, seen from the document that has the record at a place of its list. -/
def inListing (position : Nat) (located : Located) : Located :=
  Checked.lift (.field "testScenarios") (Checked.lift (.index position) located)

/-- What the wording of a mismatch in a record says after the place of the record. -/
def recordWording (located : Located) : String :=
  match located.path with
  | [] => ": " ++ located.mismatch.message
  | path => "." ++ ".".intercalate (path.map PathPart.text) ++ ": " ++ located.mismatch.message

/-- A wording that places something in the first record of a document, and the same wording with the
place of another record. -/
def Replaced (position : Nat) (before after : String) : Prop :=
  ∃ rest : String, (rest.toList.head? = some '.' ∨ rest.toList.head? = some ':') ∧
    before = "testScenarios.0" ++ rest ∧
      after = "testScenarios." ++ toString position ++ rest

/-- The problems of a document that is not broken off are the mismatches of its check. -/
theorem problemsOf_eq {data : Data} (h : (document data).IsListed) :
    problemsOf data = (document data).mismatches.map .mismatch := by
  unfold problemsOf
  split
  · rename_i scenarios hscenarios
    rw [ofDocument_eq_ok_iff.1 hscenarios]
    rfl
  · rename_i error herror
    exact (problems_of_isListed h herror).2.1

/-- The document with a list of records is checked by checking the list. -/
theorem document_listing (records : List Data) :
    document (listing records) =
      Checked.within (.field "testScenarios") (Checked.each scenario records) := rfl

/-- The mismatches of a document are those of its records, in order. -/
theorem mismatches_listing (records : List Data) :
    (document (listing records)).mismatches =
      records.zipIdx.flatMap fun entry =>
        (scenario entry.1).mismatches.map (inListing entry.2) := by
  rw [document_listing, Checked.mismatches_within, Checked.mismatches_each, List.map_flatMap]
  simp only [List.map_map]
  rfl

/-- A document is not broken off exactly when none of its records is. -/
theorem isListed_listing_iff {records : List Data} :
    (document (listing records)).IsListed ↔ ∀ record ∈ records, (scenario record).IsListed := by
  rw [document_listing, Checked.isListed_within_iff, Checked.isListed_each_iff]

/-- A document of one record is broken off exactly when the record is. -/
theorem ofDocument_singleton_eq_longNumber_iff {record : Data} :
    Scenario.ofDocument (listing [record]) = .error .longNumber ↔ ¬ (scenario record).IsListed := by
  rw [ofDocument_eq_longNumber_iff, isListed_listing_iff, List.forall_mem_singleton]

/-- The problems of a record in a document of its own. -/
theorem problemsOf_singleton {record : Data} (h : (scenario record).IsListed) :
    problemsOf (listing [record]) =
      (scenario record).mismatches.map fun located => .mismatch (inListing 0 located) := by
  rw [problemsOf_eq (isListed_listing_iff.2 (List.forall_mem_singleton.2 h)), mismatches_listing]
  simp

/-- The problems of a document are those of its records on their own, moved to their places. -/
theorem problemsOf_listing {records : List Data}
    (h : ∀ record ∈ records, (scenario record).IsListed) :
    problemsOf (listing records) =
      records.zipIdx.flatMap fun entry =>
        (problemsOf (listing [entry.1])).map (problemAt entry.2) := by
  rw [problemsOf_eq (isListed_listing_iff.2 h), mismatches_listing, List.map_flatMap]
  refine List.flatMap_congr fun entry hentry => ?_
  rw [problemsOf_singleton (h _ (List.fst_mem_of_mem_zipIdx hentry)), List.map_map, List.map_map]
  rfl

/-- The scenarios of a document are those of its records, in order. -/
theorem ofDocument_listing_eq_ok_iff (records : List Data) (scenarios : List Scenario) :
    Scenario.ofDocument (listing records) = .ok scenarios ↔
      List.Forall₂ (fun record result => scenario record = .valid result) records scenarios := by
  rw [ofDocument_eq_ok_iff, document_listing, Checked.within_eq_valid_iff, Checked.each_eq_valid_iff]

/-- The scenario of a record in a document of its own. -/
theorem ofDocument_singleton_eq_ok_iff (record : Data) (scenarios : List Scenario) :
    Scenario.ofDocument (listing [record]) = .ok scenarios ↔
      ∃ result, scenario record = .valid result ∧ scenarios = [result] := by
  rw [ofDocument_listing_eq_ok_iff, List.forall₂_cons_left_iff]
  simp

/-- Lists with one item each, put together, are the list of these items. -/
theorem forall₂_flatten_iff {holds : Data → Scenario → Prop} {records : List Data}
    {scenarios : List Scenario} :
    List.Forall₂ holds records scenarios ↔
      ∃ parts, List.Forall₂ (fun record part => ∃ result, holds record result ∧ part = [result])
        records parts ∧ scenarios = parts.flatten := by
  induction records generalizing scenarios with
  | nil => simp
  | cons record rest ih =>
    rw [List.forall₂_cons_left_iff]
    constructor
    · rintro ⟨result, others, hresult, hothers, rfl⟩
      obtain ⟨parts, hparts, rfl⟩ := ih.1 hothers
      exact ⟨[result] :: parts, .cons ⟨result, hresult, rfl⟩ hparts, rfl⟩
    · rintro ⟨parts, hparts, rfl⟩
      obtain ⟨part, others, ⟨result, hresult, rfl⟩, hothers, rfl⟩ :=
        List.forall₂_cons_left_iff.1 hparts
      exact ⟨result, others.flatten, hresult, ih.2 ⟨others, hothers, rfl⟩, rfl⟩

/-- A document is accepted exactly when each of its records is. -/
theorem exists_ofDocument_listing_iff (records : List Data) :
    (∃ scenarios, Scenario.ofDocument (listing records) = .ok scenarios) ↔
      ∀ record ∈ records, ∃ scenarios, Scenario.ofDocument (listing [record]) = .ok scenarios := by
  simp only [ofDocument_listing_eq_ok_iff, exists_forall₂_iff]
  refine forall₂_congr fun record _ => ?_
  simp

/-- The wording of a mismatch starts with the place of its record. -/
theorem message_inListing (position : Nat) (located : Located) :
    (inListing position located).message =
      "testScenarios." ++ toString position ++ recordWording located := by
  unfold recordWording
  change ".".intercalate ("testScenarios" :: toString position :: located.path.map PathPart.text) ++
    ": " ++ located.mismatch.message = _
  rw [String.intercalate_cons_cons]
  cases located.path with
  | nil => simp [String.append_assoc]
  | cons part rest =>
    rw [List.map_cons, String.intercalate_cons_cons]
    simp [String.append_assoc]

/-- After the place of the record a wording goes on with a dot or a colon. -/
theorem head?_recordWording (located : Located) :
    (recordWording located).toList.head? = some '.' ∨
      (recordWording located).toList.head? = some ':' := by
  unfold recordWording
  cases located.path with
  | nil => right; simp
  | cons part rest => left; simp

/-- The wording of a problem that is moved to another record is the same but for the place. -/
theorem replaced_message {record : Data} {problem : DocumentProblem}
    (h : problem ∈ problemsOf (listing [record])) (position : Nat) :
    Replaced position problem.message (problemAt position problem).message := by
  by_cases hlisted : (scenario record).IsListed
  · rw [problemsOf_singleton hlisted] at h
    obtain ⟨located, -, rfl⟩ := List.mem_map.1 h
    exact ⟨recordWording located, head?_recordWording located, message_inListing 0 located,
      message_inListing position located⟩
  · rw [problemsOf, ofDocument_singleton_eq_longNumber_iff.2 hlisted] at h
    exact absurd h List.not_mem_nil

/-- A document with a list of records is accepted exactly when each record is accepted in a document
of its own, and its scenarios are then those of these documents put together. Otherwise it is
refused for the problems of these documents one after the other, each with the place of its record
in the list; and nothing else changes in its wording. Only where a record on its own is broken off
by a number of too many digits the document is broken off as well, and no record of JSON is. -/
theorem ofDocument_compositional (records : List Data) :
    ((∃ scenarios, Scenario.ofDocument (listing records) = .ok scenarios) ↔
      ∀ record ∈ records, ∃ scenarios, Scenario.ofDocument (listing [record]) = .ok scenarios) ∧
    (∀ scenarios, Scenario.ofDocument (listing records) = .ok scenarios ↔
      ∃ parts, List.Forall₂
          (fun record part => Scenario.ofDocument (listing [record]) = .ok part) records parts ∧
        scenarios = parts.flatten) ∧
    (∀ error, Scenario.ofDocument (listing records) = .error error →
      (error = .longNumber ∧
        ∃ record ∈ records, Scenario.ofDocument (listing [record]) = .error .longNumber) ∨
      error.kind = "ScenarioValidationError" ∧
        (∀ record ∈ records, Scenario.ofDocument (listing [record]) ≠ .error .longNumber) ∧
        error.problems = records.zipIdx.flatMap fun entry =>
          (problemsOf (listing [entry.1])).map (problemAt entry.2)) ∧
    (∀ record, record.IsJson → Scenario.ofDocument (listing [record]) ≠ .error .longNumber) ∧
    ∀ record, ∀ problem ∈ problemsOf (listing [record]), ∀ position,
      Replaced position problem.message (problemAt position problem).message := by
  refine ⟨exists_ofDocument_listing_iff records, fun scenarios => ?_, fun error herror => ?_,
    fun record hrecord hlong => ?_, fun record problem hproblem => replaced_message hproblem⟩
  · simp only [ofDocument_singleton_eq_ok_iff]
    rw [ofDocument_listing_eq_ok_iff, forall₂_flatten_iff]
  · by_cases hlisted : ∀ record ∈ records, (scenario record).IsListed
    · obtain ⟨hkind, -⟩ := problems_of_isListed (isListed_listing_iff.2 hlisted) herror
      refine .inr ⟨hkind, fun record hrecord hlong => ?_, ?_⟩
      · exact ofDocument_singleton_eq_longNumber_iff.1 hlong (hlisted record hrecord)
      · rw [← problemsOf_listing hlisted]
        unfold problemsOf
        rw [herror]
    · have hlong := ofDocument_eq_longNumber_iff.2 (mt isListed_listing_iff.1 hlisted)
      obtain ⟨record, hrecord, hbroken⟩ : ∃ record ∈ records, ¬ (scenario record).IsListed := by
        simpa using hlisted
      refine .inl ⟨Except.error.inj (herror.symm.trans hlong), record, hrecord, ?_⟩
      exact ofDocument_singleton_eq_longNumber_iff.2 hbroken
  · exact ofDocument_singleton_eq_longNumber_iff.1 hlong (scenario_lists record hrecord)

example : (problemsOf (listing [.null, .text "x"])).map DocumentProblem.message =
    ["testScenarios.0: Input should be a valid dictionary or instance of TestScenario",
      "testScenarios.1: Input should be a valid dictionary or instance of TestScenario"] := by
  decide +kernel

end BrowserScenario.Schema
