import BrowserScenario.Proofs.Page.Closing
import BrowserScenario.Proofs.Run.Diagnosis
import BrowserScenario.Proofs.Scenario.Record
import BrowserScenario.Rehearsal.Page

/-!
# Runs on a page refine runs on a browser

A run of a scenario on a page makes the calls that serve those of a run on a browser that abstracts
the page, in the same order, and it comes to the same result, with the same attachments and files.
A click with a suppressing class is made unless the class is a word of the class attribute. Main
statement: the calls to the page of a whole run, for every browser that abstracts the page.
-/

namespace BrowserScenario

open BrowserScenario.Files BrowserScenario.Page BrowserScenario.Text BrowserScenario.Time

variable {π σ : Type} {page : Page π} {timeout : Option Duration} {driver : Browser σ}
  {same : π → σ → Prop}

/-- A page on which a click with a suppressing class is made exactly if the class is none of the
words of the class attribute, which is asked for once. -/
def Page.GuardsClicks (page : Page π) (timeout : Option Duration) : Prop :=
  ∀ (world : World (PageSession π)) (selector skipClass : String) (value : Option String)
    (after : π) (classes : List (List Char)), selector ≠ "" → skipClass ≠ "" →
    page.attributeOf ⟨selector, [.first]⟩ "class" world.browser.page = (.ok value, after) →
    WordsOf (value.getD "").toList classes →
    (((Step.click (some selector) (some skipClass)).perform (page.browser timeout)).outcome
        world).2.browser.calls =
      world.browser.calls ++ .attributeOf ⟨selector, [.first]⟩ "class" ::
        if skipClass.toList ∈ classes then [] else [.act (.click selector)]

/-- Every page guards clicks. -/
theorem Page.guardsClicks (page : Page π) (timeout : Option Duration) :
    page.GuardsClicks timeout := by
  intro world selector skipClass value after classes hselector hskipClass htold hclasses
  have hperform : (Step.click (some selector) (some skipClass)).perform (page.browser timeout) =
      Run.classList (page.browser timeout) selector >>= fun told =>
        if told.contains skipClass then Run.tell (.skipped selector skipClass)
        else Run.interact (page.browser timeout) (.click selector) := by
    simp only [Step.perform, neededSelector, filled?_some hselector, performClick,
      filled?_some hskipClass]
    rfl
  have hasked : (Run.classList (page.browser timeout) selector).outcome world =
      (.ok (classesOf value),
        { world with
          browser := ⟨after, world.browser.calls ++ [.attributeOf ⟨selector, [.first]⟩ "class"]⟩
          calls := world.calls ++ [.classList selector] }) := by
    simp only [Run.outcome, Run.classList, Run.call, Page.browser, noted, firstOf, htold]
    rfl
  have hmem : skipClass.toList ∈ classes ↔ (classesOf value).contains skipClass = true := by
    rw [List.contains_iff_mem]
    exact (mem_words_iff hclasses).symm
  rw [hperform, Run.outcome_bind_of_ok hasked]
  by_cases hskip : (classesOf value).contains skipClass = true
  · rw [if_pos hskip, if_pos (hmem.2 hskip)]
    rfl
  · rw [if_neg hskip, if_neg fun h => hskip (hmem.1 h)]
    exact List.append_assoc _ _ _

/-- Worlds of a page and of a browser, from which the same calls were made: those to the page serve
those to the browser, and the states still belong together. -/
structure SameProgress (page : Page π) (timeout : Option Duration) (driver : Browser σ)
    (same : π → σ → Prop) (first served : World (PageSession π)) (second driven : World σ)
    (made : List Primitive) (calls : List PageCall) : Prop where
  served_progress : Progress (page.browser timeout) first served made
  driven_progress : Progress driver second driven made
  same_after : same served.browser.page driven.browser
  calls_eq : served.browser.calls = first.browser.calls ++ calls
  serves : List.Forall₂ (Serves timeout) made calls

/-- A scenario is performed alike on a page and on a browser that abstracts it: the same calls of
the browser are made, and the performance ends in the same way. -/
theorem Page.Abstracts.perform (h : page.Abstracts timeout driver same) (scenario : Scenario)
    (first : World (PageSession π)) (second : World σ)
    (hsame : same first.browser.page second.browser) :
    ∃ made calls ending served driven,
      (scenario.perform (page.browser timeout)).outcome first = (answerOf ending, served) ∧
        (scenario.perform driver).outcome second = (answerOf ending, driven) ∧
        SameProgress page timeout driver same first served second driven made calls := by
  obtain ⟨classes, htells⟩ := (page.browser timeout).exists_tells first.browser
  obtain ⟨made, ending, hcarried, hprogress, hanswer⟩ := scenario.carriesOut first classes htells
  obtain ⟨made', ending', hcarried', hprogress', hanswer'⟩ :=
    scenario.carriesOut second classes (h.tells hsame htells)
  rw [h.incidents_eq hsame] at hcarried
  -- Both carry out the same plan, and of a plan exactly one list of calls is carried out.
  obtain ⟨rfl, rfl⟩ := hcarried.unique hcarried'
  obtain ⟨calls, hcalls, hserves⟩ := exists_served page timeout first.browser made
  refine ⟨made, calls, ending, _, _, Prod.ext hanswer rfl, Prod.ext hanswer' rfl, hprogress,
    hprogress', ?_, ?_, hserves⟩
  · rw [hprogress.browser_eq, hprogress'.browser_eq]
    exact h.stateAfter hsame made
  · rw [hprogress.browser_eq]
    exact hcalls

/-- The calls of a run of a resolved scenario to a page and to a browser: those to the page serve
those to the browser one by one, up to the last calls, which depend on how the scenario ended. -/
def SameCalls (page : Page π) (timeout : Option Duration) (setting : Setting)
    (resolved : Scenario) (start : World (PageSession π)) (served : List PageCall)
    (driven : List Call) : Prop :=
  ∃ made calls taken closing ending reached,
    driven = made.map Primitive.call ++ taken ∧
      served = calls ++ closing ∧
      List.Forall₂ (Serves timeout) made calls ∧
      (resolved.perform (page.browser timeout)).outcome (start.started resolved) =
        (answerOf ending, reached) ∧
      Closing page setting resolved.id reached.browser.page start.tree ending taken closing

/-- What was called in a performance, and the last calls that are due after it, are the calls of a
run. -/
theorem SameProgress.sameCalls {setting : Setting} {resolved : Scenario} {p : π} {s : σ}
    {tree : Tree} {reached : World (PageSession π)} {reached' : World σ} {made : List Primitive}
    {calls served closing : List PageCall} {driven taken : List Call} {ending : Option Failure}
    (h : SameProgress page timeout driver same ((World.start ⟨p, []⟩ tree).started resolved) reached
      ((World.start s tree).started resolved) reached' made calls)
    (hperform : (resolved.perform (page.browser timeout)).outcome
      ((World.start ⟨p, []⟩ tree).started resolved) = (answerOf ending, reached))
    (hclosing : Closing page setting resolved.id reached.browser.page tree ending taken closing)
    (hserved : served = reached.browser.calls ++ closing)
    (hdriven : driven = reached'.calls ++ taken) :
    SameCalls page timeout setting resolved (.start ⟨p, []⟩ tree) served driven := by
  refine ⟨made, calls, taken, closing, ending, reached, ?_, ?_, h.serves, hperform, hclosing⟩
  · rw [hdriven, h.driven_progress.calls_eq]
    rfl
  · rw [hserved, h.calls_eq]
    rfl

/-- A run of a resolved scenario on a page comes to the same as one on a browser that abstracts the
page, and the calls to the page serve those to the browser. -/
theorem Page.Abstracts.run_of_resolved (h : page.Abstracts timeout driver same) {p : π} {s : σ}
    (hsame : same p s) (tree : Tree) (setting : Setting) {values : Variables}
    {scenario resolved : Scenario} (hresolve : scenario.resolve values = .ok resolved) :
    let served := (scenario.run (page.browser timeout) setting values).outcome (.start ⟨p, []⟩ tree)
    let driven := (scenario.run driver setting values).outcome (.start s tree)
    SameEnd served driven ∧ SameCalls page timeout setting resolved (.start ⟨p, []⟩ tree)
      served.2.browser.calls driven.2.calls := by
  intro served driven
  obtain ⟨made, calls, ending, reached, reached', hperform, hperform', hprogress⟩ :=
    h.perform resolved ((World.start (⟨p, []⟩ : PageSession π) tree).started resolved)
      ((World.start s tree).started resolved) hsame
  have htree : reached.tree = tree := hprogress.served_progress.tree_eq
  have hsametree : reached.tree = reached'.tree :=
    htree.trans hprogress.driven_progress.tree_eq.symm
  have hattached : reached.attached = reached'.attached :=
    hprogress.served_progress.attached_eq.trans hprogress.driven_progress.attached_eq.symm
  cases ending with
  | none =>
    have hrun : served = _ :=
      outcome_run_of_passed (page.browser timeout) setting hresolve hperform
    have hrun' : driven = _ := outcome_run_of_passed driver setting hresolve hperform'
    rw [hrun, hrun']
    exact ⟨⟨rfl, hattached, hsametree⟩, hprogress.sameCalls hperform .passed
      (List.append_nil _).symm (List.append_nil _).symm⟩
  | some failure =>
    cases hinterrupt : failure.isInterrupt with
    | true =>
      have hrun : served = _ :=
        outcome_run_of_interrupt (page.browser timeout) setting hresolve hperform hinterrupt
      have hrun' : driven = _ :=
        outcome_run_of_interrupt driver setting hresolve hperform' hinterrupt
      rw [hrun, hrun']
      exact ⟨⟨rfl, hattached, hsametree⟩, hprogress.sameCalls hperform (.interrupted hinterrupt)
        (List.append_nil _).symm (List.append_nil _).symm⟩
    | false =>
      have hdiagnosis : SameDiagnosis page timeout driver setting resolved.id failure
          (reached.failed resolved failure) (reached'.failed resolved failure) :=
        h.diagnosis hinterrupt hsametree hattached hprogress.same_after
      obtain ⟨hend, taken, closing, htaken, hclosed, hclosing⟩ := hdiagnosis
      have hrun : served = _ :=
        outcome_run_of_failed (page.browser timeout) setting hresolve hperform hinterrupt
      have hrun' : driven = _ := outcome_run_of_failed driver setting hresolve hperform' hinterrupt
      have hkept : (reached.failed resolved failure).tree = tree := htree
      rw [hkept] at hclosing
      rw [hrun, hrun']
      exact ⟨⟨by rw [hend.answer_eq], hend.attached_eq, hend.tree_eq⟩,
        hprogress.sameCalls hperform hclosing hclosed htaken⟩

/-- A run on a page refines a run on every browser that abstracts the page: it comes to the same, an
unresolved scenario calls neither, and otherwise the calls to the page serve those to the browser
one by one, followed by the last calls that are due. Of the clicks with a suppressing class those
are made whose class is no word of the class attribute. -/
theorem page_run_refines (page : Page π) (timeout : Option Duration) (driver : Browser σ)
    {same : π → σ → Prop} (habstracts : page.Abstracts timeout driver same) {p : π} {s : σ}
    (hsame : same p s) (tree : Tree) (setting : Setting) (values : Variables)
    (scenario : Scenario) :
    let served := (scenario.run (page.browser timeout) setting values).outcome (.start ⟨p, []⟩ tree)
    let driven := (scenario.run driver setting values).outcome (.start s tree)
    SameEnd served driven ∧
      (∀ name, scenario.resolve values = .error name →
        driven.2.calls = [] ∧ served.2.browser.calls = []) ∧
      (∀ resolved, scenario.resolve values = .ok resolved →
        SameCalls page timeout setting resolved (.start ⟨p, []⟩ tree) served.2.browser.calls
          driven.2.calls) ∧
      page.GuardsClicks timeout := by
  intro served driven
  cases hresolve : scenario.resolve values with
  | error name =>
    have hrun : served = _ := outcome_run_of_unresolved (page.browser timeout) setting hresolve
    have hrun' : driven = _ := outcome_run_of_unresolved driver setting hresolve
    rw [hrun, hrun']
    exact ⟨⟨rfl, rfl, rfl⟩, fun _ _ => ⟨rfl, rfl⟩, by simp, page.guardsClicks timeout⟩
  | ok resolved =>
    obtain ⟨hend, hcalls⟩ := habstracts.run_of_resolved hsame tree setting hresolve
    refine ⟨hend, by simp, fun other hother => ?_, page.guardsClicks timeout⟩
    obtain rfl := Except.ok.inj hother
    exact hcalls

/-- A scenario with two clicks on an element, one of them suppressed by a class that the element
has, and with a text that is looked for. -/
def guardedList : Scenario where
  id := "g"
  name := "list"
  url := "/"
  steps := [.click (some "#a") (some "on"), .click (some "#a") (some "o")]
  expectations := [.text (some "li") (some "b")]
  tags := []

/-- A rehearsed page with an element of two classes. -/
def classedPage : Rehearsal.PageState :=
  ⟨⟨[], false, []⟩, [("#a", [("class", some "off  on")])], []⟩

/-- A click is suppressed by a whole word of the class attribute and not by a part of one, and a
text is looked for in the first element that holds it. -/
theorem page_run_refines_guardedList :
    let driver := Rehearsal.page.driver (some (.whole 100))
    let served := (guardedList.run (Rehearsal.page.browser (some (.whole 100))) reporting
      .empty).outcome (.start ⟨classedPage, []⟩ Tree.empty)
    let driven := (guardedList.run driver reporting .empty).outcome (.start classedPage Tree.empty)
    SameEnd served driven ∧
      driven.2.calls = [.interact (.navigate "/"), .classList "#a", .classList "#a",
        .interact (.click "#a"), .expect (.text "li" "b")] ∧
      served.2.browser.calls = [.act (.goto "/"), .attributeOf ⟨"#a", [.first]⟩ "class",
        .attributeOf ⟨"#a", [.first]⟩ "class", .act (.click "#a"),
        .await ⟨.element ⟨"li", [.holding "b", .first]⟩, .containText "b",
          some "\"b\" not found in element \"li\"", some (.whole 100)⟩] := by
  intro driver served driven
  have hrefines := page_run_refines Rehearsal.page (some (.whole 100)) driver
    (Rehearsal.page.driver_abstracts (some (.whole 100))) (rfl : classedPage = classedPage)
    Tree.empty reporting .empty guardedList
  exact ⟨hrefines.1, by decide +kernel, by decide +kernel⟩

/-- A rehearsed page on which no address answers. -/
def unansweringPage : Rehearsal.PageState :=
  ⟨⟨[⟨"goto", none, noAnswer, false⟩], false, []⟩, [], []⟩

/-- A setting whose directory of results is a file. -/
def blockedSetting : Setting := { reporting with results := some "/out".toList }

/-- Files with one where the directory of results should be. -/
def blockedFiles : Tree := Tree.empty.put ["out".toList] (.file [])

/-- No picture is taken from an open page when the directory of pictures cannot be made. -/
theorem unpictured_of_blockedSetting :
    let start : World (PageSession Rehearsal.PageState) :=
      .start ⟨unansweringPage, []⟩ blockedFiles
    let performed := (bareVisit.perform (Rehearsal.page.browser none)).outcome
      (start.started bareVisit)
    let run := (bareVisit.run (Rehearsal.page.browser none) blockedSetting .empty).outcome start
    performed.1 = .error (.raised noAnswer) ∧
      (Rehearsal.page.isClosed performed.2.browser.page).1 = .ok false ∧
      run.2.browser.calls = [.act (.goto "/"), .isClosed] := by
  exact ⟨rfl, rfl, by decide +kernel⟩

end BrowserScenario
