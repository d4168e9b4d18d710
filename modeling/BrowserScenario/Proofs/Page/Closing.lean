import BrowserScenario.Proofs.Page.Served
import BrowserScenario.Proofs.Run.Capture

/-!
# Diagnosed failures on a page

After a failure that is no interrupt a page is asked whether it is closed, which is no call of a
browser, and a picture is taken when it answers that it is open and the directory of pictures can
be made. Main statement: the diagnosis of a failure on a page ends with these calls, and it comes
to the same as on a browser that abstracts the page.
-/

namespace BrowserScenario

open BrowserScenario.Files BrowserScenario.Page BrowserScenario.Time

variable {π σ : Type} {page : Page π} {timeout : Option Duration} {driver : Browser σ}
  {same : π → σ → Prop}

/-- A page from which a picture is taken after a failure: it answers that it is open, and the
directory of pictures can be made. -/
structure PictureDue (page : Page π) (setting : Setting) (state : π) (tree : Tree) : Prop where
  isOpen : (page.isClosed state).1 = .ok false
  directory : (tree.ensureDirectories setting.pictureDirectory).2 = none

/-- The last calls of a run to a browser and to a page, by how the performance of the scenario has
ended: none when it passed or was interrupted, and otherwise the question whether the page is
closed and, exactly when it is due, a picture of the whole page. -/
inductive Closing (page : Page π) (setting : Setting) (id : String) (state : π) (tree : Tree) :
    Option Failure → List Call → List PageCall → Prop
  | passed : Closing page setting id state tree none [] []
  | interrupted {failure : Failure} (hfailure : failure.isInterrupt = true) :
    Closing page setting id state tree (some failure) [] []
  | pictured {failure : Failure} (hfailure : failure.isInterrupt = false)
    (hdue : PictureDue page setting state tree) :
    Closing page setting id state tree (some failure) [.screenshot (setting.picturePath id) true]
      [.isClosed, .screenshot (setting.picturePath id) true]
  | unpictured {failure : Failure} (hfailure : failure.isInterrupt = false)
    (hdue : ¬ PictureDue page setting state tree) :
    Closing page setting id state tree (some failure) [] [.isClosed]

/-- Two runs, on a page and on a browser, that come to the same: one answer, the same attachments
and the same files. -/
structure SameEnd {α : Type} (served : Except Failure α × World (PageSession π))
    (driven : Except Failure α × World σ) : Prop where
  answer_eq : served.1 = driven.1
  attached_eq : served.2.attached = driven.2.attached
  tree_eq : served.2.tree = driven.2.tree

/-- The diagnosis of a failure comes to the same on a page and on a browser, and it ends with the
calls that are due. -/
structure SameDiagnosis (page : Page π) (timeout : Option Duration) (driver : Browser σ)
    (setting : Setting) (id : String) (failure : Failure) (first : World (PageSession π))
    (second : World σ) : Prop where
  sameEnd : SameEnd ((captureFailure (page.browser timeout) setting id).outcome first)
    ((captureFailure driver setting id).outcome second)
  closing : ∃ taken closing,
    ((captureFailure driver setting id).outcome second).2.calls = second.calls ++ taken ∧
      ((captureFailure (page.browser timeout) setting id).outcome first).2.browser.calls =
        first.browser.calls ++ closing ∧
      Closing page setting id first.browser.page first.tree (some failure) taken closing

section Diagnosis

variable {setting : Setting} {id : String} {failure : Failure} {first served : World (PageSession π)}
  {second driven : World σ} {p : π} {s : σ} {answer : Except Failure (Option (List Char))}

/-- A diagnosis without a picture, when none is due. -/
theorem SameDiagnosis.of_unpictured
    (hserved : (captureFailure (page.browser timeout) setting id).outcome first = (answer, served))
    (hdriven : (captureFailure driver setting id).outcome second = (answer, driven))
    (hattached : served.attached = driven.attached) (htree : served.tree = driven.tree)
    (hcalls : driven.calls = second.calls)
    (hclosing : served.browser.calls = first.browser.calls ++ [.isClosed])
    (hfailure : failure.isInterrupt = false)
    (hdue : ¬ PictureDue page setting first.browser.page first.tree) :
    SameDiagnosis page timeout driver setting id failure first second := by
  refine ⟨?_, [], [.isClosed], ?_, ?_, .unpictured hfailure hdue⟩
  · rw [hserved, hdriven]
    exact ⟨rfl, hattached, htree⟩
  · rw [hdriven, List.append_nil]
    exact hcalls
  · rw [hserved]
    exact hclosing

/-- A diagnosis with a picture, when one is due. -/
theorem SameDiagnosis.of_pictured
    (hserved : (captureFailure (page.browser timeout) setting id).outcome first = (answer, served))
    (hdriven : (captureFailure driver setting id).outcome second = (answer, driven))
    (hattached : served.attached = driven.attached) (htree : served.tree = driven.tree)
    (hcalls : driven.calls = second.calls ++ [.screenshot (setting.picturePath id) true])
    (hclosing : served.browser.calls =
      first.browser.calls ++ [.isClosed] ++ [.screenshot (setting.picturePath id) true])
    (hfailure : failure.isInterrupt = false)
    (hdue : PictureDue page setting first.browser.page first.tree) :
    SameDiagnosis page timeout driver setting id failure first second := by
  refine ⟨?_, _, _, ?_, ?_, .pictured hfailure hdue⟩
  · rw [hserved, hdriven]
    exact ⟨rfl, hattached, htree⟩
  · rw [hdriven]
    exact hcalls
  · rw [hserved]
    exact hclosing.trans (List.append_assoc _ _ _)

/-- The question whether a page in use as a browser is closed is a call to the page. -/
theorem isClosed_browser (timeout : Option Duration) {state : π} {session : PageSession π}
    {told : Except Incident Bool} (h : page.isClosed session.page = (told, state)) :
    (page.browser timeout).isClosed session = (told, ⟨state, session.calls ++ [.isClosed]⟩) := by
  simp only [Page.browser, noted, h]

/-- The picture of a page in use as a browser is a call to the page. -/
theorem screenshot_browser (timeout : Option Duration) {state : π} {session : PageSession π}
    {path : List Char} {tree written : Tree} {taken : Except Incident (List UInt8)}
    (h : page.screenshot path true (session.page, tree) = (taken, state, written)) :
    (page.browser timeout).screenshot path true (session, tree) =
      (taken, ⟨state, session.calls ++ [.screenshot path true]⟩, written) := by
  simp only [Page.browser, h]

/-- No picture is due from a page that does not answer that it is open. -/
theorem not_pictureDue_of_isClosed {state after : π} {tree : Tree} {told : Except Incident Bool}
    (h : page.isClosed state = (told, after)) (htold : told ≠ .ok false) :
    ¬ PictureDue page setting state tree := by
  intro hdue
  have hopen := hdue.isOpen
  rw [h] at hopen
  exact htold hopen

/-- No picture is due when the directory of pictures cannot be made. -/
theorem not_pictureDue_of_directory {state : π} {tree made : Tree} {error : FileError}
    (h : tree.ensureDirectories setting.pictureDirectory = (made, some error)) :
    ¬ PictureDue page setting state tree := by
  intro hdue
  have hnone := hdue.directory
  rw [h] at hnone
  exact nomatch hnone

/-- The diagnosis of a failure on an open page comes to the same on a browser that abstracts it. -/
theorem Page.Abstracts.diagnosis_of_open (h : page.Abstracts timeout driver same)
    (hfailure : failure.isInterrupt = false) (htree : first.tree = second.tree)
    (hattached : first.attached = second.attached) (hsame : same p s)
    (hpage : page.isClosed first.browser.page = (.ok false, p))
    (hdriver : driver.isClosed second.browser = (.ok false, s)) :
    SameDiagnosis page timeout driver setting id failure first second := by
  have hsession := isClosed_browser timeout hpage
  rcases hmade : first.tree.ensureDirectories setting.pictureDirectory with ⟨tree, _ | error⟩
  · have hmade' := hmade
    rw [htree] at hmade'
    have hdue : PictureDue page setting first.browser.page first.tree :=
      ⟨by rw [hpage], by rw [hmade]⟩
    rcases htaken : page.screenshot (setting.picturePath id) true (p, tree) with ⟨taken, after⟩
    rcases htaken' : driver.screenshot (setting.picturePath id) true (s, tree) with
      ⟨taken', after'⟩
    have halike := h.screenshot hsame (setting.picturePath id) true tree
    rw [htaken, htaken'] at halike
    have hpicture : (page.browser timeout).screenshot (setting.picturePath id) true
        (⟨p, first.browser.calls ++ [.isClosed]⟩, tree) = _ := screenshot_browser timeout htaken
    cases halike with
    | raised incident hafter =>
      exact .of_pictured
        (captureFailure_of_noPicture (page.browser timeout) setting id hsession hmade hpicture)
        (captureFailure_of_noPicture driver setting id hdriver hmade' htaken')
        hattached hafter.2 rfl rfl hfailure hdue
    | @answered content _ _ _ hagree hafter =>
      subst hagree
      refine .of_pictured
        (captureFailure_of_picture (page.browser timeout) setting id hsession hmade hpicture)
        (captureFailure_of_picture driver setting id hdriver hmade' htaken')
        ?_ hafter.2 rfl rfl hfailure hdue
      rw [hattached]
  · have hmade' := hmade
    rw [htree] at hmade'
    exact .of_unpictured
      (captureFailure_of_noDirectory (page.browser timeout) setting id hsession hmade)
      (captureFailure_of_noDirectory driver setting id hdriver hmade')
      hattached rfl rfl rfl hfailure (not_pictureDue_of_directory hmade)

/-- The diagnosis of a failure on a page comes to the same on a browser that abstracts it. -/
theorem Page.Abstracts.diagnosis (h : page.Abstracts timeout driver same)
    (hfailure : failure.isInterrupt = false) (htree : first.tree = second.tree)
    (hattached : first.attached = second.attached)
    (hsame : same first.browser.page second.browser) :
    SameDiagnosis page timeout driver setting id failure first second := by
  rcases hpage : page.isClosed first.browser.page with ⟨told, p⟩
  rcases hdriver : driver.isClosed second.browser with ⟨told', s⟩
  have hclosed := h.isClosed hsame
  rw [hpage, hdriver] at hclosed
  have hsession := isClosed_browser timeout hpage
  cases hclosed with
  | raised incident hafter =>
    exact .of_unpictured
      (captureFailure_of_unanswered (page.browser timeout) setting id hsession)
      (captureFailure_of_unanswered driver setting id hdriver)
      hattached htree rfl rfl hfailure (not_pictureDue_of_isClosed hpage (by simp))
  | @answered closed _ _ _ hagree hafter =>
    subst hagree
    cases closed with
    | true =>
      exact .of_unpictured
        (captureFailure_of_closed (page.browser timeout) setting id hsession)
        (captureFailure_of_closed driver setting id hdriver)
        hattached htree rfl rfl hfailure (not_pictureDue_of_isClosed hpage (by simp))
    | false => exact h.diagnosis_of_open hfailure htree hattached hafter hpage hdriver

end Diagnosis

end BrowserScenario
