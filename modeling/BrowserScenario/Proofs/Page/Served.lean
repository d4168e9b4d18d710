import BrowserScenario.Page.Browser
import BrowserScenario.Proofs.Run.Conduct
import BrowserScenario.Proofs.Text.Words
import Mathlib.Data.List.Forall2

/-!
# Pages that serve as browsers

Which call to a page serves which call to a browser, with the selector, text, number or address
that it was asked for; and what it means for a browser to abstract a page: it meets the incidents
that the page meets at the calls that serve, and it tells the words of the class attribute of the
first element. Main statement: a page in use as a browser meets the same incidents and tells the
same classes as any browser that abstracts it, after any calls, and it is called once for each.
-/

namespace BrowserScenario

open BrowserScenario.Files BrowserScenario.Page BrowserScenario.Text BrowserScenario.Time

variable {π σ α β : Type}

/-- The call to a page that serves a call to a browser. All assertions wait for the given time. A
text is looked for in the first of the elements that hold it. -/
inductive Serves (timeout : Option Duration) : Primitive → PageCall → Prop
  | navigate (address : String) :
    Serves timeout (.interact (.navigate address)) (.act (.goto address))
  | fill (selector text : String) :
    Serves timeout (.interact (.fill selector text)) (.act (.fill selector text))
  | click (selector : String) :
    Serves timeout (.interact (.click selector)) (.act (.click selector))
  | typeText (selector text : String) (delay : Duration) :
    Serves timeout (.interact (.typeText selector text delay))
      (.act (.pressSequentially ⟨selector, []⟩ text delay))
  | selectOption (selector value : String) :
    Serves timeout (.interact (.selectOption selector value)) (.act (.selectOption selector value))
  | check (selector : String) :
    Serves timeout (.interact (.check selector)) (.act (.check selector))
  | uncheck (selector : String) :
    Serves timeout (.interact (.uncheck selector)) (.act (.uncheck selector))
  | hover (selector : String) :
    Serves timeout (.interact (.hover selector)) (.act (.hover selector))
  | wait (milliseconds : Int) :
    Serves timeout (.interact (.wait milliseconds)) (.act (.waitForTimeout milliseconds))
  | classList (selector : String) :
    Serves timeout (.classList selector) (.attributeOf ⟨selector, [.first]⟩ "class")
  | url (address : String) :
    Serves timeout (.expect (.url address)) (.await ⟨.page, .haveUrl address, none, timeout⟩)
  | text (selector part : String) :
    Serves timeout (.expect (.text selector part))
      (.await ⟨.element ⟨selector, [.holding part, .first]⟩, .containText part,
        some ("\"" ++ part ++ "\" not found in element \"" ++ selector ++ "\""), timeout⟩)
  | notText (selector part : String) :
    Serves timeout (.expect (.notText selector part))
      (.await ⟨.element ⟨selector, []⟩, .notContainText part, none, timeout⟩)
  | visible (selector : String) :
    Serves timeout (.expect (.visible selector))
      (.await ⟨.element ⟨selector, []⟩, .beVisible, none, timeout⟩)
  | hidden (selector : String) :
    Serves timeout (.expect (.hidden selector))
      (.await ⟨.element ⟨selector, []⟩, .beHidden, none, timeout⟩)
  | hasAttribute (selector name value : String) :
    Serves timeout (.expect (.hasAttribute selector name value))
      (.await ⟨.element ⟨selector, []⟩, .haveAttribute name value, none, timeout⟩)
  | count (selector : String) (number : Int) :
    Serves timeout (.expect (.count selector number))
      (.await ⟨.element ⟨selector, []⟩, .haveCount number, none, timeout⟩)

/-- Two attempts that come to the same: answers that agree or one incident, and states that belong
together. -/
inductive Alike (same : π → σ → Prop) (agree : α → β → Prop) :
    Except Incident α × π → Except Incident β × σ → Prop
  | answered {first : α} {second : β} {p : π} {s : σ} (hagree : agree first second)
    (hsame : same p s) : Alike same agree (.ok first, p) (.ok second, s)
  | raised (incident : Incident) {p : π} {s : σ} (hsame : same p s) :
    Alike same agree (.error incident, p) (.error incident, s)

/-- The classes that the value of a class attribute names: its words, and none if it is absent. -/
def ClassesOf (value : Option String) (classes : List String) : Prop :=
  WordsOf (value.getD "").toList (classes.map String.toList)

/-- A browser that abstracts a page: from states that belong together, its calls come to what the
calls to the page come to that serve them, and it tells the classes that the class attribute of
the first element names. -/
structure Page.Abstracts (page : Page π) (timeout : Option Duration) (driver : Browser σ)
    (same : π → σ → Prop) : Prop where
  interact : ∀ {interaction action p s}, same p s →
    Serves timeout (.interact interaction) (.act action) →
      Alike same Eq (page.act action p) (driver.interact interaction s)
  expect : ∀ {check assertion p s}, same p s →
    Serves timeout (.expect check) (.await assertion) →
      Alike same Eq (page.await assertion p) (driver.expect check s)
  classList : ∀ {selector element name p s}, same p s →
    Serves timeout (.classList selector) (.attributeOf element name) →
      Alike same ClassesOf (page.attributeOf element name p) (driver.classList selector s)
  screenshot : ∀ {p s}, same p s → ∀ path fullPage (tree : Tree),
    Alike (fun first second => same first.1 second.1 ∧ first.2 = second.2) Eq
      (page.screenshot path fullPage (p, tree)) (driver.screenshot path fullPage (s, tree))
  isClosed : ∀ {p s}, same p s → Alike same Eq (page.isClosed p) (driver.isClosed s)

/-- The classes that the value of a class attribute names are its words. -/
theorem classesOf_iff {value : Option String} {classes : List String} :
    ClassesOf value classes ↔ classes = Page.classesOf value :=
  wordsOf_iff

/-- Every interaction is served by the action on the page that it is. -/
theorem serves_actionOf (timeout : Option Duration) (interaction : Interaction) :
    Serves timeout (.interact interaction) (.act (actionOf interaction)) := by
  cases interaction <;> constructor

/-- Every check is served by the assertion that it is. -/
theorem serves_assertionOf (timeout : Option Duration) (check : Check) :
    Serves timeout (.expect check) (.await (assertionOf timeout check)) := by
  cases check <;> constructor

/-- Every question for classes is served by one for the class attribute of the first element. -/
theorem serves_firstOf (timeout : Option Duration) (selector : String) :
    Serves timeout (.classList selector) (.attributeOf (firstOf selector) "class") :=
  .classList selector

/-- The browser that forgets the calls to a page: a state of the page is its own state. -/
def Page.driver (page : Page π) (timeout : Option Duration) : Browser π where
  interact interaction := page.act (actionOf interaction)
  expect check := page.await (assertionOf timeout check)
  classList selector := fun p =>
    ((page.attributeOf (firstOf selector) "class" p).1.map Page.classesOf,
      (page.attributeOf (firstOf selector) "class" p).2)
  screenshot := page.screenshot
  isClosed := page.isClosed

namespace Alike

variable {same : π → σ → Prop} {agree : α → β → Prop} {first : Except Incident α × π}
  {second : Except Incident β × σ}

/-- An attempt comes to the same as itself. -/
theorem refl (outcome : Except Incident α × π) : Alike Eq Eq outcome outcome := by
  rcases outcome with ⟨incident | answer, p⟩
  · exact .raised incident rfl
  · exact .answered rfl rfl

/-- Attempts that come to the same lead to states that belong together. -/
theorem same_after (h : Alike same agree first second) : same first.2 second.2 := by
  cases h with
  | answered hagree hsame => exact hsame
  | raised incident hsame => exact hsame

/-- Of attempts that come to the same, the first answers as the second does. -/
theorem ok_of_ok {second : Except Incident α × σ} (h : Alike same Eq first second) {answer : α}
    (hanswer : second.1 = .ok answer) : first.1 = .ok answer := by
  cases h with
  | answered hagree hsame =>
    rw [hagree]
    exact hanswer
  | raised incident hsame => exact nomatch hanswer

/-- Attempts come to the same when their answers are turned into others. -/
theorem map {α' β' : Type} {agree' : α' → β' → Prop} (h : Alike same agree first second)
    {f : α → α'} {g : β → β'} (hanswer : ∀ a b, agree a b → agree' (f a) (g b)) :
    Alike same agree' (first.1.map f, first.2) (second.1.map g, second.2) := by
  cases h with
  | answered hagree hsame => exact .answered (hanswer _ _ hagree) hsame
  | raised incident hsame => exact .raised incident hsame

/-- An attempt at a page comes to the same when it is noted. -/
theorem noted {attempt : Attempt π α} {session : PageSession π}
    (h : Alike same agree (attempt session.page) second) (call : PageCall) :
    Alike (fun session s => same session.page s) agree (noted call attempt session) second := by
  unfold Page.noted
  revert h
  generalize attempt session.page = outcome
  intro h
  cases h with
  | answered hagree hsame => exact .answered hagree hsame
  | raised incident hsame => exact .raised incident hsame

/-- The value of a class attribute comes to the classes that it names. -/
theorem classesOf {first : Except Incident (Option String) × π}
    {second : Except Incident (List String) × σ} (h : Alike same ClassesOf first second) :
    Alike same Eq (first.1.map Page.classesOf, first.2) second := by
  cases h with
  | answered hagree hsame => exact .answered (classesOf_iff.1 hagree).symm hsame
  | raised incident hsame => exact .raised incident hsame

end Alike

/-- The browser that forgets the calls to a page abstracts the page. -/
theorem Page.driver_abstracts (page : Page π) (timeout : Option Duration) :
    page.Abstracts timeout (page.driver timeout) Eq where
  interact := by
    intro interaction action p s hsame hserves
    subst hsame
    cases hserves <;> exact .refl _
  expect := by
    intro check assertion p s hsame hserves
    subst hsame
    cases hserves <;> exact .refl _
  classList := by
    intro selector element name p s hsame hserves
    subst hsame
    cases hserves
    simp only [Page.driver, firstOf]
    rcases page.attributeOf ⟨selector, [.first]⟩ "class" p with ⟨incident | value, after⟩
    · exact .raised incident rfl
    · exact .answered (classesOf_iff.2 rfl) rfl
  screenshot := by
    intro p s hsame path fullPage tree
    subst hsame
    simp only [Page.driver]
    rcases page.screenshot path fullPage (p, tree) with ⟨incident | content, after⟩
    · exact .raised incident ⟨rfl, rfl⟩
    · exact .answered rfl ⟨rfl, rfl⟩
  isClosed := by
    intro p s hsame
    subst hsame
    exact .refl _

/-- A page in use as a browser is called once for each call, by the call that serves it. -/
theorem exists_served (page : Page π) (timeout : Option Duration) (session : PageSession π)
    (made : List Primitive) :
    ∃ served, ((page.browser timeout).stateAfter session made).calls = session.calls ++ served ∧
      List.Forall₂ (Serves timeout) made served := by
  induction made generalizing session with
  | nil => exact ⟨[], (List.append_nil _).symm, .nil⟩
  | cons primitive rest ih =>
    have hone : ∃ call, ((page.browser timeout).respond primitive session).2.calls =
        session.calls ++ [call] ∧ Serves timeout primitive call := by
      cases primitive with
      | interact interaction => exact ⟨_, rfl, serves_actionOf timeout interaction⟩
      | expect check => exact ⟨_, rfl, serves_assertionOf timeout check⟩
      | classList selector => exact ⟨_, rfl, serves_firstOf timeout selector⟩
    obtain ⟨call, hcall, hserves⟩ := hone
    obtain ⟨served, hcalls, hrest⟩ := ih ((page.browser timeout).respond primitive session).2
    refine ⟨call :: served, ?_, .cons hserves hrest⟩
    rw [hcall, List.append_assoc] at hcalls
    exact hcalls

namespace Page.Abstracts

variable {page : Page π} {timeout : Option Duration} {driver : Browser σ} {same : π → σ → Prop}
  {session : PageSession π} {s : σ}

/-- A call to a page in use as a browser comes to what it comes to for a browser that abstracts
the page. -/
theorem respond (h : page.Abstracts timeout driver same) (hsame : same session.page s)
    (primitive : Primitive) :
    Alike (fun (session : PageSession π) s => same session.page s) Eq
      ((page.browser timeout).respond primitive session) (driver.respond primitive s) := by
  cases primitive with
  | interact interaction =>
    exact ((h.interact hsame (serves_actionOf timeout interaction)).noted _).map fun _ _ _ => rfl
  | expect check =>
    exact ((h.expect hsame (serves_assertionOf timeout check)).noted _).map fun _ _ _ => rfl
  | classList selector =>
    exact ((h.classList hsame (serves_firstOf timeout selector)).noted _).classesOf

/-- After the same calls a page and a browser that abstracts it are in states that belong
together. -/
theorem stateAfter (h : page.Abstracts timeout driver same) (hsame : same session.page s)
    (made : List Primitive) :
    same ((page.browser timeout).stateAfter session made).page (driver.stateAfter s made) := by
  induction made generalizing session s with
  | nil => exact hsame
  | cons primitive rest ih => exact ih (h.respond hsame primitive).same_after

/-- A page in use as a browser meets the incidents of a browser that abstracts it. -/
theorem incidents_eq (h : page.Abstracts timeout driver same) (hsame : same session.page s) :
    (page.browser timeout).incidents session = driver.incidents s := by
  funext made primitive
  have halike := h.respond (h.stateAfter hsame made) primitive
  unfold Browser.incidents
  revert halike
  generalize (page.browser timeout).respond primitive _ = first
  generalize driver.respond primitive _ = second
  intro halike
  cases halike <;> rfl

/-- The classes that a page in use as a browser tells are told by a browser that abstracts it. -/
theorem tells (h : page.Abstracts timeout driver same) (hsame : same session.page s)
    {classes : ClassLists} (htells : (page.browser timeout).Tells session classes) :
    driver.Tells s classes := by
  intro made selector answer hanswer
  exact htells made selector answer
    ((h.respond (h.stateAfter hsame made) (.classList selector)).ok_of_ok hanswer)

end Page.Abstracts

end BrowserScenario
