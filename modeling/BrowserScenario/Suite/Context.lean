import BrowserScenario.Files.Artifact
import BrowserScenario.Files.Tree
import BrowserScenario.Settings.Basic
import BrowserScenario.Suite.Device

/-!
# Browser contexts of scenario tests

An engine is launched once and closed at the end. Each scenario gets a context and a page of its
own: the context is made with the options of its device, the time limits are set, tracing is
started where the settings ask for it, and then the page is opened. After the scenario a trace
is kept only if the scenario failed, and the context is closed whatever happens to the trace.
-/

namespace BrowserScenario.Suite

open BrowserScenario.Files

/-- A call to an engine or to a context. -/
inductive ContextCall
  | launch (headless : Bool) (slowMotion : Int)
  | newContext (options : ContextOptions)
  | setDefaultTimeout (milliseconds : Int)
  | setDefaultNavigationTimeout (milliseconds : Int)
  | startTracing
  | newPage
  | stopTracing (path : Option (List Char))
  | close
  | closeEngine

/-- How the test of a scenario went. -/
inductive Outcome
  | passed
  | failed
deriving DecidableEq, Repr

/-- What was asked of a context, the files it left, and what it failed with, if it did. -/
structure Served (ε : Type) where
  calls : List ContextCall
  tree : Tree
  error : Option ε

/-- How a context takes it when its tracing is stopped, with a path for the trace or without one:
the files after it, and what it fails with, if it does. File errors are among its errors. -/
structure Tracer (ε : Type) where
  fileError : FileError → ε
  stop : Option (List Char) → Tree → Tree × Option ε

/-- A context that stops its tracing and leaves the files as they are. -/
def Tracer.plain : Tracer FileError where
  fileError := id
  stop _ tree := (tree, none)

/-- The directory of videos in a directory of results, where the settings ask for videos. -/
def videoDirectory (settings : Settings) (results : List Char) : Option String :=
  if settings.video then some (String.ofList (joinName results "videos".toList)) else none

/-- What is asked of an engine before a scenario is given its page. -/
def openingCalls (settings : Settings) (devices : List (String × ContextOptions))
    (engine : String) (results : List Char) : List ContextCall :=
  [.newContext (contextOptions devices engine settings.appUrl (videoDirectory settings results)),
    .setDefaultTimeout settings.selectorTimeout,
    .setDefaultNavigationTimeout settings.selectorTimeout]
    ++ (if settings.trace then [.startTracing] else []) ++ [.newPage]

section Tracer

variable {ε : Type} (tracer : Tracer ε)

/-- Asks a context to stop its tracing. -/
def Tracer.stopped (path : Option (List Char)) (tree : Tree) : Served ε :=
  let (left, error) := tracer.stop path tree
  ⟨[.stopTracing path], left, error⟩

/-- Stops tracing; a trace that is kept is saved in the directory of traces, which is made if it
is missing. -/
def Tracer.stopTracing (tree : Tree) (directory id : List Char) (keep : Bool)
    (results : Option (List Char)) : Served ε :=
  if keep then
    match tree.ensureDirectories (traceDirectory directory results) with
    | (made, none) => tracer.stopped (some (tracePath directory id results)) made
    | (made, some error) => ⟨[], made, some (tracer.fileError error)⟩
  else tracer.stopped none tree

/-- A trace that is not kept is stopped without a path, and a trace that is kept with the path of
its scenario, if the directory of traces is there in the end. -/
theorem Tracer.calls_stopTracing (tree : Tree) (directory id : List Char) (keep : Bool)
    (results : Option (List Char)) :
    (tracer.stopTracing tree directory id keep results).calls =
      if keep then
        if (tree.ensureDirectories (traceDirectory directory results)).2.isNone then
          [.stopTracing (some (tracePath directory id results))]
        else []
      else [.stopTracing none] := by
  cases keep with
  | false => rfl
  | true =>
    rw [stopTracing, if_pos rfl, if_pos rfl]
    rcases tree.ensureDirectories (traceDirectory directory results) with ⟨made, _ | error⟩
    · rfl
    · rfl

/-- What is asked of a context after its scenario. -/
def Tracer.closing (settings : Settings) (tree : Tree) (directory id results : List Char)
    (outcome : Option Outcome) : Served ε :=
  let stopped :=
    if settings.trace then
      tracer.stopTracing tree directory id (outcome == some .failed) (some results)
    else ⟨[], tree, none⟩
  { stopped with calls := stopped.calls ++ [.close] }

/-- All that is asked of a context for one scenario. -/
def Tracer.servePage (settings : Settings) (devices : List (String × ContextOptions))
    (engine : String) (tree : Tree) (directory id results : List Char)
    (outcome : Option Outcome) : Served ε :=
  let closed := tracer.closing settings tree directory id results outcome
  { closed with calls := openingCalls settings devices engine results ++ closed.calls }

end Tracer

/-- Stops tracing of a plain context. -/
def stopTracing (tree : Tree) (directory id : List Char) (keep : Bool)
    (results : Option (List Char)) : Served FileError :=
  Tracer.plain.stopTracing tree directory id keep results

/-- All that is asked of an engine and a plain context for one scenario; the engine is closed when
the context did not fail. -/
def serveEngine (settings : Settings) (devices : List (String × ContextOptions))
    (engine : String) (tree : Tree) (directory id results : List Char)
    (outcome : Option Outcome) : Served FileError :=
  let served := Tracer.plain.servePage settings devices engine tree directory id results outcome
  { served with
    calls := .launch settings.headless settings.slowMotion :: served.calls
      ++ (if served.error.isNone then [.closeEngine] else []) }

end BrowserScenario.Suite
