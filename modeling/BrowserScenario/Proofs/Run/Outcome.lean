import BrowserScenario.Run.Scenario

/-!
# Outcomes of composed runs

What a sequence of runs and a run with a handler answer, and the world they leave, from the
outcomes of their parts. A failure ends a sequence, and the handler of a failure goes on in the
world that the failing run has left. Main statements: a scenario that cannot be resolved changes
nothing; one that can ends as its performance does, and after a failure that is no interrupt as
the diagnosis of that failure does.
-/

namespace BrowserScenario

variable {σ α β : Type}

namespace Run

/-- A value that is given at once leaves the world as it is. -/
theorem outcome_pure (value : α) (world : World σ) :
    (pure value : Run σ α).outcome world = (.ok value, world) := rfl

/-- A failure leaves the world as it is. -/
theorem outcome_throw (failure : Failure) (world : World σ) :
    (throw failure : Run σ α).outcome world = (.error failure, world) := rfl

/-- An event changes nothing but the events told. -/
theorem outcome_tell (event : Event) (world : World σ) :
    (tell event).outcome world = (.ok (), { world with events := world.events ++ [event] }) := rfl

/-- A sequence goes on where its first part has ended, unless that part fails. -/
theorem outcome_bind (first : Run σ α) (next : α → Run σ β) (world : World σ) :
    (first >>= next).outcome world =
      match first.outcome world with
      | (.ok value, after) => (next value).outcome after
      | (.error failure, after) => (.error failure, after) := by
  change (ExceptT.bindCont next (first world).1).run (first world).2 = _
  simp only [outcome]
  rcases first world with ⟨answer | answer, after⟩ <;> rfl

/-- A handler goes on in the world that the failing run has left. -/
theorem outcome_tryCatch (body : Run σ α) (handle : Failure → Run σ α) (world : World σ) :
    (tryCatch body handle).outcome world =
      match body.outcome world with
      | (.ok value, after) => (.ok value, after)
      | (.error failure, after) => (handle failure).outcome after := by
  simp only [outcome, tryCatch, tryCatchThe, MonadExceptOf.tryCatch, ExceptT.tryCatch,
    ExceptT.mk, bind, StateT.bind, pure]
  rcases body world with ⟨answer | answer, after⟩ <;> rfl

/-- A sequence goes on where its first part has answered. -/
theorem outcome_bind_of_ok {first : Run σ α} {next : α → Run σ β} {world after : World σ}
    {value : α} (h : first.outcome world = (.ok value, after)) :
    (first >>= next).outcome world = (next value).outcome after := by
  rw [outcome_bind, h]

/-- A sequence ends where its first part has failed. -/
theorem outcome_bind_of_error {first : Run σ α} {next : α → Run σ β} {world after : World σ}
    {failure : Failure} (h : first.outcome world = (.error failure, after)) :
    (first >>= next).outcome world = (.error failure, after) := by
  rw [outcome_bind, h]

end Run

/-- A world in which an event was told. -/
def World.told (world : World σ) (event : Event) : World σ :=
  { world with events := world.events ++ [event] }

section Scenario

variable (browser : Browser σ) (setting : Setting) {values : Variables}
  {scenario resolved : Scenario} {world reached : World σ}

/-- A scenario with a placeholder that has no value is not started. -/
theorem outcome_run_of_unresolved {name : String} (hresolve : scenario.resolve values = .error name) :
    (scenario.run browser setting values).outcome world = (.error (.missingVariable name), world) := by
  unfold Scenario.run
  rw [hresolve]
  exact Run.outcome_throw _ _

/-- The world in which a resolved scenario is performed. -/
def World.started (world : World σ) (resolved : Scenario) : World σ :=
  world.told (.started resolved.summary resolved.url)

/-- The world in which a failure of a resolved scenario is diagnosed. -/
def World.failed (world : World σ) (resolved : Scenario) (failure : Failure) : World σ :=
  world.told (.failed resolved.summary failure.message failure.kind)

/-- A run of a resolved scenario is its performance under the handler of failures. -/
theorem outcome_run_of_resolved (hresolve : scenario.resolve values = .ok resolved) :
    (scenario.run browser setting values).outcome world =
      (tryCatch (resolved.perform browser) (resolved.diagnose browser setting) >>= fun _ =>
        Run.tell (.passed resolved.summary)).outcome (world.started resolved) := by
  unfold Scenario.run
  rw [hresolve]
  exact Run.outcome_bind_of_ok (Run.outcome_tell _ _)

/-- A scenario that is performed without a failure has passed. -/
theorem outcome_run_of_passed (hresolve : scenario.resolve values = .ok resolved)
    (hperform : (resolved.perform browser).outcome (world.started resolved) = (.ok (), reached)) :
    (scenario.run browser setting values).outcome world =
      (.ok (), reached.told (.passed resolved.summary)) := by
  have hcaught : (tryCatch (resolved.perform browser)
      (resolved.diagnose browser setting)).outcome (world.started resolved) = (.ok (), reached) := by
    rw [Run.outcome_tryCatch, hperform]
  rw [outcome_run_of_resolved browser setting hresolve, Run.outcome_bind_of_ok hcaught]
  rfl

/-- An interrupt ends a run as it is. -/
theorem outcome_run_of_interrupt {failure : Failure}
    (hresolve : scenario.resolve values = .ok resolved)
    (hperform : (resolved.perform browser).outcome (world.started resolved) =
      (.error failure, reached))
    (hinterrupt : failure.isInterrupt = true) :
    (scenario.run browser setting values).outcome world = (.error failure, reached) := by
  have hdiagnose : (resolved.diagnose browser setting failure).outcome reached =
      (.error failure, reached) := by
    unfold Scenario.diagnose
    rw [if_pos hinterrupt]
    exact Run.outcome_throw _ _
  rw [outcome_run_of_resolved browser setting hresolve]
  apply Run.outcome_bind_of_error
  rw [Run.outcome_tryCatch, hperform]
  exact hdiagnose

/-- The failure that is left after a diagnosis: the one that was diagnosed, or that of the
diagnosis itself. -/
def failureLeft (failure : Failure) : Except Failure α → Failure
  | .ok _ => failure
  | .error fault => fault

/-- A failure that is no interrupt stands unless its diagnosis fails. -/
theorem outcome_run_of_failed {failure : Failure}
    (hresolve : scenario.resolve values = .ok resolved)
    (hperform : (resolved.perform browser).outcome (world.started resolved) =
      (.error failure, reached))
    (hinterrupt : failure.isInterrupt = false) :
    (scenario.run browser setting values).outcome world =
      (.error (failureLeft failure ((captureFailure browser setting resolved.id).outcome
          (reached.failed resolved failure)).1),
        ((captureFailure browser setting resolved.id).outcome
          (reached.failed resolved failure)).2) := by
  have hdiagnose : (resolved.diagnose browser setting failure).outcome reached =
      (captureFailure browser setting resolved.id >>= fun _ => throw failure).outcome
        (reached.failed resolved failure) := by
    unfold Scenario.diagnose
    rw [if_neg (by rw [hinterrupt]; exact Bool.false_ne_true)]
    exact Run.outcome_bind_of_ok (Run.outcome_tell _ _)
  rw [outcome_run_of_resolved browser setting hresolve, Run.outcome_bind, Run.outcome_tryCatch,
    hperform]
  simp only [hdiagnose, Run.outcome_bind]
  rcases (captureFailure browser setting resolved.id).outcome (reached.failed resolved failure)
    with ⟨fault | path, after⟩ <;> rfl

end Scenario

end BrowserScenario
