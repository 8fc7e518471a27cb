import ProcessTriggers.Proofs.Accounting

/-!
The course of an attempt to start a process. Whatever goes wrong with the definition or the start,
the attempt comes to its conclusion; before that nothing is recorded, and a run is added only if
the outcome tells of it.
-/

namespace ProcessTriggers

open Action Automation

namespace ExecutionStore

/-- A log to which no row may be added stays as it is. -/
theorem Extends.eq_of_none {store store' : ExecutionStore}
    (h : store.Extends (fun _ => False) store') : store' = store := by
  match store, store', h with
  | .memory rows, .memory rows', ⟨added, hrows, hadded⟩ =>
    rw [hrows, List.eq_nil_iff_forall_not_mem.mpr hadded, List.append_nil]
  | .relation rows, .relation rows', ⟨added, hrows, hadded⟩ =>
    have hnone : added = [] := by
      apply List.eq_nil_iff_forall_not_mem.mpr
      intro r hr
      obtain ⟨e, es, he, _⟩ := hadded r hr
      exact he
    rw [hrows, hnone, List.append_nil]

end ExecutionStore

namespace Orchestrator.StartOutcome

/-- The runs that a start adds. -/
def runs : StartOutcome → List StartedRun
  | started run => [run]
  | _ => []

end Orchestrator.StartOutcome

namespace Automation

/-- Nothing was recorded between two states, though runs may have been started. -/
abbrev Unrecorded (s s' : Automation) : Prop := Fired (fun _ => False) (fun _ => True) s s'

theorem Unrecorded.executions_eq {s s' : Automation} (h : Unrecorded s s') :
    s'.executions = s.executions := h.executions.eq_of_none

/-- A start ends in some way, also if it hangs, and adds just the runs that its outcome tells of. -/
theorem startProcess_ends (id vars : Value) (options : StartOptions) (s : Automation) :
    ∃ outcome s', startProcess id vars options s = (.ok outcome, s') ∧ Unrecorded s s' ∧
      s'.triggers = s.triggers ∧
      s'.orchestrator.runs = s.orchestrator.runs ++ outcome.runs := by
  have hfired : Unrecorded s (startProcess id vars options s).2 :=
    startProcess_fires (fun _ _ _ => trivial) s
  have hstarted := s.orchestrator.startProcess_started s.supply id vars options
  rw [startProcess_eq] at hfired ⊢
  generalize s.orchestrator.startProcess s.supply id vars options = r at hstarted hfired ⊢
  obtain ⟨outcome, o, supply⟩ := r
  refine ⟨outcome, _, rfl, hfired, rfl, ?_⟩
  cases hstarted with
  | started => rfl
  | hanging | queued | refused => exact (List.append_nil _).symm

end Automation

namespace Engine

/-- The runs that were added by an attempt with this outcome. -/
def startedRuns : Except Error StartedRun → List StartedRun
  | .ok run => [run]
  | .error _ => []

/-- The runs that were added by asking for a start, which may not have ended. -/
def settledRuns : Option (Except Error StartedRun) → List StartedRun
  | some outcome => startedRuns outcome
  | none => []

/-- Asking for a start comes to an end whatever the time limit is and however the start ends. -/
theorem start_ends (a : Attempt) (s : Automation) :
    ∃ r s', start a s = (.ok r, s') ∧ Unrecorded s s' ∧ s'.triggers = s.triggers ∧
      s'.orchestrator.runs = s.orchestrator.runs ++ settledRuns r := by
  have hnothing : ∀ e : Error, Unrecorded s s ∧ s.triggers = s.triggers ∧
      s.orchestrator.runs = s.orchestrator.runs ++ settledRuns (some (.error e)) := fun e =>
    ⟨.ofQuiet (.refl s), rfl, (List.append_nil _).symm⟩
  rw [start, bind_get]
  generalize (if s.config.startTimeout.isNull then .ok false
    else s.config.startTimeout.isAtMost (.int 0) : Except Error Bool) = noTime
  cases noTime with
  | error e => exact ⟨_, s, rfl, hnothing e⟩
  | ok late =>
    cases late with
    | true => exact ⟨_, s, rfl, hnothing _⟩
    | false =>
      obtain ⟨outcome, s₁, hstart, hfired, htriggers, hruns⟩ :=
        startProcess_ends a.trigger.definitionId (.object a.vars) a.options s
      dsimp only
      rw [bind_ok hstart]
      cases outcome with
      | hanging => exact ⟨none, s₁, rfl, hfired, htriggers, hruns⟩
      | started run => exact ⟨some (.ok run), s₁, rfl, hfired, htriggers, hruns⟩
      | failed e =>
        -- A foreign timeout is reported as the limit of the program, any other cause as it is.
        cases e with
        | foreign kind message =>
          cases kind <;> exact ⟨some (.error _), s₁, rfl, hfired, htriggers, hruns⟩
        | _ => exact ⟨some (.error _), s₁, rfl, hfired, htriggers, hruns⟩

/-- An attempt comes to its conclusion. Until then nothing is recorded, and just the run is added
that the outcome tells of. -/
theorem dispatch_concludes (a : Attempt) (s : Automation) :
    ∃ outcome s₁, dispatch a s = conclude a outcome s₁ ∧ Unrecorded s s₁ ∧
      s₁.triggers = s.triggers ∧
      s₁.orchestrator.runs = s.orchestrator.runs ++ startedRuns outcome := by
  rw [dispatch, bind_ok (attempt_run _ s)]
  obtain ⟨_, hensure⟩ | ⟨_, cause, hensure⟩ := ensureDeployed_cases a.trigger s
  · obtain ⟨s₁, hsettle, hquiet⟩ := Audit.settle_run s
    obtain ⟨r, s₂, hstart, hfired, htriggers, hruns⟩ := start_ends a s₁
    have hunrecorded : Unrecorded s s₂ := Fired.trans (.ofQuiet hquiet) hfired
    rw [hquiet.orchestrator] at hruns
    rw [hensure]
    dsimp only
    rw [bind_ok hsettle, bind_ok hstart]
    cases r with
    | some outcome =>
      exact ⟨outcome, s₂, rfl, hunrecorded, htriggers.trans hquiet.triggers, hruns⟩
    | none =>
      have hgive : giveUp a s₂ =
          (.ok (.error (timeLimitError a s₂.config.startTimeout)), s₂) := rfl
      refine ⟨.error _, s₂, bind_ok hgive, hunrecorded, htriggers.trans hquiet.triggers, hruns⟩
  · rw [hensure]
    exact ⟨.error cause, s, rfl, .ofQuiet (.refl s), rfl, (List.append_nil _).symm⟩

/-- An attempt whose type has a name, if counts are kept, hands one execution to the log, whatever
its outcome. A run that it starts has its variables, and an identifier of the supply. -/
theorem dispatch_appends {a : Attempt} {s : Automation} (hbroken : s.broken = [])
    (hnamed : s.config.metrics.truthy = true → ∃ name, a.trigger.type.name = .ok name) :
    ∃ outcome s', dispatch a s = (.ok (outcomeOf a outcome), s') ∧
      s'.scheduler = s.scheduler ∧
      s'.executions = s.executions.appended (outcomeOf a outcome) ∧
      s'.orchestrator.runs = s.orchestrator.runs ++ startedRuns outcome ∧
      ∀ run ∈ startedRuns outcome, run.vars = a.vars ∧ ∃ n, run.handle.id = Supply.idText n := by
  obtain ⟨outcome, s₁, hdispatch, hunrecorded, _, hruns⟩ := dispatch_concludes a s
  obtain ⟨s₂, hconclude, happended, horchestrator⟩ :=
    conclude_run (hunrecorded.broken.trans hbroken) (hunrecorded.config ▸ hnamed) outcome
  have hrun := hdispatch.trans hconclude
  have hfired : Fired (fun _ => True) (fun run => run.vars = a.vars) s (dispatch a s).2 :=
    dispatch_fires (fun _ => trivial) (fun _ _ hvars => hvars) s
  rw [hrun] at hfired
  rw [← horchestrator] at hruns
  rw [hunrecorded.executions_eq] at happended
  refine ⟨outcome, s₂, hrun, hfired.scheduler, happended, hruns, fun run hmem => ?_⟩
  -- The runs that were added are counted in two ways.
  obtain ⟨added, hadded, hvars, ns, hids, _⟩ := hfired.runs
  rw [← List.append_cancel_left (hadded.symm.trans hruns)] at hmem
  have hid : run.handle.id ∈ added.map (·.handle.id) := List.mem_map_of_mem hmem
  rw [hids] at hid
  obtain ⟨n, _, hn⟩ := List.mem_map.mp hid
  exact ⟨hvars run hmem, n, hn.symm⟩

/-- A scheduled attempt that was begun is one of the stored trigger, and its execution has the
identifier that was drawn last. -/
theorem beginScheduled_begins {id expression : Value} {s s' : Automation} {a : Attempt}
    (h : beginScheduled id expression s = (.ok (some a), s')) :
    s.triggers.get id = .ok (some a.trigger) ∧ a.execution.triggerId = a.trigger.id ∧
      a.execution.id = .text (Supply.idText s'.supply.drawn) := by
  obtain ⟨e, s₁, hget, _⟩ | ⟨found, s₁, hget, hfound, _⟩ := getTrigger_cases id s
  · rw [beginScheduled, bind_error hget] at h
    cases h
  · cases found with
    | none =>
      rw [beginScheduled, bind_ok hget] at h
      cases h
    | some t =>
      by_cases hactive : t.isActive.truthy = true
      · rw [beginScheduled_run hget hactive] at h
        cases hexpression : t.tickExpression expression with
        | error e =>
          rw [bind_ofExcept_error hexpression] at h
          cases h
        | ok expression =>
          rw [bind_ofExcept hexpression] at h
          obtain ⟨rfl, hid, hdrawn⟩ := scheduledAttempt_begins h
          exact ⟨hfound, hid, hdrawn⟩
      · rw [beginScheduled, bind_ok hget] at h
        dsimp only at h
        rw [if_pos (by simp [hactive])] at h
        cases h

/-- Noting an outcome ends in an error, and nothing is written, if the outcome is counted for a type
that has no name. -/
theorem noteOutcome_raises {a : Attempt} {s : Automation} {cause : Error}
    (hmetered : s.config.metrics.truthy = true) (hname : a.trigger.type.name = .error cause)
    (e : Execution) : noteOutcome a e s = (.error cause, s) := by
  have hcount : countIfMetered (do
      let name ← Action.ofExcept a.trigger.type.name
      return .execution name.shown e.status.name) s = (.error cause, s) := by
    rw [countIfMetered, bind_get, if_pos hmetered]
    exact bind_error (bind_ofExcept_error hname _ s)
  exact bind_error hcount

theorem conclude_raises {a : Attempt} {s : Automation} {cause : Error}
    (hmetered : s.config.metrics.truthy = true) (hname : a.trigger.type.name = .error cause)
    (outcome : Except Error StartedRun) :
    ∃ s', conclude a outcome s = (.error cause, s') ∧ s'.executions = s.executions := by
  obtain ⟨store, s₁, hquiet, hrun, _⟩ := conclude_notes a outcome s
  rw [noteOutcome_raises (hquiet.config ▸ hmetered) hname] at hrun
  exact ⟨_, hrun, hquiet.executions⟩

end Engine
end ProcessTriggers
