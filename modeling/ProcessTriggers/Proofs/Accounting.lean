import ProcessTriggers.Proofs.WellFormed

/-!
The accounting of events. Each trigger that matches an event leaves one execution, which says
whether its process was started or why not, whatever becomes of the others.
-/

namespace ProcessTriggers

open Action Automation

/-- Whether the definition with an identifier is known and deployed. -/
def Orchestrator.isDeployed (o : Orchestrator) (id : Value) : Bool :=
  match o.findDefinition id with
  | .ok d => d.any (·.isDeployed)
  | .error _ => false

theorem Orchestrator.isDeployed_iff {o : Orchestrator} {id : Value} : o.isDeployed id = true ↔
    ∃ d, o.findDefinition id = .ok (some d) ∧ d.isDeployed = true := by
  rw [isDeployed]
  cases o.findDefinition id with
  | error e => simp
  | ok found => cases found <;> simp

/-- The stored triggers after one more start of a trigger was counted, if it could be. -/
def TriggerStore.counted (store : TriggerStore) (id : Value) (firedAt : Stamp) : TriggerStore :=
  match store.recordFire id firedAt with
  | .ok store => store
  | .error _ => store

/-- The log after an execution was handed to it. A relation may refuse one, and then it stays as it
is; in memory every execution is taken. -/
def ExecutionStore.appended (store : ExecutionStore) (e : Execution) : ExecutionStore :=
  match store.append e with
  | .ok store => store
  | .error _ => store

theorem ExecutionStore.appended_memory {store : ExecutionStore} {log : List Execution}
    (h : store = .memory log) (e : Execution) : store.appended e = .memory (log ++ [e]) := by
  rw [h]
  rfl

/-- Whether the conditions of a trigger are found to hold; an error is no match. -/
def Trigger.isMatched (t : Trigger) (context : Value) : Bool :=
  match Condition.holds t.conditions context with
  | .ok holds => holds
  | .error _ => false

namespace Engine

/-- What the attempt to fire a trigger leaves: an execution, and the orchestrator afterwards. -/
structure Attempted (context : Value) (o : Orchestrator) (t : Trigger) (e : Execution)
    (o' : Orchestrator) : Prop where
  trigger : e.triggerId = t.id
  settled : e.status = .success ∨ e.status = .failed
  success_iff : e.status = .success ↔ o.isDeployed t.definitionId = true ∧ o.startErrors = []
  success : e.status = .success → ∃ run : StartedRun, e.processInstanceId = .text run.handle.id ∧
    Variables.ofMappings t.variableMappings context = .ok run.vars ∧
    o' = { o with runs := o.runs ++ [run] }
  failure : e.status = .failed → (∃ message, e.errorMessage = .text message ∧ message ≠ "") ∧
    o' = { o with
      startErrors := if o.isDeployed t.definitionId then o.startErrors.tail else o.startErrors }

/-- One execution for each trigger, in their order, each attempted with what the one before it left
of the orchestrator. -/
inductive Accounted (context : Value) :
    Orchestrator → List Trigger → List Execution → Orchestrator → Prop
  | nil (o : Orchestrator) : Accounted context o [] [] o
  | cons {o o' o'' : Orchestrator} {t : Trigger} {ts : List Trigger} {e : Execution}
    {es : List Execution} (attempted : Attempted context o t e o')
    (rest : Accounted context o' ts es o'') : Accounted context o (t :: ts) (e :: es) o''

end Engine

theorem Error.title_ne_empty (e : Error) : e.title ≠ "" := by
  cases e with
  | plain kind message => cases kind <;> simp [title]
  | foreign kind message => cases kind <;> simp [title]
  | _ => simp [title]

/-- No error is without words. -/
theorem Error.summary_ne_empty (e : Error) : e.summary ≠ "" := by
  by_cases h : e.message = ""
  · rw [summary, if_pos h]
    exact e.title_ne_empty
  · rwa [summary, if_neg h]

namespace Value

/-- A number that is greater than zero is not at most zero. -/
theorem isAtMost_of_isGreater {v : Value} (h : v.isGreater (.int 0) = .ok true) :
    v.isAtMost (.int 0) = .ok false := by
  -- Which operator is asked for shows in the messages of errors only.
  have horder : ∀ {operator : String} {r : Option Ordering},
      order operator v (.int 0) = .ok r → order "<=" v (.int 0) = .ok r := by
    intro operator r hr
    cases v <;> simp only [order] at hr ⊢ <;> split at hr <;> simp_all
  obtain ⟨r, hr, h⟩ := exists_of_bind_eq_ok h
  have hgt : r = some .gt := beq_iff_eq.mp (Except.ok.inj h)
  rw [isAtMost, horder hr, hgt]
  rfl

end Value

namespace Automation

/-- How a start of a deployed definition ends, when none hangs. -/
theorem startProcess_run {s : Automation} {id : Value} (vars : Entries) (options : StartOptions)
    (hhangs : s.orchestrator.hangs = 0) {d : Definition}
    (hfound : s.orchestrator.findDefinition id = .ok (some d)) (hdeployed : d.isDeployed = true) :
    ∃ outcome s', startProcess id (.object vars) options s = (.ok outcome, s') ∧
      s'.broken = s.broken ∧ s'.executions = s.executions ∧
      ((∃ cause, outcome = .failed cause ∧ s.orchestrator.startErrors ≠ [] ∧
        s'.orchestrator = { s.orchestrator with startErrors := s.orchestrator.startErrors.tail }) ∨
      ∃ run : StartedRun, outcome = .started run ∧ s.orchestrator.startErrors = [] ∧
        run.vars = vars ∧
        s'.orchestrator = { s.orchestrator with runs := s.orchestrator.runs ++ [run] }) := by
  have hstarted := s.orchestrator.startProcess_started s.supply id (.object vars) options
  rw [startProcess_eq]
  generalize s.orchestrator.startProcess s.supply id (.object vars) options = r at hstarted ⊢
  obtain ⟨outcome, o, supply⟩ := r
  -- Of the four ways to end, two cannot be: none hangs, and the definition is deployed.
  cases hstarted with
  | hanging h => exact absurd (hhangs.symm.trans h) (Nat.succ_ne_zero _).symm
  | refused _ _ unfit _ => exact absurd rfl (unfit d vars hfound hdeployed)
  | @queued e es _ herrors =>
    refine ⟨_, _, rfl, rfl, rfl, .inl ⟨e, rfl, ?_, ?_⟩⟩
    · exact herrors ▸ List.cons_ne_nil e es
    · rw [herrors]
      rfl
  | @started _ es _ herrors _ _ hread run hr =>
    have hvars : run.vars = vars := by
      rw [hr]
      exact (Except.ok.inj hread).symm
    exact ⟨_, _, rfl, rfl, rfl, .inr ⟨run, rfl, herrors, hvars, rfl⟩⟩

end Automation

namespace Engine

variable {s : Automation}

theorem ensureDeployed_cases (t : Trigger) (s : Automation) :
    (s.orchestrator.isDeployed t.definitionId = true ∧ ensureDeployed t s = (.ok ⟨⟩, s)) ∨
      (s.orchestrator.isDeployed t.definitionId = false ∧
        ∃ e, ensureDeployed t s = (.error e, s)) := by
  rw [Orchestrator.isDeployed]
  cases h : s.orchestrator.findDefinition t.definitionId with
  | error e =>
    have hfind : Registry.findDefinition t.definitionId s = (.error e, s) := by
      rw [Registry.findDefinition, bind_get, h]
      rfl
    exact Or.inr ⟨rfl, e, by rw [ensureDeployed, bind_error hfind]⟩
  | ok d =>
    have hfind : Registry.findDefinition t.definitionId s = (.ok d, s) := by
      rw [Registry.findDefinition, bind_get, h]
      rfl
    rw [ensureDeployed, bind_ok hfind]
    dsimp only
    cases d.any (·.isDeployed) with
    | true => exact Or.inl ⟨rfl, rfl⟩
    | false => exact Or.inr ⟨rfl, _, rfl⟩

/-- A sample is asked for only if counts are kept. -/
theorem countIfMetered_run {sample : Action Sample}
    (h : s.config.metrics.truthy = true → ∃ x, sample s = (.ok x, s)) :
    ∃ s', countIfMetered sample s = (.ok ⟨⟩, s') ∧ Quiet s s' := by
  rw [countIfMetered, bind_get]
  by_cases hmetered : s.config.metrics.truthy = true
  · obtain ⟨x, hsample⟩ := h hmetered
    rw [if_pos hmetered, bind_ok hsample]
    exact ⟨_, rfl, by constructor <;> rfl⟩
  · rw [if_neg hmetered]
    exact ⟨s, rfl, .refl s⟩

/-- Counting a start of a trigger succeeds, and at most the stored triggers change. -/
theorem recordFire_run (t : Trigger) (s : Automation) :
    ∃ store s', recordFire t s = (.ok ⟨⟩, s') ∧ Quiet { s with triggers := store } s' ∧
      (s.broken = [] →
        store = s.triggers.counted t.id (Stamp.ofInstant s.clock.instant)) := by
  -- A call that fails leaves the stored triggers as they are.
  have hrecord : ∃ r store s', Registry.recordFire t.id none s = (r, s') ∧
      Quiet { s with triggers := store } s' ∧ (s.broken = [] →
        store = s.triggers.counted t.id (Stamp.ofInstant s.clock.instant)) := by
    rw [Registry.recordFire, bind_ok (now_run s)]
    obtain ⟨hbroken, e, s₁, hrun, hquiet⟩ | ⟨s₁, hrun, hquiet⟩ :=
      reaching_fails_or .recordFire .triggers (do
        let store ← Action.ofExcept
          ((← get).triggers.recordFire t.id (Stamp.ofInstant s.clock.instant))
        modify ({ · with triggers := store })) s
    · exact ⟨_, s.triggers, s₁, hrun, hquiet, fun h => absurd h hbroken⟩
    · rw [bind_get, hquiet.triggers] at hrun
      rw [TriggerStore.counted]
      cases h : s.triggers.recordFire t.id (Stamp.ofInstant s.clock.instant) with
      | error e =>
        exact ⟨_, _, s₁, hrun.trans (bind_ofExcept_error h _ _), hquiet, fun _ => rfl⟩
      | ok store => exact
        ⟨_, store, _, hrun.trans (bind_ofExcept h _ _), hquiet.withTriggers store, fun _ => rfl⟩
  obtain ⟨r, store, s₁, hrun, hquiet, hstore⟩ := hrecord
  rw [recordFire, bind_ok (attempt_run _ s), hrun]
  cases r with
  | ok _ => exact ⟨store, s₁, rfl, hquiet, hstore⟩
  | error e => exact ⟨store, _, rfl, hquiet.trans (by constructor <;> rfl), hstore⟩

/-- The end of an attempt is to note its outcome. Before that its start is counted, if there was
one. -/
theorem conclude_notes (a : Attempt) (outcome : Except Error StartedRun) (s : Automation) :
    ∃ store s₁, Quiet { s with triggers := store } s₁ ∧
      conclude a outcome s = ((noteOutcome a (outcomeOf a outcome) s₁).1,
        { (noteOutcome a (outcomeOf a outcome) s₁).2 with bound := s.bound }) ∧
      (s.broken = [] → store = match outcome with
        | .ok _ => s.triggers.counted a.trigger.id (Stamp.ofInstant s.clock.instant)
        | .error _ => s.triggers) := by
  cases outcome with
  | ok run =>
    obtain ⟨store, s₁, hrecord, hquiet, hstore⟩ :=
      recordFire_run a.trigger { s with bound := a.bound }
    obtain ⟨s₂, hlogged, hquiet'⟩ := log_quiet .engine Log.info ("Trigger " ++
      a.trigger.id.shown ++ " fired successfully, started process instance " ++ run.handle.id) s₁
    have hbound : Quiet { s with triggers := store }
        { s with triggers := store, bound := a.bound } := by constructor <;> rfl
    refine ⟨store, s₂, hbound.trans (hquiet.trans hquiet'), ?_, hstore⟩
    rw [conclude_ok, withBound_run, bind_ok hrecord, bind_ok hlogged]
  | error cause =>
    obtain ⟨s₁, hlogged, hquiet⟩ := log_quiet .engine Log.error
      ("Failed to fire trigger " ++ a.trigger.id.shown ++ ": " ++ cause.summary)
      { s with bound := a.bound }
    have hbound : Quiet s { s with bound := a.bound } := by constructor <;> rfl
    refine ⟨s.triggers, s₁, hbound.trans hquiet, ?_, fun _ => rfl⟩
    rw [conclude_error, withBound_run, bind_ok hlogged]

theorem save_run (hbroken : s.broken = []) {log : List Execution}
    (hlog : s.executions = .memory log) (e : Execution) :
    save e s = (.ok e, { s with executions := .memory (log ++ [e]) }) := by
  have hmemory : s.isRelational .executions = false := by rw [isRelational, hlog]
  have happend : appendExecution e s =
      (.ok e, { s with executions := .memory (log ++ [e]) }) := by
    rw [appendExecution, reaching_run _ _ _ _ hbroken hmemory, bind_get, hlog]
    rfl
  rw [save, bind_ok (attempt_run _ s), happend]
  rfl

/-- An execution is handed to a log that is not broken. -/
theorem appendExecution_answers (hbroken : s.broken = []) (e : Execution) :
    ∃ r s', appendExecution e s = (r, s') ∧ (∀ e', r = .ok e' → e' = e) ∧
      Quiet { s with executions := s.executions.appended e } s' := by
  have hreached : ∀ {s₁ : Automation}, Quiet s s₁ → ∃ r s', (do
        let store ← Action.ofExcept ((← get).executions.append e)
        modify ({ · with executions := store })
        return e : Action Execution) s₁ = (r, s') ∧ (∀ e', r = .ok e' → e' = e) ∧
      Quiet { s with executions := s.executions.appended e } s' := by
    intro s₁ hquiet
    rw [bind_get, hquiet.executions, ExecutionStore.appended]
    cases happend : s.executions.append e with
    | error cause => exact ⟨_, s₁, rfl, by rintro _ ⟨⟩, hquiet⟩
    | ok store => exact ⟨_, _, rfl, fun _ h => (Except.ok.inj h).symm, hquiet.withExecutions store⟩
  cases hrow : e.toRow with
  | ok row =>
    have hlookup : s.broken.lookup .append = none := by rw [hbroken, List.lookup_nil]
    obtain ⟨s₁, hrun, hquiet⟩ := reaching_answers .append .executions _ hlookup
    rw [appendExecution, hrow]
    exact hrun ▸ hreached hquiet
  | error cause =>
    cases hstore : s.executions with
    | memory log =>
      have hmemory : s.isRelational .executions = false := by rw [isRelational, hstore]
      rw [appendExecution, reaching_run _ _ _ _ hbroken hmemory, ← hstore]
      exact hreached (.refl s)
    | relation rows =>
      -- What is found wrong beforehand, the relation would also refuse to take.
      have hrefused : s.executions.appended e = s.executions := by
        rw [ExecutionStore.appended, hstore, ExecutionStore.append, hrow]
        rfl
      rw [← hstore, appendExecution]
      obtain ⟨cause', s₁, hrun, hquiet⟩ | ⟨s₁, hrun, hquiet⟩ :=
        reaching_cases .append .executions (e.toRow.map fun _ => ()) _ s
      · rw [hrefused]
        exact ⟨_, s₁, hrun, by rintro _ ⟨⟩, hquiet⟩
      · exact hrun ▸ hreached hquiet

/-- An execution is returned whether the log took it or not. -/
theorem save_answers (hbroken : s.broken = []) (e : Execution) : ∃ s', save e s = (.ok e, s') ∧
    Quiet { s with executions := s.executions.appended e } s' := by
  obtain ⟨r, s₁, hrun, hsame, hquiet⟩ := appendExecution_answers hbroken e
  rw [save, bind_ok (attempt_run _ s), hrun]
  cases r with
  | ok e' =>
    rw [hsame e' rfl]
    exact ⟨s₁, rfl, hquiet⟩
  | error cause => exact ⟨_, rfl, hquiet.trans (by constructor <;> rfl)⟩

theorem noteOutcome_run (hbroken : s.broken = []) {a : Attempt}
    (hnamed : s.config.metrics.truthy = true → ∃ name, a.trigger.type.name = .ok name)
    (e : Execution) : ∃ s', noteOutcome a e s = (.ok e, s') ∧
      Quiet { s with executions := s.executions.appended e } s' := by
  have hsave : ∀ {s₁ : Automation}, Quiet s s₁ → ∃ s', save e s₁ = (.ok e, s') ∧
      Quiet { s with executions := s.executions.appended e } s' := by
    intro s₁ hquiet
    obtain ⟨s', hrun, hquiet'⟩ := save_answers (hquiet.broken.trans hbroken) e
    rw [hquiet.executions] at hquiet'
    exact ⟨s', hrun, (hquiet.withExecutions _).trans hquiet'⟩
  have hsample : s.config.metrics.truthy = true → ∃ x, (do
      let name ← Action.ofExcept a.trigger.type.name
      return .execution name.shown e.status.name : Action Sample) s = (.ok x, s) := by
    intro hmetered
    obtain ⟨name, hname⟩ := hnamed hmetered
    exact ⟨.execution name.shown e.status.name, bind_ofExcept hname _ s⟩
  obtain ⟨s₁, hcount, hquiet⟩ := countIfMetered_run hsample
  rw [noteOutcome, bind_ok hcount]
  by_cases hsucceeded : e.succeeded = true
  · obtain ⟨s₂, hcount', hquiet'⟩ :=
      countIfMetered_run fun _ => ⟨_, pure_run Sample.processStart s₁⟩
    dsimp only
    rw [if_pos hsucceeded, bind_ok hcount']
    exact hsave (hquiet.trans hquiet')
  · dsimp only
    rw [if_neg hsucceeded]
    exact hsave hquiet

/-- The execution of an attempt is handed to the log, whatever its outcome. -/
theorem conclude_run (hbroken : s.broken = []) {a : Attempt}
    (hnamed : s.config.metrics.truthy = true → ∃ name, a.trigger.type.name = .ok name)
    (outcome : Except Error StartedRun) :
    ∃ s', conclude a outcome s = (.ok (outcomeOf a outcome), s') ∧
      s'.executions = s.executions.appended (outcomeOf a outcome) ∧
      s'.orchestrator = s.orchestrator := by
  obtain ⟨store, s₁, hquiet, hrun, _⟩ := conclude_notes a outcome s
  obtain ⟨s₂, hnote, hquiet'⟩ := noteOutcome_run (hquiet.broken.trans hbroken)
    (hquiet.config ▸ hnamed) (outcomeOf a outcome)
  have hexecutions : s₁.executions = s.executions := hquiet.executions
  refine ⟨{ s₂ with bound := s.bound }, ?_, hexecutions ▸ hquiet'.executions,
    hquiet'.orchestrator.trans hquiet.orchestrator⟩
  rw [hrun, hnote]

theorem outcomeOf_ok (a : Attempt) (run : StartedRun) :
    (outcomeOf a (.ok run)).status = .success ∧
      (outcomeOf a (.ok run)).processInstanceId = .text run.handle.id := ⟨rfl, rfl⟩

theorem outcomeOf_error (a : Attempt) (e : Error) : (outcomeOf a (.error e)).status = .failed ∧
    ∃ message, (outcomeOf a (.error e)).errorMessage = .text message ∧ message ≠ "" :=
  ⟨rfl, e.summary, rfl, e.summary_ne_empty⟩

/-- How a start ends that is given time, when none hangs. -/
theorem start_run {a : Attempt} (htimeout : s.config.startTimeout.isGreater (.int 0) = .ok true)
    (hhangs : s.orchestrator.hangs = 0)
    (hdeployed : s.orchestrator.isDeployed a.trigger.definitionId = true) :
    ∃ outcome s', start a s = (.ok (some outcome), s') ∧ s'.broken = s.broken ∧
      s'.executions = s.executions ∧
      ((∃ cause, outcome = .error cause ∧ s.orchestrator.startErrors ≠ [] ∧
        s'.orchestrator = { s.orchestrator with startErrors := s.orchestrator.startErrors.tail }) ∨
      ∃ run : StartedRun, outcome = .ok run ∧ s.orchestrator.startErrors = [] ∧
        run.vars = a.vars ∧
        s'.orchestrator = { s.orchestrator with runs := s.orchestrator.runs ++ [run] }) := by
  have hnull : s.config.startTimeout.isNull = false := by
    cases h : s.config.startTimeout with
    | null =>
      rw [h] at htimeout
      cases htimeout
    | _ => rfl
  have htime : (if s.config.startTimeout.isNull then .ok false
      else s.config.startTimeout.isAtMost (.int 0)) = .ok false := by
    rw [hnull]
    exact Value.isAtMost_of_isGreater htimeout
  obtain ⟨d, hfound, hd⟩ := Orchestrator.isDeployed_iff.mp hdeployed
  obtain ⟨outcome, s₁, hstart, hbroken, hexecutions, hcases⟩ :=
    startProcess_run a.vars a.options hhangs hfound hd
  rw [start, bind_get]
  dsimp only
  rw [htime]
  dsimp only
  rw [bind_ok hstart]
  obtain ⟨cause, rfl, hqueued, ho⟩ | ⟨run, rfl, hnone, hvars, ho⟩ := hcases
  · -- A foreign timeout is reported as the limit of the program, any other cause as it is.
    cases cause with
    | foreign kind message =>
      cases kind <;> exact ⟨_, s₁, rfl, hbroken, hexecutions, .inl ⟨_, rfl, hqueued, ho⟩⟩
    | _ => exact ⟨_, s₁, rfl, hbroken, hexecutions, .inl ⟨_, rfl, hqueued, ho⟩⟩
  · exact ⟨.ok run, s₁, rfl, hbroken, hexecutions, .inr ⟨run, rfl, hnone, hvars, ho⟩⟩

/-- The state of a program in memory that gives starts time, with a log of executions. -/
structure Ready (s : Automation) (log : List Execution) : Prop where
  unbroken : s.broken = []
  log : s.executions = .memory log
  noHangs : s.orchestrator.hangs = 0
  timeout : s.config.startTimeout.isGreater (.int 0) = .ok true

namespace Ready

variable {s' : Automation} {log log' : List Execution}

theorem ofFired {row : Execution → Prop} {run : StartedRun → Prop} (h : Ready s log)
    (hfired : Fired row run s s') (hlog : s'.executions = .memory log') : Ready s' log' where
  unbroken := hfired.broken.trans h.unbroken
  log := hlog
  noHangs := Nat.le_zero.mp (h.noHangs ▸ hfired.hangs)
  timeout := by rw [hfired.config, h.timeout]

theorem ofQuiet (h : Ready s log) (hquiet : Quiet s s') : Ready s' log :=
  h.ofFired (.ofQuiet hquiet : Fired (fun _ => True) (fun _ => True) s s')
    (hquiet.executions.trans h.log)

end Ready

variable {log : List Execution}

/-- An attempt leaves one execution, whether its start succeeds or not. -/
theorem dispatch_run (h : Ready s log) {a : Attempt} {type : TriggerType} {context : Value}
    (htype : a.trigger.type = .known type) (hid : a.execution.triggerId = a.trigger.id)
    (hvars : Variables.ofMappings a.trigger.variableMappings context = .ok a.vars) :
    ∃ e s', dispatch a s = (.ok e, s') ∧ s'.executions = .memory (log ++ [e]) ∧
      Attempted context s.orchestrator a.trigger e s'.orchestrator := by
  have hnamed : ∃ name, a.trigger.type.name = .ok name := ⟨_, congrArg TypeField.name htype⟩
  have htrigger : ∀ outcome, (outcomeOf a outcome).triggerId = a.trigger.id := by
    intro outcome
    rw [outcomeOf_triggerId, hid]
  -- A failed execution is the same whether the definition or the start was at fault.
  have hfailed : ∀ (cause : Error) (o : Orchestrator), ¬(s.orchestrator.isDeployed
      a.trigger.definitionId = true ∧ s.orchestrator.startErrors = []) →
      o = { s.orchestrator with startErrors :=
        if s.orchestrator.isDeployed a.trigger.definitionId then s.orchestrator.startErrors.tail
        else s.orchestrator.startErrors } →
      Attempted context s.orchestrator a.trigger (outcomeOf a (.error cause)) o := by
    intro cause o hnot ho
    obtain ⟨hstatus, hmessage⟩ := outcomeOf_error a cause
    have hunsuccessful : (outcomeOf a (.error cause)).status ≠ .success := by
      rw [hstatus]
      decide
    exact {
      trigger := htrigger _
      settled := .inr hstatus
      success_iff := ⟨fun h => absurd h hunsuccessful, fun h => absurd h hnot⟩
      success := fun h => absurd h hunsuccessful
      failure := fun _ => ⟨hmessage, ho⟩ }
  rw [dispatch, bind_ok (attempt_run _ s)]
  obtain ⟨hdeployed, hensure⟩ | ⟨hdeployed, cause, hensure⟩ := ensureDeployed_cases a.trigger s
  · rw [hensure]
    dsimp only
    obtain ⟨s₁, hsettle, hquiet⟩ := Audit.settle_run s
    have h₁ := h.ofQuiet hquiet
    rw [bind_ok hsettle]
    obtain ⟨outcome, s₂, hstart, hbroken, hexecutions, hcases⟩ :=
      start_run (a := a) h₁.timeout h₁.noHangs (by rw [hquiet.orchestrator, hdeployed])
    obtain ⟨s₃, hconclude, happended, horchestrator⟩ :=
      conclude_run (hbroken.trans h₁.unbroken) (fun _ => hnamed) outcome
    rw [ExecutionStore.appended_memory (hexecutions.trans h₁.log)] at happended
    rw [bind_ok hstart]
    refine ⟨_, s₃, hconclude, happended, ?_⟩
    rw [horchestrator]
    rw [hquiet.orchestrator] at hcases
    obtain ⟨cause, rfl, hqueued, ho⟩ | ⟨run, rfl, hnone, hmapped, ho⟩ := hcases
    · refine hfailed cause _ (fun h => hqueued h.2) ?_
      rw [ho, if_pos hdeployed]
    · obtain ⟨hstatus, hinstance⟩ := outcomeOf_ok a run
      exact {
        trigger := htrigger _
        settled := .inl hstatus
        success_iff := ⟨fun _ => ⟨hdeployed, hnone⟩, fun _ => hstatus⟩
        success := fun _ => ⟨run, hinstance, hmapped ▸ hvars, ho⟩
        failure := fun h => by
          rw [hstatus] at h
          cases h }
  · rw [hensure]
    obtain ⟨s₁, hconclude, happended, horchestrator⟩ :=
      conclude_run h.unbroken (fun _ => hnamed) (.error cause)
    rw [ExecutionStore.appended_memory h.log] at happended
    refine ⟨_, s₁, hconclude, happended, hfailed cause _ (fun h => ?_) ?_⟩
    · rw [hdeployed] at h
      cases h.1
    · rw [horchestrator, hdeployed]
      rfl

theorem ofMappings_object {mappings : Value} (h : ∃ es, mappings = .object es)
    (context : Entries) : ∃ vars, Variables.ofMappings mappings (.object context) = .ok vars := by
  obtain ⟨es, rfl⟩ := h
  rw [Variables.ofMappings]
  by_cases hempty : (!(Value.object es).truthy) = true
  · rw [if_pos hempty]
    exact ⟨_, rfl⟩
  · rw [if_neg hempty]
    exact ⟨_, rfl⟩

theorem displayName_known {t : Trigger} {type : TriggerType} (h : t.type = .known type) :
    ∃ name, t.displayName = .ok name := by
  rw [Trigger.displayName, h]
  by_cases hname : t.name.truthy = true
  · rw [if_pos hname]
    exact ⟨_, rfl⟩
  · rw [if_neg hname]
    exact ⟨_, rfl⟩

/-- The attempt that an event makes: its variables are mapped, and then it is carried through. -/
def attemptFor (t : Trigger) (context : Entries) : Action Execution := do
  let vars ← Action.ofExcept (Variables.ofMappings t.variableMappings (.object context))
  dispatch (← newAttempt t context vars {
    entityId := Value.entry context "entityId"
    startedById := (Value.entry context "userId").orElse (Value.entry context "createdById") })

/-- To fire a trigger is to make an attempt, with some fields bound meanwhile. -/
theorem fire_attempts {t : Trigger} {type : TriggerType} (htype : t.type = .known type)
    (context : Entries) (s : Automation) :
    ∃ s₁, Quiet s s₁ ∧ fire t (.object context) s =
      ((attemptFor t context s₁).1, { (attemptFor t context s₁).2 with bound := s.bound }) := by
  obtain ⟨name, hname⟩ := displayName_known htype
  have htypeName : t.type.name = .ok (.text type.name) := by
    rw [htype]
    rfl
  rw [fire, bind_ofExcept htypeName, binding_run, withBound_run, bind_ofExcept hname]
  generalize Log.bind s.bound (correlation t (.text type.name)) = bound
  have hbound : Quiet s { s with bound } := by constructor <;> rfl
  obtain ⟨s₁, hlogged, hquiet⟩ := log_quiet .engine Log.info
    ("Firing trigger " ++ t.id.shown ++ " (" ++ name.shown ++ ")") { s with bound }
  have hentries : (Value.object context).entries "get" = .ok context := rfl
  refine ⟨s₁, hbound.trans hquiet, ?_⟩
  rw [bind_ok hlogged, bind_ofExcept hentries]
  rfl

theorem attemptFor_run {t : Trigger} {context vars : Entries}
    (hvars : Variables.ofMappings t.variableMappings (.object context) = .ok vars)
    (s : Automation) : ∃ a, a.trigger = t ∧ a.vars = vars ∧ a.execution.triggerId = a.trigger.id ∧
      attemptFor t context s = dispatch a { s with supply := ⟨s.supply.drawn + 1⟩ } := by
  rw [attemptFor, bind_ofExcept hvars, bind_ok (newAttempt_run _ _ _ _ s)]
  exact ⟨_, rfl, rfl, rfl, rfl⟩

theorem fire_run (h : Ready s log) {t : Trigger} {type : TriggerType}
    (htype : t.type = .known type) (hmappings : ∃ es, t.variableMappings = .object es)
    (context : Entries) : ∃ e s', fire t (.object context) s = (.ok e, s') ∧
      s'.executions = .memory (log ++ [e]) ∧
      Attempted (.object context) s.orchestrator t e s'.orchestrator := by
  obtain ⟨vars, hvars⟩ := ofMappings_object hmappings context
  obtain ⟨s₁, hquiet, hfire⟩ := fire_attempts htype context s
  obtain ⟨a, rfl, rfl, hid, hattempt⟩ := attemptFor_run hvars s₁
  have h₁ : Ready { s₁ with supply := ⟨s₁.supply.drawn + 1⟩ } log := { h.ofQuiet hquiet with }
  obtain ⟨e, s₂, hdispatch, hlog, hattempted⟩ := dispatch_run h₁ htype hid hvars
  rw [hattempt, hdispatch] at hfire
  exact ⟨e, _, hfire, hlog, hquiet.orchestrator ▸ hattempted⟩

/-- Looking at the conditions of a trigger at most writes to the log. -/
theorem isMatch_run (t : Trigger) (context : Value) (s : Automation) :
    ∃ s', Quiet s s' ∧ ((t.isMatched context = false ∧ ∃ e, isMatch t context s = (.error e, s')) ∨
      isMatch t context s = (.ok (t.isMatched context), s')) := by
  rw [isMatch, Trigger.isMatched, Condition.holds]
  cases Condition.outcome t.conditions context with
  | error e => exact ⟨s, .refl s, .inl ⟨rfl, e, rfl⟩⟩
  | ok o =>
    rw [bind_ofExcept rfl]
    cases o.unevaluated with
    | none => exact ⟨s, .refl s, .inr rfl⟩
    | some e =>
      obtain ⟨s₁, hlogged, hquiet⟩ := log_quiet .conditions Log.warning
        ("Failed to evaluate custom expression: " ++ e.shown) s
      exact ⟨s₁, hquiet, .inr (bind_ok hlogged)⟩

/-- After its conditions are looked at, a trigger is fired if they hold. -/
theorem evaluateOne_run {t : Trigger} {type : TriggerType} (htype : t.type = .known type)
    (context : Value) (s : Automation) : ∃ s', Quiet s s' ∧
      ((t.isMatched context = false ∧ ∃ e, evaluateOne context t s = (.error e, s')) ∨
      evaluateOne context t s = (if t.isMatched context
        then (do return some (← fire t context))
        else return none : Action (Option Execution)) s') := by
  obtain ⟨s₁, hquiet, ⟨hmatched, e, hmatch⟩ | hmatch⟩ := isMatch_run t context s
  · exact ⟨s₁, hquiet, .inl ⟨hmatched, e, by rw [evaluateOne, bind_error hmatch]⟩⟩
  · have hsample : ∃ x, (do
        return .evaluation (← Action.ofExcept t.type.name).shown (t.isMatched context) :
        Action Sample) s₁ = (.ok x, s₁) := by
      rw [htype]
      exact ⟨_, rfl⟩
    obtain ⟨s₂, hcount, hquiet'⟩ := countIfMetered_run fun _ => hsample
    refine ⟨s₂, hquiet.trans hquiet', .inr ?_⟩
    rw [evaluateOne, bind_ok hmatch, bind_ok hcount]

/-- The triggers that match are accounted for, in their order, and no others. -/
theorem evaluateAll_run {type : TriggerType} (context : Entries) {ts : List Trigger}
    (h : Ready s log) (htypes : ∀ t ∈ ts, t.type = .known type)
    (hmappings : ∀ t ∈ ts, ∃ es, t.variableMappings = .object es) :
    ∃ rows s', evaluateAll (.object context) ts s = (.ok rows, s') ∧
      s'.executions = .memory (log ++ rows) ∧
      Accounted (.object context) s.orchestrator (ts.filter (·.isMatched (.object context))) rows
        s'.orchestrator := by
  induction ts generalizing s log with
  | nil => exact ⟨[], s, rfl, by rw [h.log, List.append_nil], .nil _⟩
  | cons t ts ih =>
    have htype := htypes t List.mem_cons_self
    have hrest : ∀ {s₁ : Automation} {log₁ : List Execution}, Ready s₁ log₁ → ∃ rows s',
        evaluateAll (.object context) ts s₁ = (.ok rows, s') ∧
        s'.executions = .memory (log₁ ++ rows) ∧ Accounted (.object context) s₁.orchestrator
          (ts.filter (·.isMatched (.object context))) rows s'.orchestrator := fun h₁ =>
      ih h₁ (fun t' ht' => htypes t' (List.mem_cons_of_mem t ht'))
        fun t' ht' => hmappings t' (List.mem_cons_of_mem t ht')
    have hone : Fired (fun _ => True) (fun _ => True) s (evaluateOne (.object context) t s).2 :=
      evaluateOne_fires (fun _ _ _ => trivial) (fun _ _ _ _ => trivial) s
    rw [evaluateAll, bind_ok (attempt_run _ s)]
    obtain ⟨s₁, hquiet, ⟨hmatched, e, hrun⟩ | hrun⟩ := evaluateOne_run htype (.object context) s
    · -- The conditions could not be evaluated.
      obtain ⟨s₂, hlogged, hquiet'⟩ := log_quiet .engine Log.error
        ("Error evaluating trigger " ++ t.id.shown ++ ": " ++ e.message) s₁
      have hquiet₂ := hquiet.trans hquiet'
      obtain ⟨rows, s₃, hall, hlog, haccounted⟩ := hrest (h.ofQuiet hquiet₂)
      rw [hquiet₂.orchestrator] at haccounted
      rw [hrun, List.filter_cons_of_neg (by simp [hmatched])]
      exact ⟨rows, s₃, (bind_ok hlogged).trans hall, hlog, haccounted⟩
    · cases hmatched : t.isMatched (.object context) with
      | false =>
        have hnone : evaluateOne (.object context) t s = (.ok none, s₁) := by
          rw [hrun, hmatched]
          rfl
        obtain ⟨rows, s₂, hall, hlog, haccounted⟩ := hrest (h.ofQuiet hquiet)
        rw [hquiet.orchestrator] at haccounted
        rw [hnone, List.filter_cons_of_neg (by simp [hmatched])]
        exact ⟨rows, s₂, bind_ok hall, hlog, haccounted⟩
      | true =>
        -- The others are accounted for from the state in which the start left the program.
        obtain ⟨e, s₂, hfire, hlog, hattempted⟩ :=
          fire_run (h.ofQuiet hquiet) htype (hmappings t List.mem_cons_self) context
        have hsome : evaluateOne (.object context) t s = (.ok (some e), s₂) := by
          rw [hrun, hmatched, if_pos rfl, bind_ok hfire]
          rfl
        rw [hsome] at hone
        obtain ⟨rows, s₃, hall, hlog', haccounted⟩ := hrest (h.ofFired hone hlog)
        rw [hquiet.orchestrator] at hattempted
        have hkept : (t :: ts).filter (·.isMatched (.object context)) =
            t :: ts.filter (·.isMatched (.object context)) := List.filter_cons_of_pos hmatched
        rw [hsome, hkept]
        refine ⟨e :: rows, s₃, bind_ok hall, ?_, .cons hattempted haccounted⟩
        rw [hlog', List.append_assoc, List.singleton_append]

theorem isAmong_type {t : Trigger} {f : TriggerFilter} {type : TriggerType}
    (h : t.isAmong f = true) (htype : f.type = some type) : t.type = .known type := by
  rw [Trigger.isAmong, htype] at h
  have his : t.type.is type = true := by
    simp only [Option.all_some, Bool.and_eq_true] at h
    exact h.1.1.2
  cases hfield : t.type with
  | other v =>
    rw [hfield] at his
    cases his
  | known type' =>
    rw [hfield] at his
    exact congrArg TypeField.known (beq_iff_eq.mp his)

/-- Every event is accounted for. Each of the triggers it is meant for that match it leaves exactly
one execution in the log, in their order and whatever becomes of the others. -/
theorem evaluate_accounts {s : Automation} (h : Reachable s)
    (hmappings : ∀ ts, s.triggers = .memory ts →
      ∀ t ∈ ts.items, ∃ es, t.variableMappings = .object es)
    (htimeout : s.config.startTimeout.isGreater (.int 0) = .ok true)
    (type : TriggerType) (context : Entries) (workspace : String) :
    ∃ ts log found rows s', s.triggers = .memory ts ∧ s.executions = .memory log ∧
      Registry.findActive type (.text workspace) s = (.ok found, s) ∧
      found.Perm (ts.items.filter (·.isAmong { workspaceId := some (.text workspace)
                                               type := some type
                                               isActive := some (.bool true) })) ∧
      (found.Pairwise fun t t' => t'.creation ≤ t.creation) ∧
      evaluate type (.object context) (.text workspace) s = (.ok rows, s') ∧
      s'.executions = .memory (log ++ rows) ∧
      Accounted (.object context) s.orchestrator (found.filter (·.isMatched (.object context))) rows
        s'.orchestrator ∧
      (s'.orchestrator.runs.map (·.handle.id)).Nodup := by
  have hwell := h.wellFormed
  obtain ⟨ts, hts, _⟩ := hwell.table
  obtain ⟨log, hlog⟩ := hwell.log
  obtain ⟨found, hsearch, hperm, hfalling⟩ := hwell.findTriggers_run hts
    { workspaceId := some (.text workspace), type := some type, isActive := some (.bool true) }
  have hfound : Registry.findActive type (.text workspace) s = (.ok found, s) := hsearch
  obtain ⟨s₁, hlogged, hquiet⟩ := log_quiet .engine Log.debug
    (s!"Evaluating {found.length} triggers of type " ++ type.name ++ " for workspace " ++
      (Value.text workspace).shown) s
  have hmeant : ∀ t ∈ found, t ∈ ts.items ∧ t.type = .known type := by
    intro t ht
    obtain ⟨hmem, hamong⟩ := List.mem_filter.mp (hperm.mem_iff.mp ht)
    exact ⟨hmem, isAmong_type hamong rfl⟩
  have hready : Ready s log := ⟨hwell.unbroken, hlog, hwell.noHangs, htimeout⟩
  obtain ⟨rows, s₂, hall, hlog', haccounted⟩ := evaluateAll_run context
    (hready.ofQuiet hquiet) (fun t ht => (hmeant t ht).2)
    fun t ht => hmappings ts hts t (hmeant t ht).1
  have hrun : evaluate type (.object context) (.text workspace) s = (.ok rows, s₂) := by
    rw [evaluate, bind_ok hfound, bind_ok hlogged, hall]
  have hfired := evaluate_keeps type (.object context) (.text workspace) s
  rw [hrun] at hfired
  rw [hquiet.orchestrator] at haccounted
  exact ⟨ts, log, found, rows, s₂, hts, hlog, hfound, hperm, hfalling, hrun, hlog', haccounted,
    (hwell.ofGrown (.ofFired hfired)).issued.nodup⟩

/-- A program that has one rule, for messages, and has deployed the definition it names. -/
def oneRule : Automation :=
  ({ clock := Stamp.ofInstant Stamp.epoch
     config := { startTimeout := .int 30 } } : Automation).after
    [.deploy ⟨.text "d1", .text "w1", .null, .text "k1"⟩,
      .create [("workspace_id", .text "w1"), ("process_definition_id", .text "d1"),
        ("trigger_type", .text "message")] .null]

theorem evaluate_accounts_oneRule : ∃ e s', oneRule.executions = .memory [] ∧
    evaluate .message (.object []) (.text "w1") oneRule = (.ok [e], s') ∧
    s'.executions = .memory [e] ∧ e.status = .success := by
  obtain ⟨t, ht, hmapped⟩ : ∃ t, oneRule.triggers = .memory [(.text "id-1", t)] ∧
      t.variableMappings = .object [] := ⟨_, rfl, rfl⟩
  have hitems : ∀ ts, oneRule.triggers = .memory ts → ts = [(.text "id-1", t)] := fun ts hts =>
    TriggerStore.memory.inj (hts.symm.trans ht)
  have hreachable : Reachable oneRule := ⟨_, _, by constructor <;> rfl, rfl⟩
  obtain ⟨ts, log, found, rows, s', hts, hlog, hfound, _, _, hrun, hlog', haccounted, _⟩ :=
    evaluate_accounts hreachable
      (fun ts hts t' ht' => by
        rw [hitems ts hts] at ht'
        exact ⟨[], List.mem_singleton.mp ht' ▸ hmapped⟩)
      rfl .message [] "w1"
  have hempty : oneRule.executions = .memory [] := rfl
  obtain rfl := ExecutionStore.memory.inj (hlog.symm.trans hempty)
  obtain ⟨t', hfound', hmatched, hfits⟩ : ∃ t', Registry.findActive .message (.text "w1") oneRule =
      (.ok [t'], oneRule) ∧ [t'].filter (·.isMatched (.object [])) = [t'] ∧
      oneRule.orchestrator.isDeployed t'.definitionId = true ∧
      oneRule.orchestrator.startErrors = [] := ⟨_, rfl, rfl, rfl, rfl⟩
  obtain rfl := Except.ok.inj (congrArg Prod.fst (hfound.symm.trans hfound'))
  rw [hmatched] at haccounted
  cases haccounted with
  | cons attempted rest =>
    cases rest
    exact ⟨_, s', hempty, hrun, hlog', attempted.success_iff.mpr hfits⟩

end Engine
end ProcessTriggers
