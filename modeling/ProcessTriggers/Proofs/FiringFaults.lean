import ProcessTriggers.Proofs.Attempts

/-!
When firing a trigger ends in an error. What goes wrong with the definition or the start is recorded
in a failed execution. What goes wrong before that, or while the outcome is counted, is not: the
mappings of a trigger are no object, a tick has no expression, or the type has no name to count.
-/

namespace ProcessTriggers

open Action Automation

namespace Trigger

/-- Whether the mappings of a trigger can be applied: they are an object, or they say nothing. -/
def hasMappings (t : Trigger) : Bool :=
  !t.variableMappings.truthy || (t.variableMappings matches .object _)

/-- Whether a tick of a trigger can be carried through: its mappings can be applied, an expression
is given or its conditions can be asked for one, and if counts are kept its type has a name. -/
def canTick (t : Trigger) (expression metrics : Value) : Bool :=
  t.hasMappings && (expression.truthy || t.cronExpression.isOk) &&
    (!metrics.truthy || t.type.name.isOk)

theorem isOk_tickExpression (t : Trigger) (given : Value) :
    (t.tickExpression given).isOk = (given.truthy || t.cronExpression.isOk) := by
  rw [tickExpression]
  cases given.truthy <;> rfl

theorem ofMappings_of_hasMappings {t : Trigger} (h : t.hasMappings = true) (context : Entries) :
    ∃ vars, Variables.ofMappings t.variableMappings (.object context) = .ok vars := by
  rw [Variables.ofMappings]
  by_cases hfalsy : (!t.variableMappings.truthy) = true
  · rw [if_pos hfalsy]
    exact ⟨_, rfl⟩
  · rw [hasMappings, Bool.eq_false_iff.mpr hfalsy, Bool.false_or] at h
    rw [if_neg hfalsy]
    cases hmappings : t.variableMappings with
    | object es => exact ⟨_, rfl⟩
    | _ =>
      rw [hmappings] at h
      cases h

theorem ofMappings_of_not_hasMappings {t : Trigger} (h : t.hasMappings = false)
    (context : Entries) : Variables.ofMappings t.variableMappings (.object context) =
      .error (t.variableMappings.lacks "items") := by
  obtain ⟨htruthy, hobject⟩ := Bool.or_eq_false_iff.mp h
  rw [Variables.ofMappings, htruthy, if_neg Bool.false_ne_true]
  cases hmappings : t.variableMappings with
  | object es =>
    rw [hmappings] at hobject
    cases hobject
  | _ => rfl

end Trigger

theorem exists_eq_ok_of_isOk {ε α : Type} {r : Except ε α} (h : r.isOk = true) :
    ∃ x, r = .ok x := by
  cases r with
  | ok x => exact ⟨x, rfl⟩
  | error e => cases h

theorem exists_eq_error_of_not_isOk {ε α : Type} {r : Except ε α} (h : r.isOk = false) :
    ∃ e, r = .error e := by
  cases r with
  | ok x => cases h
  | error e => exact ⟨e, rfl⟩

/-- An execution says how its attempt went: that a process was started, or in words why none was. -/
def Execution.IsSettled (e : Execution) : Prop :=
  e.status = .success ∨
    e.status = .failed ∧ ∃ message, e.errorMessage = .text message ∧ message ≠ ""

namespace Engine

/-- What the attempts to fire some triggers leave. The log has one more row for each of them, in
their order, and those that tell of success name the runs that were added. -/
structure Recorded (ts : List Trigger) (rows : List Execution) (s s' : Automation) : Prop where
  log : ∃ log, s.executions = .memory log ∧ s'.executions = .memory (log ++ rows)
  triggers : rows.map (·.triggerId) = ts.map (·.id)
  settled : ∀ e ∈ rows, e.IsSettled
  runs : ∃ added, s'.orchestrator.runs = s.orchestrator.runs ++ added ∧
    (rows.filter (·.succeeded)).map (·.processInstanceId) =
      added.map fun run => Value.text run.handle.id

namespace Recorded

variable {ts ts' : List Trigger} {rows rows' : List Execution} {s s' s'' : Automation}

theorem ofQuiet {log : List Execution} (hlog : s.executions = .memory log) (h : Quiet s s') :
    Recorded [] [] s s' where
  log := ⟨log, hlog, by rw [h.executions, hlog, List.append_nil]⟩
  triggers := rfl
  settled _ he := absurd he List.not_mem_nil
  runs := ⟨[], by rw [h.orchestrator, List.append_nil], rfl⟩

theorem trans (h : Recorded ts rows s s') (h' : Recorded ts' rows' s' s'') :
    Recorded (ts ++ ts') (rows ++ rows') s s'' where
  log := by
    obtain ⟨log, hlog, hlog'⟩ := h.log
    obtain ⟨log', hbefore, hafter⟩ := h'.log
    obtain rfl := ExecutionStore.memory.inj (hlog'.symm.trans hbefore)
    exact ⟨log, hlog, by rw [hafter, List.append_assoc]⟩
  triggers := by rw [List.map_append, List.map_append, h.triggers, h'.triggers]
  settled e he := (List.mem_append.mp he).elim (h.settled e) (h'.settled e)
  runs := by
    obtain ⟨added, hruns, hnamed⟩ := h.runs
    obtain ⟨added', hruns', hnamed'⟩ := h'.runs
    refine ⟨added ++ added', by rw [hruns', hruns, List.append_assoc], ?_⟩
    rw [List.filter_append, List.map_append, List.map_append, hnamed, hnamed']

theorem congr (h : Recorded ts rows s s') {s₁ s₂ : Automation}
    (hlog : s₁.executions = s.executions) (hruns : s₁.orchestrator.runs = s.orchestrator.runs)
    (hlog' : s₂.executions = s'.executions)
    (hruns' : s₂.orchestrator.runs = s'.orchestrator.runs) : Recorded ts rows s₁ s₂ where
  log := by rw [hlog, hlog']; exact h.log
  triggers := h.triggers
  settled := h.settled
  runs := by rw [hruns, hruns']; exact h.runs

/-- The one row that an attempt with a known outcome leaves. -/
theorem ofOutcome {log : List Execution} {a : Attempt} {outcome : Except Error StartedRun}
    (hid : a.execution.triggerId = a.trigger.id) (hlog : s.executions = .memory log)
    (hlog' : s'.executions = .memory (log ++ [outcomeOf a outcome]))
    (hruns : s'.orchestrator.runs = s.orchestrator.runs ++ startedRuns outcome) :
    Recorded [a.trigger] [outcomeOf a outcome] s s' where
  log := ⟨log, hlog, hlog'⟩
  triggers := by
    rw [List.map_singleton, List.map_singleton, outcomeOf_triggerId, hid]
  settled e he := by
    rw [List.mem_singleton.mp he]
    cases outcome with
    | ok run => exact .inl rfl
    | error cause => exact .inr (outcomeOf_error a cause)
  runs := by
    refine ⟨startedRuns outcome, hruns, ?_⟩
    cases outcome <;> rfl

end Recorded

variable {s : Automation} {log : List Execution}

/-- Whatever goes wrong with its definition or its start, an attempt is recorded. -/
theorem dispatch_records (hbroken : s.broken = []) (hlog : s.executions = .memory log)
    {a : Attempt} (hid : a.execution.triggerId = a.trigger.id)
    (hnamed : s.config.metrics.truthy = true → ∃ name, a.trigger.type.name = .ok name) :
    ∃ e s', dispatch a s = (.ok e, s') ∧ Recorded [a.trigger] [e] s s' := by
  obtain ⟨outcome, s', hdispatch, _, happended, hruns, _⟩ := dispatch_appends hbroken hnamed
  rw [ExecutionStore.appended_memory hlog] at happended
  exact ⟨_, s', hdispatch, .ofOutcome hid hlog happended hruns⟩

/-- The attempt of a trigger whose type has no name is not recorded if it is to be counted. -/
theorem dispatch_raises {a : Attempt} {cause : Error} (hmetered : s.config.metrics.truthy = true)
    (hname : a.trigger.type.name = .error cause) :
    ∃ s', dispatch a s = (.error cause, s') ∧ s'.executions = s.executions := by
  obtain ⟨outcome, s₁, hdispatch, hunrecorded, _, _⟩ := dispatch_concludes a s
  obtain ⟨s₂, hconclude, hlog⟩ := conclude_raises (hunrecorded.config ▸ hmetered) hname outcome
  exact ⟨s₂, hdispatch.trans hconclude, hlog.trans hunrecorded.executions_eq⟩

/-! Events. -/

/-- Firing a trigger whose mappings can be applied is recorded. -/
theorem fire_records (hbroken : s.broken = []) (hlog : s.executions = .memory log) {t : Trigger}
    {type : TriggerType} (htype : t.type = .known type) (hmappings : t.hasMappings = true)
    (context : Entries) :
    ∃ e s', fire t (.object context) s = (.ok e, s') ∧ Recorded [t] [e] s s' := by
  obtain ⟨vars, hvars⟩ := t.ofMappings_of_hasMappings hmappings context
  obtain ⟨s₁, hquiet, hfire⟩ := fire_attempts htype context s
  obtain ⟨a, rfl, _, hid, hattempt⟩ := attemptFor_run hvars s₁
  have hnamed : ∃ name, a.trigger.type.name = .ok name := ⟨_, congrArg TypeField.name htype⟩
  have hlog₁ : s₁.executions = .memory log := hquiet.executions.trans hlog
  have hbroken₁ : s₁.broken = [] := hquiet.broken.trans hbroken
  obtain ⟨e, s₂, hdispatch, hrecorded⟩ := dispatch_records
    (s := { s₁ with supply := ⟨s₁.supply.drawn + 1⟩ }) hbroken₁ hlog₁ hid fun _ => hnamed
  rw [hattempt, hdispatch] at hfire
  refine ⟨e, _, hfire, hrecorded.congr hquiet.executions.symm ?_ rfl rfl⟩
  rw [hquiet.orchestrator]

/-- Firing a trigger whose mappings cannot be applied ends in an error, and nothing happens. -/
theorem fire_raises {t : Trigger} {type : TriggerType} (htype : t.type = .known type)
    (hmappings : t.hasMappings = false) (context : Entries) (s : Automation) :
    ∃ s', fire t (.object context) s = (.error (t.variableMappings.lacks "items"), s') ∧
      Quiet s s' := by
  obtain ⟨s₁, hquiet, hfire⟩ := fire_attempts htype context s
  have hattempt : attemptFor t context s₁ =
      (.error (t.variableMappings.lacks "items"), s₁) := by
    rw [attemptFor, bind_ofExcept_error (t.ofMappings_of_not_hasMappings hmappings context)]
  rw [hattempt] at hfire
  exact ⟨_, hfire, hquiet.trans (by constructor <;> rfl)⟩

/-- The executions that the evaluation of one trigger yields; an error yields none. -/
def rowsOf : Except Error (Option Execution) → List Execution
  | .ok e => e.toList
  | .error _ => []

/-- Evaluating a trigger records an attempt if it matches and its mappings can be applied. -/
theorem evaluateOne_records (hbroken : s.broken = []) (hlog : s.executions = .memory log)
    {t : Trigger} {type : TriggerType} (htype : t.type = .known type) (context : Entries) :
    ∃ r s', evaluateOne (.object context) t s = (r, s') ∧
      Recorded ([t].filter fun t => t.isMatched (.object context) && t.hasMappings)
        (rowsOf r) s s' := by
  obtain ⟨s₁, hquiet, ⟨hmatched, e, hrun⟩ | hrun⟩ := evaluateOne_run htype (.object context) s
  · rw [List.filter_singleton, hmatched]
    exact ⟨_, s₁, hrun, .ofQuiet hlog hquiet⟩
  · have hbroken₁ : s₁.broken = [] := hquiet.broken.trans hbroken
    have hlog₁ : s₁.executions = .memory log := hquiet.executions.trans hlog
    rw [List.filter_singleton]
    cases hmatched : t.isMatched (.object context) with
    | false =>
      rw [hmatched] at hrun
      exact ⟨_, s₁, hrun, .ofQuiet hlog hquiet⟩
    | true =>
      rw [hmatched, if_pos rfl] at hrun
      cases hmappings : t.hasMappings with
      | false =>
        obtain ⟨s₂, hfire, hquiet'⟩ := fire_raises htype hmappings context s₁
        exact ⟨_, s₂, hrun.trans (bind_error hfire), .ofQuiet hlog (hquiet.trans hquiet')⟩
      | true =>
        obtain ⟨e, s₂, hfire, hrecorded⟩ := fire_records hbroken₁ hlog₁ htype hmappings context
        have hwhole : Recorded [t] [e] s s₂ := (Recorded.ofQuiet hlog hquiet).trans hrecorded
        exact ⟨.ok (some e), s₂, hrun.trans (bind_ok hfire), hwhole⟩

/-- Of the triggers that match, those whose mappings can be applied are recorded, and no others. -/
theorem evaluateAll_records {type : TriggerType} (context : Entries) {ts : List Trigger}
    (hbroken : s.broken = []) (hlog : s.executions = .memory log)
    (htypes : ∀ t ∈ ts, t.type = .known type) :
    ∃ rows s', evaluateAll (.object context) ts s = (.ok rows, s') ∧
      Recorded (ts.filter fun t => t.isMatched (.object context) && t.hasMappings) rows s s' := by
  induction ts generalizing s log with
  | nil => exact ⟨[], s, rfl, .ofQuiet hlog (.refl s)⟩
  | cons t ts ih =>
    have hfired : Fired (fun _ => True) (fun _ => True) s (evaluateOne (.object context) t s).2 :=
      evaluateOne_fires (fun _ _ _ => trivial) (fun _ _ _ _ => trivial) s
    obtain ⟨r, s₁, hone, hrecorded⟩ :=
      evaluateOne_records hbroken hlog (htypes t List.mem_cons_self) context
    rw [hone] at hfired
    obtain ⟨_, _, hlog₁⟩ := hrecorded.log
    have hbroken₁ : s₁.broken = [] := hfired.broken.trans hbroken
    have hrest := fun t' ht' => htypes t' (List.mem_cons_of_mem t ht')
    rw [evaluateAll, bind_ok (attempt_run _ s), hone, ← List.singleton_append, List.filter_append]
    cases r with
    | ok e =>
      obtain ⟨rows, s₂, hall, hothers⟩ := ih hbroken₁ hlog₁ hrest
      exact ⟨e.toList ++ rows, s₂, bind_ok hall, hrecorded.trans hothers⟩
    | error cause =>
      obtain ⟨s₂, hlogged, hquiet⟩ := log_quiet .engine Log.error
        ("Error evaluating trigger " ++ t.id.shown ++ ": " ++ cause.message) s₁
      obtain ⟨rows, s₃, hall, hothers⟩ :=
        ih (hquiet.broken.trans hbroken₁) (hquiet.executions.trans hlog₁) hrest
      have hsilent := hrecorded.trans ((Recorded.ofQuiet hlog₁ hquiet).trans hothers)
      exact ⟨rows, s₃, (bind_ok hlogged).trans hall, hsilent⟩

/-! Ticks. -/

/-- The attempt of a tick that is begun in some state. Its execution has the next identifier and
tells what is known of the tick, and its variables are mapped from that, with the ones that the
mappings cannot change put over them. -/
structure Scheduled (t : Trigger) (expression : Value) (s : Automation) (a : Attempt) : Prop where
  trigger : a.trigger = t
  execution : a.execution = ⟨.text (Supply.idText (s.supply.drawn + 1)), t.id,
    .object (scheduledContext t expression (Stamp.ofInstant s.clock.instant)), .pending, .null,
    .null, .stamp (Stamp.ofInstant s.clock.instant)⟩
  vars : ∃ mapped, Variables.ofMappings t.variableMappings
    (.object (scheduledContext t expression (Stamp.ofInstant s.clock.instant))) = .ok mapped ∧
      a.vars = mapped.merge (scheduledVariables t expression (Stamp.ofInstant s.clock.instant))

theorem scheduledAttempt_run {t : Trigger} (hmappings : t.hasMappings = true) (expression : Value)
    (s : Automation) : ∃ a s₁, scheduledAttempt t expression s = (.ok (some a), s₁) ∧
      Scheduled t expression s a ∧ Quiet { s with supply := ⟨s.supply.drawn + 1⟩ } s₁ := by
  obtain ⟨vars, hvars⟩ := t.ofMappings_of_hasMappings hmappings
    (scheduledContext t expression (Stamp.ofInstant s.clock.instant))
  rw [scheduledAttempt, bind_ok (now_run s)]
  dsimp only
  rw [bind_ofExcept hvars, binding_run, withBound_run, bind_ok (log_run _ _ _ _),
    bind_ok (newAttempt_run _ _ _ _ _)]
  exact ⟨_, _, rfl, ⟨rfl, rfl, vars, hvars, rfl⟩, by constructor <;> rfl⟩

theorem scheduledAttempt_raises {t : Trigger} (hmappings : t.hasMappings = false)
    (expression : Value) (s : Automation) :
    scheduledAttempt t expression s = (.error (t.variableMappings.lacks "items"), s) := by
  rw [scheduledAttempt, bind_ok (now_run s)]
  exact bind_ofExcept_error (t.ofMappings_of_not_hasMappings hmappings _) _ s

theorem fireScheduled_of_begun {id expression : Value} {a : Attempt} {s₁ : Automation}
    (h : beginScheduled id expression s = (.ok (some a), s₁)) :
    fireScheduled id expression s = (do return some (← dispatch a)) s₁ := by
  rw [fireScheduled, bind_ok h]

theorem fireScheduled_of_error {id expression : Value} {cause : Error}
    (h : beginScheduled id expression s = (.error cause, s)) :
    ∃ cause s', fireScheduled id expression s = (.error cause, s') ∧
      s'.executions = s.executions := by
  rw [fireScheduled, bind_error h]
  exact ⟨cause, s, rfl, rfl⟩

/-- A tick of an active trigger is recorded, or it ends in an error and leaves no execution. -/
theorem fireScheduled_records (hbroken : s.broken = []) (hlog : s.executions = .memory log)
    {id : Value} {t : Trigger} (hget : getTrigger id s = (.ok (some t), s))
    (hactive : t.isActive.truthy = true) (expression : Value) :
    if t.canTick expression s.config.metrics
    then ∃ e s', fireScheduled id expression s = (.ok (some e), s') ∧ Recorded [t] [e] s s'
    else ∃ cause s', fireScheduled id expression s = (.error cause, s') ∧
      s'.executions = s.executions := by
  have hbegin := beginScheduled_run hget hactive expression
  rw [Trigger.canTick, ← Trigger.isOk_tickExpression]
  cases hexpression : t.tickExpression expression with
  | error cause =>
    have hnone : (.error cause : Except Error Value).isOk = false := rfl
    rw [bind_ofExcept_error hexpression] at hbegin
    rw [hnone, Bool.and_false, Bool.false_and, if_neg Bool.false_ne_true]
    exact fireScheduled_of_error hbegin
  | ok expression' =>
    have hsome : (.ok expression' : Except Error Value).isOk = true := rfl
    rw [bind_ofExcept hexpression] at hbegin
    rw [hsome, Bool.and_true]
    cases hmappings : t.hasMappings with
    | false =>
      rw [scheduledAttempt_raises hmappings] at hbegin
      rw [Bool.false_and, if_neg Bool.false_ne_true]
      exact fireScheduled_of_error hbegin
    | true =>
      obtain ⟨a, s₁, hattempt, ⟨rfl, hexecution, _⟩, hquiet⟩ :=
        scheduledAttempt_run hmappings expression' s
      have hid : a.execution.triggerId = a.trigger.id := congrArg Execution.triggerId hexecution
      rw [hattempt] at hbegin
      have hlog₁ : s₁.executions = .memory log := hquiet.executions.trans hlog
      have hfire := fireScheduled_of_begun hbegin
      rw [Bool.true_and]
      by_cases hnamed : (!s.config.metrics.truthy || a.trigger.type.name.isOk) = true
      · rw [if_pos hnamed]
        have hnamed₁ : s₁.config.metrics.truthy = true → ∃ name,
            a.trigger.type.name = .ok name := by
          intro hmetered
          rw [hquiet.config] at hmetered
          rw [hmetered, Bool.not_true, Bool.false_or] at hnamed
          exact exists_eq_ok_of_isOk hnamed
        obtain ⟨e, s₂, hdispatch, hrecorded⟩ :=
          dispatch_records (hquiet.broken.trans hbroken) hlog₁ hid hnamed₁
        refine ⟨e, s₂, hfire.trans (bind_ok hdispatch),
          hrecorded.congr hquiet.executions.symm ?_ rfl rfl⟩
        rw [hquiet.orchestrator]
      · rw [if_neg hnamed]
        obtain ⟨hmetered, hunnamed⟩ :=
          Bool.or_eq_false_iff.mp (Bool.eq_false_iff.mpr hnamed)
        rw [Bool.not_eq_false', ← hquiet.config] at hmetered
        obtain ⟨cause, hname⟩ := exists_eq_error_of_not_isOk hunnamed
        obtain ⟨s₂, hdispatch, hkept⟩ := dispatch_raises hmetered hname
        exact ⟨cause, s₂, hfire.trans (bind_error hdispatch), hkept.trans hquiet.executions⟩

end Engine

namespace Automation

/-- The states that a program in memory can reach, where the next starts may also be made to
hang. -/
def Attainable (s : Automation) : Prop := Reachable { s with orchestrator.hangs := 0 }

theorem Attainable.unbroken {s : Automation} (h : Attainable s) : s.broken = [] :=
  h.wellFormed.unbroken

theorem Attainable.log {s : Automation} (h : Attainable s) :
    ∃ log, s.executions = .memory log := h.wellFormed.log

theorem Attainable.table {s : Automation} (h : Attainable s) :
    ∃ ts, s.triggers = .memory ts ∧ Trigger.Table s.supply ts := h.wellFormed.table

end Automation

namespace Engine

/-- Which attempts are recorded. An event is recorded for just those of the triggers it matches
whose mappings can be applied, and a tick just if it can be carried through; any other attempt ends
in an error and leaves no execution. -/
theorem attempts_recorded_iff {s : Automation} (h : Attainable s) :
    ∃ ts, s.triggers = .memory ts ∧
      (∀ (t : Trigger) (type : TriggerType) (context : Entries), t.type = .known type →
        if t.hasMappings
        then ∃ e s', fire t (.object context) s = (.ok e, s') ∧ Recorded [t] [e] s s'
        else ∃ s', fire t (.object context) s =
          (.error (t.variableMappings.lacks "items"), s') ∧ Quiet s s') ∧
      (∀ (id : Value) (t : Trigger) (expression : Value), (id, t) ∈ ts →
        t.isActive.truthy = true →
        if t.canTick expression s.config.metrics
        then ∃ e s', fireScheduled id expression s = (.ok (some e), s') ∧ Recorded [t] [e] s s'
        else ∃ cause s', fireScheduled id expression s = (.error cause, s') ∧
          s'.executions = s.executions) ∧
      ∀ (type : TriggerType) (context : Entries) (workspaceId : Value), ∃ found rows s',
        Registry.findActive type workspaceId s = (.ok found, s) ∧
        found.Perm (ts.items.filter (·.isAmong { workspaceId := Registry.given workspaceId
                                                 type := some type
                                                 isActive := some (.bool true) })) ∧
        evaluate type (.object context) workspaceId s = (.ok rows, s') ∧
        Recorded (found.filter fun t => t.isMatched (.object context) && t.hasMappings) rows
          s s' := by
  obtain ⟨ts, hts, htable⟩ := h.table
  obtain ⟨log, hlog⟩ := h.log
  refine ⟨ts, hts, fun t type context htype => ?_, fun id t expression hmem hactive => ?_,
    fun type context workspaceId => ?_⟩
  · cases hmappings : t.hasMappings with
    | true => exact fire_records h.unbroken hlog htype hmappings context
    | false => exact fire_raises htype hmappings context s
  · have hget : getTrigger id s = (.ok (some t), s) := by
      obtain ⟨text, rfl⟩ := htable.texts.text id (Keyed.mem_keys hmem)
      rw [getTrigger_inMemory h.unbroken hts, TriggerStore.get, Value.asKey_text]
      exact congrArg (fun found => (Except.ok found, s)) (htable.texts.get?_eq_some_iff.mpr hmem)
    exact fireScheduled_records h.unbroken hlog hget hactive expression
  · obtain ⟨found, hfind, hperm, _⟩ := htable.find_run
      { workspaceId := Registry.given workspaceId, type := some type,
        isActive := some (.bool true) }
    have hfound : Registry.findActive type workspaceId s = (.ok found, s) := by
      rw [Registry.findActive, findTriggers_inMemory h.unbroken hts, hfind]
    have htypes : ∀ t ∈ found, t.type = .known type := fun t ht =>
      isAmong_type (List.mem_filter.mp (hperm.mem_iff.mp ht)).2 rfl
    obtain ⟨s₁, hlogged, hquiet⟩ := log_quiet .engine Log.debug
      (s!"Evaluating {found.length} triggers of type " ++ type.name ++ " for workspace " ++
        workspaceId.shown) s
    obtain ⟨rows, s₂, hall, hrecorded⟩ := evaluateAll_records context
      (hquiet.broken.trans h.unbroken) (hquiet.executions.trans hlog) htypes
    refine ⟨found, rows, s₂, hfound, hperm, ?_, (Recorded.ofQuiet hlog hquiet).trans hrecorded⟩
    rw [evaluate, bind_ok hfound, bind_ok hlogged, hall]

/-- A program with a cron trigger whose mappings are a list. -/
def listMappings : Automation :=
  ({ clock := Stamp.ofInstant Stamp.epoch } : Automation).after
    [.deploy ⟨.text "d1", .text "w1", .null, .text "k1"⟩,
      .create [("workspace_id", .text "w1"), ("process_definition_id", .text "d1"),
        ("trigger_type", .text "cron"),
        ("conditions", .object [("expression", .text "* * * * *")]),
        ("variable_mappings", .list [.text "$.expression"])] .null]

theorem attempts_recorded_iff_listMappings :
    ∃ e s', fireScheduled (.text "id-1") .null listMappings = (.error e, s') ∧
      s'.executions = .memory [] := by
  obtain ⟨t, ht, hactive, hunfit⟩ : ∃ t, listMappings.triggers = .memory [(.text "id-1", t)] ∧
      t.isActive.truthy = true ∧ t.canTick .null listMappings.config.metrics = false :=
    ⟨_, rfl, rfl, rfl⟩
  have hreachable : Attainable listMappings := ⟨_, _, by constructor <;> rfl, rfl⟩
  obtain ⟨ts, hts, _, hticks, _⟩ := attempts_recorded_iff hreachable
  obtain rfl := TriggerStore.memory.inj (ht.symm.trans hts)
  have htick := hticks (.text "id-1") t .null List.mem_cons_self hactive
  rw [hunfit, if_neg Bool.false_ne_true] at htick
  exact htick

end Engine
end ProcessTriggers
