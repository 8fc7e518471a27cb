import ProcessTriggers.Engine
import ProcessTriggers.Proofs.Silence
import ProcessTriggers.Proofs.Tables

/-!
What firing triggers can change. Executions and runs are only added, identifiers and queued start
errors only used up, and of the stored triggers only the numbers of their starts change.
-/

namespace ProcessTriggers

open Action Automation

namespace Keyed

variable {α β : Type}

/-- What does not tell the new item of a key from the old one sees no change. -/
theorem map_put_of_get? (f : α → β) {t : Keyed α} {key : Value} {x y : α}
    (hget : t.get? key = some x) (hf : f y = f x) :
    (t.put key y).map (fun e => (e.1, f e.2)) = t.map fun e => (e.1, f e.2) := by
  induction t with
  | nil => cases hget
  | cons e t ih =>
    rw [get?, List.find?_cons] at hget
    by_cases heq : e.1.equal key = true
    · rw [heq] at hget
      have hx : e.2 = x := Option.some.inj hget
      rw [put, if_pos heq, List.map_cons, List.map_cons, hf, hx]
    · rw [Bool.eq_false_iff.mpr heq] at hget
      rw [put, if_neg heq, List.map_cons, List.map_cons, ih hget]

end Keyed

theorem Entries.filter_put (p : String → Bool) {key : String} (hkey : p key = false) (v : Value)
    (es : Entries) : (es.put key v).filter (fun e => p e.1) = es.filter fun e => p e.1 := by
  induction es with
  | nil => simp [put, hkey]
  | cons e es ih =>
    by_cases heq : e.1 = key
    · rw [put, if_pos heq, List.filter_cons, List.filter_cons, heq, hkey]
      rfl
    · rw [put, if_neg heq, List.filter_cons, List.filter_cons, ih]

/-- A trigger without the numbers of its starts. -/
def Trigger.rule (t : Trigger) : Trigger :=
  { t with triggerCount := .null, lastTriggeredAt := .null }

namespace TriggerStore

/-- The columns that count the starts of a trigger. -/
def fireColumns : List String := ["trigger_count", "last_triggered_at"]

/-- The stored triggers without the numbers of their starts. -/
def rules : TriggerStore → TriggerStore
  | .memory ts => .memory (ts.map fun e => (e.1, e.2.rule))
  | .relation rows => .relation (rows.map fun row => row.filter fun e => !fireColumns.contains e.1)

theorem rules_recordFire {store store' : TriggerStore} {id : Value} {firedAt : Stamp}
    (h : store.recordFire id firedAt = .ok store') : store'.rules = store.rules := by
  cases store with
  | memory ts =>
    cases hkey : id.asKey with
    | error e =>
      rw [recordFire, hkey] at h
      cases h
    | ok key =>
      cases hget : ts.get? key with
      | none =>
        simp only [recordFire, hkey, hget, bind, Except.bind, pure, Except.pure,
          Except.ok.injEq] at h
        rw [← h]
      | some t =>
        cases hcount : t.triggerCount.increment with
        | error e => simp [recordFire, hkey, hget, hcount, bind, Except.bind] at h
        | ok count =>
          simp only [recordFire, hkey, hget, hcount, bind, Except.bind, pure, Except.pure,
            Except.ok.injEq] at h
          rw [← h]
          -- The trigger that is put back has the rule of the one it replaces.
          exact congrArg memory (Keyed.map_put_of_get? Trigger.rule hget rfl)
  | relation rows =>
    cases hbound : Relation.bindAt 2 id with
    | error e =>
      rw [recordFire, hbound] at h
      cases h
    | ok bound =>
      simp only [recordFire, hbound, bind, Except.bind, pure, Except.pure, Except.ok.injEq] at h
      rw [← h, rules, rules, List.map_map]
      -- Both columns that are written are left out of the rules.
      refine congrArg TriggerStore.relation (List.map_congr_left fun row _ => ?_)
      by_cases hmeant : Relation.isAt "id" bound row = true
      · simp only [Function.comp, hmeant, if_true]
        rw [Entries.filter_put (fun name => !fireColumns.contains name) (by decide),
          Entries.filter_put (fun name => !fireColumns.contains name) (by decide)]
      · simp only [Function.comp, hmeant, Bool.false_eq_true, if_false]

theorem mem_of_rules {ts ts' : Keyed Trigger} (h : (memory ts').rules = (memory ts).rules)
    {e' : Value × Trigger} (he' : e' ∈ ts') : ∃ e ∈ ts, e.1 = e'.1 ∧ e.2.rule = e'.2.rule := by
  have hmem : (e'.1, e'.2.rule) ∈ ts.map fun e => (e.1, e.2.rule) := by
    rw [← memory.inj h]
    exact List.mem_map_of_mem he'
  obtain ⟨e, he, heq⟩ := List.mem_map.mp hmem
  exact ⟨e, he, Prod.mk.inj heq⟩

end TriggerStore

namespace ExecutionStore

/-- The second log is the first with rows added at the end, each for an execution in `row`. -/
def Extends (row : Execution → Prop) : ExecutionStore → ExecutionStore → Prop
  | .memory rows, .memory rows' => ∃ added, rows' = rows ++ added ∧ ∀ e ∈ added, row e
  | .relation rows, .relation rows' => ∃ added, rows' = rows ++ added ∧
      ∀ r ∈ added, ∃ e es, row e ∧ e.toRow = .ok es ∧ Execution.schema.row es = .ok r
  | _, _ => False

variable {row : Execution → Prop}

theorem Extends.refl (store : ExecutionStore) : store.Extends row store := by
  cases store with
  | memory rows => exact ⟨[], (List.append_nil rows).symm, fun _ h => absurd h List.not_mem_nil⟩
  | relation rows => exact ⟨[], (List.append_nil rows).symm, fun _ h => absurd h List.not_mem_nil⟩

theorem Extends.trans {store store' store'' : ExecutionStore} (h : store.Extends row store')
    (h' : store'.Extends row store'') : store.Extends row store'' := by
  -- No log extends one of the other kind.
  match store, store', store'', h, h' with
  | .memory _, .memory _, .memory _, ⟨added, hrows, hadded⟩, ⟨added', hrows', hadded'⟩ =>
    refine ⟨added ++ added', by rw [hrows', hrows, List.append_assoc], fun e he => ?_⟩
    exact (List.mem_append.mp he).elim (hadded e) (hadded' e)
  | .relation _, .relation _, .relation _, ⟨added, hrows, hadded⟩, ⟨added', hrows', hadded'⟩ =>
    refine ⟨added ++ added', by rw [hrows', hrows, List.append_assoc], fun r hr => ?_⟩
    exact (List.mem_append.mp hr).elim (hadded r) (hadded' r)

theorem Extends.mono {row' : Execution → Prop} {store store' : ExecutionStore}
    (h : store.Extends row store') (hrow : ∀ e, row e → row' e) : store.Extends row' store' := by
  match store, store', h with
  | .memory _, .memory _, ⟨added, hrows, hadded⟩ =>
    exact ⟨added, hrows, fun e he => hrow e (hadded e he)⟩
  | .relation _, .relation _, ⟨added, hrows, hadded⟩ =>
    refine ⟨added, hrows, fun r hr => ?_⟩
    obtain ⟨e, es, he, hes⟩ := hadded r hr
    exact ⟨e, es, hrow e he, hes⟩

theorem extends_append {store store' : ExecutionStore} {e : Execution}
    (h : store.append e = .ok store') (he : row e) : store.Extends row store' := by
  cases store with
  | memory rows =>
    rw [← Except.ok.inj h]
    exact ⟨[e], rfl, fun x hx => List.mem_singleton.mp hx ▸ he⟩
  | relation rows =>
    cases hes : e.toRow with
    | error cause => simp [append, hes, bind, Except.bind] at h
    | ok es =>
      cases hr : Execution.schema.row es with
      | error cause => simp [append, Relation.insert, hes, hr, bind, Except.bind] at h
      | ok r =>
        -- A row that is missing a value, or whose identifier is taken, would have been refused.
        have hadded : store' = .relation (rows ++ [r]) := by
          simp only [append, Relation.insert, hes, hr, bind, Except.bind, pure, Except.pure] at h
          cases hnull : Execution.schema.checkRequired r with
          | error cause => simp [hnull] at h
          | ok _ =>
            simp only [hnull] at h
            split at h
            · cases h
            · next hinsert =>
              split at hinsert
              · cases hinsert
              · rw [← Except.ok.inj h, ← Except.ok.inj hinsert]
        rw [hadded]
        exact ⟨[r], rfl, fun x hx => List.mem_singleton.mp hx ▸ ⟨e, es, he, hes, hr⟩⟩

end ExecutionStore

namespace Automation

/-- What firing triggers leaves between two states, where each new execution is in `row` and each
new run in `run`. -/
structure Fired (row : Execution → Prop) (run : StartedRun → Prop) (s s' : Automation) : Prop where
  config : s'.config = s.config
  clock : s'.clock = s.clock
  broken : s'.broken = s.broken
  linksRuns : s'.linksRuns = s.linksRuns
  listener : s'.listener = s.listener
  scheduler : s'.scheduler = s.scheduler
  gauge : s'.metrics.timers = s.metrics.timers
  definitions : s'.orchestrator.definitions = s.orchestrator.definitions
  supply : s.supply.drawn ≤ s'.supply.drawn
  rules : s'.triggers.rules = s.triggers.rules
  executions : s.executions.Extends row s'.executions
  startErrors : s'.orchestrator.startErrors <:+ s.orchestrator.startErrors
  hangs : s'.orchestrator.hangs ≤ s.orchestrator.hangs
  runs : ∃ added, s'.orchestrator.runs = s.orchestrator.runs ++ added ∧ (∀ r ∈ added, run r) ∧
    Supply.Issued s.supply.drawn s'.supply.drawn (added.map (·.handle.id))

namespace Fired

variable {row : Execution → Prop} {run : StartedRun → Prop} {s s' s'' : Automation}

theorem ofQuiet (h : Quiet s s') : Fired row run s s' where
  config := h.config
  clock := h.clock
  broken := h.broken
  linksRuns := h.linksRuns
  listener := h.listener
  scheduler := h.scheduler
  gauge := h.gauge
  definitions := by rw [h.orchestrator]
  supply := Nat.le_of_eq (congrArg Supply.drawn h.supply.symm)
  rules := by rw [h.triggers]
  executions := by
    rw [h.executions]
    exact .refl _
  startErrors := h.orchestrator ▸ List.suffix_rfl
  hangs := Nat.le_of_eq (congrArg Orchestrator.hangs h.orchestrator)
  runs := ⟨[], by rw [h.orchestrator, List.append_nil], fun _ h => absurd h List.not_mem_nil,
    .nil _ _⟩

theorem trans (h : Fired row run s s') (h' : Fired row run s' s'') : Fired row run s s'' where
  config := h'.config.trans h.config
  clock := h'.clock.trans h.clock
  broken := h'.broken.trans h.broken
  linksRuns := h'.linksRuns.trans h.linksRuns
  listener := h'.listener.trans h.listener
  scheduler := h'.scheduler.trans h.scheduler
  gauge := h'.gauge.trans h.gauge
  definitions := h'.definitions.trans h.definitions
  supply := Nat.le_trans h.supply h'.supply
  rules := h'.rules.trans h.rules
  executions := h.executions.trans h'.executions
  startErrors := h'.startErrors.trans h.startErrors
  hangs := Nat.le_trans h'.hangs h.hangs
  runs := by
    obtain ⟨added, hruns, hadded, hids⟩ := h.runs
    obtain ⟨added', hruns', hadded', hids'⟩ := h'.runs
    refine ⟨added ++ added', by rw [hruns', hruns, List.append_assoc], fun r hr => ?_, ?_⟩
    · exact (List.mem_append.mp hr).elim (hadded r) (hadded' r)
    · rw [List.map_append]
      exact hids.append hids' h.supply h'.supply

end Fired
end Automation

/-- The frame of firing triggers. -/
def firedFrame (row : Execution → Prop) (run : StartedRun → Prop) : Frame where
  holds := Fired row run
  quiet := Fired.ofQuiet
  trans := Fired.trans

variable {row : Execution → Prop} {run : StartedRun → Prop}

namespace Automation

theorem fired_triggers {s : Automation} {store : TriggerStore}
    (h : store.rules = s.triggers.rules) : Fired row run s { s with triggers := store } :=
  { (Fired.ofQuiet (.refl s) : Fired row run s s) with rules := h }

theorem fired_executions {s : Automation} {store : ExecutionStore}
    (h : s.executions.Extends row store) : Fired row run s { s with executions := store } :=
  { (Fired.ofQuiet (.refl s) : Fired row run s s) with executions := h }

theorem fired_supply {s : Automation} {n : Nat} (h : s.supply.drawn ≤ n) :
    Fired row run s { s with supply := ⟨n⟩ } :=
  { (Fired.ofQuiet (.refl s) : Fired row run s s) with
    supply := h
    runs := ⟨[], (List.append_nil _).symm, fun _ h => absurd h List.not_mem_nil, .nil _ _⟩ }

theorem drawId_fires : Keeps (firedFrame row run) drawId :=
  fun s => fired_supply (s := s) (Nat.le_succ s.supply.drawn)

theorem recordFire_fires (id : Value) (firedAt : Stamp) :
    Keeps (firedFrame row run) (recordFire id firedAt) := by
  refine reaching_keeps _ _ _ (keeps_getBind fun s => ?_)
  cases h : s.triggers.recordFire id firedAt with
  | error e => exact Frame.refl _ s
  | ok store => exact fired_triggers (TriggerStore.rules_recordFire h)

theorem appendExecution_fires {e : Execution} (he : row e) :
    Keeps (firedFrame row run) (appendExecution e) := by
  refine reaching_keeps _ _ _ (keeps_getBind fun s => ?_)
  cases h : s.executions.append e with
  | error cause => exact Frame.refl _ s
  | ok store => exact fired_executions (ExecutionStore.extends_append h he)

end Automation

/-- The linkage that a run is registered with. -/
def StartedRun.linkage (r : StartedRun) : Linkage := ⟨.text r.handle.id, r.handle.definitionId⟩

namespace Orchestrator

/-- How a start can end, with what it leaves. -/
inductive Started (o : Orchestrator) (supply : Supply) (id vars : Value) (options : StartOptions) :
    StartOutcome → Orchestrator → Supply → Prop
  | hanging {n : Nat} (h : o.hangs = n + 1) :
    Started o supply id vars options .hanging { o with hangs := n } supply
  | queued {e : Error} {es : List Error} (hangs : o.hangs = 0) (h : o.startErrors = e :: es) :
    Started o supply id vars options (.failed e) { o with startErrors := es } supply
  | refused {e : Error} {n : Nat} (hangs : o.hangs = 0) (errors : o.startErrors = [])
    (unfit : ∀ d es, o.findDefinition id = .ok (some d) → d.isDeployed = true →
      vars.toEntries ≠ .ok es)
    (h : supply.drawn ≤ n) : Started o supply id vars options (.failed e) o ⟨n⟩
  | started {d : Definition} {es : Entries} (hangs : o.hangs = 0) (errors : o.startErrors = [])
    (found : o.findDefinition id = .ok (some d)) (deployed : d.isDeployed = true)
    (read : vars.toEntries = .ok es) {r : StartedRun}
    (h : r = ⟨⟨Supply.idText (supply.drawn + 1), toString (supply.drawn + 2), id⟩, es, options,
      false⟩) :
    Started o supply id vars options (.started r) { o with runs := o.runs ++ [r] }
      ⟨supply.drawn + 2⟩

theorem startProcess_started (o : Orchestrator) (supply : Supply) (id vars : Value)
    (options : StartOptions) :
    let r := o.startProcess supply id vars options
    Started o supply id vars options r.1 r.2.1 r.2.2 := by
  rw [startProcess]
  -- The definition is looked for only if no start hangs and no error is queued.
  split
  · next n _ hhangs => exact .hanging hhangs
  · next e es hhangs herrors => exact .queued hhangs herrors
  · next hhangs herrors =>
    split
    · next e hfound => exact .refused hhangs herrors (by simp [hfound]) (Nat.le_refl _)
    · next found hfound =>
      cases found with
      | none => exact .refused hhangs herrors (by simp [hfound]) (Nat.le_refl _)
      | some d =>
        by_cases hdeployed : d.isDeployed = true
        · simp only [Option.any_some, hdeployed, if_true]
          cases hread : vars.toEntries with
          | error e =>
            simp only [newRun, hread]
            exact .refused hhangs herrors (by simp [hread]) (Nat.le_add_right _ 2)
          | ok es =>
            simp only [newRun, hread]
            exact .started hhangs herrors hfound hdeployed hread rfl
        · simp only [Option.any_some, hdeployed]
          refine .refused hhangs herrors (fun d' es h h' => ?_) (Nat.le_refl _)
          rw [hfound] at h
          cases h
          exact absurd h' hdeployed

end Orchestrator

namespace Automation

/-- The store of runs once a start has ended: a new run is linked, if runs are. -/
def linked (s : Automation) : Orchestrator.StartOutcome → RunStore
  | .started r => if s.linksRuns then s.runs.register r.handle.key r.linkage else s.runs
  | .failed _ | .hanging => s.runs

/-- A start ends as the orchestrator's does. -/
theorem startProcess_eq (id vars : Value) (options : StartOptions) (s : Automation) :
    startProcess id vars options s =
      (.ok (s.orchestrator.startProcess s.supply id vars options).1, { s with
        orchestrator := (s.orchestrator.startProcess s.supply id vars options).2.1
        supply := (s.orchestrator.startProcess s.supply id vars options).2.2
        runs := s.linked (s.orchestrator.startProcess s.supply id vars options).1 }) := by
  rw [startProcess, bind_get]
  generalize s.orchestrator.startProcess s.supply id vars options = r
  obtain ⟨outcome, orchestrator, supply⟩ := r
  dsimp only
  rw [bind_ok (set_run s _)]
  cases outcome with
  | started r =>
    rw [linked]
    cases s.linksRuns <;> rfl
  | failed e => rfl
  | hanging => rfl

theorem startProcess_fires {definitionId vars : Value} {options : StartOptions}
    (hrun : ∀ r, r.handle.definitionId = definitionId → vars.toEntries = .ok r.vars → run r) :
    Keeps (firedFrame row run) (startProcess definitionId vars options) := by
  intro s
  have hstarted := s.orchestrator.startProcess_started s.supply definitionId vars options
  rw [startProcess_eq]
  generalize s.orchestrator.startProcess s.supply definitionId vars options = r at hstarted ⊢
  obtain ⟨outcome, orchestrator, supply⟩ := r
  have hlinked : Fired row run s { s with runs := s.linked outcome } :=
    .ofQuiet (by constructor <;> rfl)
  cases hstarted with
  | hanging h => exact { hlinked with hangs := h ▸ Nat.le_succ _ }
  | queued hangs h => exact { hlinked with startErrors := h ▸ List.suffix_cons _ _ }
  | refused hangs errors unfit h => exact fired_supply h
  | started hangs errors found deployed read h => exact
    { hlinked with
      supply := Nat.le_add_right _ 2
      runs := ⟨_, rfl,
        fun r hr => List.mem_singleton.mp hr ▸ hrun _ (by rw [h]) (by rw [h, read]), by
          rw [List.map_singleton, h]
          exact .single (Nat.lt_succ_self _) (Nat.le_succ _)⟩ }

end Automation

namespace Engine

variable {F : Frame}

theorem countIfMetered_keeps {sample : Action Sample} (h : Keeps F sample) :
    Keeps F (countIfMetered sample) :=
  keeps_bind keeps_get fun _ =>
    keeps_ite (keeps_bind h fun sample => count_keeps sample) (keeps_pure _)

theorem ensureDeployed_keeps (t : Trigger) : Keeps F (ensureDeployed t) := by
  refine keeps_bind (keeps_bind keeps_get fun _ => keeps_ofExcept _) fun d => ?_
  exact keeps_ite (keeps_throw _) (keeps_pure _)

theorem start_fires {a : Attempt}
    (hrun : ∀ r, r.handle.definitionId = a.trigger.definitionId → r.vars = a.vars → run r) :
    Keeps (firedFrame row run) (start a) := by
  refine keeps_bind keeps_get fun s => ?_
  dsimp only
  split
  · exact keeps_pure _
  · exact keeps_pure _
  · refine keeps_bind (startProcess_fires fun r hid hvars => hrun r hid ?_) fun outcome => ?_
    · exact (Except.ok.inj hvars).symm
    · split <;> exact keeps_pure _

theorem giveUp_keeps (a : Attempt) : Keeps F (giveUp a) :=
  keeps_bind keeps_get fun _ => keeps_pure _

theorem recordFire_fires (t : Trigger) : Keeps (firedFrame row run) (recordFire t) := by
  have hrecord : Keeps (firedFrame row run) (Registry.recordFire t.id none) :=
    keeps_bind now_keeps fun _ => Automation.recordFire_fires _ _
  refine keeps_bind (keeps_attempt hrecord) fun r => ?_
  cases r with
  | ok _ => exact keeps_pure _
  | error e => exact log_keeps _ _ _

theorem save_fires {e : Execution} (he : row e) : Keeps (firedFrame row run) (save e) := by
  refine keeps_bind (keeps_attempt (appendExecution_fires he)) fun r => ?_
  cases r with
  | ok e => exact keeps_pure e
  | error cause => exact keeps_bind (log_keeps _ _ _) fun _ => keeps_pure e

/-- How the execution of an attempt is counted and written. -/
def noteOutcome (a : Attempt) (e : Execution) : Action Execution := do
  countIfMetered do
    return .execution (← Action.ofExcept a.trigger.type.name).shown e.status.name
  if e.succeeded then countIfMetered (return .processStart)
  save e

theorem conclude_ok (a : Attempt) (run : StartedRun) :
    conclude a (.ok run) = withBound a.bound (do
      recordFire a.trigger
      log .engine Log.info ("Trigger " ++ a.trigger.id.shown ++
        " fired successfully, started process instance " ++ run.handle.id)
      noteOutcome a (outcomeOf a (.ok run))) := rfl

theorem conclude_error (a : Attempt) (cause : Error) :
    conclude a (.error cause) = withBound a.bound (do
      log .engine Log.error
        ("Failed to fire trigger " ++ a.trigger.id.shown ++ ": " ++ cause.summary)
      noteOutcome a (outcomeOf a (.error cause))) := rfl

theorem noteOutcome_fires (a : Attempt) {e : Execution} (he : row e) :
    Keeps (firedFrame row run) (noteOutcome a e) := by
  refine keeps_bind (countIfMetered_keeps ?_) fun _ => ?_
  · exact keeps_bind (keeps_ofExcept _) fun _ => keeps_pure _
  · refine keeps_ite ?_ (save_fires he)
    exact keeps_bind (countIfMetered_keeps (keeps_pure _)) fun _ => save_fires he

theorem conclude_fires {a : Attempt} {outcome : Except Error StartedRun}
    (he : row (outcomeOf a outcome)) : Keeps (firedFrame row run) (conclude a outcome) := by
  have hnote : Keeps (firedFrame row run) (noteOutcome a (outcomeOf a outcome)) :=
    noteOutcome_fires a he
  cases outcome with
  | ok r =>
    rw [conclude_ok]
    refine keeps_withBound _ (keeps_bind (recordFire_fires a.trigger) fun _ => ?_)
    exact keeps_bind (log_keeps _ _ _) fun _ => hnote
  | error cause =>
    rw [conclude_error]
    exact keeps_withBound _ (keeps_bind (log_keeps _ _ _) fun _ => hnote)

theorem dispatch_fires {a : Attempt} (hrow : ∀ outcome, row (outcomeOf a outcome))
    (hrun : ∀ r, r.handle.definitionId = a.trigger.definitionId → r.vars = a.vars → run r) :
    Keeps (firedFrame row run) (dispatch a) := by
  refine keeps_bind (keeps_attempt (ensureDeployed_keeps _)) fun r => ?_
  cases r with
  | error e => exact conclude_fires (hrow _)
  | ok _ =>
    refine keeps_bind Audit.settle_keeps fun _ => keeps_bind (start_fires hrun) fun outcome => ?_
    cases outcome with
    | some outcome => exact conclude_fires (hrow outcome)
    | none => exact keeps_bind (giveUp_keeps a) fun outcome => conclude_fires (hrow outcome)

theorem newAttempt_run (t : Trigger) (context vars : Entries) (options : StartOptions)
    (s : Automation) :
    newAttempt t context vars options s = (.ok ⟨t, ⟨.text (Supply.idText (s.supply.drawn + 1)),
      t.id, .object context, .pending, .null, .null, .stamp (Stamp.ofInstant s.clock.instant)⟩,
      vars, options, s.bound⟩, { s with supply := ⟨s.supply.drawn + 1⟩ }) := rfl

theorem newAttempt_fires (t : Trigger) (context vars : Entries) (options : StartOptions) :
    Keeps (firedFrame row run) (newAttempt t context vars options) :=
  fun s => fired_supply (s := s) (Nat.le_succ s.supply.drawn)

theorem newAttempt_yields (t : Trigger) (context vars : Entries) (options : StartOptions) :
    Yields (fun a => a.trigger = t ∧ a.vars = vars ∧ a.execution.triggerId = t.id)
      (newAttempt t context vars options) := by
  intro s s' a h
  rw [newAttempt_run] at h
  obtain rfl := Except.ok.inj (congrArg Prod.fst h)
  exact ⟨rfl, rfl, rfl⟩

theorem outcomeOf_triggerId (a : Attempt) (outcome : Except Error StartedRun) :
    (outcomeOf a outcome).triggerId = a.execution.triggerId := by
  cases outcome <;> rfl

/-- Firing a trigger keeps a frame if it does to make an attempt and carry it through. -/
theorem fire_frame_of_made {t : Trigger} {context : Value}
    (hmade : ∀ es vars options, Variables.ofMappings t.variableMappings context = .ok vars →
      Keeps F (do dispatch (← newAttempt t es vars options))) : Keeps F (fire t context) := by
  refine keeps_bind (keeps_ofExcept _) fun type => keeps_binding _ ?_
  refine keeps_bind (keeps_ofExcept _) fun name => keeps_bind (log_keeps _ _ _) fun _ => ?_
  refine keeps_bind (keeps_ofExcept _) fun es => ?_
  -- What the mappings yield is needed to know the attempt that is made.
  exact keeps_bindYields (keeps_ofExcept _) (ofExcept_yields _) fun vars hvars => hmade _ _ _ hvars

/-- Firing a trigger keeps a frame if its attempt does. -/
theorem fire_frame {t : Trigger} {context : Value}
    (hnew : ∀ es vars options, Keeps F (newAttempt t es vars options))
    (hdispatch : ∀ a : Attempt, a.trigger = t → a.execution.triggerId = t.id →
      Variables.ofMappings t.variableMappings context = .ok a.vars → Keeps F (dispatch a)) :
    Keeps F (fire t context) := by
  refine fire_frame_of_made fun es vars options hvars => ?_
  refine keeps_bindYields (hnew _ _ _) (newAttempt_yields _ _ _ _) ?_
  rintro a ⟨htrigger, hmapped, hid⟩
  exact hdispatch a htrigger hid (hmapped ▸ hvars)

theorem fire_fires {t : Trigger} {context : Value} (hrow : ∀ e, e.triggerId = t.id → row e)
    (hrun : ∀ r, r.handle.definitionId = t.definitionId →
      Variables.ofMappings t.variableMappings context = .ok r.vars → run r) :
    Keeps (firedFrame row run) (fire t context) := by
  refine fire_frame (newAttempt_fires t) fun a htrigger hid hvars => ?_
  refine dispatch_fires (fun outcome => hrow _ ?_) fun r hdefinition hr => hrun r ?_ ?_
  · rw [outcomeOf_triggerId, hid]
  · rw [hdefinition, htrigger]
  · rw [hr, hvars]

theorem isMatch_keeps {F : Frame} (t : Trigger) (context : Value) :
    Keeps F (isMatch t context) := by
  refine keeps_bind (keeps_ofExcept _) fun o => ?_
  cases o.unevaluated with
  | none => exact keeps_pure _
  | some e => exact keeps_bind (log_keeps _ _ _) fun _ => keeps_pure _

theorem isMatch_yields (t : Trigger) (context : Value) :
    Yields (fun b => Condition.holds t.conditions context = .ok b) (isMatch t context) := by
  intro s s' b h
  rw [isMatch, bind_run, ofExcept_run] at h
  cases ho : Condition.outcome t.conditions context with
  | error e =>
    rw [ho] at h
    cases h
  | ok o =>
    rw [ho] at h
    have hb : o.holds = b := by
      cases hu : o.unevaluated <;> simp only [hu] at h <;> exact Except.ok.inj (congrArg Prod.fst h)
    rw [Condition.holds, ho, ← hb]
    rfl

/-- Evaluating a trigger keeps a frame if firing it does, in case it matches. -/
theorem evaluateOne_frame {t : Trigger} {context : Value}
    (hfire : Condition.holds t.conditions context = .ok true → Keeps F (fire t context)) :
    Keeps F (evaluateOne context t) := by
  refine keeps_bindYields (isMatch_keeps t context) (isMatch_yields t context)
    fun holds hholds => ?_
  refine keeps_bind (countIfMetered_keeps ?_) fun _ => ?_
  · exact keeps_bind (keeps_ofExcept _) fun _ => keeps_pure _
  · cases holds with
    | false => exact keeps_pure none
    | true => exact keeps_bind (hfire hholds) fun _ => keeps_pure _

theorem evaluateOne_fires {t : Trigger} {context : Value}
    (hrow : Condition.holds t.conditions context = .ok true → ∀ e, e.triggerId = t.id → row e)
    (hrun : Condition.holds t.conditions context = .ok true →
      ∀ r, r.handle.definitionId = t.definitionId →
        Variables.ofMappings t.variableMappings context = .ok r.vars → run r) :
    Keeps (firedFrame row run) (evaluateOne context t) :=
  evaluateOne_frame fun hholds => fire_fires (hrow hholds) (hrun hholds)

theorem evaluateAll_frame {context : Value} {ts : List Trigger}
    (h : ∀ t ∈ ts, Keeps F (evaluateOne context t)) : Keeps F (evaluateAll context ts) := by
  induction ts with
  | nil => exact keeps_pure []
  | cons t ts ih =>
    have hrest := ih fun t' ht' => h t' (List.mem_cons_of_mem t ht')
    refine keeps_bind (keeps_attempt (h t List.mem_cons_self)) fun r => ?_
    cases r with
    | ok e => exact keeps_bind hrest fun _ => keeps_pure _
    | error e => exact keeps_bind (log_keeps _ _ _) fun _ => hrest

theorem findActive_keeps {F : Frame} (type : TriggerType) (workspaceId : Value) :
    Keeps F (Registry.findActive type workspaceId) :=
  reaching_keeps _ _ _ (keeps_bind keeps_get fun _ => keeps_ofExcept _)

end Engine

/-- The expression that a tick goes by: the given one, or else that of the trigger. -/
def Trigger.tickExpression (t : Trigger) (given : Value) : Except Error Value :=
  if given.truthy then .ok given else t.cronExpression

/-- Whatever is fired, in whatever way. -/
abbrev anyFired : Frame := firedFrame (fun _ => True) fun _ => True

namespace Engine

theorem fire_keeps (t : Trigger) (context : Value) : Keeps anyFired (fire t context) :=
  fire_fires (fun _ _ => trivial) fun _ _ _ => trivial

theorem evaluate_keeps (type : TriggerType) (context workspaceId : Value) :
    Keeps anyFired (evaluate type context workspaceId) := by
  refine keeps_bind (findActive_keeps _ _) fun ts => keeps_bind (log_keeps _ _ _) fun _ => ?_
  exact evaluateAll_frame fun t _ =>
    evaluateOne_fires (fun _ _ _ => trivial) fun _ _ _ _ => trivial

theorem getTrigger_keeps {F : Frame} (id : Value) : Keeps F (getTrigger id) :=
  reaching_keeps _ _ _ (keeps_bind keeps_get fun _ => keeps_ofExcept _)

/-- The rest of the beginning of a scheduled attempt, once the trigger and the expression are
known. -/
def scheduledAttempt (t : Trigger) (expression : Value) : Action (Option Attempt) := do
  let now ← Automation.now
  let context := scheduledContext t expression now
  let mapped ← Action.ofExcept (Variables.ofMappings t.variableMappings (.object context))
  let vars := mapped.merge (scheduledVariables t expression now)
  let key := "cron-" ++ t.id.shown ++ s!"-{unixMilliseconds now.instant}"
  Action.binding (correlation t (.text TriggerType.cron.name)) do
    let name := if t.name.truthy then t.name.shown else "unnamed"
    log .engine Log.info ("Executing cron trigger " ++ t.id.shown ++ " (" ++ name ++ ")")
    return some (← newAttempt t context vars { businessKey := .text key })

/-- A scheduled attempt is one of the trigger, and its execution has the identifier drawn last. -/
theorem scheduledAttempt_begins {t : Trigger} {expression : Value} {s s' : Automation} {a : Attempt}
    (h : scheduledAttempt t expression s = (.ok (some a), s')) :
    a.trigger = t ∧ a.execution.triggerId = t.id ∧
      a.execution.id = .text (Supply.idText s'.supply.drawn) := by
  rw [scheduledAttempt, bind_ok (now_run s)] at h
  dsimp only at h
  cases hvars : Variables.ofMappings t.variableMappings
      (.object (scheduledContext t expression (Stamp.ofInstant s.clock.instant))) with
  | error e =>
    rw [bind_ofExcept_error hvars] at h
    cases h
  | ok vars =>
    rw [bind_ofExcept hvars, binding_run, withBound_run, bind_ok (log_run _ _ _ _),
      bind_ok (newAttempt_run _ _ _ _ _)] at h
    cases h
    exact ⟨rfl, rfl, rfl⟩

theorem beginScheduled_run {id : Value} {t : Trigger} {s s₁ : Automation}
    (hget : getTrigger id s = (.ok (some t), s₁)) (hactive : t.isActive.truthy = true)
    (expression : Value) : beginScheduled id expression s = (do
      scheduledAttempt t (← Action.ofExcept (t.tickExpression expression))) s₁ := by
  rw [beginScheduled, bind_ok hget, Trigger.tickExpression]
  dsimp only
  rw [hactive, Bool.not_true, if_neg Bool.false_ne_true]
  split <;> rfl

/-- Beginning a scheduled attempt keeps a frame if making an attempt does. -/
theorem beginScheduled_frame {F : Frame}
    (hnew : ∀ t es vars options, Keeps F (newAttempt t es vars options)) (id expression : Value) :
    Keeps F (beginScheduled id expression) := by
  have hskip : Keeps F (do
      log .engine Log.warning ("Trigger " ++ id.shown ++ " is no longer active, skipping")
      return none : Action (Option Attempt)) :=
    keeps_bind (log_keeps _ _ _) fun _ => keeps_pure none
  refine keeps_bind (getTrigger_keeps id) fun found => ?_
  cases found with
  | none => exact hskip
  | some t =>
    refine keeps_ite hskip ?_
    -- The expression is the given one or else that of the trigger; what follows is the same.
    have hrest : ∀ expression, Keeps F (scheduledAttempt t expression) := by
      intro expression
      refine keeps_bind now_keeps fun now => keeps_bind (keeps_ofExcept _) fun mapped => ?_
      refine keeps_binding _ (keeps_bind (log_keeps _ _ _) fun _ => ?_)
      exact keeps_bind (hnew _ _ _ _) fun _ => keeps_pure _
    refine keeps_ite ?_ ?_
    · exact keeps_bind (keeps_pure _) hrest
    · exact keeps_bind (keeps_ofExcept _) hrest

theorem beginScheduled_fires (id expression : Value) :
    Keeps (firedFrame row run) (beginScheduled id expression) :=
  beginScheduled_frame newAttempt_fires id expression

theorem fireScheduled_keeps (id expression : Value) :
    Keeps anyFired (fireScheduled id expression) := by
  refine keeps_bind (beginScheduled_fires id expression) fun a => ?_
  cases a with
  | none => exact keeps_pure none
  | some a =>
    refine keeps_bind (dispatch_fires (fun _ => trivial) fun _ _ _ => trivial) fun _ => ?_
    exact keeps_pure _

end Engine
end ProcessTriggers
