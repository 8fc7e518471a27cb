import ProcessTriggers.Proofs.ExecutionLogs
import ProcessTriggers.Proofs.FiringFaults
import ProcessTriggers.Proofs.ScheduleFaults

/-!
The ticks of the scheduler. A tick that finds no active trigger drops its timer and does nothing
else. A tick that finds one leaves the timers alone and adds one execution to the log; if it starts
a process, the variables are those that the trigger maps from the context of the tick, but the
mappings cannot change what the engine itself puts among them. What a relation cannot take in, an
identifier or a message, it refuses, and the tick goes on without it.
-/

namespace ProcessTriggers

open Action Automation

theorem Supply.isText_idText (n : Nat) : (Value.text (idText n)).IsText := by
  have hid : (idText n).toList = "id-".toList ++ (toString n).toList := String.toList_append
  refine ⟨idText n, rfl, Text.hasHalf_of_clean ?_⟩
  rw [hid]
  exact (Text.clean_of_decide rfl).append (Double.clean_toString n)

namespace Automation

variable {s : Automation}

theorem Ongoing.unbroken (h : Ongoing s) : s.broken = [] := by
  obtain ⟨s₀, ops, hunused, rfl⟩ := h
  exact after_induction (P := (·.broken = [])) hunused.unbroken
    fun op _ s h => (op.perform_broken s).trans h

/-- A trigger is looked up under a text that a relation can hold, or that was drawn. -/
theorem Catalogued.isText_of_get {n : Nat} (h : Catalogued n s) {id : String} {t : Trigger}
    (hfound : s.triggers.get (.text id) = .ok (some t)) : (Value.text id).IsText := by
  have hstore := h.store
  cases htriggers : s.triggers with
  | memory ts =>
    rw [htriggers] at hfound hstore
    have htable : Trigger.Table s.supply ts := hstore
    have hget : ts.get? (.text id) = some t := Except.ok.inj hfound
    obtain ⟨n, _, hn⟩ := htable.gave (Keyed.mem_keys (htable.texts.get?_eq_some_iff.mp hget))
    exact hn ▸ Supply.isText_idText n
  | relation rows =>
    rw [htriggers] at hfound
    obtain ⟨bound, _, hbound, _⟩ := TriggerStore.find?_of_get hfound
    refine ⟨id, rfl, ?_⟩
    cases hhalf : Text.hasHalf id with
    | false => rfl
    | true =>
      rw [Relation.bind, Relation.bindAt, Text.bytesOf, hhalf] at hbound
      cases hbound

end Automation

namespace Engine

/-- The variables whose values the mappings of a trigger cannot change on a tick. -/
def reserved : List String :=
  ["workspaceId", "triggeredBy", "triggerType", "expression", "scheduledTime"]

/-- The context of a tick tells where it comes from. -/
structure TellsOfTick (t : Trigger) (expression : Value) (context : Entries) : Prop where
  triggerType : context.get? "triggerType" = some (.text "cron")
  expression : context.get? "expression" = some expression
  workspaceId : context.get? "workspaceId" = some t.workspaceId
  triggeredBy : context.get? "triggeredBy" = some (.text "cron-scheduler")

/-- The variables of a tick are those that the trigger maps from the context, except that the
reserved ones have the values of the engine, whether the trigger maps them or not. -/
structure Overlaid (t : Trigger) (expression : Value) (now : Stamp) (context vars : Entries) :
    Prop where
  workspaceId : vars.get? "workspaceId" = some t.workspaceId
  triggeredBy : vars.get? "triggeredBy" = some (.text "cron-scheduler")
  triggerType : vars.get? "triggerType" = some (.text "cron")
  expression : vars.get? "expression" = some expression
  scheduledTime : vars.get? "scheduledTime" = some (.text now.isoText)
  mapped : ∃ mapped, Variables.ofMappings t.variableMappings (.object context) = .ok mapped ∧
    ∀ name, name ∉ reserved → vars.get? name = mapped.get? name

variable {t : Trigger} {expression : Value} {s : Automation} {a : Attempt}

theorem scheduledContext_tells (t : Trigger) (expression : Value) (now : Stamp) :
    TellsOfTick t expression (scheduledContext t expression now) := ⟨rfl, rfl, rfl, rfl⟩

theorem Scheduled.overlaid (h : Scheduled t expression s a) :
    Overlaid t expression (Stamp.ofInstant s.clock.instant)
      (scheduledContext t expression (Stamp.ofInstant s.clock.instant)) a.vars := by
  obtain ⟨mapped, hmapped, hvars⟩ := h.vars
  have hnames : (scheduledVariables t expression (Stamp.ofInstant s.clock.instant)).keys =
      reserved := rfl
  have hget : ∀ name, a.vars.get? name =
      ((scheduledVariables t expression (Stamp.ofInstant s.clock.instant)).get? name).or
        (mapped.get? name) := by
    intro name
    rw [hvars]
    exact Entries.get?_merge (hnames ▸ by decide) mapped name
  refine ⟨hget _, hget _, hget _, hget _, hget _, mapped, hmapped, fun name hname => ?_⟩
  rw [hget name, Entries.get?_eq_none_of_not_mem (hnames ▸ hname)]
  rfl

/-- The execution of a tick is regular, whatever the outcome. -/
theorem Scheduled.regular (h : Scheduled t expression s a) (hid : t.id.IsText)
    {outcome : Except Error StartedRun}
    (hruns : ∀ run ∈ startedRuns outcome, ∃ n, run.handle.id = Supply.idText n) :
    (outcomeOf a outcome).Regular where
  id := by
    rw [outcomeOf_id, h.execution]
    exact Supply.isText_idText _
  triggerId := by
    rw [outcomeOf_triggerId, h.execution]
    exact hid
  processInstanceId := by
    cases outcome with
    | error cause => exact .inl (congrArg Execution.processInstanceId h.execution)
    | ok run =>
      obtain ⟨n, hn⟩ := hruns run (List.mem_singleton_self run)
      refine .inr ?_
      have hprocess : (outcomeOf a (.ok run)).processInstanceId = .text run.handle.id := rfl
      rw [hprocess, hn]
      exact Supply.isText_idText n
  executedAt := by
    refine ⟨Stamp.ofInstant s.clock.instant, ?_⟩
    cases outcome <;> exact congrArg Execution.executedAt h.execution

end Engine

namespace Automation

/-- A trigger that is asked for is looked up in the store. -/
theorem getTrigger_answers {s : Automation} (hbroken : s.broken = []) (id : Value) :
    ∃ s', getTrigger id s = (s.triggers.get id, s') ∧ Quiet s s' := by
  have hlookup : s.broken.lookup .get = none := by rw [hbroken, List.lookup_nil]
  obtain ⟨s', hrun, hquiet⟩ := reaching_answers .get .triggers (do
    Action.ofExcept ((← get).triggers.get id)) hlookup
  rw [bind_get, hquiet.triggers] at hrun
  exact ⟨s', hrun, hquiet⟩

end Automation

namespace Engine

variable {s : Automation} {id : Value}

/-- Without an active trigger, nothing is begun. -/
theorem fireScheduled_skips (hbroken : s.broken = []) {found : Option Trigger}
    (hfound : s.triggers.get id = .ok found) (hidle : ∀ t ∈ found, t.isActive.truthy = false)
    (given : Value) : ∃ s', fireScheduled id given s = (.ok none, s') ∧ Quiet s s' := by
  obtain ⟨s₁, hget, hquiet⟩ := getTrigger_answers hbroken id
  rw [hfound] at hget
  obtain ⟨s₂, hlogged, hquiet'⟩ := log_quiet .engine Log.warning
    ("Trigger " ++ id.shown ++ " is no longer active, skipping") s₁
  have hbegin : beginScheduled id given s = (.ok none, s₂) := by
    rw [beginScheduled, bind_ok hget]
    cases found with
    | none => exact bind_ok hlogged
    | some t =>
      dsimp only
      rw [hidle t rfl, Bool.not_false, if_pos rfl]
      exact bind_ok hlogged
  exact ⟨s₂, bind_ok hbegin, hquiet.trans hquiet'⟩

/-- What a tick does once its trigger is found active: one attempt is made and noted. -/
theorem fireScheduled_attempts (hbroken : s.broken = []) (hs : Catalogued 0 s)
    (hfound : s.triggers.get id = .ok (some t)) (hid : t.id.IsText)
    (hactive : t.isActive.truthy = true) {type : TriggerType} (htype : t.type = .known type)
    (hmappings : t.hasMappings = true) {given : Value}
    (hexpression : t.tickExpression given = .ok expression) :
    ∃ a outcome s', Scheduled t expression s a ∧
      fireScheduled id given s = (.ok (some (outcomeOf a outcome)), s') ∧
      s'.scheduler = s.scheduler ∧
      ExecutionStore.Gains (outcomeOf a outcome) s.executions s'.executions ∧
      s'.orchestrator.runs = s.orchestrator.runs ++ startedRuns outcome ∧
      ∀ run ∈ startedRuns outcome, run.vars = a.vars := by
  obtain ⟨s₁, hget, hquiet⟩ := getTrigger_answers hbroken id
  rw [hfound] at hget
  have hbegin := beginScheduled_run hget hactive given
  obtain ⟨a, s₂, hattempt, hscheduled, hquiet'⟩ := scheduledAttempt_run hmappings expression s₁
  rw [bind_ofExcept hexpression, hattempt] at hbegin
  obtain ⟨htrigger, hexecution, hvariables⟩ := hscheduled
  rw [hquiet.supply, hquiet.clock] at hexecution
  rw [hquiet.clock] at hvariables
  have hscheduled : Scheduled t expression s a := ⟨htrigger, hexecution, hvariables⟩
  obtain ⟨outcome, s₃, hdispatch, hscheduler, happended, hruns, hstarted⟩ :=
    dispatch_appends ((hquiet'.broken.trans hquiet.broken).trans hbroken)
      fun _ => ⟨_, congrArg TypeField.name (htrigger ▸ htype)⟩
  have hexecutions : s₂.executions = s.executions := hquiet'.executions.trans hquiet.executions
  have horchestrator : s₂.orchestrator = s.orchestrator :=
    hquiet'.orchestrator.trans hquiet.orchestrator
  rw [hexecutions] at happended
  rw [horchestrator] at hruns
  have hregular := hscheduled.regular hid fun run hmem => (hstarted run hmem).2
  have hnew : (outcomeOf a outcome).id ∉ s.executions.ids := by
    rw [outcomeOf_id, hscheduled.execution]
    exact hs.next_not_mem
  refine ⟨a, outcome, s₃, hscheduled, ?_, ?_, ?_, hruns, fun run hmem => (hstarted run hmem).1⟩
  · rw [fireScheduled_of_begun hbegin]
    exact bind_ok hdispatch
  · exact hscheduler.trans (hquiet'.scheduler.trans hquiet.scheduler)
  · rw [happended]
    exact ExecutionStore.appended_gains hregular hnew

end Engine

namespace Scheduler

/-- What a tick leaves that found no active trigger: the timer of the trigger is gone, and nothing
else happened. -/
structure Skipped (id : String) (s s' : Automation) : Prop where
  triggers : s'.triggers = s.triggers
  executions : s'.executions = s.executions
  orchestrator : s'.orchestrator = s.orchestrator
  timers : s'.scheduler.timers = s.scheduler.timers.erase (.text id)
  dropped : .text id ∉ s'.scheduler.timers.keys
  others : ∀ e : Value × Timer, e.1 ≠ .text id →
    (e ∈ s'.scheduler.timers ↔ e ∈ s.scheduler.timers)

/-- What the tick of an active trigger leaves. The timers are as before, and the log has gained one
execution. It tells of the tick, and whether a process was started; the variables of that are the
mapped ones with those of the engine put over them. -/
structure Ticked (t : Trigger) (expression : Value) (s s' : Automation) : Prop where
  timers : s'.scheduler.timers = s.scheduler.timers
  attempted : ∃ e context, ExecutionStore.Gains e s.executions s'.executions ∧
    e.triggerId = t.id ∧ e.context = .object context ∧ Engine.TellsOfTick t expression context ∧
    ((e.status = .failed ∧ s'.orchestrator.runs = s.orchestrator.runs) ∨
      ∃ run, e.status = .success ∧ e.processInstanceId = .text run.handle.id ∧
        s'.orchestrator.runs = s.orchestrator.runs ++ [run] ∧
        Engine.Overlaid t expression (Stamp.ofInstant s.clock.instant) context run.vars)

variable {s s' : Automation} {id : String} {t : Trigger} {expression given : Value}

theorem mem_erase_iff {timers : Keyed Timer} {e : Value × Timer} :
    e ∈ timers.erase (.text id) ↔ e ∈ timers ∧ e.1 ≠ .text id := by
  rw [Keyed.erase, List.mem_filter, Bool.not_eq_true', Bool.eq_false_iff]
  refine and_congr_right fun _ => not_congr ⟨Value.equal_of_text, fun h => ?_⟩
  rw [h]
  exact (Value.equal_text_iff id _).mpr rfl

/-- A tick that begins nothing drops the timer of the trigger. -/
theorem tick_skips
    (hfire : ∃ s', Engine.fireScheduled (.text id) given s = (.ok none, s') ∧ Quiet s s') :
    ∃ s', tick (.text id) given s = (.ok false, s') ∧ Skipped id s s' := by
  obtain ⟨s₁, hrun, hquiet⟩ := hfire
  obtain ⟨s₂, hdrop, hretimed, htimers⟩ := unregister_run (Value.asKey_text id) s₁
  rw [hquiet.scheduler] at htimers
  refine ⟨s₂, ?_, hretimed.triggers.trans hquiet.triggers,
    hretimed.executions.trans hquiet.executions, hretimed.orchestrator.trans hquiet.orchestrator,
    htimers, fun hkey => ?_, fun e hne => ?_⟩
  · rw [tick, bind_ok (attempt_run _ s), hrun]
    exact bind_ok hdrop
  · obtain ⟨timer, hmem⟩ := Keyed.mem_keys_iff.mp hkey
    rw [htimers, mem_erase_iff] at hmem
    exact hmem.2 rfl
  · rw [htimers, mem_erase_iff]
    exact and_iff_left hne

/-- A tick that makes an attempt leaves the timers alone. -/
theorem tick_attempts (hbroken : s.broken = []) (hs : Catalogued 0 s) {id : Value}
    (hfound : s.triggers.get id = .ok (some t)) (hid : t.id.IsText)
    (hactive : t.isActive.truthy = true) {type : TriggerType} (htype : t.type = .known type)
    (hmappings : t.hasMappings = true) (hexpression : t.tickExpression given = .ok expression) :
    ∃ s', tick id given s = (.ok true, s') ∧ Ticked t expression s s' := by
  obtain ⟨a, outcome, s', hscheduled, hfire, hscheduler, hgains, hruns, hvars⟩ :=
    Engine.fireScheduled_attempts hbroken hs hfound hid hactive htype hmappings hexpression
  refine ⟨s', ?_, congrArg Scheduler.timers hscheduler, Engine.outcomeOf a outcome, _, hgains, ?_,
    ?_, Engine.scheduledContext_tells t expression (Stamp.ofInstant s.clock.instant), ?_⟩
  · rw [tick, bind_ok (attempt_run _ s), hfire]
    rfl
  · rw [Engine.outcomeOf_triggerId, hscheduled.execution]
  · cases outcome <;> exact congrArg Execution.context hscheduled.execution
  · cases outcome with
    | error cause => exact .inl ⟨rfl, hruns.trans (List.append_nil _)⟩
    | ok run =>
      have hoverlaid := hscheduled.overlaid
      rw [← hvars run (List.mem_singleton_self run)] at hoverlaid
      exact .inr ⟨run, rfl, rfl, hruns, hoverlaid⟩

/-- A tick whose trigger cannot be looked up changes nothing. -/
theorem tick_of_unread (hbroken : s.broken = []) {id : Value} {cause : Error}
    (hunread : s.triggers.get id = .error cause) (given : Value) :
    ∃ s', tick id given s = (.ok true, s') ∧ Quiet s s' := by
  obtain ⟨s₁, hget, hquiet⟩ := getTrigger_answers hbroken id
  rw [hunread] at hget
  have hfire : Engine.fireScheduled id given s = (.error cause, s₁) := by
    rw [Engine.fireScheduled, Engine.beginScheduled, bind_error (bind_error hget)]
  obtain ⟨s₂, hlogged, hquiet'⟩ := log_quiet .cron Log.error
    ("Cron tick failed for trigger " ++ id.shown ++ ": " ++ cause.message) s₁
  refine ⟨s₂, ?_, hquiet.trans hquiet'⟩
  rw [tick, bind_ok (attempt_run _ s), hfire]
  exact bind_ok hlogged

/-- A trigger that fires every minute maps a variable that the engine sets. -/
def colliding : List Operation :=
  [.deploy ⟨.text "d1", .text "w1", .null, .text "k1"⟩,
    .create [("workspace_id", .text "w1"), ("process_definition_id", .text "d1"),
      ("trigger_type", .text "cron"),
      ("conditions", .object [("expression", .text "* * * * *")]),
      ("variable_mappings", .object [("expression", .text "$.triggeredBy")])] .null]

/-- A program that has just begun and keeps its records in relations. -/
def inRelations : Automation :=
  { attended with triggers := .relation [], executions := .relation [] }

/-- A text without a form in UTF-8. -/
def loneHalf : String := String.singleton (Text.charOf 0xd800)

/-- The next process of the trigger will not start, and no relation can hold what is told about
that. -/
def untellable : List Operation := colliding ++ [.failNextStart (PlainError.storage.error loneHalf)]

/-- Whether a look-up finds an active trigger of a known type, with mappings and conditions. -/
def findsActive : Except Error (Option Trigger) → Bool
  | .ok (some {
      type := .known _, isActive := .bool true, variableMappings := .object _,
      conditions := .object _, .. }) => true
  | _ => false

end Scheduler
end ProcessTriggers
