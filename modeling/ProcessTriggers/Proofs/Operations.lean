import ProcessTriggers.Proofs.Authentication
import ProcessTriggers.Scheduler.Tasks

/-!
The operations of which a run of the program is made, in any order and with any arguments.
-/

namespace ProcessTriggers

open Action Automation

namespace Scheduler

/-- Takes the first of the steps that are due. -/
def takeTurn : Action Unit := do
  match (← get).scheduler.due with
  | [] => return
  | d :: rest =>
    change ({ · with due := rest })
    step d

/-- Wakes a waiting task, whatever it waits for. -/
def wake (task : Nat) : Action Unit := do
  if (← get).scheduler.sleepers.any (·.task = task) then
    change fun s => { cancel task s with due := s.due ++ [⟨task, .woken⟩] }

end Scheduler

inductive Operation
  | create (data : Entries) (userId : Value)
  | update (id : Value) (changes : Entries)
  | toggle (id : Value)
  | delete (id : Value)
  | recordFire (id : Value) (firedAt : Option Stamp)
  | listen (listener : Listener)
  | deploy (d : Definition)
  | failNextStart (e : Error)
  | startProcess (definitionId vars : Value) (options : StartOptions)
  | cancelRun (id : Value)
  | evaluate (type : TriggerType) (context workspaceId : Value)
  | fire (t : Trigger) (context : Value)
  | fireScheduled (id expression : Value)
  | handleWebhook (id body signature plainSecret : Value)
  | startScheduler
  | stopScheduler
  | reconcile
  | tick (id expression : Value)
  | unregister (id : Value)
  | wake (task : Nat)
  | takeTurn
  | runUntilIdle
  | release
  | advance (length lag : Int)
  | setClock (t : Stamp)
  | drawId
  /-- Whatever goes on elsewhere: jobs, audits, the log. -/
  | elsewhere (f : Automation → Automation) (quiet : ∀ s, Quiet s (f s))

namespace Operation

def perform : Operation → Action Unit
  | create data userId => do let _ ← Registry.create data userId
  | update id changes => do let _ ← Registry.update id changes
  | toggle id => do let _ ← Registry.toggle id
  | delete id => Registry.delete id
  | recordFire id firedAt => Registry.recordFire id firedAt
  | listen listener => modify ({ · with listener })
  | deploy d => do
    let orchestrator ← Action.ofExcept ((← get).orchestrator.deploy d)
    modify ({ · with orchestrator })
  | failNextStart e => modify fun s => { s with orchestrator := s.orchestrator.failNextStart e }
  | startProcess definitionId vars options => do
    let _ ← Automation.startProcess definitionId vars options
  | cancelRun id => do
    let orchestrator ← Action.ofExcept ((← get).orchestrator.cancel id)
    modify ({ · with orchestrator })
  | evaluate type context workspaceId => do let _ ← Engine.evaluate type context workspaceId
  | fire t context => do let _ ← Engine.fire t context
  | fireScheduled id expression => do let _ ← Engine.fireScheduled id expression
  | handleWebhook id body signature plainSecret => do
    let _ ← Webhook.handle id body signature plainSecret
  | startScheduler => Scheduler.start
  | stopScheduler => Scheduler.stop
  | reconcile => Scheduler.reconcile
  | tick id expression => do let _ ← Scheduler.tick id expression
  | unregister id => Scheduler.unregister id
  | wake task => Scheduler.wake task
  | takeTurn => Scheduler.takeTurn
  | runUntilIdle => Scheduler.runUntilIdle
  | release => Scheduler.release
  | advance length lag => Scheduler.advance length lag
  | setClock t => modify ({ · with clock := t })
  | drawId => do let _ ← Automation.drawId
  | elsewhere f _ => modify f

end Operation

namespace Automation

/-- The state after some operations. Those that fail keep what they changed before. -/
def after (s : Automation) (ops : List Operation) : Automation :=
  ops.foldl (fun s op => (op.perform s).2) s

theorem after_append (s : Automation) (ops ops' : List Operation) :
    s.after (ops ++ ops') = (s.after ops).after ops' := List.foldl_append

/-- What holds at the start and is kept by every operation holds after any of them. -/
theorem after_induction {P : Automation → Prop} {s : Automation} (hs : P s) {ops : List Operation}
    (hstep : ∀ op ∈ ops, ∀ s, P s → P (op.perform s).2) : P (s.after ops) := by
  induction ops generalizing s with
  | nil => exact hs
  | cons op ops ih =>
    exact ih (hstep op List.mem_cons_self s hs) fun op' hop' =>
      hstep op' (List.mem_cons_of_mem op hop')

/-- Stores and runs have only grown between two states, and whatever else the program has done is
about definitions, the scheduler and the clock. -/
structure Grown (s s' : Automation) : Prop where
  config : s'.config = s.config
  broken : s'.broken = s.broken
  listener : s'.listener = s.listener
  supply : s.supply.drawn ≤ s'.supply.drawn
  rules : s'.triggers.rules = s.triggers.rules
  executions : s.executions.Extends (fun _ => True) s'.executions
  hangs : s'.orchestrator.hangs ≤ s.orchestrator.hangs
  runs : ∃ added, s'.orchestrator.runs = s.orchestrator.runs ++ added ∧
    Supply.Issued s.supply.drawn s'.supply.drawn (added.map (·.handle.id))

namespace Grown

variable {s s' s'' : Automation}

theorem refl (s : Automation) : Grown s s where
  config := rfl
  broken := rfl
  listener := rfl
  supply := Nat.le_refl _
  rules := rfl
  executions := .refl _
  hangs := Nat.le_refl _
  runs := ⟨[], (List.append_nil _).symm, .nil _ _⟩

theorem trans (h : Grown s s') (h' : Grown s' s'') : Grown s s'' where
  config := h'.config.trans h.config
  broken := h'.broken.trans h.broken
  listener := h'.listener.trans h.listener
  supply := Nat.le_trans h.supply h'.supply
  rules := h'.rules.trans h.rules
  executions := h.executions.trans h'.executions
  hangs := Nat.le_trans h'.hangs h.hangs
  runs := by
    obtain ⟨added, hruns, hids⟩ := h.runs
    obtain ⟨added', hruns', hids'⟩ := h'.runs
    refine ⟨added ++ added', by rw [hruns', hruns, List.append_assoc], ?_⟩
    rw [List.map_append]
    exact hids.append hids' h.supply h'.supply

theorem ofFired {row : Execution → Prop} {run : StartedRun → Prop} (h : Fired row run s s') :
    Grown s s' where
  config := h.config
  broken := h.broken
  listener := h.listener
  supply := h.supply
  rules := h.rules
  executions := h.executions.mono fun _ _ => trivial
  hangs := h.hangs
  runs := by
    obtain ⟨added, hruns, _, hids⟩ := h.runs
    exact ⟨added, hruns, hids⟩

theorem ofQuiet (h : Quiet s s') : Grown s s' :=
  ofFired (.ofQuiet h : Fired (fun _ => True) (fun _ => True) s s')

theorem ofRetimed (h : Retimed s s') : Grown s s' :=
  { (Grown.refl s : Grown s s) with
    config := h.config
    broken := h.broken
    listener := h.listener
    supply := Nat.le_of_eq (congrArg Supply.drawn h.supply.symm)
    rules := by rw [h.triggers]
    executions := h.executions ▸ .refl _
    hangs := Nat.le_of_eq (congrArg Orchestrator.hangs h.orchestrator)
    runs := ⟨[], by rw [h.orchestrator, List.append_nil], .nil _ _⟩ }

end Grown
end Automation

/-- The attempt that a task has in hand. -/
def Stage.attempt? : Stage → Option Attempt
  | .starting a | .stalled a | .concluding a _ => some a
  | .waiting | .woken => none

/-- Of the steps that are due after, each was due before or has no attempt in hand. -/
def Scheduler.AddsIdle (z z' : Scheduler) : Prop :=
  ∀ d ∈ z'.due, d ∈ z.due ∨ d.stage.attempt? = none

/-- Between two states of the scheduler tasks have begun to wait, have been woken or are left out,
and that is all. -/
structure Scheduler.Waits (z z' : Scheduler) : Prop where
  timers : z'.timers = z.timers
  running : z'.running = z.running
  pass : z'.pass = z.pass
  due : z.AddsIdle z'

/-- A frame does not look at the clock, nor at tasks that wait or have no attempt in hand. -/
structure Frame.Waits (F : Frame) : Prop where
  tasks (s : Automation) {scheduler : Scheduler} (h : s.scheduler.Waits scheduler) :
    F.holds s { s with scheduler }
  clock (s : Automation) (clock : Stamp) : F.holds s { s with clock }

/-- A frame does not look at the clock, nor at more of the scheduler than its timers. -/
structure Frame.Patient (F : Frame) : Prop where
  tasks (s : Automation) {scheduler : Scheduler} (h : scheduler.timers = s.scheduler.timers) :
    F.holds s { s with scheduler }
  clock (s : Automation) (clock : Stamp) : F.holds s { s with clock }

/-- A frame does not look at the clock, nor at more of the scheduler than the attempts that are
due. -/
structure Frame.Timeless (F : Frame) : Prop where
  tasks (s : Automation) {scheduler : Scheduler} (hdue : s.scheduler.AddsIdle scheduler) :
    F.holds s { s with scheduler }
  gauge (s : Automation) (n : Nat) : F.holds s { s with metrics.timers := n }
  clock (s : Automation) (clock : Stamp) : F.holds s { s with clock }

theorem Frame.Patient.waits {F : Frame} (h : F.Patient) : F.Waits :=
  ⟨fun s _ hwaits => h.tasks s hwaits.timers, h.clock⟩

theorem Frame.Timeless.waits {F : Frame} (h : F.Timeless) : F.Waits :=
  ⟨fun s _ hwaits => h.tasks s hwaits.due, h.clock⟩

namespace Scheduler

/-- Takes some of the steps that are due, and leaves the rest. -/
def takeSome (taken rest : List Due) : Action Unit := do
  change ({ · with due := rest })
  each step taken

end Scheduler

/-- Taking steps that are due keeps a frame. -/
def Frame.Turns (F : Frame) : Prop :=
  ∀ (s : Automation) (taken rest : List Due), (∀ d ∈ taken ++ rest, d ∈ s.scheduler.due) →
    F.holds s (Scheduler.takeSome taken rest s).2

theorem Action.keeps_each {α β : Type} {F : Frame} {f : α → Action β} {xs : List α}
    (hf : ∀ x ∈ xs, Keeps F (f x)) : Keeps F (each f xs) := by
  rw [← forIn_eq_each]
  exact keeps_forIn fun x hx _ => keeps_bind (hf x hx) fun _ => keeps_pure _

namespace Scheduler

variable {F : Frame}

theorem AddsIdle.refl (z : Scheduler) : z.AddsIdle z := fun _ hd => .inl hd

theorem AddsIdle.append {z z' : Scheduler} {added : List Due} (h : z'.due = z.due ++ added)
    (hadded : ∀ d ∈ added, d.stage.attempt? = none) : z.AddsIdle z' := by
  intro d hd
  rw [h] at hd
  exact (List.mem_append.mp hd).imp id (hadded d)

theorem change_keeps (hF : F.Patient) {f : Scheduler → Scheduler}
    (hf : ∀ z, (f z).timers = z.timers) : Keeps F (change f) :=
  keeps_modify fun s => hF.tasks s (hf s.scheduler)

theorem change_waits (hF : F.Waits) {f : Scheduler → Scheduler} (hf : ∀ z, Waits z (f z)) :
    Keeps F (change f) :=
  keeps_modify fun s => hF.tasks s (hf s.scheduler)

theorem sleep_keeps (hF : F.Waits) (task : Nat) (seconds : Value) :
    Keeps F (sleep task seconds) :=
  keeps_bind keeps_get fun _ => change_waits hF fun z => ⟨rfl, rfl, rfl, .refl z⟩

theorem await_keeps (hF : F.Waits) (t : Timer) : Keeps F (await t) :=
  keeps_bind keeps_get fun _ => sleep_keeps hF _ _

theorem setClock_keeps (hF : F.Waits) (t : Stamp) : Keeps F (setClock t) :=
  keeps_modify fun s => hF.clock s _

theorem woken_idle (task : Nat) : ∀ d ∈ [(⟨task, .woken⟩ : Due)], d.stage.attempt? = none := by
  intro d hd
  rw [List.mem_singleton.mp hd]
  rfl

theorem waits_wake (task : Nat) (z : Scheduler) :
    Waits z { cancel task z with due := z.due ++ [⟨task, .woken⟩] } :=
  ⟨rfl, rfl, rfl, .append rfl (woken_idle task)⟩

theorem wake_keeps (hF : F.Waits) (task : Nat) : Keeps F (wake task) := by
  exact keeps_bind keeps_get fun _ =>
    keeps_ite (change_waits hF (waits_wake task)) (keeps_pure _)

/-- Steps that are taken one by one are taken, if each of them keeps the frame. -/
theorem turns_of_step (hF : F.Patient) (hstep : ∀ d, Keeps F (step d)) : F.Turns := by
  intro s taken rest _
  have htaken : Keeps F (takeSome taken rest) :=
    keeps_bind (change_keeps hF fun _ => rfl) fun _ => keeps_each fun d _ => hstep d
  exact htaken s

theorem takeTurn_keeps (hturns : F.Turns) : Keeps F takeTurn := by
  refine keeps_getBind fun s => ?_
  cases hdue : s.scheduler.due with
  | nil => exact keeps_pure _ s
  | cons d rest =>
    have htaken := hturns s [d] rest fun d' hd' => hdue ▸ hd'
    rw [takeSome, change, bind_ok (modify_run _ s)] at htaken
    dsimp only
    rw [change, bind_ok (modify_run _ s)]
    exact discard_run (step d) _ ▸ htaken

theorem rounds_keeps (hturns : F.Turns) (n : Nat) : Keeps F (rounds n) := by
  induction n with
  | zero => exact keeps_pure _
  | succ n ih =>
    refine keeps_getBind fun s => ?_
    by_cases hidle : s.scheduler.due.isEmpty = true
    · rw [if_pos hidle]
      exact keeps_pure _ s
    · have htaken := hturns s s.scheduler.due [] fun d hd => by rwa [List.append_nil] at hd
      rw [if_neg hidle, forIn_eq_each, ← bind_assoc]
      exact holds_bind htaken fun _ => ih

theorem release_keeps (hF : F.Waits) (hturns : F.Turns) : Keeps F release := by
  have hwoken : ∀ z : Scheduler, Waits z { z with
      due := z.due ++ z.sleepers.map fun z => ⟨z.task, .woken⟩, sleepers := [] } := by
    refine fun z => ⟨rfl, rfl, rfl, .append rfl fun d hd => ?_⟩
    obtain ⟨sleeper, _, rfl⟩ := List.mem_map.mp hd
    rfl
  exact keeps_bind (change_waits hF hwoken) fun _ => rounds_keeps hturns _

theorem wakeUntil_keeps (hF : F.Waits) (hturns : F.Turns) (target : Instant) (lag : Int) (n : Nat) :
    Keeps F (wakeUntil target lag n) := by
  induction n with
  | zero => exact keeps_pure _
  | succ n ih =>
    refine keeps_bind keeps_get fun s => ?_
    cases firstDue target s.scheduler with
    | none => exact keeps_pure _
    | some due =>
      refine keeps_bind (setClock_keeps hF _) fun _ => ?_
      refine keeps_bind (change_waits hF (waits_wake due.1.task)) fun _ => ?_
      exact keeps_bind (rounds_keeps hturns _) fun _ => ih

theorem advance_keeps (hF : F.Waits) (hturns : F.Turns) (length lag : Int) :
    Keeps F (advance length lag) :=
  keeps_bind keeps_get fun _ => keeps_bind (wakeUntil_keeps hF hturns _ _ _) fun _ =>
    setClock_keeps hF _

/-! What a frame must keep for the steps of the scheduler to keep it. -/

theorem register_frame {t : Trigger} (hdrop : Keeps F (unregister t.id))
    (hcount : Keeps F countTimers)
    (hspawn : ∀ key expression zone nextRun, Keeps F (change fun s =>
      let (task, s) := spawn .waiting s
      { s with timers := s.timers.put key ⟨task, t.id, expression, zone, nextRun⟩ })) :
    Keeps F (register t) := by
  refine keeps_bind hdrop fun _ => keeps_bind (keeps_ofExcept _) fun expression => ?_
  refine keeps_bind (keeps_ofExcept _) fun zone => keeps_bind keeps_get fun s => ?_
  refine keeps_bind keeps_get fun s' => ?_
  cases firstRun expression (zone.orElse s.config.defaultTimezone) s'.clock.instant with
  | ok first =>
    refine keeps_bind (keeps_ofExcept _) fun key => keeps_bind (hspawn key _ _ _) fun _ => ?_
    exact keeps_bind hcount fun _ => keeps_bind (log_keeps _ _ _) fun _ => keeps_pure _
  | error e =>
    have hrest : Keeps F (do
        log .cron Log.error
          ("Failed to register cron job for trigger " ++ t.id.shown ++ ": " ++ e.message)
        return false) := keeps_bind (log_keeps _ _ _) fun _ => keeps_pure _
    exact keeps_ite (keeps_bind (keeps_throw e) fun _ => hrest) hrest

variable {t : Timer} {s : Automation}

theorem advanceTimer_frame (hF : F.Waits) (hdrop : Keeps F (unregister t.triggerId))
    (hput : ∀ nextRun, Keeps F (change fun s =>
      { s with timers := s.timers.put t.triggerId { t with nextRun } })) :
    Keeps F (advanceTimer t) := by
  refine keeps_bind keeps_get fun s => ?_
  cases Cron.nextFire t.expression t.zone (searchStart t s.clock.instant) with
  | ok nextRun => exact keeps_bind (hput nextRun) fun _ => await_keeps hF _
  | error e =>
    have hrest : Keeps F (do
        log .cron Log.error
          ("Dropping cron job for trigger " ++ t.triggerId.shown ++ ": " ++ e.message)
        unregister t.triggerId) := keeps_bind (log_keeps _ _ _) fun _ => hdrop
    exact keeps_ite (keeps_bind (keeps_throw e) fun _ => hrest) hrest

theorem concludeTick_frame {a : Attempt} {outcome : Except Error StartedRun}
    (hconclude : Keeps F (Engine.conclude a outcome)) (hadvance : Keeps F (advanceTimer t)) :
    Keeps F (concludeTick t a outcome) := by
  refine keeps_bind (keeps_attempt hconclude) fun r => ?_
  cases r with
  | ok e => exact hadvance
  | error e => exact keeps_bind (log_keeps _ _ _) fun _ => hadvance

/-- Of the attempt that is begun, more can be known than that there is one, and what becomes of it
may keep a frame that says more. -/
theorem wakeTimer_frame (hbegin : F.holds s (Engine.beginScheduled t.triggerId t.expression s).2)
    (hdrop : Keeps F (unregister t.triggerId)) (hadvance : Keeps F (advanceTimer t))
    (hattempt : ∀ a s', Engine.beginScheduled t.triggerId t.expression s = (.ok (some a), s') →
      ∃ G : Frame, (∀ s'', G.holds s' s'' → F.holds s' s'') ∧
        Keeps G (makeDue t.task (.starting a)) ∧ ∀ e, Keeps G (concludeTick t a (.error e))) :
    F.holds s (wakeTimer t s).2 := by
  rw [wakeTimer, bind_ok (attempt_run _ s)]
  cases hrun : Engine.beginScheduled t.triggerId t.expression s with
  | mk r s₁ =>
    rw [hrun] at hbegin
    refine F.trans hbegin ?_
    cases r with
    | error e => exact keeps_bind (log_keeps _ _ _) (fun _ => hadvance) s₁
    | ok begun =>
      cases begun with
      | none => exact hdrop s₁
      | some a =>
        obtain ⟨G, hweaker, hdue, hconclude⟩ := hattempt a s₁ hrun
        refine hweaker _
          (keeps_bind (keeps_attempt (Engine.ensureDeployed_keeps _)) (fun r => ?_) s₁)
        cases r with
        | ok _ => exact hdue
        | error e => exact hconclude e

/-- The attempt that a step has in hand stays the same until it is concluded. -/
theorem timerStep_frame {stage : Stage} (hF : F.Waits) (hwake : F.holds s (wakeTimer t s).2)
    (hstart : ∀ a, Keeps F (Engine.start a))
    (hdue : ∀ stage', (∀ a, stage'.attempt? = some a → stage.attempt? = some a) →
      Keeps F (makeDue t.task stage'))
    (hconclude : ∀ a outcome, stage.attempt? = some a →
      F.holds s (concludeTick t a outcome s).2) : F.holds s (timerStep t stage s).2 := by
  cases stage with
  | waiting => exact await_keeps hF t s
  | woken => exact hwake
  | starting a =>
    refine keeps_bind Audit.settle_keeps (fun _ => keeps_bind (hstart a) fun r => ?_) s
    cases r with
    | some outcome => exact hdue _ fun _ => id
    | none => exact hdue _ fun _ => id
  | stalled a =>
    have hgive : Keeps F (timerStep t (.stalled a)) :=
      keeps_bind (Engine.giveUp_keeps a) fun outcome => hdue (.concluding a outcome) fun _ => id
    exact hgive s
  | concluding a outcome => exact hconclude a outcome rfl

/-! What the scheduler does apart from firing triggers. -/

theorem change_timeless (hF : F.Timeless) {f : Scheduler → Scheduler}
    (hdue : ∀ z, AddsIdle z (f z)) : Keeps F (change f) :=
  keeps_modify fun s => hF.tasks s (hdue s.scheduler)

theorem countTimers_timeless (hF : F.Timeless) : Keeps F countTimers :=
  keeps_modify fun s => hF.gauge s _

theorem unregister_timeless (hF : F.Timeless) (id : Value) : Keeps F (unregister id) := by
  refine keeps_bind (keeps_ofExcept _) fun key => keeps_bind keeps_get fun s => ?_
  cases s.scheduler.timers.get? key with
  | none => exact keeps_pure _
  | some timer =>
    -- Whether or not its task is cancelled, no step becomes due.
    refine keeps_bind (change_timeless hF fun z d hd => .inl ?_) fun _ => ?_
    · dsimp only at hd
      split at hd <;> exact hd
    · exact keeps_bind (countTimers_timeless hF) fun _ => log_keeps _ _ _

theorem register_timeless (hF : F.Timeless) (t : Trigger) : Keeps F (register t) := by
  refine register_frame (unregister_timeless hF _) (countTimers_timeless hF) fun _ _ _ _ =>
    change_timeless hF fun z => AddsIdle.append rfl fun d hd => ?_
  rw [List.mem_singleton.mp hd]
  rfl

end Scheduler

/-- To drop and to register timers keeps a frame. -/
structure Frame.Registers (F : Frame) : Prop where
  unregister (id : Value) : Keeps F (Scheduler.unregister id)
  register (t : Trigger) : Keeps F (Scheduler.register t)

theorem Frame.Timeless.registers {F : Frame} (hF : F.Timeless) : F.Registers :=
  ⟨Scheduler.unregister_timeless hF, Scheduler.register_timeless hF⟩

namespace Scheduler

variable {F : Frame}

/-- To follow a change keeps a frame if to drop the timer does, and to register the trigger in case
it is an active cron trigger now. -/
theorem onTriggerChanged_keeps {t : Trigger} {deleted : Bool} (hdrop : Keeps F (unregister t.id))
    (hregister : t.isCron = true → deleted = false → t.isActive.truthy = true →
      Keeps F (register t)) : Keeps F (onTriggerChanged t deleted) := by
  rw [onTriggerChanged]
  by_cases hcron : t.isCron = true
  · rw [hcron, Bool.not_true, if_neg Bool.false_ne_true]
    by_cases hgone : (deleted || !t.isActive.truthy) = true
    · rw [if_pos hgone]
      exact hdrop
    · rw [if_neg hgone]
      rw [Bool.not_eq_true, Bool.or_eq_false_iff, Bool.not_eq_false'] at hgone
      exact keeps_bind (hregister hcron hgone.1 hgone.2) fun _ => keeps_pure _
  · rw [Bool.eq_false_iff.mpr hcron]
    exact keeps_pure _

theorem notify_keeps {t : Trigger} {deleted : Bool} (hdrop : Keeps F (unregister t.id))
    (hregister : t.isCron = true → deleted = false → t.isActive.truthy = true →
      Keeps F (register t)) : Keeps F (Registry.notify t deleted) := by
  have htell : Keeps F (Registry.tell t deleted) := by
    refine keeps_bind keeps_get fun s => ?_
    cases s.listener with
    | none => exact keeps_pure _
    | scheduler => exact onTriggerChanged_keeps hdrop hregister
    | recorder failure =>
      refine keeps_bind keeps_get fun s => ?_
      refine keeps_bind (keeps_modify fun _ => F.quiet (by constructor <;> rfl)) fun _ => ?_
      cases failure with
      | none => exact keeps_pure _
      | some e => exact keeps_throw e
  refine keeps_bind (keeps_attempt htell) fun r => ?_
  cases r with
  | ok _ => exact keeps_pure _
  | error e => exact log_keeps _ _ _

theorem tick_keeps {id expression : Value} (hdrop : Keeps F (unregister id))
    (hfire : Keeps F (Engine.fireScheduled id expression)) : Keeps F (tick id expression) := by
  refine keeps_bind (keeps_attempt hfire) fun r => ?_
  cases r with
  | error e => exact keeps_bind (log_keeps _ _ _) fun _ => keeps_pure _
  | ok e =>
    cases e with
    | none => exact keeps_bind hdrop fun _ => keeps_pure _
    | some e => exact keeps_pure _

theorem isRegistered_keeps {F : Frame} (id : Value) : Keeps F (isRegistered id) :=
  keeps_bind keeps_get fun _ => keeps_bind (keeps_ofExcept _) fun _ => keeps_pure _

theorem reconcile_keeps (hF : F.Registers) : Keeps F reconcile := by
  refine keeps_bind (log_keeps _ _ _) fun _ => keeps_bind (Engine.findActive_keeps _ _) fun ts => ?_
  refine keeps_bind (keeps_ofExcept _) fun ids => keeps_bind keeps_get fun s => ?_
  refine keeps_bind (keeps_forIn fun id _ _ => ?_) fun _ => keeps_bind (keeps_forIn fun t _ _ => ?_)
    fun _ => keeps_pure _
  · refine keeps_ite (keeps_bind (log_keeps _ _ _) fun _ => ?_) (keeps_pure _)
    exact keeps_bind (hF.unregister id) fun _ => keeps_pure _
  · refine keeps_bind (isRegistered_keeps _) fun registered => ?_
    refine keeps_ite (keeps_bind (log_keeps _ _ _) fun _ => ?_) (keeps_pure _)
    exact keeps_bind (hF.register t) fun _ => keeps_pure _

theorem loadTriggers_keeps (hF : F.Registers) : Keeps F loadTriggers := by
  refine keeps_bind (keeps_attempt (Engine.findActive_keeps _ _)) fun r => ?_
  cases r with
  | error e => exact log_keeps _ _ _
  | ok ts =>
    refine keeps_bind (log_keeps _ _ _) fun _ => keeps_bind (keeps_forIn fun t _ _ => ?_) fun _ =>
      keeps_pure _
    exact keeps_bind (hF.register t) fun _ => keeps_pure _

/-- Begins the periodic pass. -/
def beginPass : Action Unit :=
  change fun s =>
    let (task, s) := spawn .waiting s
    { s with pass := some task }

theorem start_frame (hrun : Keeps F (change ({ · with running := true })))
    (hload : Keeps F loadTriggers) (hpass : Keeps F beginPass) : Keeps F start := by
  have hrest : Keeps F (do
      change ({ · with running := true })
      loadTriggers
      beginPass
      log .cron Log.info "Cron scheduler started") :=
    keeps_bind hrun fun _ => keeps_bind hload fun _ => keeps_bind hpass fun _ => log_keeps _ _ _
  exact keeps_bind keeps_get fun s => keeps_ite (keeps_pure _) hrest

theorem start_timeless (hF : F.Timeless) : Keeps F start := by
  have hpass : Keeps F beginPass :=
    change_timeless hF fun z => AddsIdle.append rfl fun d hd => by
      rw [List.mem_singleton.mp hd]
      rfl
  exact start_frame (change_timeless hF fun z => .refl z) (loadTriggers_keeps hF.registers) hpass

theorem stop_timeless (hF : F.Timeless) : Keeps F stop := by
  refine keeps_bind (change_timeless hF fun z d hd => ?_) fun _ => ?_
  · exact absurd hd List.not_mem_nil
  · exact keeps_bind (countTimers_timeless hF) fun _ => log_keeps _ _ _

theorem advanceTimer_timeless (hF : F.Timeless) (t : Timer) : Keeps F (advanceTimer t) :=
  advanceTimer_frame hF.waits (unregister_timeless hF _) fun _ =>
    change_timeless hF fun z => .refl z

theorem passStep_timeless (hF : F.Timeless) (task : Nat) (stage : Stage) :
    Keeps F (passStep task stage) := by
  have hsleep : Keeps F (do sleep task (← get).config.reconcileInterval) :=
    keeps_bind keeps_get fun _ => sleep_keeps hF.waits _ _
  cases stage with
  | woken =>
    refine keeps_bind (keeps_attempt (reconcile_keeps hF.registers)) fun r => ?_
    cases r with
    | ok _ => exact hsleep
    | error e => exact keeps_bind (log_keeps _ _ _) fun _ => hsleep
  | _ => exact hsleep

theorem concludeTick_timeless (hF : F.Timeless) (t : Timer) {a : Attempt}
    {outcome : Except Error StartedRun} (hconclude : Keeps F (Engine.conclude a outcome)) :
    Keeps F (concludeTick t a outcome) :=
  concludeTick_frame hconclude (advanceTimer_timeless hF t)

/-- A step keeps a frame if the step of its timer does. -/
theorem step_timeless (hF : F.Timeless) {d : Due} (htimer : ∀ t, Keeps F (timerStep t d.stage)) :
    Keeps F (step d) := by
  refine keeps_bind keeps_get fun s => keeps_bind (change_timeless hF fun z => .refl z) fun _ => ?_
  refine keeps_bind (keeps_attempt (keeps_ite (passStep_timeless hF _ _) ?_)) fun _ =>
    change_timeless hF fun z => .refl z
  cases timerOf s.scheduler d.task with
  | some t => exact htimer t
  | none => exact keeps_pure _

end Scheduler

/-- The frame of everything but the calls that write triggers. -/
def grownFrame : Frame where
  holds := Grown
  quiet := Grown.ofQuiet
  trans := Grown.trans

theorem grownFrame_patient : grownFrame.Patient where
  tasks s _ _ := { (Grown.refl s : Grown s s) with }
  clock s _ := { (Grown.refl s : Grown s s) with }

theorem grownFrame_timeless : grownFrame.Timeless where
  tasks s _ _ := { (Grown.refl s : Grown s s) with }
  gauge s _ := { (Grown.refl s : Grown s s) with }
  clock := grownFrame_patient.clock

namespace Action

theorem keeps_of_fired {α : Type} {row : Execution → Prop} {run : StartedRun → Prop} {a : Action α}
    (h : Keeps (firedFrame row run) a) : Keeps grownFrame a := fun s => .ofFired (h s)

end Action

namespace Scheduler

theorem change_grows (f : Scheduler → Scheduler) : Keeps grownFrame (change f) :=
  keeps_modify fun s => { (Grown.refl s : Grown s s) with }

theorem concludeTick_grows (t : Timer) (a : Attempt) (outcome : Except Error StartedRun) :
    Keeps grownFrame (concludeTick t a outcome) := by
  have hconclude : Keeps anyFired (Engine.conclude a outcome) := Engine.conclude_fires trivial
  exact concludeTick_timeless grownFrame_timeless t (keeps_of_fired hconclude)

theorem wakeTimer_grows (t : Timer) : Keeps grownFrame (wakeTimer t) := by
  have hbegin : Keeps anyFired (Engine.beginScheduled t.triggerId t.expression) :=
    Engine.beginScheduled_fires _ _
  exact fun s => wakeTimer_frame (keeps_of_fired hbegin s)
    (unregister_timeless grownFrame_timeless _) (advanceTimer_timeless grownFrame_timeless t)
    fun a _ _ => ⟨_, fun _ => id, change_grows _, fun e => concludeTick_grows t a _⟩

theorem timerStep_grows (t : Timer) (stage : Stage) : Keeps grownFrame (timerStep t stage) := by
  have hstart : ∀ a, Keeps anyFired (Engine.start a) := fun a =>
    Engine.start_fires fun _ _ _ => trivial
  exact fun s => timerStep_frame grownFrame_timeless.waits (wakeTimer_grows t s)
    (fun a => keeps_of_fired (hstart a)) (fun _ _ => change_grows _)
    fun a outcome _ => concludeTick_grows t a outcome s

theorem step_grows (d : Due) : Keeps grownFrame (step d) :=
  step_timeless grownFrame_timeless fun t => timerStep_grows t d.stage

theorem grownFrame_turns : grownFrame.Turns := turns_of_step grownFrame_patient step_grows

end Scheduler

namespace Operation

/-- Whether all that an operation does is to fire triggers. -/
def Fires : Operation → Prop
  | recordFire .. | startProcess .. | evaluate .. | fire .. | fireScheduled .. | handleWebhook ..
  | drawId | elsewhere .. => True
  | _ => False

theorem perform_fires {op : Operation} (h : op.Fires) : Keeps anyFired op.perform := by
  cases op with
  | recordFire id firedAt =>
    exact keeps_bind now_keeps fun _ => Automation.recordFire_fires _ _
  | startProcess definitionId vars options =>
    exact keeps_bind (startProcess_fires fun _ _ _ => trivial) fun _ => keeps_pure _
  | evaluate type context workspaceId =>
    exact keeps_bind (Engine.evaluate_keeps _ _ _) fun _ => keeps_pure _
  | fire t context => exact keeps_bind (Engine.fire_keeps _ _) fun _ => keeps_pure _
  | fireScheduled id expression =>
    exact keeps_bind (Engine.fireScheduled_keeps _ _) fun _ => keeps_pure _
  | handleWebhook id body signature plainSecret =>
    exact keeps_bind (Webhook.handle_fires _ _ _ _) fun _ => keeps_pure _
  | drawId => exact keeps_bind drawId_fires fun _ => keeps_pure _
  | elsewhere f quiet => exact keeps_modify fun s => .ofQuiet (quiet s)
  | _ => exact h.elim

/-- Whether an operation has to do with the scheduler alone, its tasks or the time. -/
def Schedules : Operation → Prop
  | startScheduler | stopScheduler | reconcile | unregister _ | wake _ | takeTurn | runUntilIdle
  | release | advance .. | setClock _ => True
  | _ => False

theorem perform_schedules {F : Frame} (hF : F.Timeless) (hturns : F.Turns) {op : Operation}
    (h : op.Schedules) : Keeps F op.perform := by
  cases op with
  | startScheduler => exact Scheduler.start_timeless hF
  | stopScheduler => exact Scheduler.stop_timeless hF
  | reconcile => exact Scheduler.reconcile_keeps hF.registers
  | unregister id => exact Scheduler.unregister_timeless hF id
  | wake task => exact Scheduler.wake_keeps hF.waits task
  | takeTurn => exact Scheduler.takeTurn_keeps hturns
  | runUntilIdle => exact Scheduler.rounds_keeps hturns _
  | release => exact Scheduler.release_keeps hF.waits hturns
  | advance length lag => exact Scheduler.advance_keeps hF.waits hturns length lag
  | setClock t => exact keeps_modify fun s => hF.clock s t
  | _ => exact h.elim

/-- Whether an operation neither writes triggers, nor attaches a listener, nor cancels a run. -/
def Grows : Operation → Prop
  | create .. | update .. | toggle .. | delete .. | listen _ | cancelRun _ => False
  | _ => True

theorem perform_grows {op : Operation} (h : op.Grows) : Keeps grownFrame op.perform := by
  cases op with
  | create | update | toggle | delete | listen | cancelRun => exact h.elim
  | recordFire | startProcess | evaluate | fire | fireScheduled | handleWebhook | drawId
  | elsewhere => exact keeps_of_fired (perform_fires trivial)
  | deploy d =>
    refine keeps_getBind fun s => ?_
    cases hdeploy : s.orchestrator.deploy d with
    | error e => exact .refl s
    | ok o =>
      obtain ⟨key, _, ho⟩ := exists_of_bind_eq_ok hdeploy
      cases ho
      exact { (Grown.refl s : Grown s s) with }
  | failNextStart e => exact keeps_modify fun s => { (Grown.refl s : Grown s s) with }
  | tick id expression =>
    have hfire : Keeps anyFired (Engine.fireScheduled id expression) :=
      Engine.fireScheduled_keeps id expression
    have htick : Keeps grownFrame (Scheduler.tick id expression) :=
      Scheduler.tick_keeps (Scheduler.unregister_timeless grownFrame_timeless id)
        (keeps_of_fired hfire)
    exact keeps_bind htick fun _ => keeps_pure _
  | startScheduler | stopScheduler | reconcile | unregister | wake | takeTurn | runUntilIdle
  | release | advance | setClock =>
    exact perform_schedules grownFrame_timeless Scheduler.grownFrame_turns trivial

end Operation

theorem Orchestrator.cancelRun_handles {id : Value} {rs rs' : List StartedRun}
    (h : cancelRun id rs = some rs') : rs'.map (·.handle) = rs.map (·.handle) := by
  induction rs generalizing rs' with
  | nil => cases h
  | cons r rs ih =>
    rw [cancelRun] at h
    split at h
    · rw [← Option.some.inj h]
      rfl
    · obtain ⟨rest, hrest, rfl⟩ := Option.map_eq_some_iff.mp h
      rw [List.map_cons, List.map_cons, ih hrest]

end ProcessTriggers
