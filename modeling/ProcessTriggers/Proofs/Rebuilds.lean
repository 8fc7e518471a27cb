import ProcessTriggers.Proofs.FireTimes
import ProcessTriggers.Proofs.Operations

/-!
What happens to the tasks when timers are dropped and built. A new timer gets a new number for its
task, and its first time is the one that its schedule has after the reading of the clock.
-/

namespace ProcessTriggers

open Action Automation

namespace Scheduler

/-- The tasks that wait, and those that have a step due. -/
def pending (z : Scheduler) : List Nat := z.sleepers.map (·.task) ++ z.due.map (·.task)

/-- The tasks that wait, and those whose due step has no attempt in hand. -/
def idle (z : Scheduler) : List Nat :=
  z.sleepers.map (·.task) ++ (z.due.filter (·.stage.attempt?.isNone)).map (·.task)

/-- The tasks of the timers, and that of the periodic pass. -/
def owners (z : Scheduler) : List Nat := z.timers.map (·.2.task) ++ z.pass.toList

/-- Whether a number was given to a task between two states, as a count. -/
def fresh (z z' : Scheduler) (n : Nat) : Nat := if z.lastTask < n ∧ n ≤ z'.lastTask then 1 else 0

/-- A timer was built between two states, at a reading of the clock. -/
structure Built (now : Instant) (z z' : Scheduler) (t : Timer) : Prop where
  task : z.lastTask < t.task ∧ t.task ≤ z'.lastTask
  zone : t.zone ∈ Zone.all
  first : Cron.nextFire t.expression t.zone now = .ok t.nextRun

/-- Between two states timers were dropped only. -/
structure Dropped (z z' : Scheduler) : Prop where
  timers : z'.timers.Sublist z.timers
  sleepers : z'.sleepers.Sublist z.sleepers
  due : z'.due.Sublist z.due
  pass : z'.pass.toList.Sublist z.pass.toList
  lastTask : z'.lastTask = z.lastTask

namespace Dropped

variable {z z' z'' : Scheduler}

theorem refl (z : Scheduler) : Dropped z z := ⟨.refl _, .refl _, .refl _, .refl _, rfl⟩

theorem trans (h : Dropped z z') (h' : Dropped z' z'') : Dropped z z'' where
  timers := h'.timers.trans h.timers
  sleepers := h'.sleepers.trans h.sleepers
  due := h'.due.trans h.due
  pass := h'.pass.trans h.pass
  lastTask := h'.lastTask.trans h.lastTask

end Dropped

/-- Between two states timers were dropped and built only, at a reading of the clock. A number that
is new is that of one task at most. -/
structure Rebuilt (now : Instant) (z z' : Scheduler) : Prop where
  lastTask : z.lastTask ≤ z'.lastTask
  pending : ∀ n, z'.pending.count n ≤ z.pending.count n + z.fresh z' n
  owners : ∀ n, z'.owners.count n ≤ z.owners.count n + z.fresh z' n
  timers : ∀ e ∈ z'.timers, e ∈ z.timers ∨ z.Built now z' e.2
  idle : ∀ n ∈ z'.idle, n ∈ z.idle ∨ z.lastTask < n

theorem mem_idle {z : Scheduler} {n : Nat} : n ∈ z.idle ↔ (∃ w ∈ z.sleepers, w.task = n) ∨
    ∃ d ∈ z.due, d.stage.attempt? = none ∧ d.task = n := by
  simp [idle, and_assoc]

namespace Rebuilt

variable {now : Instant} {z z' z'' : Scheduler}

theorem ofDropped (h : Dropped z z') : Rebuilt now z z' where
  lastTask := Nat.le_of_eq h.lastTask.symm
  pending n := Nat.le_trans (((h.sleepers.map _).append (h.due.map _)).count_le n)
    (Nat.le_add_right _ _)
  owners n := Nat.le_trans (((h.timers.map _).append h.pass).count_le n) (Nat.le_add_right _ _)
  timers _ he := .inl (h.timers.subset he)
  idle _ hn := .inl (((h.sleepers.map _).append ((h.due.filter _).map _)).subset hn)

theorem refl (now : Instant) (z : Scheduler) : Rebuilt now z z :=
  ofDropped (.refl z)

theorem fresh_trans (h : z.lastTask ≤ z'.lastTask) (h' : z'.lastTask ≤ z''.lastTask) (n : Nat) :
    z.fresh z' n + z'.fresh z'' n = z.fresh z'' n := by
  unfold fresh
  split <;> split <;> split <;> omega

theorem trans (h : Rebuilt now z z') (h' : Rebuilt now z' z'') : Rebuilt now z z'' where
  lastTask := Nat.le_trans h.lastTask h'.lastTask
  pending n := by
    have hsum := fresh_trans h.lastTask h'.lastTask n
    have hfirst := h.pending n
    have hsecond := h'.pending n
    omega
  owners n := by
    have hsum := fresh_trans h.lastTask h'.lastTask n
    have hfirst := h.owners n
    have hsecond := h'.owners n
    omega
  timers e he := by
    rcases h'.timers e he with hold | hbuilt
    · rcases h.timers e hold with hold | hbuilt
      · exact .inl hold
      · exact .inr { hbuilt with
          task := ⟨hbuilt.task.1, Nat.le_trans hbuilt.task.2 h'.lastTask⟩ }
    · exact .inr { hbuilt with
        task := ⟨Nat.lt_of_le_of_lt h.lastTask hbuilt.task.1, hbuilt.task.2⟩ }
  idle n hn := by
    rcases h'.idle n hn with hold | hnew
    · exact h.idle n hold
    · exact .inr (Nat.lt_of_le_of_lt h.lastTask hnew)

/-- A task was begun, for a timer or for the periodic pass. -/
theorem ofSpawn (hlast : z'.lastTask = z.lastTask + 1) (hsleepers : z'.sleepers = z.sleepers)
    (hdue : z'.due = z.due ++ [⟨z.lastTask + 1, .waiting⟩])
    (howners : ∀ n, z'.owners.count n ≤ z.owners.count n + [z.lastTask + 1].count n)
    (htimers : ∀ e ∈ z'.timers, e ∈ z.timers ∨ z.Built now z' e.2) : Rebuilt now z z' := by
  have hfresh : ∀ n, [z.lastTask + 1].count n = z.fresh z' n := by
    intro n
    rw [fresh, hlast, List.count_singleton]
    simp only [beq_iff_eq]
    split <;> split <;> omega
  refine ⟨by omega, fun n => ?_, fun n => hfresh n ▸ howners n, htimers, fun n hn => ?_⟩
  · rw [Scheduler.pending, hsleepers, hdue, List.map_append, ← List.append_assoc,
      List.count_append]
    exact Nat.add_le_add_left (Nat.le_of_eq (hfresh n)) _
  · rw [mem_idle, hsleepers, hdue] at hn
    rw [mem_idle]
    rcases hn with hsleeps | ⟨d, hd, hstage, htask⟩
    · exact .inl (.inl hsleeps)
    · rcases List.mem_append.mp hd with hd | hd
      · exact .inl (.inr ⟨d, hd, hstage, htask⟩)
      · rw [List.mem_singleton.mp hd] at htask
        dsimp only at htask
        omega

end Rebuilt
end Scheduler

theorem Keyed.count_put_le {α : Type} (f : α → Nat) (t : Keyed α) (key : Value) (x : α) (n : Nat) :
    ((t.put key x).map (f ·.2)).count n ≤ (t.map (f ·.2)).count n + [f x].count n := by
  induction t with
  | nil => exact Nat.le_add_left _ _
  | cons e t ih =>
    rw [put]
    split
    · rw [List.map_cons, List.map_cons, List.count_cons, List.count_cons, List.count_singleton]
      dsimp only
      omega
    · rw [List.map_cons, List.map_cons, List.count_cons, List.count_cons]
      omega

/-- Timers are dropped, and nothing else happens to the scheduler or to the clock. -/
def droppedFrame : Frame where
  holds s s' := s'.clock = s.clock ∧ s.scheduler.Dropped s'.scheduler
  quiet h := ⟨h.clock, h.scheduler ▸ .refl _⟩
  trans h h' := ⟨h'.1.trans h.1, h.2.trans h'.2⟩

/-- Timers are dropped and built, and nothing else happens to the scheduler or to the clock. -/
def rebuiltFrame : Frame where
  holds s s' := s'.clock = s.clock ∧
    Scheduler.Rebuilt s.clock.instant s.scheduler s'.scheduler
  quiet h := ⟨h.clock, h.scheduler ▸ .refl _ _⟩
  trans h h' := ⟨h'.1.trans h.1, h.2.trans (h.1 ▸ h'.2)⟩

/-- A frame looks at nothing but the clock and the scheduler. -/
def Frame.Local (F : Frame) : Prop :=
  ∀ {s s' : Automation}, s'.clock = s.clock → s'.scheduler = s.scheduler → F.holds s s'

theorem rebuiltFrame_local : rebuiltFrame.Local :=
  fun hclock hscheduler => ⟨hclock, hscheduler ▸ .refl _ _⟩

namespace Scheduler

theorem change_rebuilds {f : Scheduler → Scheduler} {s : Automation}
    (h : Rebuilt s.clock.instant s.scheduler (f s.scheduler)) :
    rebuiltFrame.holds s (change f s).2 := ⟨rfl, h⟩

theorem countTimers_rebuilds : Keeps rebuiltFrame countTimers :=
  keeps_modify fun s => ⟨rfl, .refl _ s.scheduler⟩

theorem unregister_drops (id : Value) : Keeps droppedFrame (unregister id) := by
  refine keeps_bind (keeps_ofExcept _) fun key => keeps_bind keeps_get fun s => ?_
  cases s.scheduler.timers.get? key with
  | none => exact keeps_pure _
  | some timer =>
    refine keeps_bind (keeps_modify fun s => ⟨rfl, ?_⟩) fun _ => ?_
    · -- Whether or not its task is cancelled, nothing is added.
      dsimp only
      split
      · exact ⟨List.filter_sublist, .refl _, .refl _, .refl _, rfl⟩
      · exact ⟨List.filter_sublist, List.filter_sublist, .refl _, .refl _, rfl⟩
    · exact keeps_bind (keeps_modify fun s => ⟨rfl, .refl s.scheduler⟩) fun _ => log_keeps _ _ _

theorem unregister_rebuilds (id : Value) : Keeps rebuiltFrame (unregister id) := fun s =>
  ⟨(unregister_drops id s).1, .ofDropped (unregister_drops id s).2⟩

/-- The timer of a trigger with a schedule is built anew. -/
theorem built_of_firstRun {expression zoneName : Value} {zone : Zone} {now nextRun : Instant}
    (h : firstRun expression zoneName now = .ok (zone, nextRun)) : zone ∈ Zone.all ∧
      Cron.nextFire expression zone now = .ok nextRun := by
  obtain ⟨z, hzone, h⟩ := exists_of_bind_eq_ok h
  obtain ⟨t, hnext, h⟩ := exists_of_bind_eq_ok h
  cases h
  exact ⟨Cron.validate_zone hzone, hnext⟩

theorem register_rebuilds (t : Trigger) : Keeps rebuiltFrame (register t) := by
  refine keeps_bind (unregister_rebuilds _) fun _ => keeps_bind (keeps_ofExcept _)
    fun expression => ?_
  refine keeps_bind (keeps_ofExcept _) fun zoneName => keeps_bind keeps_get fun config => ?_
  refine keeps_getBind fun s => ?_
  cases hfirst : firstRun expression (zoneName.orElse config.config.defaultTimezone)
      s.clock.instant with
  | error e =>
    have hrest : Keeps rebuiltFrame (do
        log .cron Log.error
          ("Failed to register cron job for trigger " ++ t.id.shown ++ ": " ++ e.message)
        return false) := keeps_bind (log_keeps _ _ _) fun _ => keeps_pure _
    exact keeps_ite (keeps_bind (keeps_throw e) fun _ => hrest) hrest s
  | ok first =>
    obtain ⟨zone, nextRun⟩ := first
    obtain ⟨hzone, hnext⟩ := built_of_firstRun hfirst
    dsimp only
    cases hkey : t.id.asKey with
    | error e =>
      rw [bind_ofExcept_error rfl]
      exact rebuiltFrame.refl s
    | ok key =>
      rw [bind_ofExcept rfl]
      refine holds_bind (change_rebuilds ?_) fun _ => keeps_bind countTimers_rebuilds fun _ =>
        keeps_bind (log_keeps _ _ _) fun _ => keeps_pure _
      refine .ofSpawn rfl rfl rfl (fun n => ?_) fun e he => ?_
      · have hput := Keyed.count_put_le (·.task) s.scheduler.timers key
          ⟨s.scheduler.lastTask + 1, t.id, expression, zone, nextRun⟩ n
        simp only [spawn, owners, List.count_append] at hput ⊢
        omega
      · refine (Keyed.mem_of_mem_put he).imp id fun htimer => ?_
        rw [htimer]
        exact ⟨⟨Nat.lt_succ_self _, Nat.le_refl _⟩, hzone, hnext⟩

theorem rebuiltFrame_registers : rebuiltFrame.Registers :=
  ⟨unregister_rebuilds, register_rebuilds⟩

theorem start_rebuilds : Keeps rebuiltFrame start := by
  have hrun : Keeps rebuiltFrame (change ({ · with running := true })) := fun s =>
    change_rebuilds (.ofDropped ⟨.refl _, .refl _, .refl _, .refl _, rfl⟩)
  refine start_frame hrun (loadTriggers_keeps rebuiltFrame_registers) fun s =>
    change_rebuilds (.ofSpawn rfl rfl rfl (fun n => ?_) fun e he => .inl he)
  -- The task of the pass takes the place of one that there may have been.
  simp only [spawn, owners, List.count_append, Option.toList_some]
  omega

theorem stop_rebuilds : Keeps rebuiltFrame stop := by
  refine keeps_bind (fun s => change_rebuilds ?_) fun _ => ?_
  · exact .ofDropped ⟨List.nil_sublist _, List.nil_sublist _, List.nil_sublist _,
      List.nil_sublist _, rfl⟩
  · exact keeps_bind countTimers_rebuilds fun _ => log_keeps _ _ _

end Scheduler

/-- A call of the registry may build a timer through the listener that it tells. -/
theorem Registry.Changed.keeps {F : Frame} (hlocal : F.Local) (hregisters : F.Registers)
    {s s' : Automation} (h : Registry.Changed s s') : F.holds s s' := by
  have htell : ∀ {t : Trigger} {deleted : Bool} {s₁ s₂ : Automation},
      Registry.notify t deleted s₁ = (.ok ⟨⟩, s₂) → F.holds s₁ s₂ := by
    intro t deleted s₁ s₂ htold
    have hkept : Keeps F (Registry.notify t deleted) :=
      Scheduler.notify_keeps (hregisters.unregister _) fun _ _ _ => hregisters.register t
    have hkept := hkept s₁
    rwa [htold] at hkept
  cases h with
  | nothing fired => exact hlocal fired.clock fired.scheduler
  | created id createdAt inserted stored told =>
    exact F.trans (hlocal stored.clock stored.scheduler) (htell told)
  | amended found amends saved stored told =>
    exact F.trans (hlocal stored.clock stored.scheduler) (htell told)
  | removed found quiet told deleted stored =>
    exact F.trans (F.trans (F.quiet quiet) (htell told)) (hlocal stored.clock stored.scheduler)
  | kept found quiet told stored =>
    exact F.trans (F.trans (F.quiet quiet) (htell told)) (F.quiet stored)

namespace Operation

/-- Whether an operation is one step that neither takes a turn nor wakes a task nor sets the
clock. -/
def Rebuilds : Operation → Prop
  | wake _ | takeTurn | runUntilIdle | release | advance .. | setClock _ => False
  | _ => True

/-- To drop and to build timers is all that such an operation does to the scheduler. -/
theorem perform_registers {F : Frame} (hlocal : F.Local) (hregisters : F.Registers)
    (hstart : Keeps F Scheduler.start) (hstop : Keeps F Scheduler.stop) {op : Operation}
    (h : op.Rebuilds) : Keeps F op.perform := by
  have hchange : ∀ {f : Automation → Automation},
      (∀ s, (f s).clock = s.clock ∧ (f s).scheduler = s.scheduler) → Keeps F (modify f) :=
    fun hf => keeps_modify fun s => hlocal (hf s).1 (hf s).2
  have hfires : ∀ {α : Type} {a : Action α}, Keeps anyFired a → Keeps F a :=
    fun ha s => hlocal (ha s).clock (ha s).scheduler
  cases op with
  | wake | takeTurn | runUntilIdle | release | advance | setClock => exact h.elim
  | recordFire | startProcess | evaluate | fire | fireScheduled | handleWebhook | drawId
  | elsewhere => exact hfires (perform_fires trivial)
  | create data userId =>
    intro s
    rw [Operation.perform, discard_run]
    exact (Registry.create_changed data userId s).keeps hlocal hregisters
  | update id changes =>
    intro s
    rw [Operation.perform, discard_run]
    exact (Registry.update_changed id changes s).keeps hlocal hregisters
  | toggle id =>
    intro s
    rw [Operation.perform, discard_run]
    exact (Registry.toggle_changed id s).keeps hlocal hregisters
  | delete id => exact fun s => (Registry.delete_changed id s).keeps hlocal hregisters
  | listen listener => exact hchange fun s => ⟨rfl, rfl⟩
  | deploy d =>
    refine keeps_bind keeps_get fun s => keeps_bind (keeps_ofExcept _) fun o => ?_
    exact hchange fun s => ⟨rfl, rfl⟩
  | failNextStart e => exact hchange fun s => ⟨rfl, rfl⟩
  | cancelRun id =>
    refine keeps_bind keeps_get fun s => keeps_bind (keeps_ofExcept _) fun o => ?_
    exact hchange fun s => ⟨rfl, rfl⟩
  | startScheduler => exact hstart
  | stopScheduler => exact hstop
  | reconcile => exact Scheduler.reconcile_keeps hregisters
  | tick id expression =>
    have hfire : Keeps anyFired (Engine.fireScheduled id expression) :=
      Engine.fireScheduled_keeps id expression
    have htick : Keeps F (Scheduler.tick id expression) :=
      Scheduler.tick_keeps (hregisters.unregister id) (hfires hfire)
    exact keeps_bind htick fun _ => keeps_pure _
  | unregister id => exact hregisters.unregister id

theorem perform_rebuilds {op : Operation} (h : op.Rebuilds) : Keeps rebuiltFrame op.perform :=
  perform_registers rebuiltFrame_local Scheduler.rebuiltFrame_registers Scheduler.start_rebuilds
    Scheduler.stop_rebuilds h

end Operation
end ProcessTriggers
