import ProcessTriggers.Proofs.Origins
import ProcessTriggers.Proofs.Rebuilds
import ProcessTriggers.Proofs.TimerSoundness

/-!
The tasks of a scheduler that is not running. Its timers and the attempts in their hands are those
of some triggers, and to these they remain confined whatever turns are taken, until an operation
activates another trigger.
-/

namespace ProcessTriggers

open Action Automation

namespace Scheduler

/-- The scheduler is not running and has no pass, and its timers and the attempts that are due are
those of triggers in `A`. -/
structure Confined (A : Value → Prop) (z : Scheduler) : Prop where
  running : z.running = false
  pass : z.pass = none
  timers : ∀ e ∈ z.timers, A e.2.triggerId
  due : ∀ d ∈ z.due, ∀ a, d.stage.attempt? = some a → A a.execution.triggerId

namespace Confined

variable {A A' : Value → Prop} {z z' : Scheduler}

theorem mono (h : Confined A z) (hA : ∀ id, A id → A' id) : Confined A' z where
  running := h.running
  pass := h.pass
  timers e he := hA _ (h.timers e he)
  due d hd a ha := hA _ (h.due d hd a ha)

theorem ofWaits (h : Confined A z) (hwaits : z.Waits z') : Confined A z' where
  running := hwaits.running.trans h.running
  pass := hwaits.pass.trans h.pass
  timers := hwaits.timers ▸ h.timers
  due d hd a ha := by
    rcases hwaits.due d hd with hd | hidle
    · exact h.due d hd a ha
    · rw [hidle] at ha
      cases ha

theorem withTimer (h : Confined A z) {key : Value} {timer : Timer} (htimer : A timer.triggerId) :
    Confined A { z with timers := z.timers.put key timer } where
  running := h.running
  pass := h.pass
  timers e he := by
    rcases Keyed.mem_of_mem_put he with he | heq
    · exact h.timers e he
    · exact heq ▸ htimer
  due := h.due

theorem withDue (h : Confined A z) {d : Due}
    (hd : ∀ a, d.stage.attempt? = some a → A a.execution.triggerId) :
    Confined A { z with due := z.due ++ [d] } where
  running := h.running
  pass := h.pass
  timers := h.timers
  due d' hd' := by
    rcases List.mem_append.mp hd' with hd' | hd'
    · exact h.due d' hd'
    · rw [List.mem_singleton.mp hd']
      exact hd

end Confined
end Scheduler

/-- The frame of what leaves the tasks confined to the triggers in `A`, and writes executions in
`row` only. -/
def confinedFrame (A : Value → Prop) (row : Execution → Prop) : Frame where
  holds s s' := s.scheduler.Confined A →
    s'.scheduler.Confined A ∧ s.executions.Extends row s'.executions
  quiet h hs := ⟨h.scheduler ▸ hs, h.executions ▸ .refl _⟩
  trans h h' hs := by
    obtain ⟨hs', hrows⟩ := h hs
    obtain ⟨hs'', hrows'⟩ := h' hs'
    exact ⟨hs'', hrows.trans hrows'⟩

/-- The frame of what keeps the timers sound, and keeps another frame if they are. -/
def Frame.whileSound (F : Frame) : Frame where
  holds s s' := Sound s → Sound s' ∧ F.holds s s'
  quiet h hs := ⟨.ofQuiet h hs, F.quiet h⟩
  trans h h' hs := by
    obtain ⟨hs', hF⟩ := h hs
    obtain ⟨hs'', hF'⟩ := h' hs'
    exact ⟨hs'', F.trans hF hF'⟩

variable {A : Value → Prop} {row : Execution → Prop} {run : StartedRun → Prop}

theorem Frame.Waits.whileSound {F : Frame} (hF : F.Waits) : F.whileSound.Waits where
  tasks s _ hwaits hs := ⟨soundFrame_patient.tasks s hwaits.timers hs, hF.tasks s hwaits⟩
  clock s clock hs := ⟨soundFrame_patient.clock s clock hs, hF.clock s clock⟩

theorem confinedFrame_waits : (confinedFrame A row).Waits where
  tasks _ _ hwaits h := ⟨h.ofWaits hwaits, .refl _⟩
  clock _ _ h := ⟨h, .refl _⟩

theorem Action.keeps_confined_of_fired {α : Type} {a : Action α}
    (h : Keeps (firedFrame row run) a) : Keeps (confinedFrame A row) a :=
  fun s hs => ⟨(h s).scheduler ▸ hs, (h s).executions⟩

namespace Scheduler

theorem change_confined {f : Scheduler → Scheduler}
    (hf : ∀ z, Confined A z → Confined A (f z)) : Keeps (confinedFrame A row) (change f) :=
  keeps_modify fun _ hs => ⟨hf _ hs, .refl _⟩

theorem countTimers_confined : Keeps (confinedFrame A row) countTimers :=
  keeps_modify fun _ hs => ⟨hs, .refl _⟩

theorem makeDue_confined (task : Nat) {stage : Stage}
    (hstage : ∀ a, stage.attempt? = some a → A a.execution.triggerId) :
    Keeps (confinedFrame A row) (makeDue task stage) :=
  change_confined fun _ h => h.withDue hstage

theorem unregister_confined (id : Value) : Keeps (confinedFrame A row) (unregister id) := by
  intro s h
  cases hkey : id.asKey with
  | error e =>
    rw [unregister, bind_ofExcept_error hkey]
    exact ⟨h, .refl _⟩
  | ok key =>
    obtain ⟨s', hrun, hretimed, htimers⟩ := unregister_run hkey s
    have hdropped := (unregister_drops id s).2
    rw [hrun] at hdropped ⊢
    refine ⟨?_, hretimed.executions ▸ .refl _⟩
    exact {
      running := hretimed.running.trans h.running
      pass := hretimed.pass.trans h.pass
      timers := fun e he => h.timers e (hdropped.timers.subset he)
      due := fun d hd => h.due d (hdropped.due.subset hd) }

theorem register_confined {t : Trigger} (ht : A t.id) :
    Keeps (confinedFrame A row) (register t) := by
  refine register_frame (unregister_confined _) countTimers_confined fun key _ _ _ =>
    change_confined fun z h => ?_
  -- The task of the new timer begins without an attempt.
  have hspawned := h.withDue (d := ⟨z.lastTask + 1, .waiting⟩) fun _ ha => nomatch ha
  have hkept : Confined A (spawn .waiting z).2 := { hspawned with }
  exact hkept.withTimer ht

/-- A reconciliation that is asked for registers the triggers that the store finds. -/
theorem reconcile_confined {s : Automation}
    (hfound : ∀ found, s.triggers.find TriggerStore.activeCron = .ok found →
      ∀ t ∈ found, A t.id) : (confinedFrame A row).holds s (reconcile s).2 := by
  obtain ⟨s₁, hlog, hquiet⟩ := log_quiet .cron Log.debug "Refreshing cron triggers..." s
  rw [reconcile, bind_ok hlog]
  refine (confinedFrame A row).trans ((confinedFrame A row).quiet hquiet) ?_
  obtain ⟨e, s₂, hrun, hquiet'⟩ | ⟨found, s₂, hrun, hfind, hquiet'⟩ :=
    findTriggers_cases TriggerStore.activeCron s₁
  · have hactive : Registry.findActive .cron .null s₁ = (.error e, s₂) := hrun
    rw [bind_error hactive]
    exact (confinedFrame A row).quiet hquiet'
  · have hactive : Registry.findActive .cron .null s₁ = (.ok found, s₂) := hrun
    rw [bind_ok hactive]
    rw [hquiet.triggers] at hfind
    refine (confinedFrame A row).trans ((confinedFrame A row).quiet hquiet') ?_
    refine keeps_bind (keeps_ofExcept _) (fun ids => keeps_bind keeps_get fun s => ?_) s₂
    refine keeps_bind (keeps_forIn fun id _ _ => ?_) fun _ =>
      keeps_bind (keeps_forIn fun t ht _ => ?_) fun _ => keeps_pure _
    · refine keeps_ite (keeps_bind (log_keeps _ _ _) fun _ => ?_) (keeps_pure _)
      exact keeps_bind (unregister_confined id) fun _ => keeps_pure _
    · refine keeps_bind (isRegistered_keeps _) fun registered => ?_
      refine keeps_ite (keeps_bind (log_keeps _ _ _) fun _ => ?_) (keeps_pure _)
      exact keeps_bind (register_confined (hfound found hfind t ht)) fun _ => keeps_pure _

/-! The steps of a timer, which write executions of its own trigger only. -/

variable {t : Timer} {a : Attempt}

theorem advanceTimer_confined (ht : A t.triggerId) :
    Keeps (confinedFrame A row) (advanceTimer t) :=
  advanceTimer_frame confinedFrame_waits (unregister_confined _) fun _ =>
    change_confined fun _ h => h.withTimer ht

theorem concludeTick_confined (ht : A t.triggerId) (ha : A a.execution.triggerId)
    (outcome : Except Error StartedRun) :
    Keeps (confinedFrame A (A ·.triggerId)) (concludeTick t a outcome) := by
  have hrow : A (Engine.outcomeOf a outcome).triggerId := by rwa [Engine.outcomeOf_triggerId]
  have hconclude : Keeps (firedFrame (A ·.triggerId) fun _ => True) (Engine.conclude a outcome) :=
    Engine.conclude_fires hrow
  exact concludeTick_frame (keeps_confined_of_fired hconclude) (advanceTimer_confined ht)

variable {s : Automation}

/-- The attempt that a woken timer begins is one of the trigger that the timer was registered for,
since the trigger is stored under its own identifier. -/
theorem begun_triggerId (hs : Sound s) (ht : (t.triggerId, t) ∈ s.scheduler.timers)
    {s' : Automation}
    (hbegun : Engine.beginScheduled t.triggerId t.expression s = (.ok (some a), s')) :
    a.execution.triggerId = t.triggerId := by
  obtain ⟨hget, hown, -⟩ := Engine.beginScheduled_begins hbegun
  obtain ⟨text, htext⟩ := hs.texts.text t.triggerId (Keyed.mem_keys ht)
  rw [htext] at hget
  rw [hown, hs.store.filed.id_of_get hget, htext]

theorem wakeTimer_confined (hs : Sound s) (ht : (t.triggerId, t) ∈ s.scheduler.timers) :
    (confinedFrame A (A ·.triggerId)).holds s (wakeTimer t s).2 := by
  intro h
  have hA : A t.triggerId := h.timers _ ht
  have hbegin : Keeps (firedFrame (A ·.triggerId) fun _ => True)
      (Engine.beginScheduled t.triggerId t.expression) := Engine.beginScheduled_fires _ _
  refine wakeTimer_frame (F := confinedFrame A (A ·.triggerId)) (keeps_confined_of_fired hbegin s)
    (unregister_confined _) (advanceTimer_confined hA) (fun a s' hrun => ?_) h
  have ha : A a.execution.triggerId := begun_triggerId hs ht hrun ▸ hA
  refine ⟨_, fun _ => id, makeDue_confined _ fun a' ha' => ?_,
    fun e => concludeTick_confined hA ha _⟩
  exact Option.some.inj ha' ▸ ha

theorem timerStep_confined (hs : Sound s) (ht : (t.triggerId, t) ∈ s.scheduler.timers)
    {stage : Stage} (hstage : ∀ a, stage.attempt? = some a → A a.execution.triggerId) :
    (confinedFrame A (A ·.triggerId)).holds s (timerStep t stage s).2 := by
  have hstart : ∀ a, Keeps (firedFrame (A ·.triggerId) fun _ => True) (Engine.start a) := fun a =>
    Engine.start_fires fun _ _ _ => trivial
  exact timerStep_frame confinedFrame_waits (wakeTimer_confined hs ht)
    (fun a => keeps_confined_of_fired (hstart a))
    (fun _ hsame => makeDue_confined _ fun a ha => hstage a (hsame a ha))
    fun a outcome ha h => concludeTick_confined (h.timers _ ht) (hstage a ha) outcome s h

/-- Without a pass only timers take steps. -/
theorem step_confined (hs : Sound s) {d : Due}
    (hd : ∀ a, d.stage.attempt? = some a → A a.execution.triggerId) :
    (confinedFrame A (A ·.triggerId)).holds s (step d s).2 := by
  intro h
  have hsound : Sound { s with scheduler.current := some d.task } :=
    soundFrame_patient.tasks s rfl hs
  have hcurrent : Confined A { s.scheduler with current := some d.task } := { h with }
  have hdone : Keeps (confinedFrame A (A ·.triggerId)) (change ({ · with current := none })) :=
    change_confined fun _ h => { h with }
  have hpass : ¬ s.scheduler.pass = some d.task := by
    rw [h.pass]
    exact (Option.some_ne_none _).symm
  rw [step, bind_get, change, bind_ok (modify_run _ s), bind_ok (attempt_run _ _), if_neg hpass]
  refine (confinedFrame A (A ·.triggerId)).trans (s := { s with
    scheduler.current := some d.task }) ?_ (hdone _) hcurrent
  cases ht : timerOf s.scheduler d.task with
  | none => exact (confinedFrame A (A ·.triggerId)).refl _
  | some t => exact timerStep_confined hsound (timerOf_eq_some hsound ht) hd

/-- The attempts in hand are confined when the steps are taken, and remain so until it is their
turn. -/
theorem confinedFrame_turns : (confinedFrame A (A ·.triggerId)).whileSound.Turns := by
  intro s taken rest hdue hs
  refine ⟨soundFrame_turns s taken rest hdue hs, fun h => ?_⟩
  have hrest : Confined A { s.scheduler with due := rest } :=
    { h with due := fun d hd => h.due d (hdue d (List.mem_append_right taken hd)) }
  have htaken : Keeps (confinedFrame A (A ·.triggerId)).whileSound (each step taken) :=
    keeps_each fun d hd s hs =>
      ⟨step_sound d s hs, step_confined hs (h.due d (hdue d (List.mem_append_left rest hd)))⟩
  rw [takeSome, change, bind_ok (modify_run _ s)]
  exact (htaken { s with scheduler.due := rest } (soundFrame_patient.tasks s rfl hs)).2 hrest

theorem stop_confined (s : Automation) : (stop s).2.scheduler.Confined A where
  running := rfl
  pass := rfl
  timers _ he := absurd he List.not_mem_nil
  due _ hd := absurd hd List.not_mem_nil

end Scheduler

namespace Registry.Mutation

variable {s s' : Automation} {m : Mutation} {t : Trigger} {deleted : Bool}

theorem Prepared.scheduler (h : Prepared s m t deleted s') : s'.scheduler = s.scheduler := by
  cases h with
  | created allowed given known made id createdAt inserted stored => exact stored.scheduler
  | updated found changed known saved stored => exact stored.scheduler
  | toggled found saved stored => exact stored.scheduler
  | doomed found quiet => exact quiet.scheduler

theorem finish_scheduler (m : Mutation) (t : Trigger) (s : Automation) :
    (m.finish t s).2.scheduler = s.scheduler := by
  cases m with
  | delete id =>
    rw [finish]
    obtain ⟨e, s₁, hdelete, hquiet⟩ | ⟨found, store, s₁, hdelete, _, hquiet⟩ :=
      deleteTrigger_cases id s
    · rw [bind_error hdelete]
      exact hquiet.scheduler
    · rw [bind_ok hdelete]
      exact hquiet.scheduler
  | create | update | toggle => rfl

/-- A call of the registry registers no other trigger than the one that it answers with, and only if
that is an active cron trigger now. -/
theorem perform_confined (m : Mutation) (h : s.scheduler.Confined A)
    (hanswer : ∀ t, (m.perform s).1 = .ok (some t) → t.isCron = true → t.isActive.truthy = true →
      A t.id) : (m.perform s).2.scheduler.Confined A := by
  obtain ⟨e, s₁, hprepare, n, _, hquiet⟩ | ⟨t, deleted, s₁, hprepare, hprepared⟩ :=
    m.prepare_cases s
  · rw [m.perform_eq, performTelling, bind_error hprepare]
    exact hquiet.scheduler ▸ h
  · obtain ⟨s₂, htold, _⟩ := notify_run t deleted s₁
    have hrun : m.perform s = m.finish t s₂ := by
      rw [m.perform_eq, performTelling, bind_ok hprepare]
      dsimp only
      rw [← notify_eq, bind_ok htold]
    -- What is told about as kept is answered with.
    have hkept : deleted = false → (m.perform s).1 = .ok (some t) := by
      intro hkept
      rw [hrun]
      cases hprepared with
      | doomed => cases hkept
      | _ => rfl
    have hnotify : Keeps (confinedFrame A fun _ => True) (notify t deleted) :=
      Scheduler.notify_keeps (Scheduler.unregister_confined _) fun hcron hdeleted hactive =>
        Scheduler.register_confined (hanswer t (hkept hdeleted) hcron hactive)
    have htold₂ := (hnotify s₁ (hprepared.scheduler ▸ h)).1
    rw [htold] at htold₂
    rw [hrun, finish_scheduler]
    exact htold₂

end Registry.Mutation

namespace Operation

/-- An operation activates a trigger: it is a call of the registry that answers with the trigger,
which is an active cron trigger now, or it is a reconciliation that finds the trigger to be one. -/
inductive Activates (s : Automation) (id : Value) : Operation → Prop
  | changed {m : Registry.Mutation} {t : Trigger} (answer : (m.perform s).1 = .ok (some t))
    (cron : t.isCron = true) (active : t.isActive.truthy = true) (own : t.id = id) :
    Activates s id m.operation
  | reconciled {found : List Trigger} {t : Trigger}
    (find : s.triggers.find TriggerStore.activeCron = .ok found) (mem : t ∈ found)
    (own : t.id = id) : Activates s id .reconcile

/-- Whether tasks take turns in an operation; no other lets a timer do anything. -/
def TakesTurns : Operation → Prop
  | takeTurn | runUntilIdle | release | advance .. => True
  | _ => False

/-- Whether an operation leaves a stopped scheduler stopped. -/
def LeavesStopped : Operation → Prop
  | startScheduler => False
  | _ => True

/-- In a turn a timer writes executions of the triggers only to which the tasks are confined. -/
theorem turns_confined {op : Operation} (h : op.TakesTurns) :
    Keeps (confinedFrame A (A ·.triggerId)).whileSound op.perform := by
  have hwaits : (confinedFrame A (A ·.triggerId)).whileSound.Waits := confinedFrame_waits.whileSound
  have hturns := Scheduler.confinedFrame_turns (A := A)
  cases op with
  | takeTurn => exact Scheduler.takeTurn_keeps hturns
  | runUntilIdle => exact Scheduler.rounds_keeps hturns _
  | release => exact Scheduler.release_keeps hwaits hturns
  | advance length lag => exact Scheduler.advance_keeps hwaits hturns length lag
  | _ => exact h.elim

variable {s : Automation}

/-- The tasks of a stopped scheduler remain confined to the triggers that were activated. -/
theorem perform_confined {op : Operation} (hop : op.LeavesStopped) (hs : Sound s)
    (h : s.scheduler.Confined A) (hA : ∀ id, op.Activates s id → A id) :
    (op.perform s).2.scheduler.Confined A := by
  have hmutation : ∀ m : Registry.Mutation, (∀ id, m.operation.Activates s id → A id) →
      (m.operation.perform s).2.scheduler.Confined A := by
    intro m hA
    rw [m.operation_run]
    exact m.perform_confined h fun t hanswer hcron hactive =>
      hA t.id (.changed hanswer hcron hactive rfl)
  have hfires : op.Fires → (op.perform s).2.scheduler.Confined A := fun hfires =>
    (perform_fires hfires s).scheduler ▸ h
  have hturns : op.TakesTurns → (op.perform s).2.scheduler.Confined A := fun hturns =>
    ((turns_confined hturns s hs).2 h).1
  cases op with
  | startScheduler => exact hop.elim
  | create data userId => exact hmutation (.create data userId) hA
  | update id changes => exact hmutation (.update id changes) hA
  | toggle id => exact hmutation (.toggle id) hA
  | delete id => exact hmutation (.delete id) hA
  | recordFire | startProcess | evaluate | fire | fireScheduled | handleWebhook | drawId
  | elsewhere => exact hfires trivial
  | listen listener => exact h
  | failNextStart e => exact h
  | deploy d =>
    rw [perform, bind_get]
    cases s.orchestrator.deploy d with
    | error e => exact h
    | ok o => exact h
  | cancelRun id =>
    rw [perform, bind_get]
    cases s.orchestrator.cancel id with
    | error e => exact h
    | ok o => exact h
  | stopScheduler => exact Scheduler.stop_confined s
  | reconcile =>
    have hreconcile : (confinedFrame A fun _ => True).holds s (Scheduler.reconcile s).2 :=
      Scheduler.reconcile_confined fun found hfind t ht => hA t.id (.reconciled hfind ht rfl)
    exact (hreconcile h).1
  | tick id expression =>
    have htick : Keeps (confinedFrame A fun _ => True) (Scheduler.tick id expression) :=
      Scheduler.tick_keeps (Scheduler.unregister_confined id)
        (keeps_confined_of_fired (Engine.fireScheduled_keeps id expression))
    rw [perform, discard_run]
    exact (htick s h).1
  | unregister id =>
    have hdrop : Keeps (confinedFrame A fun _ => True) (Scheduler.unregister id) :=
      Scheduler.unregister_confined id
    exact (hdrop s h).1
  | wake task =>
    have hwake : Keeps (confinedFrame A fun _ => True) (Scheduler.wake task) :=
      Scheduler.wake_keeps confinedFrame_waits task
    exact (hwake s h).1
  | setClock t => exact h
  | takeTurn | runUntilIdle | release | advance => exact hturns trivial

end Operation
end ProcessTriggers
