import ProcessTriggers.Proofs.Turns

/-!
The times for which the timers of a trigger fire. However the clock goes, they are ever later, as
long as no timer is built whose first time is one that was served already. This happens only where
the clock is behind the time that was served: a timer that goes on seeks its next time from there,
but a timer that is built seeks its first one from the clock alone.
-/

namespace ProcessTriggers

open Automation Scheduler

/-- Two timers are of the same trigger, with the same expression and zone. -/
structure Timer.Alike (t t' : Timer) : Prop where
  triggerId : t'.triggerId = t.triggerId
  expression : t'.expression = t.expression
  zone : t'.zone = t.zone

namespace Automation

variable {s s' : Automation} {t t' : Timer}

/-- The timer that fires in the next turn: its task was woken, and it was not dropped since. -/
def firing (s : Automation) : Option Timer :=
  match s.scheduler.due with
  | ⟨task, .woken⟩ :: _ =>
    if s.scheduler.pass = some task then none else timerOf s.scheduler task
  | _ => none

/-- Between two states a timer like another one was built, whose first time is not after the time of
the other. The clock was behind it. -/
def Rewound (t : Timer) (s s' : Automation) : Prop :=
  ∃ e ∈ s'.scheduler.timers, t.Alike e.2 ∧ s.scheduler.lastTask < e.2.task ∧
    Cron.nextFire e.2.expression e.2.zone s.clock.instant = .ok e.2.nextRun ∧
    s.clock.instant < e.2.nextRun ∧ e.2.nextRun ≤ t.nextRun

/-- The time of a timer was served: those like it have later times, but for one with the very time,
whose task does not wait for it any more. -/
def Served (t : Timer) (s : Automation) : Prop :=
  ∀ e ∈ s.scheduler.timers, t.Alike e.2 → t.nextRun < e.2.nextRun ∨
    e.2.nextRun = t.nextRun ∧ e.2.task ∉ s.scheduler.idle

theorem firing_eq_some (h : firing s = some t) : ∃ d rest, s.scheduler.due = d :: rest ∧
    d.stage = .woken ∧ s.scheduler.pass ≠ some d.task ∧ timerOf s.scheduler d.task = some t := by
  rw [firing] at h
  split at h
  · next task rest hdue =>
    split at h
    · cases h
    · next hpass => exact ⟨_, rest, hdue, rfl, hpass, h⟩
  · cases h

/-- The timers of a trigger are one at most. -/
theorem Sound.timer_unique (h : Sound s) {e e' : Value × Timer} (he : e ∈ s.scheduler.timers)
    (he' : e' ∈ s.scheduler.timers) (hid : e.2.triggerId = e'.2.triggerId) : e = e' := by
  have hkey : e.1 = e'.1 := by rw [← h.own e he, ← h.own e' he', hid]
  have hmem : (e'.1, e.2) ∈ s.scheduler.timers := hkey ▸ he
  exact Prod.ext hkey (h.texts.unique hmem he')

/-- A timer that fires serves its time. -/
theorem served_of_firing (h : Sound s) (ho : s.scheduler.Orderly) (hfiring : firing s = some t) :
    Served t (takeTurn s).2 := by
  obtain ⟨d, rest, hdue, hwoken, hpass, ht⟩ := firing_eq_some hfiring
  have hmem := timerOf_eq_some h ht
  obtain ⟨z', hstepped, hrun⟩ := takeTurn_stepped h hdue hpass ht (ho.zones _ hmem)
  have hmoves := takeTurn_moves h ho hdue
  intro e he halike
  rcases hmoves.timers e he with hbuilt | ⟨e₀, he₀, -, nextRun, hlater, hadvanced⟩ | ⟨hold, hidle⟩
  · -- No timer is built in the turn of another.
    have hlast : (takeTurn s).2.scheduler.lastTask = s.scheduler.lastTask := by
      rw [hrun]
      exact hstepped.lastTask
    have htask := hbuilt.task
    omega
  · have hid : e₀.2.triggerId = t.triggerId := by
      rw [← halike.triggerId, hadvanced]
    rw [h.timer_unique he₀ hmem hid] at hlater
    rw [hadvanced]
    exact .inl hlater
  · have hsame : e = (t.triggerId, t) := h.timer_unique hold hmem halike.triggerId
    refine .inr ⟨congrArg (·.2.nextRun) hsame, fun hn => ?_⟩
    have htask : e.2.task = d.task := by
      rw [hsame]
      exact task_of_timerOf ht
    -- Its task was woken, so that it is not one that had still to wait.
    have hwaiting := (hidle hn).2 htask
    rw [hwoken] at hwaiting
    cases hwaiting

/-- A time that was served stays so, unless a timer is built for it anew. -/
theorem Served.step {tasks : Nat → Prop} (h : Served t s)
    (hmoves : Moves s.clock.instant tasks s.scheduler s'.scheduler)
    (htasks : ∀ n, tasks n → n ∈ s.scheduler.idle) : Served t s' ∨ Rewound t s s' := by
  refine or_iff_not_imp_right.mpr fun hnot e he halike => ?_
  rcases hmoves.timers e he with hbuilt | ⟨e₀, he₀, -, nextRun, hlater, hadvanced⟩ | ⟨hold, hidle⟩
  · refine .inl (Int.not_le.mp fun hle => hnot ⟨e, he, halike, hbuilt.task.1, hbuilt.first, ?_, hle⟩)
    exact Cron.lt_nextFire hbuilt.zone hbuilt.first
  · have halike₀ : t.Alike e₀.2 := by
      rw [hadvanced] at halike
      exact ⟨halike.triggerId, halike.expression, halike.zone⟩
    have hle : t.nextRun ≤ e₀.2.nextRun := by
      rcases h e₀ he₀ halike₀ with hlt | ⟨heq, -⟩
      · exact Int.le_of_lt hlt
      · exact Int.le_of_eq heq.symm
    rw [hadvanced]
    exact .inl (Int.lt_of_le_of_lt hle hlater)
  · exact (h e hold halike).imp id (And.imp id fun hnot hn => hnot (htasks _ (hidle hn)))

/-- A time that was served is not the time of a timer that fires. -/
theorem Served.lt_firing (h : Served t s) (hsound : Sound s) (hfiring : firing s = some t')
    (halike : t.Alike t') : t.nextRun < t'.nextRun := by
  obtain ⟨d, rest, hdue, hwoken, -, ht⟩ := firing_eq_some hfiring
  rcases h _ (timerOf_eq_some hsound ht) halike with hlater | ⟨-, hnot⟩
  · exact hlater
  · refine absurd ?_ hnot
    rw [mem_idle, hdue]
    exact .inr ⟨d, List.mem_cons_self, by rw [hwoken]; rfl, (task_of_timerOf ht).symm⟩

/-- What holds of the program while single operations are performed. -/
def Running (s : Automation) : Prop := Sound s ∧ s.scheduler.Orderly

theorem Running.perform (h : Running s) {op : Operation} (hop : op.KeepsListener ∧ op.Single) :
    Running (op.perform s).2 :=
  ⟨Operation.perform_sound hop.1 s h.1, (Operation.perform_moves hop.2 h.1 h.2).orderly h.2⟩

theorem Running.after (h : Running s) {ops : List Operation}
    (hops : ∀ op ∈ ops, op.KeepsListener ∧ op.Single) : Running (s.after ops) :=
  after_induction h fun op hop _ h => h.perform (hops op hop)

theorem Attended.running (h : Attended s) : Running s := by
  refine ⟨h.sound, ?_⟩
  rw [h.scheduler]
  exact ⟨fun n => Nat.zero_le _, fun n => Nat.zero_le _, fun e he => absurd he List.not_mem_nil⟩

/-- After a time was served, either it stays so or one of the operations built a timer for it
anew. -/
theorem Served.after (h : Served t s) (hrunning : Running s) {ops : List Operation}
    (hops : ∀ op ∈ ops, op.KeepsListener ∧ op.Single) : Served t (s.after ops) ∨
      ∃ before op rest, ops = before ++ op :: rest ∧
        Rewound t (s.after before) (s.after (before ++ [op])) := by
  induction ops generalizing s with
  | nil => exact .inl h
  | cons op ops ih =>
    have hop := hops op List.mem_cons_self
    have hmoves := Operation.perform_moves hop.2 hrunning.1 hrunning.2
    rcases h.step hmoves (fun _ => id) with hserved | hrewound
    · refine (ih hserved (hrunning.perform hop) fun op' hop' =>
        hops op' (List.mem_cons_of_mem op hop')).imp id ?_
      rintro ⟨before, op', rest, rfl, hrewound⟩
      exact ⟨op :: before, op', rest, rfl, hrewound⟩
    · exact .inr ⟨[], op, ops, rfl, hrewound⟩

/-- The timer of a trigger that is to fire every minute is woken for its first time, while the clock
lags five seconds behind. -/
def lagging : List Operation :=
  everyMinute ++ [.takeTurn, .setClock (Stamp.ofInstant (Stamp.epoch + 55 * Stamp.second)), .wake 1]

/-- The trigger is renamed while its process is started, and the timer that it gets is woken. -/
def revised : List Operation :=
  [.takeTurn, .takeTurn, .update (.text "id-1") [("name", .text "renamed")], .takeTurn, .wake 2]

/-- Whether a timer is that of the trigger, for the first minute. -/
def isFirstMinute (t : Timer) : Bool :=
  Value.equal (.text "id-1") t.triggerId && Value.equal (.text "* * * * *") t.expression &&
    t.zone = ⟨"Europe/Moscow", 3 * Stamp.hour, none⟩ && t.nextRun = Stamp.epoch + Stamp.minute

end Automation
end ProcessTriggers
