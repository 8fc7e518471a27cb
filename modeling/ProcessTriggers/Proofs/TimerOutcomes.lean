import ProcessTriggers.Proofs.Attempts

/-!
What becomes of a timer in the turn of its task. The task waits for the time of the timer, or it has
an attempt in hand, or the timer goes on to its next time, or it is dropped; and if the search for
the next time runs past the calendar, the timer stays without a task.
-/

namespace ProcessTriggers

open Action Automation Scheduler

/-! What a timer asks to wait for. -/

/-- How long a timer waits for its time, in seconds; not at all if it has passed. -/
def Timer.delay (t : Timer) (now : Instant) : Double :=
  Double.ofRat ((max (t.nextRun - now) 0 : Int) / (Stamp.second : Rat))

/-- The scheduler with the task of a timer asleep, until its time. -/
def Timer.asleep (t : Timer) (clock : Stamp) (z : Scheduler) : Scheduler :=
  let delay := .double (t.delay clock.instant)
  { z with
    sleepers := z.sleepers ++ [⟨t.task, (microseconds? delay).map clock.shift⟩]
    delays := z.delays ++ [delay] }

theorem Double.ofMagnitude_not_negative (q : Rat) :
    (ofMagnitude false q).isNegative = false ∧ (ofMagnitude false q).isNaN = false := by
  rw [ofMagnitude]
  split
  · exact ⟨rfl, rfl⟩
  · dsimp only
    split
    · split <;> exact ⟨rfl, rfl⟩
    · split <;> exact ⟨rfl, rfl⟩

theorem Timer.delay_not_negative (t : Timer) (now : Instant) :
    (t.delay now).isNegative = false ∧ (t.delay now).isNaN = false := by
  have hlength : (0 : Rat) ≤ (max (t.nextRun - now) 0 : Int) := by
    exact_mod_cast Int.le_max_right (t.nextRun - now) 0
  have hunit : (0 : Rat) < (Stamp.second : Rat) := by
    exact_mod_cast (by decide : (0 : Int) < Stamp.second)
  have hrest : ¬ ((max (t.nextRun - now) 0 : Int) / (Stamp.second : Rat)) < 0 := by
    rw [Rat.div_lt_iff hunit, Rat.zero_mul]
    exact Rat.not_lt.mpr hlength
  rw [delay, Double.ofRat, if_neg hrest]
  exact Double.ofMagnitude_not_negative _

/-- A length of time that a task can wait for, in seconds. -/
def Value.IsDelay (v : Value) : Prop :=
  ∃ x : Double, v = .double x ∧ x.isNegative = false ∧ x.isNaN = false

/-- The trigger of a timer is stored no more, or is not active. -/
def Timer.Lapsed (t : Timer) (s : Automation) : Prop :=
  s.triggers.get t.triggerId = .ok none ∨
    ∃ stored, s.triggers.get t.triggerId = .ok (some stored) ∧ stored.isActive.truthy = false

/-- The next time of a timer, sought at a reading of the clock. -/
def Timer.sought (t : Timer) (now : Instant) : Except Error Instant :=
  Cron.nextFire t.expression t.zone (max now t.nextRun)

/-- What becomes of a timer in its turn, in which its task is at some stage: the scheduler before
and after. If the timer is dropped, its trigger has lapsed or has no further time. -/
inductive Timer.Outcome (t : Timer) (stage : Stage) (lapsed : Prop) (clock : Stamp)
    (z : Scheduler) : Scheduler → Prop
  | waits (fresh : stage = .waiting) : Outcome t stage lapsed clock z (t.asleep clock z)
  | attempts (fresh : stage ≠ .waiting) (stage' : Stage) (busy : stage'.attempt? ≠ none) :
    Outcome t stage lapsed clock z { z with due := z.due ++ [⟨t.task, stage'⟩] }
  | advances (fresh : stage ≠ .waiting) (nextRun : Instant)
    (next : t.sought clock.instant = .ok nextRun) :
    Outcome t stage lapsed clock z (Timer.asleep { t with nextRun } clock
      { z with timers := z.timers.put t.triggerId { t with nextRun } })
  | retires (fresh : stage ≠ .waiting)
    (why : lapsed ∨ ∃ e, t.sought clock.instant = .error e ∧ e.isInvalidSchedule = true) :
    Outcome t stage lapsed clock z { z with timers := z.timers.erase t.triggerId }
  /-- The search runs past the calendar, and the timer stays without a task. -/
  | fails (fresh : stage ≠ .waiting) (e : Error) (fault : t.sought clock.instant = .error e)
    (other : e.isInvalidSchedule = false) : Outcome t stage lapsed clock z z

theorem Timer.Outcome.delays {t : Timer} {stage : Stage} {lapsed : Prop} {clock : Stamp}
    {z z' : Scheduler} (h : t.Outcome stage lapsed clock z z') :
    ∃ added, z'.delays = z.delays ++ added ∧ ∀ v ∈ added, v.IsDelay := by
  have hdelay : ∀ t : Timer, ∀ v ∈ [Value.double (t.delay clock.instant)], v.IsDelay :=
    fun t v hv => ⟨_, List.mem_singleton.mp hv, t.delay_not_negative clock.instant⟩
  cases h with
  | waits => exact ⟨_, rfl, hdelay t⟩
  | advances fresh nextRun next => exact ⟨_, rfl, hdelay { t with nextRun }⟩
  | attempts | retires | fails =>
    exact ⟨[], (List.append_nil _).symm, fun v hv => absurd hv List.not_mem_nil⟩

/-- A timer is in its place, and its task takes its turn. -/
structure Timer.Acts (t : Timer) (z : Scheduler) : Prop where
  key : ∃ id, t.triggerId = .text id
  place : z.timers.get? t.triggerId = some t
  current : z.current = some t.task

namespace Scheduler

variable {t : Timer} {stage : Stage} {lapsed : Prop} {s : Automation}

theorem log_scheduler (c : Channel) (level : Log.Level) (message : String) (s : Automation) :
    (log c level message s).2.scheduler = s.scheduler := by
  obtain ⟨s', hrun, hquiet⟩ := log_quiet c level message s
  rw [hrun]
  exact hquiet.scheduler

/-- A timer that drops itself does nothing else to the scheduler. -/
theorem unregister_own (h : t.Acts s.scheduler) : (unregister t.triggerId s).2.scheduler =
    { s.scheduler with timers := s.scheduler.timers.erase t.triggerId } := by
  obtain ⟨id, hid⟩ := h.key
  have hkey : t.triggerId.asKey = .ok t.triggerId := hid ▸ Value.asKey_text id
  rw [unregister, bind_ofExcept hkey, bind_get, h.place]
  dsimp only
  rw [change, bind_ok (modify_run _ s), countTimers, bind_ok (modify_run _ _)]
  dsimp only
  rw [log_scheduler, if_pos h.current]

theorem advanceTimer_outcome (hstage : stage ≠ .waiting) (h : t.Acts s.scheduler) :
    t.Outcome stage lapsed s.clock s.scheduler (advanceTimer t s).2.scheduler := by
  rw [advanceTimer, bind_get]
  cases hnext : Cron.nextFire t.expression t.zone (searchStart t s.clock.instant) with
  | ok nextRun => exact .advances hstage nextRun hnext
  | error e =>
    dsimp only
    cases he : e.isInvalidSchedule with
    | false =>
      rw [Bool.not_false, if_pos rfl]
      exact .fails hstage e hnext he
    | true =>
      obtain ⟨s', hlogged, hquiet⟩ := log_quiet .cron Log.error
        ("Dropping cron job for trigger " ++ t.triggerId.shown ++ ": " ++ e.message) s
      rw [Bool.not_true, if_neg Bool.false_ne_true, bind_ok hlogged,
        unregister_own (hquiet.scheduler ▸ h), hquiet.scheduler]
      exact .retires hstage (.inr ⟨e, hnext, he⟩)

/-! What is done to fire a trigger does not count for the timer. -/

theorem outcome_of_fired {row : Execution → Prop} {run : StartedRun → Prop} {s₁ : Automation}
    {z' : Scheduler} (hfired : Fired row run s s₁)
    (h : t.Outcome stage lapsed s₁.clock s₁.scheduler z') :
    t.Outcome stage lapsed s.clock s.scheduler z' := by
  rwa [hfired.clock, hfired.scheduler] at h

theorem acts_of_fired {row : Execution → Prop} {run : StartedRun → Prop} {s₁ : Automation}
    (hfired : Fired row run s s₁) (h : t.Acts s.scheduler) : t.Acts s₁.scheduler := by
  rwa [hfired.scheduler]

theorem failedTick_outcome (hstage : stage ≠ .waiting) (h : t.Acts s.scheduler) (id : Value)
    (e : Error) : t.Outcome stage lapsed s.clock s.scheduler
      ((do
        tickFailed id e
        advanceTimer t) s).2.scheduler := by
  obtain ⟨s₁, hlogged, hquiet⟩ := log_quiet .cron Log.error
    ("Cron tick failed for trigger " ++ id.shown ++ ": " ++ e.message) s
  have hfired : anyFired.holds s s₁ := .ofQuiet hquiet
  rw [tickFailed, bind_ok hlogged]
  exact outcome_of_fired hfired (advanceTimer_outcome hstage (acts_of_fired hfired h))

theorem concludeTick_outcome (hstage : stage ≠ .waiting) (h : t.Acts s.scheduler) (a : Attempt)
    (outcome : Except Error StartedRun) :
    t.Outcome stage lapsed s.clock s.scheduler (concludeTick t a outcome s).2.scheduler := by
  have hfired : anyFired.holds s (Engine.conclude a outcome s).2 :=
    Engine.conclude_fires trivial s
  rw [concludeTick, bind_ok (attempt_run _ s)]
  refine outcome_of_fired hfired ?_
  cases (Engine.conclude a outcome s).1 with
  | ok e => exact advanceTimer_outcome hstage (acts_of_fired hfired h)
  | error e => exact failedTick_outcome hstage (acts_of_fired hfired h) _ e

/-- What is made of an active trigger is an attempt. -/
theorem scheduledAttempt_isSome (stored : Trigger) (expression : Value) :
    Yields (fun begun => begun.isSome = true) (Engine.scheduledAttempt stored expression) :=
  yields_bind fun _ => yields_bind fun _ => yields_binding _ <|
    yields_bind fun _ => yields_bind fun _ => yields_pure rfl

/-- No attempt is begun for a trigger only if it has lapsed. -/
theorem lapsed_of_beginScheduled {expression : Value} {s₁ : Automation}
    (h : Engine.beginScheduled t.triggerId expression s = (.ok none, s₁)) : t.Lapsed s := by
  rw [Engine.beginScheduled] at h
  obtain ⟨e, s', hget, -⟩ | ⟨found, s', hget, hfound, -⟩ := getTrigger_cases t.triggerId s
  · rw [bind_error hget] at h
    cases h
  · rw [bind_ok hget] at h
    cases found with
    | none => exact .inl hfound
    | some stored =>
      refine .inr ⟨stored, hfound, Bool.eq_false_iff.mpr fun hactive => ?_⟩
      have hrest : Yields (fun begun => begun.isSome = true) (do
          Engine.scheduledAttempt stored
            (← if expression.truthy then pure expression
              else Action.ofExcept stored.cronExpression)) :=
        yields_ite (yields_bind fun _ => scheduledAttempt_isSome stored _)
          (yields_bind fun _ => scheduledAttempt_isSome stored _)
      dsimp only at h
      rw [hactive, Bool.not_true, if_neg Bool.false_ne_true] at h
      exact Bool.false_ne_true (hrest _ _ _ h)

theorem wakeTimer_outcome (hstage : stage ≠ .waiting) (h : t.Acts s.scheduler) :
    t.Outcome stage (t.Lapsed s) s.clock s.scheduler (wakeTimer t s).2.scheduler := by
  have hfired : anyFired.holds s (Engine.beginScheduled t.triggerId t.expression s).2 :=
    Engine.beginScheduled_fires _ _ s
  rw [wakeTimer, bind_ok (attempt_run _ s)]
  refine outcome_of_fired hfired ?_
  have hacts := acts_of_fired hfired h
  cases hrun : Engine.beginScheduled t.triggerId t.expression s with
  | mk r s₁ =>
    rw [hrun] at hacts
    cases r with
    | error e => exact failedTick_outcome hstage hacts _ e
    | ok begun =>
      cases begun with
      | none =>
        dsimp only
        rw [unregister_own hacts]
        exact .retires hstage (.inl (lapsed_of_beginScheduled hrun))
      | some a =>
        have hensured : anyFired.holds s₁ (Engine.ensureDeployed a.trigger s₁).2 :=
          Engine.ensureDeployed_keeps a.trigger s₁
        dsimp only
        rw [bind_ok (attempt_run _ s₁)]
        refine outcome_of_fired hensured ?_
        cases (Engine.ensureDeployed a.trigger s₁).1 with
        | ok _ => exact .attempts hstage (.starting a) (Option.some_ne_none a)
        | error e => exact concludeTick_outcome hstage (acts_of_fired hensured hacts) a _

/-- What becomes of a timer in its turn. -/
theorem timerStep_outcome (h : t.Acts s.scheduler) (stage : Stage) :
    t.Outcome stage (t.Lapsed s) s.clock s.scheduler (timerStep t stage s).2.scheduler := by
  cases stage with
  | waiting => exact .waits rfl
  | woken =>
    have hstage : Stage.woken ≠ .waiting := fun h => nomatch h
    exact wakeTimer_outcome hstage h
  | starting a =>
    have hstage : Stage.starting a ≠ .waiting := fun h => nomatch h
    obtain ⟨s₁, hsettle, hquiet⟩ := Audit.settle_run s
    obtain ⟨r, s₂, hstart, hunrecorded, -⟩ := Engine.start_ends a s₁
    have hfired : Unrecorded s s₂ := Fired.trans (.ofQuiet hquiet) hunrecorded
    rw [timerStep, bind_ok hsettle, bind_ok hstart]
    refine outcome_of_fired hfired ?_
    cases r with
    | some outcome => exact .attempts hstage (.concluding a outcome) (Option.some_ne_none a)
    | none => exact .attempts hstage (.stalled a) (Option.some_ne_none a)
  | stalled a =>
    have hstage : Stage.stalled a ≠ .waiting := fun h => nomatch h
    have hbusy : (Stage.concluding a
        (.error (Engine.timeLimitError a s.config.startTimeout))).attempt? ≠ none :=
      Option.some_ne_none a
    exact .attempts hstage _ hbusy
  | concluding a outcome =>
    have hstage : Stage.concluding a outcome ≠ .waiting := fun h => nomatch h
    exact concludeTick_outcome hstage h a outcome

end Scheduler
end ProcessTriggers
