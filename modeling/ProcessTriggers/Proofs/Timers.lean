import ProcessTriggers.Proofs.Silence
import ProcessTriggers.Proofs.Tables
import ProcessTriggers.Scheduler.Timers

/-!
What registering and dropping a timer does, read off the schedule of its trigger.
-/

namespace ProcessTriggers

open Action Automation

/-- The schedule of a cron trigger: its expression, its zone, and the first time after an instant at
which it fires. -/
def Trigger.schedule (t : Trigger) (defaultZone : Value) (now : Instant) :
    Except Error (Value × Zone × Instant) := do
  let expression ← t.cronExpression
  let zone := (← t.cronTimezone).orElse defaultZone
  let (zone, nextRun) ← Scheduler.firstRun expression zone now
  return (expression, zone, nextRun)

/-- A timer has the expression that conditions give, and the zone that they give or else the
default one. -/
def Timer.Fits (timer : Timer) (conditions defaultZone : Value) : Prop :=
  ∃ es, conditions = .object es ∧ Entries.get? es "expression" = some timer.expression ∧
    (Value.entry es "timezone").orElse defaultZone = .text timer.zone.key

/-- A timer is that of an active cron trigger, and it has the schedule of its conditions. -/
structure Timer.Serves (timer : Timer) (t : Trigger) (defaultZone : Value) : Prop where
  id : timer.triggerId = t.id
  cron : t.isCron = true
  active : t.isActive.truthy = true
  schedule : timer.Fits t.conditions defaultZone

theorem Zone.key_of_lookup {key : String} {z : Zone} (h : lookup key = .zone z) : z.key = key := by
  rw [lookup] at h
  cases hkey : ofKey? key with
  | some z' =>
    simp only [hkey, Found.zone.injEq] at h
    have hbeq := List.find?_some hkey
    rw [← h]
    exact beq_iff_eq.mp hbeq
  | none =>
    simp only [hkey] at h
    split at h
    · cases h
    · split at h <;> cases h

namespace Cron

theorem readZone_eq_ok {v : Value} {z : Zone} (h : readZone v = .ok z) : v = .text z.key := by
  cases v with
  | text key =>
    cases hfound : Zone.lookup key with
    | zone z' =>
      simp only [readZone, hfound, Except.ok.injEq] at h
      rw [← h, Zone.key_of_lookup hfound]
    | _ =>
      simp only [readZone, hfound] at h
      cases h
  | _ => cases h

theorem validate_eq_ok {expression zone : Value} {z : Zone} (h : validate expression zone = .ok z) :
    expression.truthy = true ∧ zone = .text z.key := by
  cases htruthy : expression.truthy with
  | false =>
    simp only [validate, htruthy] at h
    cases h
  | true =>
    simp only [validate, htruthy] at h
    obtain ⟨text, _, h⟩ := exists_of_bind_eq_ok h
    cases hread : Schedule.ofText text with
    | error f =>
      simp only [hread] at h
      cases h
    | ok s =>
      simp only [hread] at h
      exact ⟨rfl, readZone_eq_ok h⟩

end Cron

namespace Value

theorem orElse_of_truthy {v : Value} (h : v.truthy = true) (w : Value) : v.orElse w = v := by
  rw [orElse, if_pos h]

theorem orElse_of_falsy {v : Value} (h : v.truthy = false) (w : Value) : v.orElse w = w := by
  rw [orElse, h, if_neg Bool.false_ne_true]

theorem orElse_null_of_truthy {v : Value} (h : (v.orElse .null).truthy = true) :
    v.orElse .null = v := by
  cases hv : v.truthy with
  | true => exact orElse_of_truthy hv _
  | false =>
    rw [orElse_of_falsy hv] at h
    cases h

/-- What a value lacks is no fault of a schedule. -/
theorem lacks_isInvalidSchedule (v : Value) (name : String) :
    (v.lacks name).isInvalidSchedule = false := by
  cases v with
  | record fs =>
    rw [lacks]
    split <;> rfl
  | _ => rfl

theorem orElse_orElse_null (v w : Value) : (v.orElse .null).orElse w = v.orElse w := by
  cases hv : v.truthy with
  | true => rw [orElse_of_truthy hv]
  | false => rw [orElse_of_falsy hv, orElse_of_falsy hv, orElse_of_falsy rfl]

end Value

namespace Trigger

/-- Only what is no object has no settings, and that is no fault of a schedule. -/
theorem setting_error {t : Trigger} {key : String} {e : Error} (h : t.setting key = .error e) :
    e.isInvalidSchedule = false := by
  cases hc : t.conditions with
  | object es =>
    simp [setting, hc, Value.get, Value.entries, bind, Except.bind, pure, Except.pure] at h
  | _ =>
    simp only [setting, hc, Value.get, Value.entries, bind, Except.bind, Except.error.injEq] at h
    rw [← h]
    exact Value.lacks_isInvalidSchedule _ _

theorem setting_eq_ok {t : Trigger} {key : String} {v : Value} (h : t.setting key = .ok v) :
    ∃ es, t.conditions = .object es ∧ v = (Value.entry es key).orElse .null := by
  obtain ⟨w, hw, h⟩ := exists_of_bind_eq_ok h
  obtain ⟨es, hes, hw⟩ := exists_of_bind_eq_ok hw
  cases hc : t.conditions with
  | object es' =>
    rw [hc] at hes
    cases hes
    rw [← Except.ok.inj h, ← Except.ok.inj hw]
    exact ⟨es, rfl, rfl⟩
  | _ =>
    rw [hc] at hes
    cases hes

theorem serves_of_schedule {t : Trigger} {defaultZone : Value} {now : Instant} {expression : Value}
    {zone : Zone} {nextRun : Instant} (hcron : t.isCron = true) (hactive : t.isActive.truthy = true)
    (h : t.schedule defaultZone now = .ok (expression, zone, nextRun)) (task : Nat) :
    Timer.Serves ⟨task, t.id, expression, zone, nextRun⟩ t defaultZone := by
  obtain ⟨e, he, h⟩ := exists_of_bind_eq_ok h
  obtain ⟨z, hz, h⟩ := exists_of_bind_eq_ok h
  obtain ⟨⟨zone', next⟩, hrun, h⟩ := exists_of_bind_eq_ok h
  obtain ⟨zone'', hvalid, hrun⟩ := exists_of_bind_eq_ok hrun
  obtain ⟨next', _, hrun⟩ := exists_of_bind_eq_ok hrun
  cases hrun
  cases h
  obtain ⟨htruthy, hzone⟩ := Cron.validate_eq_ok hvalid
  obtain ⟨es, hes, rfl⟩ := setting_eq_ok he
  obtain ⟨es', hes', rfl⟩ := setting_eq_ok hz
  rw [hes] at hes'
  obtain rfl := Value.object.inj hes'
  refine ⟨rfl, hcron, hactive, es, hes, ?_, ?_⟩
  · -- A truthy expression is there, since null is not.
    rw [Value.orElse_null_of_truthy htruthy]
    rw [Value.orElse_null_of_truthy htruthy] at htruthy
    cases hget : Entries.get? es "expression" with
    | some v => rw [Value.entry, hget, Value.ofOption]
    | none =>
      rw [Value.entry, hget] at htruthy
      cases htruthy
  · rw [← Value.orElse_orElse_null, hzone]

end Trigger

namespace Automation

/-- Nothing of importance changed but the timers with their tasks, and the gauge follows them. -/
structure Retimed (s s' : Automation) : Prop where
  config : s'.config = s.config
  clock : s'.clock = s.clock
  supply : s'.supply = s.supply
  triggers : s'.triggers = s.triggers
  executions : s'.executions = s.executions
  broken : s'.broken = s.broken
  orchestrator : s'.orchestrator = s.orchestrator
  linksRuns : s'.linksRuns = s.linksRuns
  listener : s'.listener = s.listener
  running : s'.scheduler.running = s.scheduler.running
  pass : s'.scheduler.pass = s.scheduler.pass
  gauge : s.metrics.timers = s.scheduler.timers.length →
    s'.metrics.timers = s'.scheduler.timers.length

namespace Retimed

variable {s s' s'' : Automation}

theorem ofQuiet (h : Quiet s s') : Retimed s s' where
  config := h.config
  clock := h.clock
  supply := h.supply
  triggers := h.triggers
  executions := h.executions
  broken := h.broken
  orchestrator := h.orchestrator
  linksRuns := h.linksRuns
  listener := h.listener
  running := by rw [h.scheduler]
  pass := by rw [h.scheduler]
  gauge hgauge := by rw [h.gauge, h.scheduler, hgauge]

theorem refl (s : Automation) : Retimed s s := ofQuiet (.refl s)

theorem trans (h : Retimed s s') (h' : Retimed s' s'') : Retimed s s'' where
  config := h'.config.trans h.config
  clock := h'.clock.trans h.clock
  supply := h'.supply.trans h.supply
  triggers := h'.triggers.trans h.triggers
  executions := h'.executions.trans h.executions
  broken := h'.broken.trans h.broken
  orchestrator := h'.orchestrator.trans h.orchestrator
  linksRuns := h'.linksRuns.trans h.linksRuns
  listener := h'.listener.trans h.listener
  running := h'.running.trans h.running
  pass := h'.pass.trans h.pass
  gauge hgauge := h'.gauge (h.gauge hgauge)

end Retimed
end Automation

namespace Scheduler

theorem erase_of_get?_eq_none {α : Type} {t : Keyed α} {key : Value} (h : t.get? key = none) :
    t.erase key = t := by
  refine List.filter_eq_self.mpr fun e he => ?_
  have hfind := List.find?_eq_none.mp (Option.map_eq_none_iff.mp h) e he
  rw [Bool.not_eq_true', Bool.eq_false_iff]
  exact hfind

theorem unregister_run {id key : Value} (hkey : id.asKey = .ok key) (s : Automation) :
    ∃ s', unregister id s = (.ok ⟨⟩, s') ∧ Retimed s s' ∧
      s'.scheduler.timers = s.scheduler.timers.erase key := by
  rw [unregister, bind_ofExcept hkey, bind_get]
  cases hget : s.scheduler.timers.get? key with
  | none => exact ⟨s, rfl, .refl s, (erase_of_get?_eq_none hget).symm⟩
  | some timer =>
    -- Whether the task of the timer is cancelled or takes its turn now, the timer is gone.
    have hchange : ∃ scheduler : Scheduler,
        scheduler.timers = s.scheduler.timers.erase key ∧
        scheduler.running = s.scheduler.running ∧ scheduler.pass = s.scheduler.pass ∧
        (change fun z =>
          let z := { z with timers := z.timers.erase key }
          if z.current = some timer.task then z else cancel timer.task z) s =
          (.ok ⟨⟩, { s with scheduler }) := by
      by_cases hcurrent : s.scheduler.current = some timer.task
      · refine ⟨{ s.scheduler with timers := s.scheduler.timers.erase key }, rfl, rfl, rfl, ?_⟩
        simp only [change, modify_run, hcurrent, if_true]
      · refine ⟨cancel timer.task { s.scheduler with timers := s.scheduler.timers.erase key }, rfl,
          rfl, rfl, ?_⟩
        simp only [change, modify_run, hcurrent, if_false]
    obtain ⟨scheduler, htimers, hrunning, hpass, hchange⟩ := hchange
    dsimp only
    rw [bind_ok hchange]
    refine ⟨_, rfl, ?_, htimers⟩
    exact { (Retimed.refl s : Retimed s s) with
      running := hrunning, pass := hpass, gauge := fun _ => rfl }

/-- A trigger with a schedule gets a timer in the place of an earlier one. -/
theorem register_of_schedule {t : Trigger} {key : Value} (hkey : t.id.asKey = .ok key)
    {s : Automation} {expression : Value} {zone : Zone} {nextRun : Instant}
    (h : t.schedule s.config.defaultTimezone s.clock.instant = .ok (expression, zone, nextRun)) :
    ∃ task s', register t s = (.ok true, s') ∧ Retimed s s' ∧ s'.scheduler.timers =
      (s.scheduler.timers.erase key).put key ⟨task, t.id, expression, zone, nextRun⟩ := by
  obtain ⟨s₁, hdrop, hretimed, htimers⟩ := unregister_run hkey s
  rw [← hretimed.config, ← hretimed.clock] at h
  obtain ⟨e, he, h⟩ := exists_of_bind_eq_ok h
  obtain ⟨z, hz, h⟩ := exists_of_bind_eq_ok h
  obtain ⟨⟨zone', next⟩, hfirst, h⟩ := exists_of_bind_eq_ok h
  cases h
  rw [register, bind_ok hdrop, bind_ofExcept he, bind_ofExcept hz, bind_get, bind_get, hfirst]
  dsimp only
  rw [bind_ofExcept hkey, ← htimers]
  refine ⟨s₁.scheduler.lastTask + 1, _, rfl, hretimed.trans ?_, rfl⟩
  exact { (Retimed.refl s₁ : Retimed s₁ s₁) with gauge := fun _ => rfl }

/-- Where a trigger has no schedule, nothing is done but the removal of an earlier timer. Only an
error that is no fault of the schedule is passed on. -/
theorem register_fails {t : Trigger} {s s₁ : Automation} {e : Error}
    (hdrop : unregister t.id s = (.ok ⟨⟩, s₁))
    (h : t.schedule s₁.config.defaultTimezone s₁.clock.instant = .error e) :
    ∃ s', register t s = (if e.isInvalidSchedule then .ok false else .error e, s') ∧
      Quiet s₁ s' := by
  rw [register, bind_ok hdrop]
  -- The settings are read before anything is tried, so their errors are always passed on.
  cases he : t.cronExpression with
  | error cause =>
    rw [Trigger.schedule, he] at h
    cases h
    rw [bind_ofExcept_error rfl, Trigger.setting_error he]
    exact ⟨s₁, rfl, .refl s₁⟩
  | ok expression =>
    rw [bind_ofExcept rfl]
    cases hz : t.cronTimezone with
    | error cause =>
      rw [Trigger.schedule, he, hz] at h
      cases h
      rw [bind_ofExcept_error rfl, Trigger.setting_error hz]
      exact ⟨s₁, rfl, .refl s₁⟩
    | ok z =>
      rw [bind_ofExcept rfl, bind_get, bind_get]
      cases hfirst : firstRun expression (z.orElse s₁.config.defaultTimezone) s₁.clock.instant with
      | ok first =>
        rw [Trigger.schedule, he, hz] at h
        simp only [bind, Except.bind, hfirst] at h
        cases h
      | error cause =>
        rw [Trigger.schedule, he, hz] at h
        simp only [bind, Except.bind, hfirst] at h
        cases h
        dsimp only
        cases hinvalid : e.isInvalidSchedule with
        | false => exact ⟨s₁, rfl, .refl s₁⟩
        | true =>
          refine ⟨_, rfl, ?_⟩
          constructor <;> rfl

/-- A trigger without a schedule is left without a timer. -/
theorem register_of_error {t : Trigger} {key : Value} (hkey : t.id.asKey = .ok key)
    {s : Automation} {e : Error}
    (h : t.schedule s.config.defaultTimezone s.clock.instant = .error e) :
    ∃ s', register t s = (if e.isInvalidSchedule then .ok false else .error e, s') ∧
      Retimed s s' ∧ s'.scheduler.timers = s.scheduler.timers.erase key := by
  obtain ⟨s₁, hdrop, hretimed, htimers⟩ := unregister_run hkey s
  rw [← hretimed.config, ← hretimed.clock] at h
  obtain ⟨s', hrun, hquiet⟩ := register_fails hdrop h
  exact ⟨s', hrun, hretimed.trans (.ofQuiet hquiet), (congrArg _ hquiet.scheduler).trans htimers⟩

/-- What following a change of a trigger does to the timers. -/
inductive Followed (t : Trigger) (deleted : Bool) (key : Value) (s s' : Automation) : Prop
  | other (type : t.isCron = false) (timers : s'.scheduler.timers = s.scheduler.timers)
  | dropped (timers : s'.scheduler.timers = s.scheduler.timers.erase key)
  | renewed {timer : Timer} (kept : deleted = false)
    (serves : timer.Serves t s.config.defaultTimezone)
    (timers : s'.scheduler.timers = (s.scheduler.timers.erase key).put key timer)

theorem register_run {t : Trigger} {key : Value} (hkey : t.id.asKey = .ok key)
    (hcron : t.isCron = true) (hactive : t.isActive.truthy = true) (s : Automation) :
    ∃ r s', register t s = (r, s') ∧ Retimed s s' ∧ Followed t false key s s' := by
  cases h : t.schedule s.config.defaultTimezone s.clock.instant with
  | error e =>
    obtain ⟨s', hrun, hretimed, htimers⟩ := register_of_error hkey h
    exact ⟨_, s', hrun, hretimed, .dropped htimers⟩
  | ok schedule =>
    obtain ⟨expression, zone, nextRun⟩ := schedule
    obtain ⟨task, s', hrun, hretimed, htimers⟩ := register_of_schedule hkey h
    exact ⟨_, s', hrun, hretimed,
      .renewed rfl (Trigger.serves_of_schedule hcron hactive h task) htimers⟩

theorem onTriggerChanged_run (t : Trigger) (deleted : Bool) (s : Automation) :
    ∃ r s', onTriggerChanged t deleted s = (r, s') ∧ Retimed s s' ∧
      ∀ key, t.id.asKey = .ok key → Followed t deleted key s s' := by
  rw [onTriggerChanged]
  cases hcron : t.isCron with
  | false => exact ⟨_, s, rfl, .refl s, fun key _ => .other hcron rfl⟩
  | true =>
    cases hkey : t.id.asKey with
    | error e =>
      -- What cannot be a key stops both ways before a timer is touched.
      have hdrop : unregister t.id s = (.error e, s) := bind_ofExcept_error hkey _ s
      have hregister : register t s = (.error e, s) := bind_error hdrop
      refine ⟨.error e, s, ?_, .refl s, fun key h => nomatch h⟩
      rw [Bool.not_true, if_neg Bool.false_ne_true]
      split
      · exact hdrop
      · exact bind_error hregister
    | ok key =>
      by_cases hdrop : (deleted || !t.isActive.truthy) = true
      · obtain ⟨s', hrun, hretimed, htimers⟩ := unregister_run hkey s
        refine ⟨.ok ⟨⟩, s', ?_, hretimed, fun key h => Except.ok.inj h ▸ .dropped htimers⟩
        rw [Bool.not_true, if_neg Bool.false_ne_true, if_pos hdrop]
        exact hrun
      · obtain ⟨hkept, hactive⟩ : deleted = false ∧ t.isActive.truthy = true := by
          rwa [Bool.not_eq_true, Bool.or_eq_false_iff, Bool.not_eq_false'] at hdrop
        obtain ⟨r, s', hrun, hretimed, hfollowed⟩ := register_run hkey hcron hactive s
        refine ⟨r.map fun _ => ⟨⟩, s', ?_, hretimed, fun key h =>
          Except.ok.inj h ▸ hkept ▸ hfollowed⟩
        rw [Bool.not_true, if_neg Bool.false_ne_true, if_neg hdrop, bind_run, hrun]
        cases r <;> rfl

end Scheduler
end ProcessTriggers
