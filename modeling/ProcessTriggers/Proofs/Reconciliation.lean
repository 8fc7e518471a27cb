import ProcessTriggers.Proofs.ScheduleFaults

/-!
Reconciliation as a fixed point. However the timers have drifted from the stored triggers, one pass
brings them in line and a second one finds nothing to do, unless the search for the next time of a
valid schedule runs past the calendar.
-/

namespace ProcessTriggers

open Action Automation

namespace Cron

/-- The end of the calendar, rather than of the years that a search looks at. -/
def Fault.IsOverrun (f : Fault) : Prop := f = .pastLastYear ∨ f = .outOfCalendar

/-- A search for the next time of a schedule: it can only fail for want of a date. -/
def Searches {α : Type} (x : Except Fault α) : Prop :=
  ∀ f, x = .error f → f = .noDate ∨ f.IsOverrun

namespace Searches

variable {α β : Type}

theorem ok (a : α) : Searches (.ok a : Except Fault α) := fun _ h => nomatch h

theorem noDate : Searches (.error .noDate : Except Fault α) := fun _ h =>
  .inl (Except.error.inj h).symm

theorem overrun {f : Fault} (hf : f.IsOverrun) : Searches (.error f : Except Fault α) := fun _ h =>
  .inr (Except.error.inj h ▸ hf)

theorem bind {x : Except Fault α} {g : α → Except Fault β} (hx : Searches x)
    (hg : ∀ a, Searches (g a)) : Searches (x >>= g) := by
  cases x with
  | error f' => exact fun f h => hx f (congrArg Except.error (Except.error.inj h))
  | ok a => exact hg a

theorem ite {c : Prop} [Decidable c] {x y : Except Fault α} (hx : Searches x) (hy : Searches y) :
    Searches (if c then x else y) := by
  split
  · exact hx
  · exact hy

end Searches

namespace Schedule

variable (s : Schedule)

theorem searchFrom_searches (start : Nat) : Searches (s.searchFrom start) := by
  have hexhausted (year : Nat) : Searches (.error (s.exhausted year) : Except Fault Nat) := by
    rw [exhausted]
    split
    · exact .noDate
    · split
      · exact .overrun (.inr rfl)
      · exact .overrun (.inl rfl)
  simp only [searchFrom]
  split
  · exact .ok _
  · split
    · exact .ok _
    · exact hexhausted _

theorem nextWall_searches (wall : Int) : Searches (s.nextWall wall) :=
  .ite (.overrun (.inr rfl)) (.bind (s.searchFrom_searches _) fun _ => .ok _)

theorem leaveGap_searches (z : Zone) (now : Instant) (k : Nat) (wall : Int) :
    Searches (s.leaveGap z now k wall) := by
  induction k generalizing wall with
  | zero => exact .noDate
  | succ k ih => exact .bind (s.nextWall_searches wall) fun wall' => .ite (ih wall') (.ok _)

theorem nextIn_searches (z : Zone) (now : Stamp) : Searches (s.nextIn z now) := by
  refine .bind (s.nextWall_searches _) fun wall => ?_
  have hagain (r : Stamp) (wall' : Int) : Searches (do
      let wall ← s.nextWall wall'
      let r' := place z now.instant wall
      if r'.shifted ∨ r'.stamp.instant ≤ now.instant then return r
      return if r'.stamp.instant < r.instant then r'.stamp else r) :=
    .bind (s.nextWall_searches _) fun _ => .ite (.ok _) (.ok _)
  refine .ite (.bind (s.leaveGap_searches z _ _ _) fun r => ?_) (.bind (.ok _) fun r => ?_)
  · exact .ite (.ok _) (hagain r _)
  · exact .ite (.ok _) (hagain r _)

theorem nextStamp_searches (z : Zone) (now : Stamp) : Searches (s.nextStamp z now) := by
  have hweekday := s.anyWeekday.nextIn_searches z now
  have hday := s.anyDay.nextIn_searches z now
  refine .ite (s.nextIn_searches z now) ?_
  cases hx : s.anyWeekday.nextIn z now with
  | error f =>
    rw [hx] at hweekday
    cases f <;> first | exact hweekday | exact .ite .noDate hday
  | ok byDay =>
    cases hy : s.anyDay.nextIn z now with
    | error f =>
      rw [hy] at hday
      cases f <;> first | exact hday | exact .ok _
    | ok byWeekday => exact .ok _

theorem next_searches (z : Zone) (after : Instant) : Searches (s.next z after) :=
  .ite (.overrun (.inr rfl)) (.bind (s.nextStamp_searches z _) fun _ =>
    .ite (.overrun (.inr rfl)) (.ok _))

end Schedule

/-- A valid expression is a text that stands for a schedule. -/
theorem text_of_validate {expression zone : Value} {z : Zone}
    (h : validate expression zone = .ok z) :
    ∃ text schedule, expression = .text text ∧ Schedule.ofText text = .ok schedule := by
  simp only [validate, (validate_eq_ok h).1] at h
  obtain ⟨text, hread, h⟩ := exists_of_bind_eq_ok h
  cases hschedule : Schedule.ofText text with
  | error f =>
    simp only [hschedule] at h
    cases h
  | ok schedule =>
    refine ⟨text, schedule, ?_, hschedule⟩
    cases expression with
    | text text' => rw [Except.ok.inj hread]
    | _ => cases hread

end Cron

namespace Trigger

variable {t : Trigger} {s : Automation}

/-- The expression and the zone of a cron trigger, checked. -/
def checkedSchedule (t : Trigger) (defaultZone : Value) : Except Error (Value × Zone) := do
  let expression ← t.cronExpression
  let zone := (← t.cronTimezone).orElse defaultZone
  return (expression, ← Cron.validate expression zone)

theorem schedule_eq (t : Trigger) (defaultZone : Value) (now : Instant) :
    t.schedule defaultZone now = (do
      let (expression, zone) ← t.checkedSchedule defaultZone
      return (expression, zone, ← Cron.nextFire expression zone now)) := by
  simp only [schedule, checkedSchedule, Scheduler.firstRun, bind_assoc, pure_bind]

theorem schedule_of_checked {defaultZone expression : Value} {zone : Zone}
    (h : t.checkedSchedule defaultZone = .ok (expression, zone)) (now : Instant) :
    t.schedule defaultZone now =
      (Cron.nextFire expression zone now).map fun nextRun => (expression, zone, nextRun) := by
  rw [schedule_eq, h]
  cases hnext : Cron.nextFire expression zone now <;> simp [hnext, bind, Except.bind, pure,
    Except.pure, Except.map]

/-- The check of a trigger's schedule either accepts it or rejects it as a schedule. -/
def Checkable (t : Trigger) (s : Automation) : Prop :=
  ∀ e, t.checkedSchedule s.config.defaultTimezone = .error e → e.isInvalidSchedule = true

instance (t : Trigger) (s : Automation) : Decidable (t.Checkable s) :=
  match h : t.checkedSchedule s.config.defaultTimezone with
  | .ok _ => .isTrue fun _ h' => nomatch h.symm.trans h'
  | .error e => decidable_of_iff (e.isInvalidSchedule = true)
    ⟨fun he _ h' => Except.error.inj (h.symm.trans h') ▸ he, fun hall => hall e h⟩

/-- The schedule of a trigger is valid, but the search for its next time runs past the calendar. -/
def Overruns (t : Trigger) (s : Automation) : Prop :=
  ∃ text zone schedule f, t.checkedSchedule s.config.defaultTimezone = .ok (.text text, zone) ∧
    Cron.Schedule.ofText text = .ok schedule ∧
    schedule.next zone s.clock.instant = .error f ∧ f.IsOverrun

/-- A schedule that is valid can be searched for its next time. -/
theorem nextFire_of_checked {defaultZone expression : Value} {zone : Zone}
    (h : t.checkedSchedule defaultZone = .ok (expression, zone)) (now : Instant) :
    ∃ text schedule, expression = .text text ∧ Cron.Schedule.ofText text = .ok schedule ∧
      Cron.nextFire expression zone now =
        (schedule.next zone now).mapError (Cron.Fault.error text) := by
  obtain ⟨_, _, h⟩ := exists_of_bind_eq_ok h
  obtain ⟨_, _, h⟩ := exists_of_bind_eq_ok h
  obtain ⟨_, hvalid, h⟩ := exists_of_bind_eq_ok h
  cases h
  obtain ⟨text, schedule, rfl, hread⟩ := Cron.text_of_validate hvalid
  refine ⟨text, schedule, rfl, hread, ?_⟩
  simp only [Cron.nextFire, Cron.readExpression, hread, bind, Except.bind]

theorem not_isInvalidSchedule_iff {f : Cron.Fault} (hf : f = .noDate ∨ f.IsOverrun)
    (text : String) : (f.error text).isInvalidSchedule = false ↔ f.IsOverrun := by
  obtain rfl | rfl | rfl := hf
  · exact iff_of_false Bool.noConfusion fun h => h.elim nofun nofun
  · exact iff_of_true rfl (.inl rfl)
  · exact iff_of_true rfl (.inr rfl)

theorem overruns_iff_of_checked {text : String} {zone : Zone} {schedule : Cron.Schedule}
    (hchecked : t.checkedSchedule s.config.defaultTimezone = .ok (.text text, zone))
    (hread : Cron.Schedule.ofText text = .ok schedule) :
    t.Overruns s ↔ ∃ f, schedule.next zone s.clock.instant = .error f ∧ f.IsOverrun := by
  constructor
  · rintro ⟨text', zone', schedule', f, hchecked', hread', hf⟩
    cases hchecked.symm.trans hchecked'
    cases hread.symm.trans hread'
    exact ⟨f, hf⟩
  · rintro ⟨f, hf⟩
    exact ⟨text, zone, schedule, f, hchecked, hread, hf⟩

/-- Only the end of the calendar is taken for no fault of a schedule that can be checked. -/
theorem derails_iff_overruns (h : t.Checkable s) : t.Derails s ↔ t.Overruns s := by
  cases hchecked : t.checkedSchedule s.config.defaultTimezone with
  | error e =>
    have hschedule : t.schedule s.config.defaultTimezone s.clock.instant = .error e := by
      rw [schedule_eq, hchecked]
      rfl
    rw [derails_iff_of_error hschedule, h e hchecked]
    refine iff_of_false Bool.noConfusion ?_
    rintro ⟨text, zone, schedule, f, hchecked', _⟩
    cases hchecked.symm.trans hchecked'
  | ok checked =>
    obtain ⟨expression, zone⟩ := checked
    obtain ⟨text, schedule, rfl, hread, hnext⟩ := nextFire_of_checked hchecked s.clock.instant
    have hschedule : t.schedule s.config.defaultTimezone s.clock.instant =
        ((schedule.next zone s.clock.instant).mapError (Cron.Fault.error text)).map
          fun nextRun => (.text text, zone, nextRun) := by
      rw [schedule_of_checked hchecked, hnext]
    rw [overruns_iff_of_checked hchecked hread]
    cases hfound : schedule.next zone s.clock.instant with
    | ok nextRun =>
      rw [hfound] at hschedule
      refine iff_of_false (not_derails_of_ok hschedule) ?_
      rintro ⟨f, hf, _⟩
      cases hf
    | error f =>
      rw [hfound] at hschedule
      have hfails := schedule.next_searches zone s.clock.instant f hfound
      rw [derails_iff_of_error hschedule, not_isInvalidSchedule_iff hfails]
      refine ⟨fun hf => ⟨f, rfl, hf⟩, ?_⟩
      rintro ⟨f', hf', hoverrun⟩
      rwa [Except.error.inj hf']

end Trigger

/-- A timer has the schedule of a trigger, with the next time after what the clock shows. -/
def Timer.Follows (timer : Timer) (t : Trigger) (s : Automation) : Prop :=
  timer.triggerId = t.id ∧ t.schedule s.config.defaultTimezone s.clock.instant =
    .ok (timer.expression, timer.zone, timer.nextRun)

namespace Scheduler

/-- What adding the missing timers of some triggers does: every timer that is there stays as it is,
and each new one follows its trigger. -/
structure Augments (ts : List Trigger) (s s' : Automation) : Prop where
  texts : Keyed.Texts s'.scheduler.timers
  keeps : ∀ e ∈ s.scheduler.timers, e ∈ s'.scheduler.timers
  adds : ∀ e ∈ s'.scheduler.timers, e ∈ s.scheduler.timers ∨
    ∃ t ∈ ts, e.1 = t.id ∧ e.2.Follows t s

theorem Augments.ofTimers {s s' : Automation} (htexts : Keyed.Texts s.scheduler.timers)
    (htimers : s'.scheduler.timers = s.scheduler.timers) (ts : List Trigger) :
    Augments ts s s' where
  texts := htimers ▸ htexts
  keeps _ he := htimers ▸ he
  adds _ he := .inl (htimers ▸ he)

theorem Augments.trans {ts us : List Trigger} {s s₁ s' : Automation} (h : Augments ts s s₁)
    (hconfig : s₁.config = s.config) (hclock : s₁.clock = s.clock) (h' : Augments us s₁ s') :
    Augments (ts ++ us) s s' where
  texts := h'.texts
  keeps e he := h'.keeps e (h.keeps e he)
  adds e he := by
    obtain he | ⟨t, ht, hid, hfollows⟩ := h'.adds e he
    · exact (h.adds e he).imp_right fun ⟨t, ht, hfollows⟩ =>
        ⟨t, List.mem_append_left us ht, hfollows⟩
    · rw [Timer.Follows, hconfig, hclock] at hfollows
      exact .inr ⟨t, List.mem_append_right ts ht, hid, hfollows⟩

theorem register_augments {t : Trigger} (hid : ∃ id, t.id = .text id) {s : Automation}
    (htexts : Keyed.Texts s.scheduler.timers) (hkey : t.id ∉ s.scheduler.timers.keys) :
    Augments [t] s (register t s).2 := by
  obtain ⟨id, hid⟩ := hid
  have hasKey : t.id.asKey = .ok t.id := hid ▸ Value.asKey_text id
  have hsame : s.scheduler.timers.erase t.id = s.scheduler.timers :=
    erase_of_get?_eq_none (htexts.get?_eq_none_iff.mpr hkey)
  cases h : t.schedule s.config.defaultTimezone s.clock.instant with
  | error e =>
    obtain ⟨s', hrun, _, htimers⟩ := register_of_error hasKey h
    rw [hrun]
    exact .ofTimers htexts (htimers.trans hsame) [t]
  | ok schedule =>
    obtain ⟨expression, zone, nextRun⟩ := schedule
    obtain ⟨task, s', hrun, _, htimers⟩ := register_of_schedule hasKey h
    have hmem := fun e => htexts.mem_put (k := t.id) (x := ⟨task, t.id, expression, zone, nextRun⟩)
      (e := e)
    rw [hsame] at htimers
    rw [← htimers] at hmem
    rw [hrun]
    constructor
    · rw [htimers, hid]
      exact htexts.put id
    · intro e he
      exact (hmem e).mpr (.inr ⟨he, fun heq => hkey (heq ▸ Keyed.mem_keys he)⟩)
    · intro e he
      rcases (hmem e).mp he with rfl | ⟨he, _⟩
      · exact .inr ⟨t, List.mem_singleton_self t, rfl, rfl, h⟩
      · exact .inl he

theorem addMissing_augments {t : Trigger} (hid : ∃ id, t.id = .text id) {s : Automation}
    (htexts : Keyed.Texts s.scheduler.timers) : Augments [t] s (addMissing t s).2 := by
  obtain ⟨id, hid⟩ := hid
  obtain ⟨b, hrun, hb⟩ := isRegistered_run hid htexts
  rw [addMissing, bind_ok hrun]
  cases b with
  | true => exact .ofTimers htexts rfl [t]
  | false =>
    have hkey : t.id ∉ s.scheduler.timers.keys := fun h => Bool.false_ne_true (hb.mpr h)
    obtain ⟨s₁, hlog, hquiet⟩ := log_quiet .cron Log.info
      ("Adding new cron trigger " ++ t.id.shown) s
    have htimers : s₁.scheduler.timers = s.scheduler.timers := congrArg _ hquiet.scheduler
    have hlogged : Augments [] s s₁ := .ofTimers htexts htimers []
    rw [← htimers] at htexts hkey
    rw [Bool.not_false, if_pos rfl, bind_ok hlog, discard_run]
    exact hlogged.trans hquiet.config hquiet.clock (register_augments ⟨id, hid⟩ htexts hkey)

theorem each_augments {ts : List Trigger} (htext : ∀ t ∈ ts, ∃ id, t.id = .text id)
    {s : Automation} (htexts : Keyed.Texts s.scheduler.timers) :
    Augments ts s (each addMissing ts s).2 := by
  induction ts generalizing s with
  | nil => exact .ofTimers htexts rfl []
  | cons t ts ih =>
    have hid := htext t List.mem_cons_self
    have haugments := addMissing_augments hid htexts
    obtain ⟨r, s₁, hrun, hretimed, htexts₁, _⟩ := addMissing_tries hid htexts
    rw [hrun] at haugments
    cases r with
    | error e =>
      rw [each, bind_error hrun]
      have hrest : Augments ts s₁ s₁ := .ofTimers htexts₁ rfl ts
      exact haugments.trans hretimed.config hretimed.clock hrest
    | ok _ =>
      rw [each, bind_ok hrun]
      exact haugments.trans hretimed.config hretimed.clock
        (ih (fun t' ht' => htext t' (List.mem_cons_of_mem t ht')) htexts₁)

/-! A pass that has nothing to do. -/

/-- A trigger needs no attention: it has a timer, or its schedule has no time for one. -/
def Rests (t : Trigger) (s : Automation) : Prop :=
  t.id ∈ s.scheduler.timers.keys ∨ ¬ t.Scheduled s ∧ ¬ t.Derails s

theorem rests_ofQuiet {t : Trigger} {s s' : Automation} (h : Quiet s s') :
    Rests t s' ↔ Rests t s := by
  rw [Rests, Rests, h.scheduler, Trigger.scheduled_congr h.config h.clock,
    Trigger.derails_congr h.config h.clock]

theorem addMissing_rests {t : Trigger} (hid : ∃ id, t.id = .text id) {s : Automation}
    (htexts : Keyed.Texts s.scheduler.timers) (h : Rests t s) :
    ∃ s', addMissing t s = (.ok ⟨⟩, s') ∧ Quiet s s' := by
  obtain ⟨id, hid⟩ := hid
  obtain ⟨b, hrun, hb⟩ := isRegistered_run hid htexts
  rw [addMissing, bind_ok hrun]
  cases b with
  | true => exact ⟨s, rfl, .refl s⟩
  | false =>
    have hkey : t.id ∉ s.scheduler.timers.keys := fun h => Bool.false_ne_true (hb.mpr h)
    obtain ⟨hidle, hgoes⟩ := h.resolve_left hkey
    obtain ⟨s₁, hlog, hquiet⟩ := log_quiet .cron Log.info
      ("Adding new cron trigger " ++ t.id.shown) s
    -- There is no timer to drop, so that only the schedule is looked at.
    have hdrop : unregister t.id s₁ = (.ok ⟨⟩, s₁) := by
      have hasKey : t.id.asKey = .ok t.id := hid ▸ Value.asKey_text id
      have hget : s₁.scheduler.timers.get? t.id = none := by
        rw [hquiet.scheduler]
        exact htexts.get?_eq_none_iff.mpr hkey
      rw [unregister, bind_ofExcept hasKey, bind_get, hget]
      rfl
    cases hschedule : t.schedule s.config.defaultTimezone s.clock.instant with
    | ok schedule => exact absurd ⟨schedule, hschedule⟩ hidle
    | error e =>
      have hinvalid : e.isInvalidSchedule = true := by
        rw [Trigger.derails_iff_of_error hschedule] at hgoes
        simpa using hgoes
      rw [← hquiet.config, ← hquiet.clock] at hschedule
      obtain ⟨s', hregister, hquiet'⟩ := register_fails hdrop hschedule
      rw [hinvalid, if_pos rfl] at hregister
      refine ⟨s', ?_, hquiet.trans hquiet'⟩
      rw [Bool.not_false, if_pos rfl, bind_ok hlog, bind_ok hregister]
      rfl

theorem each_rests {ts : List Trigger} (htext : ∀ t ∈ ts, ∃ id, t.id = .text id) {s : Automation}
    (htexts : Keyed.Texts s.scheduler.timers) (h : ∀ t ∈ ts, Rests t s) :
    ∃ s', each addMissing ts s = (.ok ⟨⟩, s') ∧ Quiet s s' := by
  induction ts generalizing s with
  | nil => exact ⟨s, rfl, .refl s⟩
  | cons t ts ih =>
    obtain ⟨s₁, hrun, hquiet⟩ := addMissing_rests (htext t List.mem_cons_self) htexts
      (h t List.mem_cons_self)
    obtain ⟨s', hrest, hquiet'⟩ := ih (fun t' ht' => htext t' (List.mem_cons_of_mem t ht'))
      (hquiet.scheduler ▸ htexts)
      (fun t' ht' => (rests_ofQuiet hquiet).mpr (h t' (List.mem_cons_of_mem t ht')))
    exact ⟨s', (bind_ok hrun).trans hrest, hquiet.trans hquiet'⟩

theorem each_dropInactive_idle {ids keys : List Value}
    (hkeys : ∀ k ∈ keys, (∃ text : String, k = .text text) ∧ k ∈ ids) (s : Automation) :
    each (dropInactive ids) keys s = (.ok ⟨⟩, s) := by
  induction keys with
  | nil => rfl
  | cons k keys ih =>
    obtain ⟨⟨text, hk⟩, hmem⟩ := hkeys k List.mem_cons_self
    have hdrop : dropInactive ids k s = (.ok ⟨⟩, s) := by
      rw [dropInactive, (Value.any_equal_iff hk ids).mpr hmem]
      rfl
    exact (bind_ok hdrop).trans (ih fun k' hk' => hkeys k' (List.mem_cons_of_mem k hk'))

/-- Where every timer is that of an active trigger, and every active trigger rests, nothing is
done. -/
theorem reconcile_rests {s : Automation} {found : List Trigger} (h : Finds s found)
    (hkeys : ∀ k ∈ s.scheduler.timers.keys, k ∈ found.map (·.id))
    (hrests : ∀ t ∈ found, Rests t s) : ∃ s', reconcile s = (.ok ⟨⟩, s') ∧ Quiet s s' := by
  obtain ⟨s₁, hlog, hquiet₁⟩ := log_quiet .cron Log.debug "Refreshing cron triggers..." s
  obtain ⟨s₂, hfind, hquiet₂⟩ :=
    (h.congr hquiet₁.broken hquiet₁.triggers (congrArg _ hquiet₁.scheduler)).findActive_run
  have hquiet := hquiet₁.trans hquiet₂
  have hdrop : each (dropInactive (found.map (·.id))) s.scheduler.timers.keys s₂ = (.ok ⟨⟩, s₂) :=
    each_dropInactive_idle (fun k hk => ⟨h.texts.text k hk, hkeys k hk⟩) s₂
  obtain ⟨s', hadd, hquiet'⟩ := each_rests h.text (hquiet.scheduler ▸ h.texts)
    fun t ht => (rests_ofQuiet hquiet).mpr (hrests t ht)
  refine ⟨s', ?_, hquiet.trans hquiet'⟩
  rw [reconcile_eq, bind_ok hlog, bind_ok hfind, bind_ofExcept (mapM_asKey h.text), bind_get,
    hquiet.scheduler, bind_ok hdrop, hadd]

/-- A reconciliation with the active cron triggers `found` brings the timers in line with them. -/
structure Converges (s : Automation) (found : List Trigger) (s' : Automation) : Prop where
  runs : reconcile s = (.ok ⟨⟩, s')
  registered : ∀ id, id ∈ s'.scheduler.timers.keys ↔
    ∃ t ∈ found, t.id = id ∧ (id ∈ s.scheduler.timers.keys ∨ t.Scheduled s)
  kept : ∀ e ∈ s'.scheduler.timers, e.1 ∈ s.scheduler.timers.keys → e ∈ s.scheduler.timers
  added : ∀ e ∈ s'.scheduler.timers, e.1 ∉ s.scheduler.timers.keys →
    ∃ t ∈ found, t.id = e.1 ∧ e.2.Follows t s
  idempotent : ∃ s'', reconcile s' = (.ok ⟨⟩, s'') ∧ Quiet s' s''

variable {s : Automation} {found : List Trigger}

theorem Finds.retimed (h : Finds s found) : Retimed s (reconcile s).2 := by
  obtain ⟨r, s₁, s', hrun, hretimed, _, hretimed', _⟩ := reconcile_run h
  rw [hrun]
  exact hretimed.trans hretimed'

theorem Finds.eq_of_id (h : Finds s found) {t t' : Trigger} (ht : t ∈ found) (ht' : t' ∈ found)
    (hid : t.id = t'.id) : t = t' :=
  List.inj_on_of_nodup_map h.distinct ht ht' hid

theorem Converges.isolates {s' : Automation} (hfinds : Finds s found) (h : Converges s found s') :
    ReconcileIsolates s found := by
  refine ⟨s', h.runs, fun t ht => ?_⟩
  rw [h.registered]
  constructor
  · rintro ⟨t', ht', hid, hcause⟩
    obtain rfl := hfinds.eq_of_id ht' ht hid
    exact hcause.symm
  · intro hcause
    exact ⟨t, ht, rfl, hcause.symm⟩

/-- A reconciliation that leaves just the right triggers with timers has converged. -/
theorem Finds.converges (h : Finds s found) (hisolates : ReconcileIsolates s found) :
    Converges s found (reconcile s).2 := by
  have hretimed := h.retimed
  have hgoes := h.reconcile_isolates_iff.mp hisolates
  obtain ⟨s', hrun, hkeys⟩ := hisolates
  obtain ⟨s₁, hdrops, hretimed₁, htexts₁, hmem⟩ := reconcile_drops h
  have haugments : Augments found s₁ (each addMissing found s₁).2 := each_augments h.text htexts₁
  rw [← hdrops, hrun] at haugments
  rw [hrun] at hretimed ⊢
  -- A timer that is there afterwards was there before, or else a trigger has its schedule.
  have hcases : ∀ e ∈ s'.scheduler.timers, (e ∈ s.scheduler.timers ∧ e.1 ∈ found.map (·.id)) ∨
      ∃ t ∈ found, e.1 = t.id ∧ e.2.Follows t s := by
    intro e he
    refine (haugments.adds e he).imp (hmem e).mp fun ⟨t, ht, hid, hfollows⟩ => ⟨t, ht, hid, ?_⟩
    rwa [Timer.Follows, hretimed₁.config, hretimed₁.clock] at hfollows
  have hregistered : ∀ id, id ∈ s'.scheduler.timers.keys ↔
      ∃ t ∈ found, t.id = id ∧ (id ∈ s.scheduler.timers.keys ∨ t.Scheduled s) := by
    intro id
    constructor
    · intro hid
      obtain ⟨timer, he⟩ := Keyed.mem_keys_iff.mp hid
      obtain ⟨he, hactive⟩ | ⟨t, ht, rfl, hfollows⟩ := hcases _ he
      · obtain ⟨t, ht, hid⟩ := List.mem_map.mp hactive
        exact ⟨t, ht, hid, .inl (Keyed.mem_keys he)⟩
      · exact ⟨t, ht, rfl, .inr ⟨_, hfollows.2⟩⟩
    · rintro ⟨t, ht, rfl, hcause⟩
      exact (hkeys t ht).mpr hcause.symm
  refine ⟨hrun, hregistered, fun e he hkey => ?_, fun e he hkey => ?_, ?_⟩
  · obtain ⟨he', _⟩ | ⟨t, ht, hid, _⟩ := hcases e he
    · exact he'
    · -- The key had a timer, which was kept, so that there is no other one now.
      obtain ⟨timer, hold⟩ := Keyed.mem_keys_iff.mp hkey
      have hkept := haugments.keeps _ ((hmem _).mpr ⟨hold, hid ▸ List.mem_map_of_mem ht⟩)
      rwa [haugments.texts.unique hkept he] at hold
  · obtain ⟨he', _⟩ | ⟨t, ht, hid, hfollows⟩ := hcases e he
    · exact absurd (Keyed.mem_keys he') hkey
    · exact ⟨t, ht, hid.symm, hfollows⟩
  · have hfinds : Finds s' found :=
      { unbroken := hretimed.broken.trans h.unbroken, find := hretimed.triggers ▸ h.find
        text := h.text, distinct := h.distinct, texts := haugments.texts }
    refine reconcile_rests hfinds (fun k hk => ?_) fun t ht => ?_
    · obtain ⟨t, ht, rfl, _⟩ := (hregistered k).mp hk
      exact List.mem_map_of_mem ht
    · rw [Rests, or_iff_not_imp_left, hkeys t ht, Trigger.scheduled_congr hretimed.config
        hretimed.clock, Trigger.derails_congr hretimed.config hretimed.clock, not_or]
      exact fun hnone => ⟨hnone.1, mt (hgoes t ht) hnone.2⟩

end Scheduler

namespace Automation

/-- What a reconciliation does when the check of every active cron trigger's schedule accepts it or
rejects it as a schedule. It converges, unless the search for the next time of a valid schedule runs
past the calendar for a trigger without a timer; then it ends in an error. In either case the stored
triggers and the log are left alone, and the gauge is in line with the timers. In memory the active
cron triggers are found if their times of creation can be compared. -/
theorem reconcile_converges_iff {s : Automation} (hunbroken : s.broken = [])
    (hstore : s.triggers.Filed) (htexts : Keyed.Texts s.scheduler.timers) :
    (∀ ts, s.triggers = .memory ts → (∀ e ∈ ts, e.2.isAmong TriggerStore.activeCron = true →
        ∃ created, e.2.createdAt = .stamp created ∧ created.isAware = true) →
      ∃ found, s.triggers.find TriggerStore.activeCron = .ok found ∧
        found.Perm (ts.items.filter (·.isAmong TriggerStore.activeCron))) ∧
    ∀ found, s.triggers.find TriggerStore.activeCron = .ok found →
      (∀ t ∈ found, t.Checkable s) →
      (Scheduler.Converges s found (Scheduler.reconcile s).2 ↔
        ∀ t ∈ found, t.Overruns s → t.id ∈ s.scheduler.timers.keys) ∧
      ((∃ e, (Scheduler.reconcile s).1 = .error e) ↔
        ∃ t ∈ found, t.Overruns s ∧ t.id ∉ s.scheduler.timers.keys) ∧
      (Scheduler.reconcile s).2.triggers = s.triggers ∧
      (Scheduler.reconcile s).2.executions = s.executions ∧
      (s.metrics.timers = s.scheduler.timers.length → (Scheduler.reconcile s).2.metrics.timers =
        (Scheduler.reconcile s).2.scheduler.timers.length) := by
  refine ⟨fun ts hts hcreated => ?_, fun found hfound hcheckable => ?_⟩
  · obtain ⟨found, hfind, hperm, _⟩ := Trigger.find_memory hcreated
    exact ⟨found, hts ▸ hfind, hperm⟩
  · have hfinds : Scheduler.Finds s found :=
      ⟨hunbroken, hfound, fun t ht => hstore.text_of_find hfound ht,
        hstore.distinct_of_find hfound, htexts⟩
    have hretimed := hfinds.retimed
    have hderails : ∀ t ∈ found, (t.Derails s ↔ t.Overruns s) := fun t ht =>
      Trigger.derails_iff_overruns (hcheckable t ht)
    refine ⟨?_, ?_, hretimed.triggers, hretimed.executions, hretimed.gauge⟩
    · have hiff : Scheduler.Converges s found (Scheduler.reconcile s).2 ↔
          Scheduler.ReconcileIsolates s found := ⟨fun h => h.isolates hfinds, hfinds.converges⟩
      rw [hiff, hfinds.reconcile_isolates_iff]
      exact forall₂_congr fun t ht => by rw [hderails t ht]
    · constructor
      · rintro ⟨e, he⟩
        obtain ⟨⟨s', hrun, _⟩, _⟩ | ⟨_, t, ht, hstops⟩ := hfinds.reconcile_ends
        · rw [hrun] at he
          cases he
        · exact ⟨t, ht, (hderails t ht).mp hstops.1, hstops.2⟩
      · rintro ⟨t, ht, hoverruns, hkey⟩
        obtain ⟨_, hgoes⟩ | ⟨herror, _⟩ := hfinds.reconcile_ends
        · exact absurd (hgoes t ht ((hderails t ht).mpr hoverruns)) hkey
        · exact herror

/-- In the last month of the calendar a trigger that fires every minute has lost its timer, and a
newer one has an expression that never matches. -/
def lastMonth : List Operation :=
  let start : Instant := Stamp.limit - 31 * Stamp.day
  let fields (expression : String) : Entries := [("workspace_id", .text "w1"),
    ("process_definition_id", .text "d1"), ("trigger_type", .text "cron"),
    ("conditions", .object [("expression", .text expression)])]
  [.deploy ⟨.text "d1", .text "w1", .null, .text "k1"⟩, .setClock (Stamp.ofInstant start),
    .create (fields "* * * * *") .null, .unregister (.text "id-1"),
    .setClock (Stamp.ofInstant (start + Stamp.second)), .create (fields "0 0 31 2 *") .null]

theorem reconcile_converges_iff_lastMonth :
    let s := attended.after lastMonth
    s.scheduler.timers = [] ∧
      ∃ found, s.triggers.find TriggerStore.activeCron = .ok found ∧
        (∀ t ∈ found, t.Checkable s) ∧ (∃ t ∈ found, t.Scheduled s) ∧
        ¬ Scheduler.Converges s found (Scheduler.reconcile s).2 ∧
        (∃ e, (Scheduler.reconcile s).1 = .error e) ∧
        (Scheduler.reconcile s).2.scheduler.timers = [] := by
  have hreached : Reached (attended.after lastMonth) := by
    refine ⟨attended, lastMonth, ⟨.inl rfl, rfl, rfl, rfl⟩, rfl, ?_, rfl⟩
    simp [lastMonth, Operation.KeepsListener]
  have htimers : (attended.after lastMonth).scheduler.timers.length = 0 := by decide +kernel
  have hreconciled :
      (Scheduler.reconcile (attended.after lastMonth)).2.scheduler.timers.length = 0 := by
    decide +kernel
  have hfound : ((attended.after lastMonth).triggers.find
      TriggerStore.activeCron).toOption.any (fun found =>
        (∀ t ∈ found, t.Checkable (attended.after lastMonth)) ∧
          (∃ t ∈ found, t.Scheduled (attended.after lastMonth)) ∧
            ∃ t ∈ found, t.Derails (attended.after lastMonth)) = true := by decide +kernel
  generalize attended.after lastMonth = s at *
  have hconverges := (reconcile_converges_iff hreached.unbroken hreached.sound.store.filed
    hreached.sound.texts).2
  have hnone := List.eq_nil_of_length_eq_zero htimers
  refine ⟨hnone, ?_⟩
  cases hfind : s.triggers.find TriggerStore.activeCron with
  | error e =>
    rw [hfind] at hfound
    cases hfound
  | ok found =>
    rw [hfind] at hfound
    obtain ⟨hcheckable, hscheduled, t, ht, hderails⟩ := of_decide_eq_true hfound
    obtain ⟨hiff, herror, _⟩ := hconverges found hfind hcheckable
    have hoverruns := (Trigger.derails_iff_overruns (hcheckable t ht)).mp hderails
    have hkey : t.id ∉ s.scheduler.timers.keys := by
      rw [hnone]
      exact List.not_mem_nil
    exact ⟨found, rfl, hcheckable, hscheduled, fun h => hkey (hiff.mp h t ht hoverruns),
      herror.mpr ⟨t, ht, hoverruns, hkey⟩, List.eq_nil_of_length_eq_zero hreconciled⟩

end Automation
end ProcessTriggers
