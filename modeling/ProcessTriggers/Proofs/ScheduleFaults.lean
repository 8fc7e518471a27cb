import ProcessTriggers.Proofs.TimerSoundness

/-!
What the schedule of one trigger means for the other triggers when the scheduler registers them all.
A fault that is taken for one of the schedule leaves its trigger without a timer and nothing more;
any other ends the pass over the triggers.
-/

namespace ProcessTriggers

open Action Automation

namespace Trigger

variable {t : Trigger} {s s' : Automation}

/-- A trigger has a schedule, which serves it at the time that the clock shows. -/
def Scheduled (t : Trigger) (s : Automation) : Prop :=
  ∃ schedule, t.schedule s.config.defaultTimezone s.clock.instant = .ok schedule

/-- A trigger has no schedule, by an error that is not taken for a fault of the schedule. -/
def Derails (t : Trigger) (s : Automation) : Prop :=
  ∃ e, t.schedule s.config.defaultTimezone s.clock.instant = .error e ∧ e.isInvalidSchedule = false

instance (t : Trigger) (s : Automation) : Decidable (t.Scheduled s) :=
  match h : t.schedule s.config.defaultTimezone s.clock.instant with
  | .ok schedule => .isTrue ⟨schedule, h⟩
  | .error _ => .isFalse fun ⟨_, h'⟩ => nomatch h.symm.trans h'

instance (t : Trigger) (s : Automation) : Decidable (t.Derails s) :=
  match h : t.schedule s.config.defaultTimezone s.clock.instant with
  | .ok _ => .isFalse fun ⟨_, h', _⟩ => nomatch h.symm.trans h'
  | .error e => decidable_of_iff (e.isInvalidSchedule = false)
    ⟨fun he => ⟨e, h, he⟩, fun ⟨_, h', he⟩ => Except.error.inj (h.symm.trans h') ▸ he⟩

theorem scheduled_congr (hconfig : s'.config = s.config) (hclock : s'.clock = s.clock) :
    t.Scheduled s' ↔ t.Scheduled s := by
  rw [Scheduled, Scheduled, hconfig, hclock]

theorem derails_congr (hconfig : s'.config = s.config) (hclock : s'.clock = s.clock) :
    t.Derails s' ↔ t.Derails s := by
  rw [Derails, Derails, hconfig, hclock]

theorem not_derails_of_ok {schedule : Value × Zone × Instant}
    (h : t.schedule s.config.defaultTimezone s.clock.instant = .ok schedule) : ¬ t.Derails s := by
  rintro ⟨e, he, _⟩
  cases h.symm.trans he

theorem not_scheduled_of_error {e : Error}
    (h : t.schedule s.config.defaultTimezone s.clock.instant = .error e) : ¬ t.Scheduled s := by
  rintro ⟨schedule, hschedule⟩
  cases h.symm.trans hschedule

theorem derails_iff_of_error {e : Error}
    (h : t.schedule s.config.defaultTimezone s.clock.instant = .error e) :
    t.Derails s ↔ e.isInvalidSchedule = false := by
  constructor
  · rintro ⟨e', he', hinvalid⟩
    rwa [Except.error.inj (h.symm.trans he')]
  · intro hinvalid
    exact ⟨e, h, hinvalid⟩

/-- An expression that is something, but no text, derails its trigger, whatever its zone. -/
theorem derails_of_expression {es : Entries} {expression : Value} (hes : t.conditions = .object es)
    (hexpression : Entries.get? es "expression" = some expression)
    (htruthy : expression.truthy = true) (htext : ∀ text, expression ≠ .text text) :
    t.Derails s := by
  have hread : ∃ e, Cron.readExpression expression = .error e ∧ e.isInvalidSchedule = false := by
    cases expression with
    | text text => exact absurd rfl (htext text)
    | bytes bs => exact ⟨_, rfl, rfl⟩
    | _ => exact ⟨_, rfl, Value.lacks_isInvalidSchedule _ _⟩
  obtain ⟨e, hread, hinvalid⟩ := hread
  have hsetting (key : String) : t.setting key = .ok ((Value.entry es key).orElse .null) := by
    rw [setting, hes]
    rfl
  refine ⟨e, ?_, hinvalid⟩
  rw [schedule, cronExpression, cronTimezone, hsetting, hsetting, Value.entry, hexpression]
  simp only [Value.ofOption, Value.orElse_of_truthy htruthy, Scheduler.firstRun, Cron.validate,
    htruthy, hread, bind, Except.bind]
  rfl

end Trigger

namespace Scheduler

/-- What an attempt to register some triggers makes of the timers. Those with a schedule have a
timer afterwards; of the others only those do whose timers were to be `kept`. The timers of other
triggers stay as they are. -/
structure Registers (kept : Prop) (ts : List Trigger) (s s' : Automation) : Prop where
  others : ∀ e : Value × Timer, e.1 ∉ ts.map (·.id) →
    (e ∈ s'.scheduler.timers ↔ e ∈ s.scheduler.timers)
  registered : ∀ t ∈ ts, (t.id ∈ s'.scheduler.timers.keys ↔
    t.Scheduled s ∨ kept ∧ t.id ∈ s.scheduler.timers.keys)

/-- The schedule of a trigger ends a pass over the triggers, unless the trigger has a timer that is
to be kept. -/
def Stops (kept : Prop) (t : Trigger) (s : Automation) : Prop :=
  t.Derails s ∧ (kept → t.id ∉ s.scheduler.timers.keys)

theorem stops_of_renewing {t : Trigger} {s : Automation} : Stops False t s ↔ t.Derails s :=
  and_iff_left False.elim

theorem stops_congr {kept : Prop} {t : Trigger} {s s' : Automation} (hconfig : s'.config = s.config)
    (hclock : s'.clock = s.clock)
    (hkey : t.id ∈ s'.scheduler.timers.keys ↔ t.id ∈ s.scheduler.timers.keys) :
    Stops kept t s' ↔ Stops kept t s := by
  rw [Stops, Stops, Trigger.derails_congr hconfig hclock, hkey]

namespace Registers

variable {kept : Prop} {t : Trigger} {ts : List Trigger} {s s' s₁ s₂ : Automation}

theorem keys_of_not_mem (h : Registers kept ts s s') {id : Value} (hid : id ∉ ts.map (·.id)) :
    id ∈ s'.scheduler.timers.keys ↔ id ∈ s.scheduler.timers.keys := by
  rw [Keyed.mem_keys_iff, Keyed.mem_keys_iff]
  exact exists_congr fun timer => h.others (id, timer) hid

/-- Only the configuration, the clock and the timers matter. -/
theorem congr (h : Registers kept ts s₁ s₂) (hconfig : s₁.config = s.config)
    (hclock : s₁.clock = s.clock) (htimers : s₁.scheduler.timers = s.scheduler.timers)
    (htimers' : s₂.scheduler.timers = s'.scheduler.timers) : Registers kept ts s s' where
  others e he := by
    rw [← htimers, ← htimers']
    exact h.others e he
  registered t ht := by
    rw [← htimers, ← htimers', ← Trigger.scheduled_congr hconfig hclock]
    exact h.registered t ht

theorem nil (s : Automation) : Registers kept [] s s :=
  ⟨fun _ _ => .rfl, fun _ h => absurd h List.not_mem_nil⟩

theorem single (hothers : ∀ e : Value × Timer, e.1 ≠ t.id →
      (e ∈ s'.scheduler.timers ↔ e ∈ s.scheduler.timers))
    (hkey : t.id ∈ s'.scheduler.timers.keys ↔
      t.Scheduled s ∨ kept ∧ t.id ∈ s.scheduler.timers.keys) : Registers kept [t] s s' where
  others e he := hothers e (by simpa using he)
  registered t' ht' := by
    rw [List.mem_singleton.mp ht']
    exact hkey

/-- A trigger with a schedule got a timer in the place of an earlier one. -/
theorem ofPut (htexts : Keyed.Texts s.scheduler.timers) {timer : Timer}
    (htimers : s'.scheduler.timers = (s.scheduler.timers.erase t.id).put t.id timer)
    (h : t.Scheduled s) : Registers kept [t] s s' := by
  have hmem := fun e => (htexts.erase t.id).mem_put (k := t.id) (x := timer) (e := e)
  rw [← htimers] at hmem
  apply single
  · intro e hne
    have hother : e ≠ (t.id, timer) := fun heq => hne (heq ▸ rfl)
    rw [hmem, htexts.mem_erase, or_iff_right hother, and_iff_left hne, and_iff_left hne]
  · exact iff_of_true (Keyed.mem_keys ((hmem (t.id, timer)).mpr (.inl rfl))) (.inl h)

/-- A trigger without a schedule lost an earlier timer. -/
theorem ofErase (htexts : Keyed.Texts s.scheduler.timers)
    (htimers : s'.scheduler.timers = s.scheduler.timers.erase t.id) (h : ¬ t.Scheduled s) :
    Registers False [t] s s' := by
  apply single
  · intro e hne
    rw [htimers, htexts.mem_erase, and_iff_left hne]
  · rw [htimers, false_and, or_false]
    exact iff_of_false htexts.not_mem_keys_erase h

theorem cons (h : Registers kept [t] s s₁) (hretimed : Retimed s s₁)
    (h' : Registers kept ts s₁ s') (ht : t.id ∉ ts.map (·.id)) : Registers kept (t :: ts) s s' where
  others e he := by
    rw [List.map_cons, List.mem_cons, not_or] at he
    rw [h'.others e he.2, h.others e (by simpa using he.1)]
  registered t' ht' := by
    rcases List.mem_cons.mp ht' with rfl | ht'
    · rw [h'.keys_of_not_mem ht]
      exact h.registered t' List.mem_cons_self
    · -- The timer of a later trigger is not touched for the first one.
      have hne : t'.id ≠ t.id := fun heq => ht (heq ▸ List.mem_map_of_mem ht')
      rw [h'.registered t' ht', Trigger.scheduled_congr hretimed.config hretimed.clock,
        h.keys_of_not_mem (by simpa using hne)]

end Registers

/-- An attempt to register a trigger: it fails just if the trigger's schedule stops it. -/
def Tries {α : Type} (kept : Prop) (f : Trigger → Action α) : Prop :=
  ∀ {t : Trigger} {s : Automation}, (∃ id, t.id = .text id) → Keyed.Texts s.scheduler.timers →
    ∃ r s', f t s = (r, s') ∧ Retimed s s' ∧ Keyed.Texts s'.scheduler.timers ∧
      Registers kept [t] s s' ∧ ((∃ e, r = .error e) ↔ Stops kept t s)

theorem register_tries : Tries False register := by
  rintro t s ⟨id, hid⟩ htexts
  have hkey : t.id.asKey = .ok t.id := hid ▸ Value.asKey_text id
  cases h : t.schedule s.config.defaultTimezone s.clock.instant with
  | ok schedule =>
    obtain ⟨expression, zone, nextRun⟩ := schedule
    obtain ⟨task, s', hrun, hretimed, htimers⟩ := register_of_schedule hkey h
    refine ⟨.ok true, s', hrun, hretimed, ?_, .ofPut htexts htimers ⟨_, h⟩, ?_⟩
    · rw [htimers, hid]
      exact (htexts.erase _).put id
    · rw [stops_of_renewing]
      refine iff_of_false ?_ (Trigger.not_derails_of_ok h)
      rintro ⟨e, he⟩
      cases he
  | error e =>
    obtain ⟨s', hrun, hretimed, htimers⟩ := register_of_error hkey h
    refine ⟨_, s', hrun, hretimed, htimers ▸ htexts.erase _,
      .ofErase htexts htimers (Trigger.not_scheduled_of_error h), ?_⟩
    rw [stops_of_renewing, Trigger.derails_iff_of_error h]
    cases e.isInvalidSchedule <;> simp

/-- Registers a trigger that has no timer. -/
def addMissing (t : Trigger) : Action Unit := do
  if !(← isRegistered t.id) then
    log .cron Log.info ("Adding new cron trigger " ++ t.id.shown)
    let _ ← register t

theorem isRegistered_run {id : Value} {text : String} (hid : id = .text text) {s : Automation}
    (htexts : Keyed.Texts s.scheduler.timers) :
    ∃ b, isRegistered id s = (.ok b, s) ∧ (b = true ↔ id ∈ s.scheduler.timers.keys) := by
  have hkey : id.asKey = .ok id := hid ▸ Value.asKey_text text
  refine ⟨s.scheduler.timers.has id, ?_, htexts.has_iff⟩
  rw [isRegistered, bind_get, bind_ofExcept hkey]
  rfl

theorem addMissing_tries : Tries True addMissing := by
  rintro t s ⟨id, hid⟩ htexts
  obtain ⟨b, hrun, hb⟩ := isRegistered_run hid htexts
  rw [addMissing, bind_ok hrun]
  cases b with
  | true =>
    have hkey : t.id ∈ s.scheduler.timers.keys := hb.mp rfl
    refine ⟨.ok ⟨⟩, s, rfl, .refl s, htexts,
      .single (fun _ _ => .rfl) (iff_of_true hkey (.inr ⟨trivial, hkey⟩)), ?_⟩
    refine iff_of_false ?_ fun hstops => hstops.2 trivial hkey
    rintro ⟨e, he⟩
    cases he
  | false =>
    -- Without a timer that is to be kept, this is what `register` does.
    have hkey : t.id ∉ s.scheduler.timers.keys := fun h => Bool.false_ne_true (hb.mpr h)
    obtain ⟨s₁, hlog, hquiet⟩ := log_quiet .cron Log.info
      ("Adding new cron trigger " ++ t.id.shown) s
    have htimers : s₁.scheduler.timers = s.scheduler.timers := congrArg _ hquiet.scheduler
    obtain ⟨r, s', hregister, hretimed, htexts', hregisters, hstops⟩ :=
      register_tries ⟨id, hid⟩ (htimers ▸ htexts)
    have hregisters : Registers False [t] s s' :=
      hregisters.congr hquiet.config hquiet.clock htimers rfl
    refine ⟨r.map fun _ => ⟨⟩, s', ?_, (Retimed.ofQuiet hquiet).trans hretimed, htexts', ?_, ?_⟩
    · rw [Bool.not_false, if_pos rfl, bind_ok hlog, bind_run, hregister]
      cases r <;> rfl
    · refine .single (fun e hne => hregisters.others e (by simpa using hne)) ?_
      rw [hregisters.registered t List.mem_cons_self, false_and, true_and, or_false,
        or_iff_left hkey]
    · have hfailed : (∃ e, r.map (fun _ => PUnit.unit) = .error e) ↔ ∃ e, r = .error e := by
        cases r <;> simp [Except.map]
      rw [hfailed, hstops, stops_of_renewing, Trigger.derails_congr hquiet.config hquiet.clock,
        Stops, true_imp_iff, and_iff_left hkey]

/-- How a pass over the active triggers ends: either it comes to all of them, or the schedule of one
stops it and it ends in an error. -/
inductive Passed (kept : Prop) (ts : List Trigger) (s s' : Automation) : Except Error Unit → Prop
  | all (goes : ∀ t ∈ ts, ¬ Stops kept t s) (registers : Registers kept ts s s') :
    Passed kept ts s s' (.ok ⟨⟩)
  | stopped {e : Error} (before : List Trigger) {after : List Trigger} {t : Trigger}
    (split : ts = before ++ t :: after) (stops : Stops kept t s)
    (goes : ∀ t' ∈ before, ¬ Stops kept t' s)
    (registers : Registers kept (before ++ [t]) s s') : Passed kept ts s s' (.error e)

theorem Passed.congr {kept : Prop} {ts : List Trigger} {s s' s₁ s₂ : Automation}
    {r : Except Error Unit} (h : Passed kept ts s₁ s₂ r) (hconfig : s₁.config = s.config)
    (hclock : s₁.clock = s.clock) (htimers : s₁.scheduler.timers = s.scheduler.timers)
    (htimers' : s₂.scheduler.timers = s'.scheduler.timers) : Passed kept ts s s' r := by
  have hstops (t : Trigger) : Stops kept t s₁ ↔ Stops kept t s :=
    stops_congr hconfig hclock (by rw [htimers])
  cases h with
  | all goes registers =>
    exact .all (fun t ht => mt (hstops t).mpr (goes t ht))
      (registers.congr hconfig hclock htimers htimers')
  | stopped before split stops goes registers =>
    exact .stopped before split ((hstops _).mp stops) (fun t ht => mt (hstops t).mpr (goes t ht))
      (registers.congr hconfig hclock htimers htimers')

/-- A pass that is stopped has come to the triggers up to the one that stops it. The timers of those
after it are left as they were. -/
theorem each_registers {α : Type} {kept : Prop} {f : Trigger → Action α} (hf : Tries kept f)
    {ts : List Trigger} (htext : ∀ t ∈ ts, ∃ id, t.id = .text id)
    (hdistinct : (ts.map (·.id)).Nodup) {s : Automation}
    (htexts : Keyed.Texts s.scheduler.timers) :
    ∃ r s', each f ts s = (r, s') ∧ Retimed s s' ∧ Passed kept ts s s' r := by
  induction ts generalizing s with
  | nil => exact ⟨_, s, rfl, .refl s, .all (fun _ h => absurd h List.not_mem_nil) (.nil s)⟩
  | cons t ts ih =>
    rw [List.map_cons, List.nodup_cons] at hdistinct
    obtain ⟨ht, hdistinct⟩ := hdistinct
    obtain ⟨r, s₁, hrun, hretimed, htexts₁, hregisters, hstops⟩ :=
      hf (htext t List.mem_cons_self) htexts
    cases r with
    | error e =>
      refine ⟨.error e, s₁, bind_error hrun, hretimed, ?_⟩
      exact .stopped [] rfl (hstops.mp ⟨e, rfl⟩) (fun _ h => absurd h List.not_mem_nil)
        hregisters
    | ok x =>
      have hgoes : ¬ Stops kept t s := fun h => by
        obtain ⟨e, he⟩ := hstops.mpr h
        cases he
      -- What was done for the first trigger does not matter for whether the others stop the pass.
      have hother : ∀ t' ∈ ts, Stops kept t' s₁ ↔ Stops kept t' s := by
        intro t' ht'
        have hne : t'.id ≠ t.id := fun heq => ht (heq ▸ List.mem_map_of_mem ht')
        exact stops_congr hretimed.config hretimed.clock
          (hregisters.keys_of_not_mem (by simpa using hne))
      have hgo (us : List Trigger) (hus : us ⊆ ts) (hgo : ∀ t' ∈ us, ¬ Stops kept t' s₁) :
          ∀ t' ∈ t :: us, ¬ Stops kept t' s := by
        intro t' ht'
        rcases List.mem_cons.mp ht' with rfl | ht'
        · exact hgoes
        · exact mt (hother t' (hus ht')).mpr (hgo t' ht')
      obtain ⟨r, s', hrest, hretimed', hpassed⟩ :=
        ih (fun t' ht' => htext t' (List.mem_cons_of_mem t ht')) hdistinct htexts₁
      refine ⟨r, s', (bind_ok hrun).trans hrest, hretimed.trans hretimed', ?_⟩
      cases hpassed with
      | all goes registers =>
        exact .all (hgo ts (List.Subset.refl ts) goes) (hregisters.cons hretimed registers ht)
      | @stopped e before after t' split stops goes registers =>
        subst split
        have hmem : t' ∈ before ++ t' :: after := List.mem_append_right _ List.mem_cons_self
        have hbefore : t.id ∉ (before ++ [t']).map (·.id) := by
          refine fun hmem => ht ?_
          rw [List.map_append, List.mem_append] at hmem ⊢
          exact hmem.imp_right fun h => List.mem_cons.mpr (.inl (List.mem_singleton.mp h))
        exact .stopped (t :: before) rfl ((hother t' hmem).mp stops)
          (hgo before (List.subset_append_left _ _) goes)
          (hregisters.cons hretimed registers hbefore)

/-- Drops a timer whose trigger is not among the active ones. -/
def dropInactive (ids : List Value) (id : Value) : Action Unit := do
  if !ids.any id.equal then
    log .cron Log.info ("Removing deactivated cron trigger " ++ id.shown)
    unregister id

theorem loadTriggers_eq : loadTriggers = (do
    match ← Action.attempt (Registry.findActive .cron .null) with
    | .error e => log .cron Log.error ("Failed to load cron triggers: " ++ e.message)
    | .ok triggers =>
      log .cron Log.info s!"Loading {triggers.length} cron triggers"
      each register triggers) := by
  rw [loadTriggers]
  refine bind_congr fun found => ?_
  cases found with
  | error e => rfl
  | ok triggers =>
    refine bind_congr fun _ => ?_
    rw [forIn_eq_each]
    exact bind_pure _

theorem reconcile_eq : reconcile = (do
    log .cron Log.debug "Refreshing cron triggers..."
    let active ← Registry.findActive .cron .null
    let ids ← Action.ofExcept ((active.map (·.id)).mapM Value.asKey)
    each (dropInactive ids) (← get).scheduler.timers.keys
    each addMissing active) := by
  rw [reconcile]
  refine bind_congr fun _ => bind_congr fun active => bind_congr fun ids => bind_congr fun s => ?_
  rw [forIn_eq_each_of (g := dropInactive ids), forIn_eq_each_of (g := addMissing)]
  · exact bind_congr fun _ => bind_pure _
  · intro t
    rw [addMissing, bind_assoc]
    refine bind_congr fun registered => ?_
    split
    · simp only [bind_assoc, pure_bind]
    · rfl
  · intro id
    rw [dropInactive]
    split
    · simp only [bind_assoc]
    · rfl

theorem dropInactive_run (ids : List Value) {id : Value} {text : String} (hid : id = .text text)
    {s : Automation} (htexts : Keyed.Texts s.scheduler.timers) :
    ∃ s', dropInactive ids id s = (.ok ⟨⟩, s') ∧ Retimed s s' ∧
      Keyed.Texts s'.scheduler.timers ∧ ∀ e, e ∈ s'.scheduler.timers ↔
        e ∈ s.scheduler.timers ∧ (e.1 = id → id ∈ ids) := by
  rw [dropInactive]
  by_cases hmem : id ∈ ids
  · rw [(Value.any_equal_iff hid ids).mpr hmem]
    exact ⟨s, rfl, .refl s, htexts, fun e => (and_iff_left fun _ => hmem).symm⟩
  · have hany : ids.any id.equal = false :=
      Bool.eq_false_iff.mpr (mt (Value.any_equal_iff hid ids).mp hmem)
    obtain ⟨s₁, hlog, hquiet⟩ := log_quiet .cron Log.info
      ("Removing deactivated cron trigger " ++ id.shown) s
    have htimers : s₁.scheduler.timers = s.scheduler.timers := congrArg _ hquiet.scheduler
    have hkey : id.asKey = .ok id := hid ▸ Value.asKey_text text
    obtain ⟨s', hdrop, hretimed, herased⟩ := unregister_run hkey s₁
    rw [htimers] at herased
    refine ⟨s', ?_, (Retimed.ofQuiet hquiet).trans hretimed, herased ▸ htexts.erase id, fun e => ?_⟩
    · rw [hany, Bool.not_false, if_pos rfl, bind_ok hlog]
      exact hdrop
    · rw [herased, htexts.mem_erase]
      exact and_congr_right fun _ => ⟨fun hne heq => absurd heq hne, fun h heq => hmem (h heq)⟩

/-- Dropping the timers of inactive triggers succeeds, and the other timers are left. -/
theorem each_dropInactive (ids : List Value) {keys : List Value}
    (hkeys : ∀ k ∈ keys, ∃ text : String, k = .text text)
    {s : Automation} (htexts : Keyed.Texts s.scheduler.timers) :
    ∃ s', each (dropInactive ids) keys s = (.ok ⟨⟩, s') ∧ Retimed s s' ∧
      Keyed.Texts s'.scheduler.timers ∧ ∀ e, e ∈ s'.scheduler.timers ↔
        e ∈ s.scheduler.timers ∧ (e.1 ∈ keys → e.1 ∈ ids) := by
  induction keys generalizing s with
  | nil => exact ⟨s, rfl, .refl s, htexts, fun e => by simp⟩
  | cons k keys ih =>
    obtain ⟨text, hk⟩ := hkeys k List.mem_cons_self
    obtain ⟨s₁, hrun, hretimed, htexts₁, hmem⟩ := dropInactive_run ids hk htexts
    obtain ⟨s', hrest, hretimed', htexts', hmem'⟩ :=
      ih (fun k' hk' => hkeys k' (List.mem_cons_of_mem k hk')) htexts₁
    refine ⟨s', (bind_ok hrun).trans hrest, hretimed.trans hretimed', htexts', fun e => ?_⟩
    rw [hmem', hmem, and_assoc, List.mem_cons]
    refine and_congr_right fun _ =>
      ⟨?_, fun h => ⟨fun heq => heq ▸ h (.inl heq), fun he => h (.inr he)⟩⟩
    rintro ⟨hself, hrest⟩ (heq | he)
    · exact heq ▸ hself heq
    · exact hrest he

theorem mapM_asKey {ts : List Trigger} (htext : ∀ t ∈ ts, ∃ id, t.id = .text id) :
    (ts.map (·.id)).mapM Value.asKey = .ok (ts.map (·.id)) := by
  rw [mapM_eq_ok_iff, List.forall₂_same]
  intro v hv
  obtain ⟨t, ht, rfl⟩ := List.mem_map.mp hv
  obtain ⟨id, hid⟩ := htext t ht
  rw [hid]
  rfl

/-- The store gives the active cron triggers to a scheduler with orderly timers. -/
structure Finds (s : Automation) (found : List Trigger) : Prop where
  unbroken : s.broken = []
  find : s.triggers.find TriggerStore.activeCron = .ok found
  text : ∀ t ∈ found, ∃ id, t.id = .text id
  distinct : (found.map (·.id)).Nodup
  texts : Keyed.Texts s.scheduler.timers

theorem Finds.congr {s s' : Automation} {found : List Trigger} (h : Finds s found)
    (hbroken : s'.broken = s.broken) (htriggers : s'.triggers = s.triggers)
    (htimers : s'.scheduler.timers = s.scheduler.timers) : Finds s' found where
  unbroken := hbroken.trans h.unbroken
  find := htriggers ▸ h.find
  text := h.text
  distinct := h.distinct
  texts := htimers ▸ h.texts

theorem Finds.findActive_run {s : Automation} {found : List Trigger} (h : Finds s found) :
    ∃ s', Registry.findActive .cron .null s = (.ok found, s') ∧ Quiet s s' :=
  findTriggers_answers h.unbroken h.find

theorem loadTriggers_run {s : Automation} {found : List Trigger} (h : Finds s found) :
    ∃ r s', loadTriggers s = (r, s') ∧ Retimed s s' ∧ Passed False found s s' r := by
  obtain ⟨s₁, hfind, hquiet₁⟩ := h.findActive_run
  obtain ⟨s₂, hlog, hquiet₂⟩ := log_quiet .cron Log.info s!"Loading {found.length} cron triggers" s₁
  have hquiet := hquiet₁.trans hquiet₂
  have htimers : s₂.scheduler.timers = s.scheduler.timers := congrArg _ hquiet.scheduler
  obtain ⟨r, s', hregister, hretimed, hpassed⟩ :=
    each_registers register_tries h.text h.distinct (htimers ▸ h.texts)
  refine ⟨r, s', ?_, (Retimed.ofQuiet hquiet).trans hretimed,
    hpassed.congr hquiet.config hquiet.clock htimers rfl⟩
  rw [loadTriggers_eq, bind_ok (attempt_run _ s), hfind]
  dsimp only
  rw [bind_ok hlog, hregister]

theorem beginPass_run (s : Automation) :
    ∃ s', beginPass s = (.ok ⟨⟩, s') ∧ s'.scheduler.running = s.scheduler.running ∧
      s'.scheduler.timers = s.scheduler.timers ∧ s'.scheduler.pass.isSome = true :=
  ⟨_, modify_run _ s, rfl, rfl, rfl⟩

/-- The scheduler is running after a start, and it has its pass unless the start was stopped. -/
theorem start_run {s : Automation} {found : List Trigger} (h : Finds s found)
    (hidle : s.scheduler.running = false) :
    ∃ r s', start s = (r, s') ∧ s'.scheduler.running = true ∧ Passed False found s s' r ∧
      (r = .ok ⟨⟩ → s'.scheduler.pass.isSome) := by
  obtain ⟨r, s₁, hload, hretimed, hpassed⟩ := loadTriggers_run (s := { s with
    scheduler.running := true }) (h.congr rfl rfl rfl)
  have hrunning : s₁.scheduler.running = true := hretimed.running
  rw [start, bind_get, hidle, if_neg Bool.false_ne_true, change, bind_ok (modify_run _ s)]
  cases r with
  | error e =>
    refine ⟨.error e, s₁, bind_error hload, hrunning, hpassed.congr rfl rfl rfl rfl, ?_⟩
    intro h
    cases h
  | ok _ =>
    rw [bind_ok hload]
    obtain ⟨s₂, hbegin, hrunning₂, htimers₂, hpass₂⟩ := beginPass_run s₁
    obtain ⟨s', hlog, hquiet⟩ := log_quiet .cron Log.info "Cron scheduler started" s₂
    refine ⟨.ok ⟨⟩, s', (bind_ok hbegin).trans hlog, ?_, hpassed.congr rfl rfl rfl ?_, fun _ => ?_⟩
    · rw [hquiet.scheduler, hrunning₂, hrunning]
    · rw [hquiet.scheduler, htimers₂]
    · rw [hquiet.scheduler, hpass₂]

/-- A reconciliation first leaves just the timers of active triggers, and then adds those that are
missing. -/
theorem reconcile_drops {s : Automation} {found : List Trigger} (h : Finds s found) :
    ∃ s₁, reconcile s = each addMissing found s₁ ∧ Retimed s s₁ ∧
      Keyed.Texts s₁.scheduler.timers ∧
      ∀ e, e ∈ s₁.scheduler.timers ↔ e ∈ s.scheduler.timers ∧ e.1 ∈ found.map (·.id) := by
  obtain ⟨s₁, hlog, hquiet⟩ := log_quiet .cron Log.debug "Refreshing cron triggers..." s
  obtain ⟨s₂, hfind, hquiet₂⟩ :=
    (h.congr hquiet.broken hquiet.triggers (congrArg _ hquiet.scheduler)).findActive_run
  have htimers : s₂.scheduler.timers = s.scheduler.timers :=
    congrArg _ (hquiet₂.scheduler.trans hquiet.scheduler)
  have htexts : Keyed.Texts s₂.scheduler.timers := htimers ▸ h.texts
  obtain ⟨s₃, hdrop, hretimed, htexts₃, hmem⟩ :=
    each_dropInactive (found.map (·.id)) htexts.text htexts
  refine ⟨s₃, ?_, (Retimed.ofQuiet (hquiet.trans hquiet₂)).trans hretimed, htexts₃, fun e => ?_⟩
  · rw [reconcile_eq, bind_ok hlog, bind_ok hfind, bind_ofExcept (mapM_asKey h.text), bind_get,
      bind_ok hdrop]
  · rw [hmem, htimers]
    exact and_congr_right fun he => ⟨fun h => h (Keyed.mem_keys he), fun h _ => h⟩

theorem reconcile_run {s : Automation} {found : List Trigger} (h : Finds s found) :
    ∃ r s₁ s', reconcile s = (r, s') ∧ Retimed s s₁ ∧
      (∀ e, e ∈ s₁.scheduler.timers ↔ e ∈ s.scheduler.timers ∧ e.1 ∈ found.map (·.id)) ∧
      Retimed s₁ s' ∧ Passed True found s₁ s' r := by
  obtain ⟨s₁, hrun, hretimed, htexts, hmem⟩ := reconcile_drops h
  obtain ⟨r, s', hadd, hretimed', hpassed⟩ :=
    each_registers addMissing_tries h.text h.distinct htexts
  exact ⟨r, s₁, s', hrun.trans hadd, hretimed, hmem, hretimed', hpassed⟩

/-- A start ends well, with the scheduler running and its pass begun, and just those triggers have
a timer that have a schedule. -/
def StartIsolates (s : Automation) (ts : List Trigger) : Prop :=
  ∃ s', start s = (.ok ⟨⟩, s') ∧ s'.scheduler.running = true ∧ s'.scheduler.pass.isSome ∧
    ∀ t ∈ ts, (t.id ∈ s'.scheduler.timers.keys ↔ t.Scheduled s)

/-- A reconciliation ends well, and just those triggers have a timer that have a schedule or had a
timer before. -/
def ReconcileIsolates (s : Automation) (ts : List Trigger) : Prop :=
  ∃ s', reconcile s = (.ok ⟨⟩, s') ∧ ∀ t ∈ ts, (t.id ∈ s'.scheduler.timers.keys ↔
    t.Scheduled s ∨ t.id ∈ s.scheduler.timers.keys)

theorem Finds.start_isolates_iff {s : Automation} {found : List Trigger} (h : Finds s found)
    (hidle : s.scheduler.running = false) :
    StartIsolates s found ↔ ∀ t ∈ found, ¬ t.Derails s := by
  obtain ⟨r, s', hrun, hrunning, hpassed, hpass⟩ := start_run h hidle
  cases hpassed with
  | all goes registers =>
    refine iff_of_true ⟨s', hrun, hrunning, hpass rfl, fun t ht => ?_⟩ fun t ht hderails =>
      goes t ht (stops_of_renewing.mpr hderails)
    rw [registers.registered t ht, false_and, or_false]
  | @stopped e before after t split stops goes registers =>
    refine iff_of_false ?_ fun h => h t ?_ (stops_of_renewing.mp stops)
    · rintro ⟨s'', hrun', _⟩
      cases hrun.symm.trans hrun'
    · rw [split]
      exact List.mem_append_right _ List.mem_cons_self

/-- Either a reconciliation isolates the faults of schedules, or the schedule of a trigger without a
timer makes it end in an error. -/
theorem Finds.reconcile_ends {s : Automation} {found : List Trigger} (h : Finds s found) :
    (ReconcileIsolates s found ∧ ∀ t ∈ found, t.Derails s → t.id ∈ s.scheduler.timers.keys) ∨
      ((∃ e, (reconcile s).1 = .error e) ∧
        ∃ t ∈ found, t.Derails s ∧ t.id ∉ s.scheduler.timers.keys) := by
  obtain ⟨r, s₁, s', hrun, hretimed, hmem, _, hpassed⟩ := reconcile_run h
  -- The timers of inactive triggers are dropped before, those of the active ones are all left.
  have hkeys : ∀ t ∈ found, (t.id ∈ s₁.scheduler.timers.keys ↔ t.id ∈ s.scheduler.timers.keys) := by
    intro t ht
    rw [Keyed.mem_keys_iff, Keyed.mem_keys_iff]
    refine exists_congr fun timer => ?_
    rw [hmem]
    exact and_iff_left (List.mem_map_of_mem ht)
  have hstops : ∀ t ∈ found, (Stops True t s₁ ↔ t.Derails s ∧ t.id ∉ s.scheduler.timers.keys) := by
    intro t ht
    rw [Stops, Trigger.derails_congr hretimed.config hretimed.clock, true_imp_iff, hkeys t ht]
  cases hpassed with
  | all goes registers =>
    refine .inl ⟨⟨s', hrun, fun t ht => ?_⟩, fun t ht hderails => ?_⟩
    · rw [registers.registered t ht, true_and, hkeys t ht,
        Trigger.scheduled_congr hretimed.config hretimed.clock]
    · by_contra hkey
      exact goes t ht ((hstops t ht).mpr ⟨hderails, hkey⟩)
  | @stopped e before after t split stops goes registers =>
    have ht : t ∈ found := by
      rw [split]
      exact List.mem_append_right _ List.mem_cons_self
    exact .inr ⟨⟨e, congrArg Prod.fst hrun⟩, t, ht, (hstops t ht).mp stops⟩

theorem Finds.reconcile_isolates_iff {s : Automation} {found : List Trigger} (h : Finds s found) :
    ReconcileIsolates s found ↔
      ∀ t ∈ found, t.Derails s → t.id ∈ s.scheduler.timers.keys := by
  obtain ⟨hisolates, hgoes⟩ | ⟨⟨e, herror⟩, t, ht, hderails, hkey⟩ := h.reconcile_ends
  · exact iff_of_true hisolates hgoes
  · refine iff_of_false ?_ fun hgoes => hkey (hgoes t ht hderails)
    rintro ⟨s', hrun, _⟩
    rw [hrun] at herror
    cases herror

end Scheduler

theorem Operation.perform_broken (op : Operation) (s : Automation) :
    (op.perform s).2.broken = s.broken := by
  cases op with
  | create data userId =>
    rw [Operation.perform, discard_run]
    exact (Registry.create_changed data userId s).broken
  | update id changes =>
    rw [Operation.perform, discard_run]
    exact (Registry.update_changed id changes s).broken
  | toggle id =>
    rw [Operation.perform, discard_run]
    exact (Registry.toggle_changed id s).broken
  | delete id => exact (Registry.delete_changed id s).broken
  | listen listener => rfl
  | cancelRun id =>
    rw [Operation.perform, bind_get]
    cases s.orchestrator.cancel id <;> rfl
  | _ =>
    refine (Operation.perform_grows ?_ s).broken
    trivial

namespace Automation

/-- The states of a program that began without triggers, whose scheduler was told about every
change and whose stores are not broken. -/
def Reached (s : Automation) : Prop :=
  ∃ s₀ ops, Attended s₀ ∧ s₀.broken = [] ∧ (∀ op ∈ ops, op.KeepsListener) ∧ s = s₀.after ops

theorem Reached.sound {s : Automation} (h : Reached s) : Sound s := by
  obtain ⟨s₀, ops, hattended, _, hops, rfl⟩ := h
  exact after_induction hattended.sound fun op hop s h => Operation.perform_sound (hops op hop) s h

theorem Reached.unbroken {s : Automation} (h : Reached s) : s.broken = [] := by
  obtain ⟨s₀, ops, _, hbroken, _, rfl⟩ := h
  exact after_induction (P := (·.broken = [])) hbroken fun op _ s h => (op.perform_broken s).trans h

theorem Reached.finds {s : Automation} (h : Reached s) {found : List Trigger}
    (hfound : s.triggers.find TriggerStore.activeCron = .ok found) : Scheduler.Finds s found where
  unbroken := h.unbroken
  find := hfound
  text _ ht := (h.sound.store.ofFind hfound ht).1
  distinct := h.sound.store.filed.distinct_of_find hfound
  texts := h.sound.texts

/-- A start isolates the faults of schedules from each other just if no active cron trigger derails.
A reconciliation does so just if those that derail have timers. In memory the active cron triggers
are always found. -/
theorem schedules_isolated_iff {s : Automation} (h : Reached s) :
    (∀ ts, s.triggers = .memory ts → ∃ found, s.triggers.find TriggerStore.activeCron = .ok found ∧
      found.Perm (ts.items.filter (·.isAmong TriggerStore.activeCron))) ∧
    ∀ found, s.triggers.find TriggerStore.activeCron = .ok found →
      (s.scheduler.running = false →
        (Scheduler.StartIsolates s found ↔ ∀ t ∈ found, ¬ t.Derails s)) ∧
      (Scheduler.ReconcileIsolates s found ↔
        ∀ t ∈ found, t.Derails s → t.id ∈ s.scheduler.timers.keys) := by
  refine ⟨fun ts hts => ?_, fun found hfound => ?_⟩
  · have htable : Trigger.Table s.supply ts := by
      have hstore := h.sound.store
      rwa [hts] at hstore
    obtain ⟨found, hfind, hperm, _⟩ := htable.find_run TriggerStore.activeCron
    exact ⟨found, hts ▸ hfind, hperm⟩
  · have hfinds := h.finds hfound
    exact ⟨hfinds.start_isolates_iff, hfinds.reconcile_isolates_iff⟩

/-- A trigger fires every day at nine, a newer one has a number for its expression, and the
scheduler was stopped. -/
def numberExpression : List Operation :=
  let fields (expression : Value) : Entries := [("workspace_id", .text "w1"),
    ("process_definition_id", .text "d1"), ("trigger_type", .text "cron"),
    ("conditions", .object [("expression", expression)])]
  [.deploy ⟨.text "d1", .text "w1", .null, .text "k1"⟩, .create (fields (.text "0 9 * * *")) .null,
    .setClock (Stamp.ofInstant (Stamp.epoch + Stamp.second)), .create (fields (.int 5)) .null,
    .stopScheduler]

theorem schedules_isolated_iff_numberExpression :
    Reached (attended.after numberExpression) ∧
      ∃ found, (attended.after numberExpression).triggers.find TriggerStore.activeCron = .ok found ∧
        (∃ t ∈ found, t.Scheduled (attended.after numberExpression)) ∧
        ¬ Scheduler.StartIsolates (attended.after numberExpression) found ∧
        ¬ Scheduler.ReconcileIsolates (attended.after numberExpression) found ∧
        (Scheduler.start (attended.after numberExpression)).2.scheduler.timers = [] := by
  have hreached : Reached (attended.after numberExpression) := by
    refine ⟨attended, numberExpression, ⟨.inl rfl, rfl, rfl, rfl⟩, rfl, ?_, rfl⟩
    simp [numberExpression, Operation.KeepsListener]
  have hidle : (attended.after numberExpression).scheduler.running = false := by decide +kernel
  have htimers : (attended.after numberExpression).scheduler.timers.length = 0 := by decide +kernel
  have hstarted :
      (Scheduler.start (attended.after numberExpression)).2.scheduler.timers.length = 0 := by
    decide +kernel
  have hfound : ((attended.after numberExpression).triggers.find
      TriggerStore.activeCron).toOption.any (fun found =>
        (∃ t ∈ found, t.Scheduled (attended.after numberExpression)) ∧
          ∃ t ∈ found, t.Derails (attended.after numberExpression)) = true := by decide +kernel
  have hisolated := (schedules_isolated_iff hreached).2
  refine ⟨hreached, ?_⟩
  generalize attended.after numberExpression = s at *
  cases hfind : s.triggers.find TriggerStore.activeCron with
  | error e =>
    rw [hfind] at hfound
    cases hfound
  | ok found =>
    rw [hfind] at hfound
    obtain ⟨hscheduled, t, ht, hderails⟩ := of_decide_eq_true hfound
    obtain ⟨hstart, hreconcile⟩ := hisolated found hfind
    refine ⟨found, rfl, hscheduled, ?_, ?_, List.eq_nil_of_length_eq_zero hstarted⟩
    · exact fun hisolates => (hstart hidle).mp hisolates t ht hderails
    · intro hisolates
      have hkey := hreconcile.mp hisolates t ht hderails
      rw [List.eq_nil_of_length_eq_zero htimers] at hkey
      exact List.not_mem_nil hkey

end Automation
end ProcessTriggers
