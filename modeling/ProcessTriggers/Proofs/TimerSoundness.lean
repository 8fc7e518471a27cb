import ProcessTriggers.Proofs.Backing

/-!
The soundness of the timers. Each of them is kept under the identifier of a stored, active cron
trigger and has the trigger's schedule, and the gauge counts them, after any operations.
-/

namespace ProcessTriggers

open Action Automation

theorem TriggerStore.Backs.withNextRun {store : TriggerStore} {timer : Timer} {defaultZone : Value}
    (h : store.Backs timer defaultZone) (nextRun : Instant) :
    store.Backs { timer with nextRun } defaultZone := by
  cases store with
  | memory ts =>
    obtain ⟨t, hget, hserves⟩ := h
    exact ⟨t, hget, hserves.id, hserves.cron, hserves.active, hserves.schedule⟩
  | relation rows =>
    obtain ⟨row, hrow, hserves⟩ := h
    exact ⟨row, hrow, hserves.id, hserves.cron, hserves.active, hserves.schedule⟩

namespace Scheduler.Followed

variable {t : Trigger} {deleted : Bool} {key : Value} {s s' : Automation}

/-- After a change of a trigger, the timers are those of other triggers and at most one of its
own. -/
theorem mem (h : Followed t deleted key s s') (htexts : Keyed.Texts s.scheduler.timers)
    {e : Value × Timer} (he : e ∈ s'.scheduler.timers) :
    (e ∈ s.scheduler.timers ∧ (t.isCron = true → e.1 ≠ key)) ∨
      e.1 = key ∧ deleted = false ∧ e.2.Serves t s.config.defaultTimezone := by
  cases h with
  | other type timers =>
    rw [timers] at he
    exact .inl ⟨he, fun hcron => absurd (type.symm.trans hcron) Bool.false_ne_true⟩
  | dropped timers =>
    rw [timers] at he
    obtain ⟨he, hne⟩ := htexts.mem_erase.mp he
    exact .inl ⟨he, fun _ => hne⟩
  | renewed kept serves timers =>
    rw [timers] at he
    rcases (htexts.erase key).mem_put.mp he with rfl | ⟨he, hne⟩
    · exact .inr ⟨rfl, kept, serves⟩
    · exact .inl ⟨(htexts.mem_erase.mp he).1, fun _ => hne⟩

theorem texts (h : Followed t deleted key s s') (htexts : Keyed.Texts s.scheduler.timers)
    {id : String} (hkey : key = .text id) : Keyed.Texts s'.scheduler.timers := by
  cases h with
  | other _ timers =>
    rw [timers]
    exact htexts
  | dropped timers =>
    rw [timers]
    exact htexts.erase key
  | renewed _ _ timers =>
    rw [timers, hkey]
    exact (htexts.erase _).put id

end Scheduler.Followed

namespace Automation

/-- The timers are sound, and the scheduler is told about changes. -/
structure Sound (s : Automation) : Prop where
  listener : s.listener = .scheduler
  store : s.triggers.Orderly s.supply
  texts : Keyed.Texts s.scheduler.timers
  own : ∀ e ∈ s.scheduler.timers, e.2.triggerId = e.1
  backed : ∀ e ∈ s.scheduler.timers, s.triggers.Backs e.2 s.config.defaultTimezone
  gauge : s.metrics.timers = s.scheduler.timers.length

namespace Sound

variable {s s' : Automation}

theorem ofQuiet (hquiet : Quiet s s') (h : Sound s) : Sound s' where
  listener := hquiet.listener.trans h.listener
  store := by rw [hquiet.triggers, hquiet.supply]; exact h.store
  texts := by rw [hquiet.scheduler]; exact h.texts
  own := by rw [hquiet.scheduler]; exact h.own
  backed := by rw [hquiet.scheduler, hquiet.triggers, hquiet.config]; exact h.backed
  gauge := by rw [hquiet.gauge, hquiet.scheduler, h.gauge]

theorem ofFired {row : Execution → Prop} {run : StartedRun → Prop} (h : Sound s)
    (hfired : Fired row run s s') : Sound s' where
  listener := hfired.listener.trans h.listener
  store := (h.store.ofRules hfired.rules).mono hfired.supply
  texts := by rw [hfired.scheduler]; exact h.texts
  own := by rw [hfired.scheduler]; exact h.own
  backed := by
    rw [hfired.scheduler, hfired.config]
    exact fun e he => (h.backed e he).ofRules h.store hfired.rules
  gauge := by rw [hfired.gauge, hfired.scheduler, h.gauge]

/-- Whether the store changed or not, the timers are sound after the scheduler was told about a
trigger, if those of other triggers are still backed and the trigger's own is backed now. -/
theorem ofTold (h : Sound s) {supply : Supply} {store : TriggerStore} {s₁ : Automation}
    {t : Trigger} {deleted : Bool} {id : String} (hid : t.id = .text id)
    (hstored : Quiet { s with supply, triggers := store } s₁)
    (htold : Registry.notify t deleted s₁ = (.ok ⟨⟩, s')) (hstore : store.Orderly supply)
    (hkept : ∀ timer : Timer, s.triggers.Backs timer s.config.defaultTimezone →
      (t.isCron = true → timer.triggerId ≠ t.id) → store.Backs timer s.config.defaultTimezone)
    (hnew : ∀ timer : Timer, deleted = false → timer.Serves t s.config.defaultTimezone →
      store.Backs timer s.config.defaultTimezone) : Sound s' := by
  obtain ⟨hretimed, hfollowed⟩ := Registry.retimed_of_told htold
  have hlistener : s₁.listener = .scheduler := hstored.listener.trans h.listener
  have htimers : s₁.scheduler.timers = s.scheduler.timers := congrArg _ hstored.scheduler
  have hconfig : s₁.config = s.config := hstored.config
  have hfollowed := hfollowed hlistener t.id (hid ▸ Value.asKey_text id)
  have htexts : Keyed.Texts s₁.scheduler.timers := htimers ▸ h.texts
  have hmem := fun e => hfollowed.mem (e := e) htexts
  rw [htimers, hconfig] at hmem
  exact {
    listener := hretimed.listener.trans hlistener
    store := by
      rw [hretimed.triggers, hretimed.supply, hstored.triggers, hstored.supply]
      exact hstore
    texts := hfollowed.texts htexts hid
    own := fun e he => by
      obtain ⟨he, _⟩ | ⟨hkey, _, hserves⟩ := hmem e he
      · exact h.own e he
      · exact hserves.id.trans hkey.symm
    backed := fun e he => by
      rw [hretimed.triggers, hretimed.config, hstored.triggers, hconfig]
      obtain ⟨he, hne⟩ | ⟨_, hdeleted, hserves⟩ := hmem e he
      · exact hkept e.2 (h.backed e he) fun hcron => h.own e he ▸ hne hcron
      · exact hnew e.2 hdeleted hserves
    gauge := hretimed.gauge (by rw [hstored.gauge, htimers]; exact h.gauge) }

/-- After the scheduler was told that a trigger is removed, no timer is that of the trigger. -/
theorem ofRemoval (h : Sound s) {s₁ : Automation} {id : Value} {t : Trigger}
    (hfound : s.triggers.get id = .ok (some t)) (hquiet : Quiet s s₁)
    (htold : Registry.notify t true s₁ = (.ok ⟨⟩, s')) : Sound s' ∧
      s'.triggers.get id = .ok (some t) ∧ ∀ e ∈ s'.scheduler.timers, e.2.triggerId ≠ t.id := by
  obtain ⟨text, hid⟩ := h.store.text_of_get hfound
  have hsound : Sound s' := h.ofTold hid hquiet htold h.store (fun _ hb _ => hb)
    fun _ hdeleted => nomatch hdeleted
  obtain ⟨hretimed, hfollowed⟩ := Registry.retimed_of_told htold
  have hlistener : s₁.listener = .scheduler := hquiet.listener.trans h.listener
  have hfollowed := hfollowed hlistener t.id (hid ▸ Value.asKey_text text)
  have hget : s'.triggers.get id = .ok (some t) := by
    rw [hretimed.triggers, hquiet.triggers, hfound]
  refine ⟨hsound, hget, fun e he heq => ?_⟩
  have hcron := hsound.store.cron_of_get hget (hsound.backed e he) heq
  have htexts : Keyed.Texts s₁.scheduler.timers := hquiet.scheduler ▸ h.texts
  obtain ⟨_, hne⟩ | ⟨_, hdeleted, _⟩ := hfollowed.mem htexts he
  · exact hne hcron ((hsound.own e he).symm.trans heq)
  · cases hdeleted

/-- A call of the registry keeps the timers sound, however it ends. -/
theorem ofChanged (h : Sound s) (hchanged : Registry.Changed s s') : Sound s' := by
  cases hchanged with
  | nothing fired => exact h.ofFired fired
  | @created t store s₁ s' id createdAt inserted stored told =>
    exact h.ofTold id stored told (h.store.insert id ⟨_, createdAt, rfl⟩ inserted)
      (fun timer hb _ => hb.insert h.store id inserted)
      fun timer _ hserves => h.store.backs_inserted id inserted hserves
  | @amended id t t' store s₁ s' found amends saved stored told =>
    obtain ⟨text, htext⟩ := h.store.text_of_get found
    have hid : t'.id = .text text := amends.id.trans htext
    refine h.ofTold hid stored told (h.store.save found amends saved) (fun timer hb hne => ?_)
      fun timer _ hserves => h.store.backs_saved hid saved hserves
    refine hb.save h.store hid saved fun heq => ?_
    -- A timer of the trigger itself means that it is a cron trigger, and was told about as one.
    have hcron := h.store.cron_of_get found hb (heq.trans amends.id)
    refine hne ?_ heq
    rw [Trigger.isCron, amends.type]
    exact hcron
  | @removed id t b store s₁ s₂ s' found quiet told deleted stored =>
    obtain ⟨h₂, hget, hne⟩ := h.ofRemoval found quiet told
    refine ofQuiet stored { h₂ with
      store := h₂.store.delete deleted
      backed := fun e he => (h₂.backed e he).delete h₂.store hget deleted (hne e he) }
  | kept found quiet told stored => exact ofQuiet stored (h.ofRemoval found quiet told).1

/-- A timer that is dropped is not missed. -/
theorem ofErased (h : Sound s) (hretimed : Retimed s s') {key : Value}
    (htimers : s'.scheduler.timers = s.scheduler.timers.erase key) : Sound s' where
  listener := hretimed.listener.trans h.listener
  store := by rw [hretimed.triggers, hretimed.supply]; exact h.store
  texts := htimers ▸ h.texts.erase key
  own e he := h.own e (List.mem_of_mem_filter (htimers ▸ he))
  backed e he := by
    rw [hretimed.triggers, hretimed.config]
    exact h.backed e (List.mem_of_mem_filter (htimers ▸ he))
  gauge := hretimed.gauge h.gauge

end Sound
end Automation

/-- The frame of what keeps the timers sound. -/
def soundFrame : Frame := .ofInvariant Sound Sound.ofQuiet

theorem soundFrame_patient : soundFrame.Patient where
  tasks _ _ hz h := { h with
    texts := hz ▸ h.texts, own := hz ▸ h.own, backed := hz ▸ h.backed, gauge := hz ▸ h.gauge }
  clock _ _ h := { h with }

theorem Action.keeps_sound_of_fired {α : Type} {row : Execution → Prop} {run : StartedRun → Prop}
    {a : Action α} (h : Keeps (firedFrame row run) a) : Keeps soundFrame a :=
  fun s hs => hs.ofFired (h s)

/-- The frame of what keeps the timers sound and leaves the stored triggers as they are. -/
def steadyFrame (store : TriggerStore) (config : Config) : Frame :=
  .ofInvariant (fun s => Sound s ∧ s.triggers = store ∧ s.config = config)
    fun hquiet h => ⟨.ofQuiet hquiet h.1, hquiet.triggers.trans h.2.1, hquiet.config.trans h.2.2⟩

namespace Scheduler

theorem unregister_sound (id : Value) (s : Automation) (h : Sound s) :
    Sound (unregister id s).2 ∧ (unregister id s).2.triggers = s.triggers ∧
      (unregister id s).2.config = s.config := by
  cases hkey : id.asKey with
  | error e =>
    rw [unregister, bind_ofExcept_error hkey]
    exact ⟨h, rfl, rfl⟩
  | ok key =>
    obtain ⟨s', hrun, hretimed, htimers⟩ := unregister_run hkey s
    rw [hrun]
    exact ⟨h.ofErased hretimed htimers, hretimed.triggers, hretimed.config⟩

theorem unregister_keeps (id : Value) : Keeps soundFrame (unregister id) :=
  fun s h => (unregister_sound id s h).1

theorem unregister_steady {store : TriggerStore} {config : Config} (id : Value) :
    Keeps (steadyFrame store config) (unregister id) := by
  rintro s ⟨h, hstore, hconfig⟩
  obtain ⟨hsound, htriggers, hconfig'⟩ := unregister_sound id s h
  exact ⟨hsound, htriggers.trans hstore, hconfig'.trans hconfig⟩

/-- A trigger that the store found can be registered. -/
theorem register_steady {store : TriggerStore} {config : Config} {supply : Supply}
    (ho : store.Orderly supply) {found : List Trigger}
    (hfound : store.find TriggerStore.activeCron = .ok found) {t : Trigger} (ht : t ∈ found) :
    Keeps (steadyFrame store config) (register t) := by
  rintro s ⟨h, rfl, rfl⟩
  obtain ⟨⟨id, hid⟩, hcron, hactive, hbacks⟩ := ho.ofFind hfound ht
  have hkey : t.id.asKey = .ok t.id := hid ▸ Value.asKey_text id
  obtain ⟨r, s', hrun, hretimed, hfollowed⟩ := register_run hkey hcron hactive s
  rw [hrun]
  refine ⟨?_, hretimed.triggers, hretimed.config⟩
  exact {
    listener := hretimed.listener.trans h.listener
    store := by rw [hretimed.triggers, hretimed.supply]; exact h.store
    texts := hfollowed.texts h.texts hid
    own := fun e he => by
      obtain ⟨he, _⟩ | ⟨hkey, _, hserves⟩ := hfollowed.mem h.texts he
      · exact h.own e he
      · exact hserves.id.trans hkey.symm
    backed := fun e he => by
      rw [hretimed.triggers, hretimed.config]
      obtain ⟨he, _⟩ | ⟨_, _, hserves⟩ := hfollowed.mem h.texts he
      · exact h.backed e he
      · exact hbacks hserves
    gauge := hretimed.gauge h.gauge }

/-- The scheduler looks for its triggers, and while it registers them they are stored. -/
theorem findActive_steady {s : Automation} (h : Sound s) :
    (∃ e s', Registry.findActive .cron .null s = (.error e, s') ∧ Sound s') ∨
      ∃ found s', Registry.findActive .cron .null s = (.ok found, s') ∧
        (Sound s' ∧ s'.triggers = s.triggers ∧ s'.config = s.config) ∧
        ∀ t ∈ found, Keeps (steadyFrame s.triggers s.config) (register t) := by
  obtain ⟨e, s', hrun, hquiet⟩ | ⟨found, s', hrun, hfound, hquiet⟩ :=
    findTriggers_cases TriggerStore.activeCron s
  · exact .inl ⟨e, s', hrun, .ofQuiet hquiet h⟩
  · exact .inr ⟨found, s', hrun, ⟨.ofQuiet hquiet h, hquiet.triggers, hquiet.config⟩,
      fun t ht => register_steady h.store hfound ht⟩

theorem reconcile_sound : Keeps soundFrame reconcile := by
  refine keeps_bind (log_keeps _ _ _) fun _ s h => ?_
  obtain ⟨e, s', hrun, hsound⟩ | ⟨found, s', hrun, hsteady, hregister⟩ := findActive_steady h
  · rw [bind_error hrun]
    exact hsound
  · rw [bind_ok hrun]
    -- While the found triggers are registered, they remain those that are stored.
    refine (?_ : Keeps (steadyFrame s.triggers s.config) _) s' hsteady |>.1
    refine keeps_bind (keeps_ofExcept _) fun ids => keeps_bind keeps_get fun s => ?_
    refine keeps_bind (keeps_forIn fun id _ _ => ?_) fun _ =>
      keeps_bind (keeps_forIn fun t ht _ => ?_) fun _ => keeps_pure _
    · refine keeps_ite (keeps_bind (log_keeps _ _ _) fun _ => ?_) (keeps_pure _)
      exact keeps_bind (unregister_steady id) fun _ => keeps_pure _
    · refine keeps_bind (isRegistered_keeps _) fun registered => ?_
      refine keeps_ite (keeps_bind (log_keeps _ _ _) fun _ => ?_) (keeps_pure _)
      exact keeps_bind (hregister t ht) fun _ => keeps_pure _

theorem loadTriggers_sound : Keeps soundFrame loadTriggers := by
  intro s h
  rw [loadTriggers, bind_ok (attempt_run _ s)]
  obtain ⟨e, s', hrun, hsound⟩ | ⟨found, s', hrun, hsteady, hregister⟩ := findActive_steady h
  · rw [hrun]
    exact log_keeps (F := soundFrame) _ _ _ s' hsound
  · rw [hrun]
    refine (?_ : Keeps (steadyFrame s.triggers s.config) _) s' hsteady |>.1
    refine keeps_bind (log_keeps _ _ _) fun _ => keeps_bind (keeps_forIn fun t ht _ => ?_) fun _ =>
      keeps_pure _
    exact keeps_bind (hregister t ht) fun _ => keeps_pure _

theorem start_sound : Keeps soundFrame start :=
  start_frame (change_keeps soundFrame_patient fun _ => rfl) loadTriggers_sound
    (change_keeps soundFrame_patient fun _ => rfl)

/-- A stopped scheduler has no timers at all. -/
theorem stop_sound : Keeps soundFrame stop := by
  intro s h
  rw [stop, change, bind_ok (modify_run _ s), countTimers, bind_ok (modify_run _ _)]
  refine log_keeps (F := soundFrame) _ _ _ _ { h with
    texts := .nil
    own := fun _ he => absurd he List.not_mem_nil
    backed := fun _ he => absurd he List.not_mem_nil
    gauge := rfl }

theorem tick_sound (id expression : Value) : Keeps soundFrame (tick id expression) :=
  tick_keeps (unregister_keeps id) (keeps_sound_of_fired (Engine.fireScheduled_keeps _ _))

/-! The steps of a timer that is registered. -/

variable {s s' : Automation} {t : Timer}

theorem timerOf_eq_some (h : Sound s) {task : Nat} (ht : timerOf s.scheduler task = some t) :
    (t.triggerId, t) ∈ s.scheduler.timers := by
  obtain ⟨key, hmem⟩ := Keyed.mem_items.mp (List.mem_of_find?_eq_some ht)
  exact h.own _ hmem ▸ hmem

theorem advanceTimer_sound (h : Sound s) (ht : (t.triggerId, t) ∈ s.scheduler.timers) :
    Sound (advanceTimer t s).2 := by
  rw [advanceTimer, bind_get]
  cases Cron.nextFire t.expression t.zone (searchStart t s.clock.instant) with
  | error e =>
    have hrest : Keeps soundFrame (do
        log .cron Log.error
          ("Dropping cron job for trigger " ++ t.triggerId.shown ++ ": " ++ e.message)
        unregister t.triggerId) := keeps_bind (log_keeps _ _ _) fun _ => unregister_keeps _
    exact (keeps_ite (keeps_bind (keeps_throw e) fun _ => hrest) hrest : Keeps soundFrame _) s h
  | ok nextRun =>
    obtain ⟨id, hid⟩ := h.texts.text t.triggerId (Keyed.mem_keys ht)
    have hmem := fun e : Value × Timer =>
      h.texts.mem_put (k := t.triggerId) (x := { t with nextRun }) (e := e)
    -- The timer is put in its own place, so there are as many as before.
    have hlength : (s.scheduler.timers.put t.triggerId { t with nextRun }).length =
        s.scheduler.timers.length := by
      have hkeys := h.texts.keys_put_of_mem (x := { t with nextRun }) (Keyed.mem_keys ht)
      simpa only [Keyed.keys, List.length_map] using congrArg List.length hkeys
    dsimp only
    rw [change, bind_ok (modify_run _ s)]
    refine await_keeps soundFrame_patient.waits _ _ { h with
      texts := hid ▸ h.texts.put id
      own := fun e he => ?_
      backed := fun e he => ?_
      gauge := h.gauge.trans (by rw [hlength]) }
    · rcases (hmem e).mp he with rfl | ⟨he, _⟩
      · rfl
      · exact h.own e he
    · rcases (hmem e).mp he with rfl | ⟨he, _⟩
      · exact (h.backed _ ht).withNextRun nextRun
      · exact h.backed e he

theorem concludeTick_sound (h : Sound s) (ht : (t.triggerId, t) ∈ s.scheduler.timers) (a : Attempt)
    (outcome : Except Error StartedRun) : Sound (concludeTick t a outcome s).2 := by
  have hfired : Fired (fun _ => True) (fun _ => True) s (Engine.conclude a outcome s).2 :=
    Engine.conclude_fires trivial s
  have h₁ := h.ofFired hfired
  rw [concludeTick, bind_ok (attempt_run _ s)]
  rw [← hfired.scheduler] at ht
  cases (Engine.conclude a outcome s).1 with
  | ok e => exact advanceTimer_sound h₁ ht
  | error e =>
    obtain ⟨s₂, hlogged, hquiet⟩ := log_quiet .cron Log.error
      ("Cron tick failed for trigger " ++ t.triggerId.shown ++ ": " ++ e.message)
      (Engine.conclude a outcome s).2
    dsimp only
    rw [tickFailed, bind_ok hlogged]
    exact advanceTimer_sound (.ofQuiet hquiet h₁) (hquiet.scheduler ▸ ht)

theorem wakeTimer_sound (h : Sound s) (ht : (t.triggerId, t) ∈ s.scheduler.timers) :
    Sound (wakeTimer t s).2 := by
  have hfired : Fired (fun _ => True) (fun _ => True) s
      (Engine.beginScheduled t.triggerId t.expression s).2 := Engine.beginScheduled_fires _ _ s
  have h₁ := h.ofFired hfired
  rw [wakeTimer, bind_ok (attempt_run _ s)]
  rw [← hfired.scheduler] at ht
  generalize Engine.beginScheduled t.triggerId t.expression s = r at h₁ ht
  obtain ⟨e | a, s₁⟩ := r
  · obtain ⟨s₂, hlogged, hquiet⟩ := log_quiet .cron Log.error
      ("Cron tick failed for trigger " ++ t.triggerId.shown ++ ": " ++ e.message) s₁
    dsimp only
    rw [tickFailed, bind_ok hlogged]
    exact advanceTimer_sound (.ofQuiet hquiet h₁) (hquiet.scheduler ▸ ht)
  · cases a with
    | none => exact unregister_keeps _ s₁ h₁
    | some a =>
      have hensure : Keeps anyFired (Engine.ensureDeployed a.trigger) :=
        Engine.ensureDeployed_keeps _
      have hfired' := hensure s₁
      have h₂ := h₁.ofFired hfired'
      dsimp only at ht ⊢
      rw [bind_ok (attempt_run _ s₁)]
      rw [← hfired'.scheduler] at ht
      cases (Engine.ensureDeployed a.trigger s₁).1 with
      | ok _ =>
        have hdue : Keeps soundFrame (makeDue t.task (.starting a)) :=
          change_keeps soundFrame_patient fun _ => rfl
        exact hdue _ h₂
      | error e => exact concludeTick_sound h₂ ht a (.error e)

theorem timerStep_sound (h : Sound s) (ht : (t.triggerId, t) ∈ s.scheduler.timers) (stage : Stage) :
    Sound (timerStep t stage s).2 := by
  have hdue : ∀ task stage, Keeps soundFrame (makeDue task stage) := fun _ _ =>
    change_keeps soundFrame_patient fun _ => rfl
  cases stage with
  | waiting => exact await_keeps soundFrame_patient.waits t s h
  | woken => exact wakeTimer_sound h ht
  | starting a =>
    have hstart : Keeps anyFired (Engine.start a) := Engine.start_fires fun _ _ _ => trivial
    have hstep : Keeps soundFrame (timerStep t (.starting a)) := by
      refine keeps_bind Audit.settle_keeps fun _ => ?_
      refine keeps_bind (keeps_sound_of_fired hstart) fun r => ?_
      cases r with
      | some outcome => exact hdue _ _
      | none => exact hdue _ _
    exact hstep s h
  | stalled a =>
    have hgive : Keeps anyFired (Engine.giveUp a) := Engine.giveUp_keeps a
    have hstep : Keeps soundFrame (timerStep t (.stalled a)) :=
      keeps_bind (keeps_sound_of_fired hgive) fun _ => hdue _ _
    exact hstep s h
  | concluding a outcome => exact concludeTick_sound h ht a outcome

theorem passStep_sound (task : Nat) (stage : Stage) : Keeps soundFrame (passStep task stage) := by
  have hsleep : Keeps soundFrame (do sleep task (← get).config.reconcileInterval) :=
    keeps_bind keeps_get fun _ => sleep_keeps soundFrame_patient.waits _ _
  cases stage with
  | woken =>
    refine keeps_bind (keeps_attempt reconcile_sound) fun r => ?_
    cases r with
    | ok _ => exact hsleep
    | error e => exact keeps_bind (log_keeps _ _ _) fun _ => hsleep
  | _ => exact hsleep

/-- Whatever a task does in a step, the timers stay sound. -/
theorem step_sound (d : Due) : Keeps soundFrame (step d) := by
  intro s h
  have hcurrent : Sound { s with scheduler.current := some d.task } :=
    soundFrame_patient.tasks s rfl h
  have hdone : Keeps soundFrame (change ({ · with current := none })) :=
    change_keeps soundFrame_patient fun _ => rfl
  rw [step, bind_get, change, bind_ok (modify_run _ s), bind_ok (attempt_run _ _)]
  refine hdone _ ?_
  by_cases hpass : s.scheduler.pass = some d.task
  · rw [if_pos hpass]
    exact passStep_sound _ _ _ hcurrent
  · rw [if_neg hpass]
    cases ht : timerOf s.scheduler d.task with
    | none => exact hcurrent
    | some t => exact timerStep_sound hcurrent (timerOf_eq_some hcurrent ht) d.stage

theorem soundFrame_turns : soundFrame.Turns := turns_of_step soundFrame_patient step_sound

end Scheduler

namespace Operation

/-- Whether an operation leaves the listener as it is. -/
def KeepsListener : Operation → Prop
  | listen _ => False
  | _ => True

theorem perform_sound {op : Operation} (hop : op.KeepsListener) : Keeps soundFrame op.perform := by
  cases op with
  | listen listener => exact hop.elim
  | create data userId =>
    intro s h
    rw [Operation.perform, discard_run]
    exact h.ofChanged (Registry.create_changed data userId s)
  | update id changes =>
    intro s h
    rw [Operation.perform, discard_run]
    exact h.ofChanged (Registry.update_changed id changes s)
  | toggle id =>
    intro s h
    rw [Operation.perform, discard_run]
    exact h.ofChanged (Registry.toggle_changed id s)
  | delete id => exact fun s h => h.ofChanged (Registry.delete_changed id s)
  | recordFire | startProcess | evaluate | fire | fireScheduled | handleWebhook | drawId
  | elsewhere => exact keeps_sound_of_fired (perform_fires trivial)
  | deploy d =>
    refine keeps_bind keeps_get fun s => keeps_bind (keeps_ofExcept _) fun o => ?_
    exact keeps_modify fun s h => { h with }
  | failNextStart e => exact keeps_modify fun s h => { h with }
  | cancelRun id =>
    refine keeps_bind keeps_get fun s => keeps_bind (keeps_ofExcept _) fun o => ?_
    exact keeps_modify fun s h => { h with }
  | startScheduler => exact Scheduler.start_sound
  | stopScheduler => exact Scheduler.stop_sound
  | reconcile => exact Scheduler.reconcile_sound
  | tick id expression => exact keeps_bind (Scheduler.tick_sound _ _) fun _ => keeps_pure _
  | unregister id => exact Scheduler.unregister_keeps id
  | wake task => exact Scheduler.wake_keeps soundFrame_patient.waits task
  | takeTurn => exact Scheduler.takeTurn_keeps Scheduler.soundFrame_turns
  | runUntilIdle => exact Scheduler.rounds_keeps Scheduler.soundFrame_turns _
  | release => exact Scheduler.release_keeps soundFrame_patient.waits Scheduler.soundFrame_turns
  | advance length lag =>
    exact Scheduler.advance_keeps soundFrame_patient.waits Scheduler.soundFrame_turns length lag
  | setClock t => exact keeps_modify fun s => soundFrame_patient.clock s t

end Operation

namespace Automation

/-- A program that begins with no triggers, in memory or in a relation, and whose scheduler is told
about every change. -/
structure Attended (s : Automation) : Prop where
  store : s.triggers = .memory [] ∨ s.triggers = .relation []
  listener : s.listener = .scheduler
  scheduler : s.scheduler = {}
  gauge : s.metrics.timers = 0

theorem Attended.sound {s : Automation} (h : Attended s) : Sound s where
  listener := h.listener
  store := by
    obtain hstore | hstore := h.store
    · rw [hstore]
      exact .nil _
    · rw [hstore]
      exact ⟨fun _ h => absurd h List.not_mem_nil, List.nodup_nil⟩
  texts := by
    rw [h.scheduler]
    exact .nil
  own := by
    rw [h.scheduler]
    exact fun _ h => absurd h List.not_mem_nil
  backed := by
    rw [h.scheduler]
    exact fun _ h => absurd h List.not_mem_nil
  gauge := by
    rw [h.scheduler, h.gauge]
    rfl

/-- After any operations, each timer is kept under the identifier of its trigger, and its trigger
is stored as an active cron trigger with the very schedule of the timer; and the gauge tells how
many timers there are. -/
theorem timers_sound {s : Automation} (h : Attended s) {ops : List Operation}
    (hops : ∀ op ∈ ops, op.KeepsListener) :
    (∀ e ∈ (s.after ops).scheduler.timers, e.2.triggerId = e.1 ∧
      (s.after ops).triggers.Backs e.2 (s.after ops).config.defaultTimezone) ∧
      (s.after ops).metrics.timers = (s.after ops).scheduler.timers.length := by
  have hsound : Sound (s.after ops) :=
    after_induction h.sound fun op hop s h => Operation.perform_sound (hops op hop) s h
  exact ⟨fun e he => ⟨hsound.own e he, hsound.backed e he⟩, hsound.gauge⟩

/-- A program that has just begun, with its scheduler listening. -/
def attended : Automation where
  clock := Stamp.ofInstant Stamp.epoch
  listener := .scheduler

/-- A trigger that is to fire every minute is created. -/
def everyMinute : List Operation :=
  [.deploy ⟨.text "d1", .text "w1", .null, .text "k1"⟩,
    .create [("workspace_id", .text "w1"), ("process_definition_id", .text "d1"),
      ("trigger_type", .text "cron"),
      ("conditions", .object [("expression", .text "* * * * *")])] .null]

theorem timers_sound_everyMinute :
    Attended attended ∧ (∀ op ∈ everyMinute, op.KeepsListener) ∧
      ∃ e, (attended.after everyMinute).scheduler.timers = [e] ∧ e.2.triggerId = e.1 ∧
        (attended.after everyMinute).triggers.Backs e.2
          (attended.after everyMinute).config.defaultTimezone ∧
        (attended.after everyMinute).metrics.timers = 1 := by
  have h : Attended attended := ⟨.inl rfl, rfl, rfl, rfl⟩
  have hops : ∀ op ∈ everyMinute, op.KeepsListener := by simp [everyMinute, Operation.KeepsListener]
  have hlength : (attended.after everyMinute).scheduler.timers.length = 1 := by decide +kernel
  have hsound := timers_sound h hops
  refine ⟨h, hops, ?_⟩
  -- The state reached is named, so that no step of the run is taken again.
  generalize attended.after everyMinute = s at hlength hsound
  obtain ⟨e, htimers⟩ := List.length_eq_one_iff.mp hlength
  have he : e ∈ s.scheduler.timers := by
    rw [htimers]
    exact List.mem_singleton_self e
  obtain ⟨hid, hbacks⟩ := hsound.1 e he
  exact ⟨e, htimers, hid, hbacks, hsound.2.trans hlength⟩

end Automation
end ProcessTriggers
