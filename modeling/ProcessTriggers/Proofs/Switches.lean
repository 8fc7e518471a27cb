import ProcessTriggers.Proofs.Atomicity
import ProcessTriggers.Proofs.Ticks

/-!
The switch of a trigger, the field that says whether it is active. It holds whatever was given for
it, and not all of its readers ask the same of it. Those who look for active triggers in memory ask
whether it equals true; those who fire a trigger, or follow a change of it, ask whether it is
truthy. They agree about a trigger exactly if its switch is not truthy without being equal to true.
-/

namespace ProcessTriggers

open Action Automation

namespace Value

/-- A value that equals true if it is truthy at all. -/
def IsClear (v : Value) : Prop := v.truthy = true → v.equal (.bool true) = true

instance (v : Value) : Decidable v.IsClear :=
  inferInstanceAs (Decidable (v.truthy = true → v.equal (.bool true) = true))

theorem truthy_of_equal_true {v : Value} (h : v.equal (.bool true) = true) : v.truthy = true := by
  cases v with
  | bool b =>
    cases b with
    | false => cases h
    | true => rfl
  | int n =>
    have hn : n = 1 := by simpa [equal, sameNumber?, integer?] using h
    rw [hn]
    rfl
  | double x =>
    cases x with
    | finite negative m e =>
      -- A zero would be compared as the number zero, which is less than one.
      have hm : m ≠ 0 := by
        rintro rfl
        simp [equal, sameNumber?, integer?, Double.compareInt?, Double.value?,
          Double.compareRat] at h
      rw [truthy, Double.isZero, Bool.not_eq_true', beq_eq_false_iff_ne]
      exact hm
    | nan | infinite => rfl
  | _ => simp [equal, sameNumber?, integer?, isNull, isMissing] at h

theorem isClear_iff {v : Value} : v.IsClear ↔ v.equal (.bool true) = v.truthy := by
  constructor
  · exact fun h => Bool.eq_iff_iff.mpr ⟨truthy_of_equal_true, h⟩
  · exact fun h htruthy => h.trans htruthy

end Value

/-- Two triggers in a table with one identifier are the same. -/
theorem Trigger.Table.item_unique {supply : Supply} {ts : Keyed Trigger}
    (h : Trigger.Table supply ts) {t t' : Trigger} (ht : t ∈ ts.items) (ht' : t' ∈ ts.items)
    (heq : t.id = t'.id) : t = t' := by
  obtain ⟨key, hkey⟩ := Keyed.mem_items.mp ht
  obtain ⟨key', hkey'⟩ := Keyed.mem_items.mp ht'
  obtain rfl : t.id = key := h.own _ hkey
  obtain rfl : t'.id = key' := h.own _ hkey'
  exact h.texts.unique hkey (heq ▸ hkey')

theorem Entries.mem_of_get? {es : Entries} {key : String} {v : Value} (h : es.get? key = some v) :
    (key, v) ∈ es := by
  obtain ⟨before, after, rfl, -⟩ := List.lookup_eq_some_iff.mp h
  exact List.mem_append_right before List.mem_cons_self

namespace Trigger

/-- The schedule of a trigger can be read and has a time to come. -/
def HasSchedule (t : Trigger) (s : Automation) : Prop :=
  (t.schedule s.config.defaultTimezone s.clock.instant).isOk = true

end Trigger

namespace Automation

/-- The trigger is there when the active triggers of its type in its workspace are looked for. -/
def Lists (s : Automation) (t : Trigger) : Prop :=
  ∃ type found, t.type = .known type ∧
    (Registry.findActive type t.workspaceId s).1 = .ok found ∧ t ∈ found

/-- A tick takes the trigger for an active one. -/
def GoesOff (s : Automation) (t : Trigger) : Prop :=
  ∀ expression, (Engine.fireScheduled t.id expression s).1 ≠ .ok none

/-- A scheduler that is told about the trigger registers it. -/
def Registers (s : Automation) (t : Trigger) : Prop :=
  Scheduler.onTriggerChanged t false s = (do let _ ← Scheduler.register t : Action Unit) s

/-- A scheduler that is told about the trigger has a timer for it then. -/
def Times (s : Automation) (t : Trigger) : Prop :=
  (Scheduler.onTriggerChanged t false s).2.scheduler.timers.has t.id = true

/-- The readers of the switch of a trigger take it alike. -/
structure Agree (s : Automation) (t : Trigger) : Prop where
  ticked : s.Lists t ↔ s.GoesOff t
  registered : t.isCron = true → (s.Registers t ↔ s.GoesOff t)
  timed : t.isCron = true → t.HasSchedule s → (s.Times t ↔ s.GoesOff t)

variable {s : Automation} {ts : Keyed Trigger} {t : Trigger}

/-- In memory, those triggers are listed whose switch equals true. -/
theorem lists_iff (hs : Catalogued 0 s) (hbroken : s.broken = []) (hts : s.triggers = .memory ts)
    (hmem : t ∈ ts.items) {type : TriggerType} (htype : t.type = .known type)
    (hworkspace : t.workspaceId.equal t.workspaceId = true) :
    s.Lists t ↔ t.isActive.equal (.bool true) = true := by
  have hstore := hs.store
  rw [hts] at hstore
  have htable : Trigger.Table s.supply ts := hstore
  obtain ⟨f, hf⟩ : ∃ f : TriggerFilter, f =
      { workspaceId := Registry.given t.workspaceId, type, isActive := some (.bool true) } :=
    ⟨_, rfl⟩
  obtain ⟨found, hfind, hperm, -⟩ := htable.find_run f
  have hrun : Registry.findActive type t.workspaceId s = (.ok found, s) := by
    have hfound := findTriggers_inMemory hbroken hts f
    rwa [hfind, hf] at hfound
  have hamong : t.isAmong f = t.isActive.equal (.bool true) := by
    have hgiven : (Registry.given t.workspaceId).all t.workspaceId.equal = true := by
      rw [Registry.given]
      split
      · rfl
      · exact hworkspace
    have hown : t.type.is type = true := by
      rw [htype]
      exact beq_self_eq_true type
    rw [hf, Trigger.isAmong]
    simp only [hgiven, hown, Option.all_some, Option.all_none, Bool.true_and, Bool.and_true]
  have hlisted : t ∈ found ↔ t.isActive.equal (.bool true) = true := by
    rw [hperm.mem_iff, List.mem_filter, hamong]
    exact and_iff_right hmem
  rw [← hlisted]
  constructor
  · rintro ⟨type', found', htype', hrun', hlists⟩
    obtain rfl := TypeField.known.inj (htype.symm.trans htype')
    rw [hrun] at hrun'
    exact Except.ok.inj hrun' ▸ hlists
  · exact fun hlists => ⟨type, found, htype, congrArg Prod.fst hrun, hlists⟩

end Automation

namespace Engine

/-- An attempt that is made for a tick is not none. -/
theorem scheduledAttempt_yields (t : Trigger) (expression : Value) :
    Yields (· ≠ none) (scheduledAttempt t expression) := by
  refine yields_bind fun now => yields_bind fun mapped => yields_binding _ ?_
  exact yields_bind fun _ => yields_bind fun a => yields_pure (Option.some_ne_none a)

/-- Once a trigger was found active, a tick ends in an execution or in an error. -/
theorem fireScheduled_ne_none {s : Automation} (hbroken : s.broken = []) {id : Value} {t : Trigger}
    (hfound : s.triggers.get id = .ok (some t)) (hactive : t.isActive.truthy = true)
    (given : Value) : (fireScheduled id given s).1 ≠ .ok none := by
  obtain ⟨s₁, hget, -⟩ := getTrigger_answers hbroken id
  rw [hfound] at hget
  have hbegin := beginScheduled_run hget hactive given
  have hyields : Yields (· ≠ none) (do
      scheduledAttempt t (← Action.ofExcept (t.tickExpression given))) :=
    yields_bind fun expression => scheduledAttempt_yields t expression
  rw [fireScheduled, bind_run, hbegin]
  generalize hrun : (do scheduledAttempt t (← Action.ofExcept (t.tickExpression given)) :
    Action (Option Attempt)) s₁ = r
  obtain ⟨_ | begun, s₂⟩ := r
  · intro h
    cases h
  · cases begun with
    | none => exact absurd rfl (hyields s₁ s₂ none hrun)
    | some a =>
      intro hnone
      dsimp only at hnone
      rw [map_run (dispatch a) some s₂] at hnone
      cases hdispatch : (dispatch a s₂).1 <;> rw [hdispatch] at hnone <;> cases hnone

end Engine

namespace Scheduler

/-- A registration fails, or it leaves a new task or an entry in the log, so it is never a mere
removal. -/
theorem register_ne_unregister {t : Trigger} {id : String} (hid : t.id = .text id)
    (s : Automation) : (do let _ ← register t : Action Unit) s ≠ unregister t.id s := by
  have hkey : t.id.asKey = .ok t.id := hid ▸ Value.asKey_text id
  obtain ⟨s₁, hdrop, -, -⟩ := unregister_run hkey s
  rw [bind_run, register, bind_ok hdrop, hdrop]
  cases t.cronExpression with
  | error e =>
    rw [bind_ofExcept_error rfl]
    intro h
    cases h
  | ok expression =>
    rw [bind_ofExcept rfl]
    cases t.cronTimezone with
    | error e =>
      rw [bind_ofExcept_error rfl]
      intro h
      cases h
    | ok zone =>
      rw [bind_ofExcept rfl, bind_get, bind_get]
      cases firstRun expression (zone.orElse s₁.config.defaultTimezone) s₁.clock.instant with
      | error e =>
        dsimp only
        cases e.isInvalidSchedule with
        | false =>
          intro h
          cases h
        | true =>
          intro h
          obtain ⟨entry, hlogged⟩ : ∃ entry, s₁.logged ++ [entry] = s₁.logged :=
            ⟨_, congrArg (fun r => r.2.logged) h⟩
          exact List.cons_ne_nil entry [] (List.append_right_eq_self.mp hlogged)
      | ok first =>
        dsimp only
        rw [bind_ofExcept hkey]
        intro h
        have htask : s₁.scheduler.lastTask + 1 = s₁.scheduler.lastTask :=
          congrArg (fun r => r.2.scheduler.lastTask) h
        exact Nat.succ_ne_self _ htask

theorem onTriggerChanged_eq {t : Trigger} (hcron : t.isCron = true) :
    onTriggerChanged t false =
      if t.isActive.truthy then (do let _ ← register t : Action Unit) else unregister t.id := by
  rw [onTriggerChanged, hcron, Bool.not_true, if_neg Bool.false_ne_true, Bool.false_or]
  cases t.isActive.truthy <;> rfl

/-- A cron trigger is registered on a change of it exactly if it is truthy. -/
theorem registers_iff {t : Trigger} {id : String} (hid : t.id = .text id)
    (hcron : t.isCron = true) (s : Automation) :
    s.Registers t ↔ t.isActive.truthy = true := by
  rw [Automation.Registers, onTriggerChanged_eq hcron]
  cases t.isActive.truthy with
  | true => exact iff_of_true rfl rfl
  | false => exact iff_of_false (register_ne_unregister hid s).symm Bool.false_ne_true

/-- A cron trigger has a timer after a change of it exactly if it is truthy and has a schedule. -/
theorem onTriggerChanged_has {t : Trigger} {id : String} (hid : t.id = .text id)
    (hcron : t.isCron = true) (s : Automation) :
    (onTriggerChanged t false s).2.scheduler.timers.has t.id = (t.isActive.truthy &&
      (t.schedule s.config.defaultTimezone s.clock.instant).isOk) := by
  have hkey : t.id.asKey = .ok t.id := hid ▸ Value.asKey_text id
  have hself : t.id.equal t.id = true := by
    rw [hid]
    exact (Value.equal_text_iff id _).mpr rfl
  rw [onTriggerChanged_eq hcron]
  cases hactive : t.isActive.truthy with
  | false =>
    obtain ⟨s', hrun, -, htimers⟩ := unregister_run hkey s
    rw [if_neg Bool.false_ne_true, hrun, Bool.false_and, htimers, Keyed.has_erase]
  | true =>
    rw [if_pos rfl, discard_run, Bool.true_and]
    cases hschedule : t.schedule s.config.defaultTimezone s.clock.instant with
    | error e =>
      obtain ⟨s', hrun, -, htimers⟩ := register_of_error hkey hschedule
      rw [hrun, htimers, Keyed.has_erase]
      rfl
    | ok schedule =>
      obtain ⟨expression, zone, nextRun⟩ := schedule
      obtain ⟨task, s', hrun, -, htimers⟩ := register_of_schedule hkey hschedule
      rw [hrun, htimers, Keyed.has_put hself]
      rfl

end Scheduler

namespace Automation

variable {s : Automation} {ts : Keyed Trigger} {t : Trigger}

theorem goesOff_iff (hbroken : s.broken = []) (hfound : s.triggers.get t.id = .ok (some t)) :
    s.GoesOff t ↔ t.isActive.truthy = true := by
  constructor
  · intro hgoesOff
    by_contra hidle
    obtain ⟨s', hrun, -⟩ := Engine.fireScheduled_skips hbroken hfound
      (fun t' ht' => Option.some.inj ht' ▸ Bool.eq_false_iff.mpr hidle) .null
    exact hgoesOff .null (congrArg Prod.fst hrun)
  · exact fun hactive => Engine.fireScheduled_ne_none hbroken hfound hactive

/-- The readers agree about a trigger in memory exactly if its switch is clear. -/
theorem agree_iff (hs : Catalogued 0 s) (hbroken : s.broken = []) (hts : s.triggers = .memory ts)
    (hmem : t ∈ ts.items) {type : TriggerType} (htype : t.type = .known type)
    (hworkspace : t.workspaceId.equal t.workspaceId = true) :
    s.Agree t ↔ t.isActive.IsClear := by
  have hstore := hs.store
  rw [hts] at hstore
  have htable : Trigger.Table s.supply ts := hstore
  obtain ⟨key, hkey⟩ := Keyed.mem_items.mp hmem
  obtain ⟨id, hid⟩ := htable.texts.text key (Keyed.mem_keys hkey)
  obtain rfl : t.id = key := htable.own _ hkey
  have hfound : s.triggers.get t.id = .ok (some t) := by
    have hget : ts.get? t.id = some t := htable.texts.get?_eq_some_iff.mpr hkey
    rw [hts, TriggerStore.get, hid, ← hget, hid]
    rfl
  have hlists := lists_iff hs hbroken hts hmem htype hworkspace
  have hgoesOff := goesOff_iff hbroken hfound
  rw [Value.isClear_iff, Bool.eq_iff_iff, ← hlists, ← hgoesOff]
  refine ⟨Agree.ticked, fun hagree => ⟨hagree, fun hcron => ?_, fun hcron hschedule => ?_⟩⟩
  · rw [Scheduler.registers_iff hid hcron, hgoesOff]
  · rw [Times, Scheduler.onTriggerChanged_has hid hcron, hschedule, Bool.and_true, hgoesOff]

end Automation

namespace Trigger

/-- The trigger that is made of given fields. -/
def made (id : String) (now : Stamp) (type : TypeField) (es : Entries) : Trigger where
  id := .text id
  workspaceId := Value.entry es "workspace_id"
  definitionId := Value.entry es "process_definition_id"
  type
  conditions := nullToEmpty (Value.entryOr es "conditions" (.object []))
  variableMappings := nullToEmpty (Value.entryOr es "variable_mappings" (.object []))
  isActive := Value.entryOr es "is_active" (.bool true)
  name := Value.entry es "name"
  description := Value.entry es "description"
  createdById := Value.entry es "created_by_id"
  lastTriggeredAt := Value.entry es "last_triggered_at"
  triggerCount := Value.entryOr es "trigger_count" (.int 0)
  createdAt := Value.entryOr es "created_at" (.stamp now)
  updatedAt := Value.entryOr es "updated_at" (.stamp now)

theorem made_isActive (id : String) (now : Stamp) (type : TypeField) (es : Entries) :
    (made id now type es).isActive = (es.get? "is_active").getD (.bool true) := rfl

theorem create_eq_made {supply supply' : Supply} {now : Stamp} {es : Entries} {t : Trigger}
    (hid : es.get? "id" = none) (h : create supply now es = (.ok t, supply')) :
    ∃ type, newType (Value.entry es "trigger_type") = .ok type ∧
      t = made (Supply.idText (supply.drawn + 1)) now type es := by
  rw [create] at h
  split at h
  · cases h
  · cases h
  · rw [hid] at h
    cases htype : newType (Value.entry es "trigger_type") with
    | error e =>
      rw [htype] at h
      cases congrArg Prod.fst h
    | ok type =>
      rw [htype] at h
      exact ⟨type, rfl, (Except.ok.inj (congrArg Prod.fst h)).symm⟩

/-- A change of one field sets the switch to what is given for it, or leaves it. -/
theorem change_isActive {t t' : Trigger} {name : String} {v : Value}
    (h : t.change name v = .ok t') :
    t'.isActive = t.isActive ∨ name = "is_active" ∧ t'.isActive = v := by
  unfold change at h
  split at h
  all_goals first
    | (cases h; done)
    | (rw [← Except.ok.inj h]; exact .inl rfl)
    | (rw [← Except.ok.inj h]; exact .inr ⟨rfl, rfl⟩)

theorem foldlM_change_isActive {changes : List (String × Value)} {t t' : Trigger}
    (h : changes.foldlM (fun t e => t.change e.1 e.2) t = .ok t') :
    t'.isActive = t.isActive ∨ ("is_active", t'.isActive) ∈ changes := by
  induction changes generalizing t with
  | nil =>
    rw [← Except.ok.inj h]
    exact .inl rfl
  | cons e changes ih =>
    rw [List.foldlM_cons] at h
    obtain ⟨t₁, h₁, h⟩ := exists_of_bind_eq_ok h
    rcases ih h with hlast | hgiven
    · rw [hlast]
      rcases change_isActive h₁ with hsame | ⟨hname, hset⟩
      · exact .inl hsame
      · refine .inr (List.mem_cons.mpr (.inl ?_))
        rw [hset, ← hname]
    · exact .inr (List.mem_cons_of_mem e hgiven)

theorem applyChanges_isActive {t t' : Trigger} {changes : Entries}
    (h : t.applyChanges changes = .ok t') :
    t'.isActive = t.isActive ∨ ("is_active", t'.isActive) ∈ changes := by
  obtain ⟨_, _, h⟩ := exists_of_bind_eq_ok h
  exact (foldlM_change_isActive h).imp_right List.mem_of_mem_filter

end Trigger

namespace Operation

/-- Calls that create, update or toggle a trigger, and the passing of time between them. -/
def IsEdit : Operation → Prop
  | create .. | update .. | toggle .. | setClock .. => True
  | _ => False

/-- A value that is given for a switch. -/
def Gives (v : Value) : Operation → Prop
  | create data _ => ("is_active", v) ∈ data
  | update _ changes => ("is_active", v) ∈ changes
  | _ => False

end Operation

namespace Registry.Mutation

variable {s s₁ : Automation} {m : Mutation} {t : Trigger} {deleted : Bool} {ts : Keyed Trigger}

/-- A call that is no removal ends with its preparation, but for what the listener does. -/
theorem perform_edit (hm : m.operation.IsEdit) (s : Automation) :
    Retimed (m.prepare s).2 (m.perform s).2 := by
  rw [m.perform_eq]
  cases hprepare : m.prepare s with
  | mk r s₁ =>
    cases r with
    | error e =>
      rw [performTelling_of_error hprepare]
      exact .refl s₁
    | ok prepared =>
      obtain ⟨t, deleted⟩ := prepared
      obtain ⟨s₂, htold, hretimed, -⟩ := notify_run t deleted s₁
      rw [performTelling_of_prepared hprepare, ← notify_eq, htold]
      cases m with
      | delete id => exact hm.elim
      | _ => exact hretimed

/-- A call that is no removal stores the trigger about which it is going to tell. -/
theorem Prepared.put (h : Prepared s m t deleted s₁) (hm : m.operation.IsEdit)
    (hts : s.triggers = .memory ts) (htable : Trigger.Table s.supply ts) :
    s₁.triggers = .memory (ts.put t.id t) := by
  cases h with
  | created allowed given known made id createdAt inserted stored =>
    rw [hts] at inserted
    rw [stored.triggers]
    exact TriggerStore.insert_memory id inserted
  | updated found changed known saved stored =>
    rw [hts] at found saved
    rw [stored.triggers]
    exact (htable.save_put found ((Trigger.applyChanges_amends changed).touched _) saved).2
  | @toggled id t store s₁ found saved stored =>
    rw [hts] at found saved
    have hamends : t.Amends t.toggled := ⟨rfl, rfl, rfl, rfl, rfl⟩
    rw [stored.triggers]
    exact (htable.save_put found (hamends.touched _) saved).2
  | doomed => exact hm.elim

/-- The switch of the trigger that is stored was given, or it is that of a trigger that was stored
before, or a boolean. -/
theorem Prepared.isActive (h : Prepared s m t deleted s₁) (hm : m.operation.IsEdit)
    (hts : s.triggers = .memory ts) (htable : Trigger.Table s.supply ts) :
    m.operation.Gives t.isActive ∨ (∃ e ∈ ts, e.2.isActive = t.isActive) ∨
      ∃ b, t.isActive = .bool b := by
  cases h with
  | @created data userId definitionId d t store s₁ allowed given known made id createdAt inserted
      stored =>
    have hnew : (data.put "created_by_id" userId).get? "id" = none :=
      get?_owned_eq_none allowed (by decide) (by decide)
    obtain ⟨type, -, rfl⟩ := Trigger.create_eq_made hnew made
    rw [Trigger.made_isActive, Entries.get?_put_of_ne _ (by decide)]
    cases hgiven : data.get? "is_active" with
    | none => exact .inr (.inr ⟨true, rfl⟩)
    | some v => exact .inl (Entries.mem_of_get? hgiven)
  | @updated id changes t t' store s₁ found changed known saved stored =>
    rw [hts] at found saved
    obtain ⟨hmem, -⟩ :=
      htable.save_put found ((Trigger.applyChanges_amends changed).touched _) saved
    rcases Trigger.applyChanges_isActive changed with hsame | hgiven
    · exact .inr (.inl ⟨_, hmem, hsame.symm⟩)
    · exact .inl hgiven
  | toggled => exact .inr (.inr ⟨_, rfl⟩)
  | doomed => exact hm.elim

end Registry.Mutation

namespace Automation

/-- The triggers are in memory, and their switches are in `P`. -/
def Switched (P : Value → Prop) (s : Automation) : Prop :=
  ∃ ts, s.triggers = .memory ts ∧ ∀ e ∈ ts, P e.2.isActive

/-- Booleans and what the calls give are all that is ever stored for a switch. -/
theorem Switched.edit {P : Value → Prop} (hbool : ∀ b, P (.bool b)) {s : Automation}
    (h : Switched P s) (hs : Catalogued 0 s) {m : Registry.Mutation} (hm : m.operation.IsEdit)
    (hgiven : ∀ v, m.operation.Gives v → P v) : Switched P (m.perform s).2 := by
  obtain ⟨ts, hts, hswitches⟩ := h
  have hstore := hs.store
  rw [hts] at hstore
  have htable : Trigger.Table s.supply ts := hstore
  have hretimed := Registry.Mutation.perform_edit hm s
  obtain ⟨e, s₁, hprepare, n, -, hquiet⟩ | ⟨t, deleted, s₁, hprepare, hprepared⟩ :=
    m.prepare_cases s
  · rw [hprepare] at hretimed
    exact ⟨ts, hretimed.triggers.trans (hquiet.triggers.trans hts), hswitches⟩
  · rw [hprepare] at hretimed
    refine ⟨ts.put t.id t, hretimed.triggers.trans (hprepared.put hm hts htable), fun e he => ?_⟩
    rcases Keyed.mem_of_mem_put he with he | rfl
    · exact hswitches e he
    · rcases hprepared.isActive hm hts htable with hgave | ⟨e', he', hsame⟩ | ⟨b, hb⟩
      · exact hgiven _ hgave
      · exact hsame ▸ hswitches e' he'
      · exact hb ▸ hbool b

/-- After edits, each switch in memory is a boolean or was given by one of them. -/
theorem after_switches {s : Automation} (hunused : Unused s) (hempty : s.triggers = .memory [])
    {ops : List Operation} (hops : ∀ op ∈ ops, op.IsEdit) :
    Switched (fun v => (∃ b, v = .bool b) ∨ ∃ op ∈ ops, op.Gives v) (s.after ops) := by
  obtain ⟨P, hP⟩ : ∃ P : Value → Prop, P = fun v => (∃ b, v = .bool b) ∨ ∃ op ∈ ops, op.Gives v :=
    ⟨_, rfl⟩
  have hstart : Catalogued 0 s ∧ Switched P s :=
    ⟨hunused.catalogued, [], hempty, fun _ he => absurd he List.not_mem_nil⟩
  rw [← hP]
  refine (after_induction (P := fun s => Catalogued 0 s ∧ Switched P s) hstart ?_).2
  intro op hop s hs
  refine ⟨op.perform_catalogues s hs.1, ?_⟩
  -- The calls that edit are those of the registry, but for the passing of time.
  have hedit : ∀ m : Registry.Mutation, m.operation = op → Switched P (op.perform s).2 := by
    rintro m rfl
    rw [m.operation_run]
    exact hs.2.edit (fun b => hP ▸ .inl ⟨b, rfl⟩) hs.1 (hops _ hop)
      fun v hv => hP ▸ .inr ⟨_, hop, hv⟩
  cases op with
  | create data userId => exact hedit (.create data userId) rfl
  | update id changes => exact hedit (.update id changes) rfl
  | toggle id => exact hedit (.toggle id) rfl
  | setClock t => exact hs.2
  | _ => exact (hops _ hop).elim

end Automation
end ProcessTriggers
