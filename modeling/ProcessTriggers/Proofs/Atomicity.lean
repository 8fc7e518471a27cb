import ProcessTriggers.Proofs.Registry

/-!
The calls of the registry are all or nothing. One that fails does so before anything is written and
before the listener is told, and what becomes of a call does not depend on the listener.
-/

namespace ProcessTriggers

open Action Automation

namespace Trigger

/-- The fields that can be changed. -/
def mutableFields : List String :=
  ["process_definition_id", "conditions", "variable_mappings", "is_active", "name", "description"]

/-- The trigger with the fields that are given replaced, and every other one as it was. -/
def replaced (t : Trigger) (changes : Entries) : Trigger :=
  { t with
    definitionId := (changes.get? "process_definition_id").getD t.definitionId
    conditions := ((changes.get? "conditions").map nullToEmpty).getD t.conditions
    variableMappings := ((changes.get? "variable_mappings").map nullToEmpty).getD t.variableMappings
    isActive := (changes.get? "is_active").getD t.isActive
    name := (changes.get? "name").getD t.name
    description := (changes.get? "description").getD t.description }

theorem replaced_cons_type (t : Trigger) (v : Value) (changes : Entries) :
    t.replaced (("trigger_type", v) :: changes) = t.replaced changes := by
  have hother : ∀ name, name ≠ "trigger_type" →
      Entries.get? (("trigger_type", v) :: changes) name = changes.get? name := fun _ hne =>
    Entries.get?_cons_of_ne hne v changes
  simp only [replaced, hother _ (by decide : "process_definition_id" ≠ "trigger_type"),
    hother _ (by decide : "conditions" ≠ "trigger_type"),
    hother _ (by decide : "variable_mappings" ≠ "trigger_type"),
    hother _ (by decide : "is_active" ≠ "trigger_type"),
    hother _ (by decide : "name" ≠ "trigger_type"),
    hother _ (by decide : "description" ≠ "trigger_type")]

/-- A field that is replaced by itself is replaced along with those that follow, none of which is
the same. -/
theorem change_replaced {t t₁ : Trigger} {name : String} {v : Value} {changes : Entries}
    (hnew : name ∉ changes.keys) (h : t.change name v = .ok t₁) :
    name ∈ mutableFields ∧ t₁.replaced changes = t.replaced ((name, v) :: changes) := by
  have hnone : changes.get? name = none := Entries.get?_eq_none_of_not_mem hnew
  unfold change at h
  split at h
  all_goals first
    | (cases h; done)
    | (rw [← Except.ok.inj h]
       refine ⟨by decide, ?_⟩
       simp [replaced, Entries.get?_cons_self, Entries.get?_cons_of_ne, hnone])

theorem applyAll_replaces {t t' : Trigger} {changes : Entries} (hnodup : changes.keys.Nodup)
    (h : t.applyAll changes = .ok t') : t' = t.replaced changes ∧
      ∀ name ∈ changes.keys, name = "trigger_type" ∨ name ∈ mutableFields := by
  induction changes generalizing t with
  | nil => exact ⟨(Except.ok.inj h).symm, fun _ hname => absurd hname List.not_mem_nil⟩
  | cons e changes ih =>
    obtain ⟨name, v⟩ := e
    obtain ⟨hnew, hrest⟩ := List.nodup_cons.mp hnodup
    by_cases htype : name = "trigger_type"
    · rw [applyAll, List.filter_cons_of_neg (by simp [htype])] at h
      obtain ⟨ht', hmutable⟩ := ih hrest h
      refine ⟨by rw [htype, replaced_cons_type, ht'], fun name' hname' => ?_⟩
      rcases List.mem_cons.mp hname' with rfl | hname'
      · exact .inl htype
      · exact hmutable name' hname'
    · rw [applyAll, List.filter_cons_of_pos (by simp [htype]), List.foldlM_cons] at h
      obtain ⟨t₁, hchange, h⟩ := exists_of_bind_eq_ok h
      obtain ⟨hname, hreplaced⟩ := change_replaced hnew hchange
      obtain ⟨ht', hmutable⟩ := ih hrest h
      refine ⟨by rw [ht', hreplaced], fun name' hname' => ?_⟩
      rcases List.mem_cons.mp hname' with rfl | hname'
      · exact .inr hname
      · exact hmutable name' hname'

theorem applyChanges_replaces {t t' : Trigger} {changes : Entries} (hnodup : changes.keys.Nodup)
    (h : t.applyChanges changes = .ok t') : t' = t.replaced changes ∧
      ∀ name ∈ changes.keys, name = "trigger_type" ∨ name ∈ mutableFields := by
  obtain ⟨_, _, h⟩ := exists_of_bind_eq_ok h
  exact applyAll_replaces hnodup h

end Trigger

namespace TriggerStore

/-- What can be looked for can also be removed. -/
theorem delete_of_get {store : TriggerStore} {id : Value} {found : Option Trigger}
    (h : store.get id = .ok found) : ∃ b store', store.delete id = .ok (b, store') := by
  cases store with
  | memory ts =>
    obtain ⟨key, hkey, _⟩ := exists_of_bind_eq_ok h
    exact ⟨_, _, by rw [delete, hkey]; rfl⟩
  | relation rows =>
    obtain ⟨bound, hbound, _⟩ := exists_of_bind_eq_ok h
    exact ⟨_, _, by rw [delete, hbound]; rfl⟩

end TriggerStore

namespace Registry

/-- A listener does not write the stored triggers, nor does it break the store. -/
def Spares (listener : Trigger → Bool → Action Unit) : Prop :=
  ∀ t deleted s, (listener t deleted s).2.triggers = s.triggers ∧
    (listener t deleted s).2.broken = s.broken

/-- The listeners of the program do not write the stored triggers. -/
theorem tell_spares : Spares tell := by
  intro t deleted s
  obtain ⟨r, s', hrun, hretimed, _⟩ := tell_run t deleted s
  rw [hrun]
  exact ⟨hretimed.triggers, hretimed.broken⟩

theorem notifyWith_run (listener : Trigger → Bool → Action Unit) (t : Trigger) (deleted : Bool)
    (s : Automation) : ∃ s', notifyWith listener t deleted s = (.ok ⟨⟩, s') ∧
      Quiet (listener t deleted s).2 s' := by
  rw [notifyWith, bind_ok (attempt_run _ s)]
  cases (listener t deleted s).1 with
  | ok _ => exact ⟨_, rfl, .refl _⟩
  | error e => exact ⟨_, rfl, by constructor <;> rfl⟩

namespace Mutation

variable {s s₁ : Automation} {m : Mutation} {t : Trigger} {deleted : Bool}

theorem performTelling_of_error {e : Error} (h : m.prepare s = (.error e, s₁))
    (listener : Trigger → Bool → Action Unit) : m.performTelling listener s = (.error e, s₁) := by
  rw [performTelling, bind_error h]

theorem performTelling_of_prepared (h : m.prepare s = (.ok (t, deleted), s₁))
    (listener : Trigger → Bool → Action Unit) :
    m.performTelling listener s = m.finish t (notifyWith listener t deleted s₁).2 := by
  obtain ⟨s₂, htold, _⟩ := notifyWith_run listener t deleted s₁
  rw [performTelling, bind_ok h, htold]
  exact bind_ok htold

theorem Prepared.broken (h : Prepared s m t deleted s₁) : s₁.broken = s.broken := by
  cases h with
  | created allowed given known made id createdAt inserted stored => exact stored.broken
  | updated found changed known saved stored => exact stored.broken
  | toggled found saved stored => exact stored.broken
  | doomed found quiet => exact quiet.broken

/-- After the listener was told nothing can go wrong, and what is answered and stored is settled
already. -/
theorem finish_run (h : Prepared s m t deleted s₁) : ∃ r store, ∀ s₂ : Automation,
    s₂.triggers = s₁.triggers → s₂.broken.lookup .delete = none →
      ∃ s₃, m.finish t s₂ = (.ok r, s₃) ∧ s₃.triggers = store := by
  cases h with
  | created => exact ⟨some t, s₁.triggers, fun s₂ htriggers _ => ⟨s₂, rfl, htriggers⟩⟩
  | updated => exact ⟨some _, s₁.triggers, fun s₂ htriggers _ => ⟨s₂, rfl, htriggers⟩⟩
  | toggled => exact ⟨some _, s₁.triggers, fun s₂ htriggers _ => ⟨s₂, rfl, htriggers⟩⟩
  | @doomed id _ _ found quiet =>
    obtain ⟨b, store, hdelete⟩ := TriggerStore.delete_of_get found
    refine ⟨none, store, fun s₂ htriggers hbroken => ?_⟩
    obtain ⟨s₃, hrun, hquiet⟩ := reaching_answers .delete .triggers (do
      let deleted ← Action.ofExcept ((← get).triggers.delete id)
      modify ({ · with triggers := deleted.2 })
      return deleted.1) hbroken
    rw [bind_get, hquiet.triggers, htriggers, quiet.triggers, bind_ofExcept hdelete] at hrun
    have hdeleted : deleteTrigger id s₂ = (.ok b, { s₃ with triggers := store }) := hrun
    rw [finish, bind_ok hdeleted, bind_ok (log_run _ _ _ _)]
    exact ⟨_, rfl, rfl⟩

end Mutation

/-- The state after an update in memory was written, before the listener is told. -/
structure Written (s : Automation) (ts : Keyed Trigger) (id : Value) (changes : Entries)
    (t' : Trigger) (s₁ : Automation) : Prop where
  replaced : ∃ t, ts.get? id = some t ∧ t' = { t.replaced changes with
    updatedAt := .stamp (Stamp.ofInstant s.clock.instant) }
  fields : ∀ name ∈ changes.keys, name = "trigger_type" ∨ name ∈ Trigger.mutableFields
  stored : ∀ e, e ∈ ts.put id t' ↔ e = (id, t') ∨ e ∈ ts ∧ e.1 ≠ id
  quiet : Quiet { s with triggers := .memory (ts.put id t') } s₁

theorem Mutation.Prepared.written {s s₁ : Automation} {ts : Keyed Trigger} {id : Value}
    {changes : Entries} {t' : Trigger} {deleted : Bool}
    (h : Prepared s (.update id changes) t' deleted s₁) (hts : s.triggers = .memory ts)
    (htexts : Keyed.Texts ts) (hown : ∀ e ∈ ts, e.2.id = e.1) (hnodup : changes.keys.Nodup) :
    Written s ts id changes t' s₁ := by
  cases h with
  | @updated _ _ t t' store _ found changed known saved stored =>
    obtain ⟨ht', hfields⟩ := Trigger.applyChanges_replaces hnodup changed
    rw [hts] at found saved
    obtain ⟨key, hkey, found⟩ := exists_of_bind_eq_ok found
    rw [Value.asKey_eq_ok hkey] at found
    have hget : ts.get? id = some t := Except.ok.inj found
    have hid : t'.id = id := by
      rw [(Trigger.applyChanges_amends changed).id]
      exact hown _ (htexts.get?_eq_some_iff.mp hget)
    obtain ⟨key', hkey', saved⟩ := exists_of_bind_eq_ok saved
    rw [Value.asKey_eq_ok hkey'] at saved
    split at saved
    · cases saved
      subst hid
      exact ⟨⟨t, hget, by rw [ht']⟩, hfields, fun e => htexts.mem_put, stored⟩
    · cases saved

/-- A program that knows one definition and has created one trigger. -/
def oneTrigger : Automation :=
  let orchestrator := { definitions := [(.text "d1", ⟨.text "d1", .text "w1", .null, .text "k1"⟩)] }
  (create [("workspace_id", .text "w1"), ("process_definition_id", .text "d1"),
    ("trigger_type", .text "message")] .null
    { clock := Stamp.ofInstant Stamp.epoch, orchestrator }).2

end Registry
end ProcessTriggers
