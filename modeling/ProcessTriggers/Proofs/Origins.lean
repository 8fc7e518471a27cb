import ProcessTriggers.Proofs.Attempts
import ProcessTriggers.Proofs.Backing

/-!
Where the stored triggers come from. In memory, a trigger that is stored after an operation was
stored before, with the same workspace, type, owner and time of creation, or the operation created
it. Nothing is ever taken out of the log of executions.
-/

namespace ProcessTriggers

open Action Automation

namespace Trigger

/-- A trigger has the workspace, the type and the owner that were given for it, and the time at
which it was created. -/
structure StemsFrom (data : Entries) (userId : Value) (now : Stamp) (t : Trigger) : Prop where
  workspaceId : t.workspaceId = Value.entry data "workspace_id"
  type : ∃ v, data.get? "trigger_type" = some v ∧ newType v = .ok t.type
  createdById : t.createdById = userId
  createdAt : t.createdAt = .stamp now

theorem StemsFrom.ofAmends {data : Entries} {userId : Value} {now : Stamp} {t t' : Trigger}
    (h : t.StemsFrom data userId now) (hamends : t.Amends t') : t'.StemsFrom data userId now where
  workspaceId := hamends.workspaceId.trans h.workspaceId
  type := hamends.type ▸ h.type
  createdById := hamends.createdById.trans h.createdById
  createdAt := hamends.createdAt.trans h.createdAt

theorem Amends.ofRule {t t' : Trigger} (h : t.rule = t'.rule) : t.Amends t' where
  id := (congrArg Trigger.id h).symm
  workspaceId := (congrArg Trigger.workspaceId h).symm
  type := (congrArg Trigger.type h).symm
  createdById := (congrArg Trigger.createdById h).symm
  createdAt := (congrArg Trigger.createdAt h).symm

/-- A changed trigger is written in the place of the one that was found. -/
theorem Table.save_put {supply : Supply} {ts : Keyed Trigger} (h : Table supply ts) {id : Value}
    {t t' : Trigger} {store : TriggerStore} (hget : (TriggerStore.memory ts).get id = .ok (some t))
    (hamends : t.Amends t') (hsave : (TriggerStore.memory ts).save t' = .ok store) :
    (t'.id, t) ∈ ts ∧ store = .memory (ts.put t'.id t') := by
  obtain ⟨key, _, hget⟩ := exists_of_bind_eq_ok hget
  have hmem : (key, t) ∈ ts := h.texts.get?_eq_some_iff.mp (Except.ok.inj hget)
  have hid : t'.id = key := hamends.id.trans (h.own _ hmem)
  obtain ⟨text, hkey⟩ := h.texts.text key (Keyed.mem_keys hmem)
  obtain ⟨_, hstore⟩ := TriggerStore.save_memory (hid.trans hkey) hsave
  exact ⟨hid ▸ hmem, hstore⟩

/-- Each trigger of the second table was in the first one, and its owner at most has changed it
since. -/
def Descend (ts ts' : Keyed Trigger) : Prop :=
  ∀ e' ∈ ts', ∃ e ∈ ts, e.1 = e'.1 ∧ e.2.Amends e'.2

namespace Descend

variable {ts ts' ts'' : Keyed Trigger}

theorem refl (ts : Keyed Trigger) : Descend ts ts := fun e he => ⟨e, he, rfl, .refl _⟩

theorem trans (h : Descend ts ts') (h' : Descend ts' ts'') : Descend ts ts'' := by
  intro e'' he''
  obtain ⟨e', he', hkey', hamends'⟩ := h' e'' he''
  obtain ⟨e, he, hkey, hamends⟩ := h e' he'
  exact ⟨e, he, hkey.trans hkey', hamends.trans hamends'⟩

theorem ofRules (h : (TriggerStore.memory ts').rules = (TriggerStore.memory ts).rules) :
    Descend ts ts' := by
  intro e' he'
  obtain ⟨e, he, hkey, hrule⟩ := TriggerStore.mem_of_rules h he'
  exact ⟨e, he, hkey, .ofRule hrule⟩

theorem put (h : Keyed.Texts ts) {t t' : Trigger} (hmem : (t'.id, t) ∈ ts)
    (hamends : t.Amends t') : Descend ts (ts.put t'.id t') := by
  intro e' he'
  rcases h.mem_put.mp he' with rfl | ⟨he', _⟩
  · exact ⟨_, hmem, rfl, hamends⟩
  · exact ⟨e', he', rfl, .refl _⟩

theorem erase (ts : Keyed Trigger) (key : Value) : Descend ts (ts.erase key) :=
  fun e he => ⟨e, List.mem_of_mem_filter he, rfl, .refl _⟩

end Descend
end Trigger

namespace Registry.Mutation

/-- The fields of a created trigger that do not depend on what is known elsewhere. -/
theorem created_fields {data : Entries} {userId : Value} {supply supply' : Supply} {now : Stamp}
    {t : Trigger} (hallowed : data.keys.filter (!Trigger.createFields.contains ·) = [])
    (hmade : Trigger.create supply now (data.put "created_by_id" userId) = (.ok t, supply')) :
    t.workspaceId = Value.entry data "workspace_id" ∧
      t.definitionId = Value.entry data "process_definition_id" ∧
      (∃ v, data.get? "trigger_type" = some v ∧ Trigger.newType v = .ok t.type) ∧
      t.createdById = userId ∧ t.triggerCount = .int 0 := by
  obtain ⟨hrequired, hworkspace, hdefinition, htype, howner, hcount⟩ := Trigger.create_eq_ok hmade
  rw [Value.entry_put_of_ne _ (by decide)] at hworkspace hdefinition htype
  rw [Value.entry_put_self] at howner
  refine ⟨hworkspace, hdefinition, ?_, howner, ?_⟩
  · rcases Entries.mem_keys_put (hrequired "trigger_type" (by decide)) with heq | hmem
    · exact absurd heq (by decide)
    · obtain ⟨v, hv⟩ := Entries.exists_get?_of_mem hmem
      rw [Value.entry, hv] at htype
      exact ⟨v, hv, htype⟩
  · rw [hcount, Value.entryOr, get?_owned_eq_none hallowed (by decide) (by decide)]
    rfl

/-- The operation that makes a call of the registry. -/
def operation : Mutation → Operation
  | create data userId => .create data userId
  | update id changes => .update id changes
  | toggle id => .toggle id
  | delete id => .delete id

theorem operation_run (m : Mutation) (s : Automation) :
    (m.operation.perform s).2 = (m.perform s).2 := by
  cases m with
  | create | update | toggle => rw [operation, Operation.perform, discard_run, perform, map_run]
  | delete id =>
    rw [operation, Operation.perform, perform]
    exact (congrArg Prod.snd (map_run _ (fun _ => none) s)).symm

variable {s s₁ : Automation} {m : Mutation} {t : Trigger} {deleted : Bool} {ts : Keyed Trigger}

/-- When the listener is about to be told, the stored triggers were stored before, except for the
one that the call created. -/
theorem Prepared.origin (h : Prepared s m t deleted s₁) (hts : s.triggers = .memory ts)
    (htable : Trigger.Table s.supply ts) :
    (∃ ts₁, s₁.triggers = .memory ts₁ ∧ Trigger.Descend ts ts₁) ∨
      ∃ data userId, m = .create data userId ∧ s₁.triggers = .memory (ts.put t.id t) ∧
        t.StemsFrom data userId (Stamp.ofInstant s.clock.instant) := by
  cases h with
  | @created data userId definitionId d t store s₁ allowed given known made id createdAt inserted
      stored =>
    rw [hts] at inserted
    obtain rfl := TriggerStore.insert_memory id inserted
    obtain ⟨hworkspace, _, htype, howner, _⟩ := created_fields allowed made
    exact .inr ⟨data, userId, rfl, stored.triggers, hworkspace, htype, howner, createdAt⟩
  | updated found changed known saved stored =>
    rw [hts] at found saved
    have hamends := (Trigger.applyChanges_amends changed).touched
      (.stamp (Stamp.ofInstant s.clock.instant))
    obtain ⟨hmem, rfl⟩ := htable.save_put found hamends saved
    exact .inl ⟨_, stored.triggers, .put htable.texts hmem hamends⟩
  | @toggled id t store s₁ found saved stored =>
    rw [hts] at found saved
    have hamends : t.Amends { t.toggled with
        updatedAt := .stamp (Stamp.ofInstant s.clock.instant) } := ⟨rfl, rfl, rfl, rfl, rfl⟩
    obtain ⟨hmem, rfl⟩ := htable.save_put found hamends saved
    exact .inl ⟨_, stored.triggers, .put htable.texts hmem hamends⟩
  | doomed found quiet => exact .inl ⟨ts, quiet.triggers.trans hts, .refl ts⟩

theorem finish_origin (m : Mutation) (t : Trigger) (hts : s.triggers = .memory ts) :
    ∃ ts', (m.finish t s).2.triggers = .memory ts' ∧ Trigger.Descend ts ts' := by
  cases m with
  | delete id =>
    rw [finish]
    obtain ⟨e, s₁, hdelete, hquiet⟩ | ⟨b, store, s₁, hdelete, hstore, hquiet⟩ :=
      deleteTrigger_cases id s
    · rw [bind_error hdelete]
      exact ⟨ts, hquiet.triggers.trans hts, .refl ts⟩
    · rw [bind_ok hdelete]
      rw [hts] at hstore
      obtain ⟨key, _, hstore⟩ := exists_of_bind_eq_ok hstore
      cases hstore
      exact ⟨_, hquiet.triggers, .erase ts key⟩
  | create | update | toggle => exact ⟨ts, hts, .refl ts⟩

/-- After a call of the registry, the stored triggers were stored before, except for the one that
the call created and answers with. -/
theorem perform_origin (m : Mutation) (hts : s.triggers = .memory ts)
    (htable : Trigger.Table s.supply ts) :
    (∃ ts', (m.perform s).2.triggers = .memory ts' ∧ Trigger.Descend ts ts') ∨
      ∃ data userId t, m = .create data userId ∧
        (m.perform s).2.triggers = .memory (ts.put t.id t) ∧ (m.perform s).1 = .ok (some t) ∧
        t.StemsFrom data userId (Stamp.ofInstant s.clock.instant) := by
  rw [m.perform_eq, performTelling]
  obtain ⟨e, s₁, hprepare, _, _, hquiet⟩ | ⟨t, deleted, s₁, hprepare, hprepared⟩ :=
    m.prepare_cases s
  · rw [bind_error hprepare]
    exact .inl ⟨ts, hquiet.triggers.trans hts, .refl ts⟩
  · obtain ⟨s₂, htold, hretimed, _⟩ := notify_run t deleted s₁
    rw [bind_ok hprepare]
    dsimp only
    rw [← notify_eq, bind_ok htold]
    obtain ⟨ts₁, hts₁, hdescend⟩ | ⟨data, userId, rfl, hts₁, hstems⟩ := hprepared.origin hts htable
    · obtain ⟨ts₂, hts₂, hdescend'⟩ := finish_origin m t (hretimed.triggers.trans hts₁)
      exact .inl ⟨ts₂, hts₂, hdescend.trans hdescend'⟩
    · exact .inr ⟨data, userId, t, rfl, hretimed.triggers.trans hts₁, rfl, hstems⟩

end Registry.Mutation

theorem Registry.Changed.executions {s s' : Automation} (h : Changed s s') :
    s'.executions = s.executions := by
  cases h with
  | nothing fired => exact fired.executions.eq_of_none
  | created id createdAt inserted stored told =>
    exact (retimed_of_told told).1.executions.trans stored.executions
  | amended found amends saved stored told =>
    exact (retimed_of_told told).1.executions.trans stored.executions
  | removed found quiet told deleted stored =>
    exact (stored.executions.trans (retimed_of_told told).1.executions).trans quiet.executions
  | kept found quiet told stored =>
    exact (stored.executions.trans (retimed_of_told told).1.executions).trans quiet.executions

namespace Operation

variable {s : Automation} {ts : Keyed Trigger}

theorem mutation_origin (m : Registry.Mutation) (hts : s.triggers = .memory ts)
    (htable : Trigger.Table s.supply ts) :
    (∃ ts', (m.operation.perform s).2.triggers = .memory ts' ∧ Trigger.Descend ts ts') ∨
      ∃ data userId t, m.operation = .create data userId ∧
        (m.operation.perform s).2.triggers = .memory (ts.put t.id t) ∧
        (Registry.create data userId s).1 = .ok t ∧
        t.StemsFrom data userId (Stamp.ofInstant s.clock.instant) := by
  rw [m.operation_run]
  obtain hdescend | ⟨data, userId, t, rfl, hts', hrun, hstems⟩ := m.perform_origin hts htable
  · exact .inl hdescend
  · rw [Registry.Mutation.perform, map_run] at hrun
    refine .inr ⟨data, userId, t, rfl, hts', ?_, hstems⟩
    cases hcreate : (Registry.create data userId s).1 with
    | error e =>
      rw [hcreate] at hrun
      cases hrun
    | ok t' =>
      rw [hcreate] at hrun
      cases hrun
      rfl

theorem grown_origin {s' : Automation} (h : Grown s s') (hts : s.triggers = .memory ts) :
    ∃ ts', s'.triggers = .memory ts' ∧ Trigger.Descend ts ts' := by
  have hrules := h.rules
  rw [hts] at hrules
  cases hts' : s'.triggers with
  | relation rows =>
    rw [hts'] at hrules
    cases hrules
  | memory ts' =>
    rw [hts'] at hrules
    exact ⟨ts', rfl, .ofRules hrules⟩

/-- After any operation, the stored triggers were stored before, except for one that it created. -/
theorem perform_origin (op : Operation) (hts : s.triggers = .memory ts)
    (htable : Trigger.Table s.supply ts) :
    (∃ ts', (op.perform s).2.triggers = .memory ts' ∧ Trigger.Descend ts ts') ∨
      ∃ data userId t, op = .create data userId ∧
        (op.perform s).2.triggers = .memory (ts.put t.id t) ∧
        (Registry.create data userId s).1 = .ok t ∧
        t.StemsFrom data userId (Stamp.ofInstant s.clock.instant) := by
  cases op with
  | create data userId => exact mutation_origin (.create data userId) hts htable
  | update id changes => exact mutation_origin (.update id changes) hts htable
  | toggle id => exact mutation_origin (.toggle id) hts htable
  | delete id => exact mutation_origin (.delete id) hts htable
  | listen listener => exact .inl ⟨ts, hts, .refl ts⟩
  | cancelRun id =>
    refine .inl ⟨ts, ?_, .refl ts⟩
    rw [perform, bind_get]
    cases s.orchestrator.cancel id with
    | error e => exact hts
    | ok o => exact hts
  | _ =>
    refine .inl (grown_origin (perform_grows ?_ s) hts)
    trivial

/-- No operation takes anything out of the log. -/
theorem perform_extends (op : Operation) (s : Automation) :
    s.executions.Extends (fun _ => True) (op.perform s).2.executions := by
  have hmutation : ∀ m : Registry.Mutation,
      s.executions.Extends (fun _ => True) (m.operation.perform s).2.executions := by
    intro m
    rw [m.operation_run, (Registry.perform_changed m s).executions]
    exact .refl _
  cases op with
  | create data userId => exact hmutation (.create data userId)
  | update id changes => exact hmutation (.update id changes)
  | toggle id => exact hmutation (.toggle id)
  | delete id => exact hmutation (.delete id)
  | listen listener => exact .refl _
  | cancelRun id =>
    rw [perform, bind_get]
    cases s.orchestrator.cancel id with
    | error e => exact .refl _
    | ok o => exact .refl _
  | _ =>
    refine (perform_grows ?_ s).executions
    trivial

end Operation

namespace Automation

/-- A trigger was created by one of the operations, and still has what it was created with. -/
def Recalls (s : Automation) (ops : List Operation) (t : Trigger) : Prop :=
  ∃ before data userId rest created, ops = before ++ .create data userId :: rest ∧
    (Registry.create data userId (s.after before)).1 = .ok created ∧ created.id = t.id ∧
    t.StemsFrom data userId (Stamp.ofInstant (s.after before).clock.instant)

theorem Recalls.later {s : Automation} {ops : List Operation} {t t' : Trigger}
    (h : s.Recalls ops t) (hamends : t.Amends t') (op : Operation) :
    s.Recalls (ops ++ [op]) t' := by
  obtain ⟨before, data, userId, rest, created, rfl, hcreate, hid, hstems⟩ := h
  refine ⟨before, data, userId, rest ++ [op], created, ?_, hcreate, hid.trans hamends.id.symm,
    hstems.ofAmends hamends⟩
  rw [List.append_assoc, List.cons_append]

theorem after_extends (s : Automation) (ops : List Operation) :
    s.executions.Extends (fun _ => True) (s.after ops).executions := by
  refine after_induction (P := fun s' => s.executions.Extends (fun _ => True) s'.executions)
    (.refl _) fun op _ s' h => h.trans (op.perform_extends s')

end Automation
end ProcessTriggers
