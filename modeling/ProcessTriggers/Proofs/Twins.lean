import ProcessTriggers.Proofs.Settled

/-!
Two programs that get the same calls, one with its triggers in memory and one with them in a
relation. A call fails in both or in neither, and the rows hold the triggers in memory with their
switches settled. So both find the same active triggers exactly if the switches in memory are clear.
-/

namespace ProcessTriggers

open Action Automation TriggerStore

namespace Action

variable {α β : Type} {S S' : Automation → Automation → Prop} {R : α → α → Prop}
  {Q : β → β → Prop}

/-- Two runs that end alike: both in an error or both with related results, and in related
states. -/
inductive EndAlike (S : Automation → Automation → Prop) (R : α → α → Prop) :
    Except Error α × Automation → Except Error α × Automation → Prop
  | error {e e' : Error} {s s' : Automation} (states : S s s') :
    EndAlike S R (.error e, s) (.error e', s')
  | ok {x x' : α} {s s' : Automation} (results : R x x') (states : S s s') :
    EndAlike S R (.ok x, s) (.ok x', s')

theorem EndAlike.states {r r' : Except Error α × Automation} (h : EndAlike S R r r') :
    S r.2 r'.2 := by
  cases h with
  | error states => exact states
  | ok results states => exact states

theorem EndAlike.bind {a a' : Action α} {f f' : α → Action β} {s s' : Automation}
    (h : EndAlike S R (a s) (a' s')) (hS : ∀ s s', S s s' → S' s s')
    (hf : ∀ x x' s s', R x x' → S s s' → EndAlike S' Q (f x s) (f' x' s')) :
    EndAlike S' Q ((a >>= f) s) ((a' >>= f') s') := by
  rw [bind_run, bind_run]
  generalize a s = r, a' s' = r' at h
  cases h with
  | error states => exact .error (hS _ _ states)
  | ok results states => exact hf _ _ _ _ results states

/-- Pure outcomes that are alike end alike. -/
theorem ofExcept_endsAlike {γ : Type} {s s' : Automation} (h : S s s') (f : α → γ)
    {r r' : Except Error α} (hr : r'.map f = r.map f) :
    EndAlike S (fun x x' => r = .ok x ∧ f x' = f x) (ofExcept r s) (ofExcept r' s') := by
  rw [ofExcept_run, ofExcept_run]
  cases r with
  | error e =>
    cases r' with
    | error e' => exact .error h
    | ok x' => cases hr
  | ok x =>
    cases r' with
    | error e' => cases hr
    | ok x' => exact .ok ⟨rfl, Except.ok.inj hr⟩ h

end Action

namespace Automation

/-- Two programs that differ in their triggers at most: the rows of the second hold the settled
triggers of the first. -/
structure Twins (ts : Keyed Trigger) (rows : List Entries) (s s' : Automation) : Prop where
  clock : s'.clock = s.clock
  supply : s'.supply = s.supply
  orchestrator : s'.orchestrator = s.orchestrator
  unbroken : s.broken = []
  unbroken' : s'.broken = []
  memory : s.triggers = .memory ts
  relation : s'.triggers = .relation rows
  mirrors : Mirrors (Keyed.settled ts) rows
  timely : (Stamp.ofInstant s.clock.instant).IsUtc

def Twinned (s s' : Automation) : Prop := ∃ ts rows, Twins ts rows s s'

theorem Unused.twins {s : Automation} (h : Unused s) (hempty : s.triggers = .memory [])
    (hclock : (Stamp.ofInstant s.clock.instant).IsUtc) :
    Twins [] [] s { s with triggers := .relation [] } where
  clock := rfl
  supply := rfl
  orchestrator := rfl
  unbroken := h.unbroken
  unbroken' := h.unbroken
  memory := hempty
  relation := rfl
  mirrors := .nil
  timely := hclock

namespace Twins

variable {ts : Keyed Trigger} {rows : List Entries} {s s' s₁ s₁' : Automation} {id : Value}
  {t t' : Trigger}

theorem twinned (h : Twins ts rows s s') : Twinned s s' := ⟨ts, rows, h⟩

theorem retimed (h : Twins ts rows s s') (hs : Retimed s s₁) (hs' : Retimed s' s₁') :
    Twins ts rows s₁ s₁' where
  clock := by rw [hs'.clock, hs.clock, h.clock]
  supply := by rw [hs'.supply, hs.supply, h.supply]
  orchestrator := by rw [hs'.orchestrator, hs.orchestrator, h.orchestrator]
  unbroken := hs.broken.trans h.unbroken
  unbroken' := hs'.broken.trans h.unbroken'
  memory := hs.triggers.trans h.memory
  relation := hs'.triggers.trans h.relation
  mirrors := h.mirrors
  timely := hs.clock ▸ h.timely

theorem quiet (h : Twins ts rows s s') (hs : Quiet s s₁) (hs' : Quiet s' s₁') :
    Twins ts rows s₁ s₁' := h.retimed (.ofQuiet hs) (.ofQuiet hs')

/-- Both draw the same identifiers. -/
theorem withSupply (h : Twins ts rows s s') (supply : Supply) :
    Twins ts rows { s with supply } { s' with supply } := { h with supply := rfl }

theorem withStores (h : Twins ts rows s s') {ts₁ : Keyed Trigger} {rows₁ : List Entries}
    (hmirrors : Mirrors (Keyed.settled ts₁) rows₁) :
    Twins ts₁ rows₁ { s with triggers := .memory ts₁ } { s' with triggers := .relation rows₁ } :=
  { h with memory := rfl, relation := rfl, mirrors := hmirrors }

end Twins

/-! Calls of the store that are answered. -/

/-- A trigger that a relation can take in is written, if the store has nothing against it. -/
theorem writing_answers (c : StorageCall) (write : TriggerStore → Except Error TriggerStore)
    {s : Automation} (hbroken : s.broken = []) {t : Trigger} (ht : t.settled.Storable)
    {store : TriggerStore} (hstore : write s.triggers = .ok store) :
    ∃ s', reaching c .triggers (t.toRow.map fun _ => ()) (do
        let store ← Action.ofExcept (write (← get).triggers)
        modify ({ · with triggers := store })
        return t) s = (.ok t, s') ∧ Quiet { s with triggers := store } s' := by
  have hlookup : s.broken.lookup c = none := by rw [hbroken, List.lookup_nil]
  obtain ⟨row, hrow, -⟩ := ht.toRow
  have hprepared : (t.toRow.map fun _ => ()) = .ok () := by
    rw [← t.toRow_settled, hrow]
    rfl
  obtain ⟨s₁, hrun, hquiet⟩ := reaching_answers c .triggers (do
    let store ← Action.ofExcept (write (← get).triggers)
    modify ({ · with triggers := store })
    return t) hlookup
  rw [bind_get, hquiet.triggers, bind_ofExcept hstore] at hrun
  rw [hprepared]
  exact ⟨_, hrun, hquiet.withTriggers store⟩

namespace Twins

variable {ts : Keyed Trigger} {rows : List Entries} {s s' : Automation} {id : Value}
  {t t' : Trigger}

theorem make_endsAlike {α : Type} (h : Twins ts rows s s')
    (f : Supply → Stamp → Except Error α × Supply) :
    EndAlike (Twins ts rows)
      (fun x x' => (∃ supply, f s.supply (Stamp.ofInstant s.clock.instant) = (.ok x, supply)) ∧
        x' = x) (make f s) (make f s') := by
  have hsame : f s'.supply (Stamp.ofInstant s'.clock.instant) =
      f s.supply (Stamp.ofInstant s.clock.instant) := by rw [h.supply, h.clock]
  rw [make, bind_get, bind_get, hsame]
  cases f s.supply (Stamp.ofInstant s.clock.instant) with
  | mk r supply =>
    have hdrawn := h.withSupply supply
    cases r with
    | error e => exact .error hdrawn
    | ok x => exact .ok ⟨⟨supply, rfl⟩, rfl⟩ hdrawn

theorem insertTrigger_endsAlike (h : Twins ts rows s s') (ht : t.settled.Storable)
    (hnew : t.id ∉ ts.keys) :
    EndAlike Twinned (fun _ _ => True) (insertTrigger t s) (insertTrigger t s') := by
  obtain ⟨rows₁, hmemory, hrelation, hmirrors⟩ := h.mirrors.insert_settled ht hnew
  obtain ⟨s₁, hrun, hquiet⟩ := writing_answers .insert (·.insert t) h.unbroken ht
    (h.memory ▸ hmemory)
  obtain ⟨s₁', hrun', hquiet'⟩ := writing_answers .insert (·.insert t) h.unbroken' ht
    (h.relation ▸ hrelation)
  rw [insertTrigger, hrun, hrun']
  exact .ok trivial ((h.withStores hmirrors).quiet hquiet hquiet').twinned

theorem saveTrigger_endsAlike (h : Twins ts rows s s') (ht : t.settled.Storable)
    (hmem : t.id ∈ ts.keys) (hsame : t'.settled = t.settled) :
    EndAlike Twinned (fun _ _ => True) (saveTrigger t s) (saveTrigger t' s') := by
  obtain ⟨rows₁, hmemory, hrelation, hmirrors⟩ := h.mirrors.save_settled ht hmem hsame
  obtain ⟨s₁, hrun, hquiet⟩ := writing_answers .save (·.save t) h.unbroken ht
    (h.memory ▸ hmemory)
  obtain ⟨s₁', hrun', hquiet'⟩ := writing_answers .save (·.save t') h.unbroken'
    (hsame ▸ ht) (h.relation ▸ hrelation)
  rw [saveTrigger, saveTrigger, hrun, hrun']
  exact .ok trivial ((h.withStores hmirrors).quiet hquiet hquiet').twinned

/-- A trigger is found in both, in the second one settled, or in neither. -/
theorem findOne_endsAlike (h : Twins ts rows s s') (hid : id.IsText) :
    EndAlike (Twins ts rows) (fun t t' => ts.get? id = some t ∧ t' = t.settled)
      (Registry.findOne id s) (Registry.findOne id s') := by
  obtain ⟨s₁, hget, hquiet⟩ := getTrigger_answers h.unbroken id
  obtain ⟨s₁', hget', hquiet'⟩ := getTrigger_answers h.unbroken' id
  have hfound : (TriggerStore.memory ts).get id = .ok (ts.get? id) := by
    rw [TriggerStore.get, asKey_isText hid]
    rfl
  have hfound' : (TriggerStore.relation rows).get id = .ok ((ts.get? id).map Trigger.settled) := by
    rw [(h.mirrors.get hid).2, Keyed.get?_settled]
  rw [h.memory, hfound] at hget
  rw [h.relation, hfound'] at hget'
  have htwins := h.quiet hquiet hquiet'
  rw [Registry.findOne, bind_ok hget, bind_ok hget']
  cases ts.get? id with
  | none => exact .error htwins
  | some t => exact .ok ⟨rfl, rfl⟩ htwins

/-- What is found in memory can be stored in a relation, but for its switch. -/
theorem stored (h : Twins ts rows s s') (hget : ts.get? id = some t) :
    t.settled.Storable ∧ t.id ∈ ts.keys := by
  have hsettled : (Keyed.settled ts).get? id = some t.settled := by
    rw [Keyed.get?_settled, hget]
    rfl
  have hmem := h.mirrors.texts.get?_eq_some_iff.mp hsettled
  obtain ⟨hown, hstorable⟩ := h.mirrors.mirrored_of_mem _ hmem
  have hkey := Keyed.mem_keys hmem
  rw [Keyed.keys_settled] at hkey
  exact ⟨hstorable, hown ▸ hkey⟩

end Twins

theorem Twinned.log_endsAlike {s s' : Automation} (h : Twinned s s') (c : Channel)
    (level : Log.Level) (message message' : String) :
    EndAlike Twinned (fun _ _ => True) (log c level message s) (log c level message' s') := by
  obtain ⟨ts, rows, htwins⟩ := h
  obtain ⟨s₁, hrun, hquiet⟩ := log_quiet c level message s
  obtain ⟨s₁', hrun', hquiet'⟩ := log_quiet c level message' s'
  rw [hrun, hrun']
  exact .ok trivial (htwins.quiet hquiet hquiet').twinned

end Automation

/-- What is known of definitions depends on the orchestrator only. -/
theorem Registry.requireDefinition_endsAlike {S : Automation → Automation → Prop}
    {s s' : Automation} (h : S s s') (horchestrator : s'.orchestrator = s.orchestrator)
    (id : Value) : EndAlike S (fun _ _ => True) (requireDefinition id s)
      (requireDefinition id s') := by
  have hfind : ∀ s : Automation, findDefinition id s = (s.orchestrator.findDefinition id, s) :=
    fun s => bind_get _ s
  rw [requireDefinition, bind_run, bind_run, hfind, hfind, horchestrator]
  cases s.orchestrator.findDefinition id with
  | error e => exact .error h
  | ok d =>
    cases d with
    | none => exact .error h
    | some d => exact .ok trivial h

namespace Registry.Mutation

variable {ts : Keyed Trigger} {rows : List Entries} {s s' : Automation} {t t' : Trigger}

theorem saveChanged_endsAlike (h : Twins ts rows s s') (ht : t.settled.Storable)
    (hmem : t.id ∈ ts.keys) (hsame : t'.settled = t.settled) :
    EndAlike Twinned (fun _ _ => True) (saveChanged t s) (saveChanged t' s') := by
  rw [saveChanged, saveChanged, bind_ok (now_run s), bind_ok (now_run s'), h.clock]
  have htouched : ∀ now, ({ t' with updatedAt := now } : Trigger).settled =
      ({ t with updatedAt := now } : Trigger).settled := fun now => by
    rw [Trigger.eq_of_settled hsame]
    simp only [Trigger.settled, Value.bool.inj (congrArg Trigger.isActive hsame)]
  refine (h.saveTrigger_endsAlike (ht.touched h.timely) hmem (htouched _)).bind
    (fun _ _ h => h) fun _ _ _ _ _ h => ?_
  exact .ok trivial h

theorem update_endsAlike (h : Twins ts rows s s') {id : Value} (hid : id.IsText) {changes : Entries}
    (hchanges : ∀ e ∈ changes, e.2.Suits e.1) :
    EndAlike Twinned (fun _ _ => True) ((update id changes).prepare s)
      ((update id changes).prepare s') := by
  refine (h.findOne_endsAlike hid).bind (fun _ _ => Twins.twinned) ?_
  rintro t _ s₁ s₁' ⟨hget, rfl⟩ h₁
  obtain ⟨ht, hmem⟩ := h₁.stored hget
  refine (ofExcept_endsAlike h₁ Trigger.settled (t.applyChanges_settled changes)).bind
    (fun _ _ => Twins.twinned) ?_
  rintro t₁ t₁' s₂ s₂' ⟨hchanged, hsame⟩ h₂
  have hid₁ : t₁.id = t.id := (Trigger.applyChanges_amends hchanged).id
  have hsaved : ∀ {s₃ s₃'}, Twins ts rows s₃ s₃' →
      EndAlike Twinned (fun _ _ => True) (saveChanged t₁ s₃) (saveChanged t₁' s₃') := fun h₃ =>
    saveChanged_endsAlike h₃ (ht.applyChanges hchanges hchanged) (hid₁ ▸ hmem) hsame
  -- A new definition is looked for in both or in neither, and it is the same one.
  have hdefinition : t₁'.definitionId = t₁.definitionId := by rw [Trigger.eq_of_settled hsame]
  dsimp only
  split
  · rw [hdefinition]
    exact (requireDefinition_endsAlike h₂ h₂.orchestrator _).bind (fun _ _ => Twins.twinned)
      fun _ _ _ _ _ h₃ => hsaved h₃
  · exact hsaved h₂

theorem toggle_endsAlike (h : Twins ts rows s s') {id : Value} (hid : id.IsText) :
    EndAlike Twinned (fun _ _ => True) ((toggle id).prepare s) ((toggle id).prepare s') := by
  refine (h.findOne_endsAlike hid).bind (fun _ _ => Twins.twinned) ?_
  rintro t _ s₁ s₁' ⟨hget, rfl⟩ h₁
  obtain ⟨ht, hmem⟩ := h₁.stored hget
  have htoggled : t.toggled.settled.Storable := { ht with isActive := ⟨_, rfl⟩ }
  refine (saveChanged_endsAlike h₁ htoggled hmem rfl).bind (fun _ _ h => h) ?_
  intro saved saved' s₂ s₂' _ h₂
  refine (h₂.log_endsAlike .registry Log.info _ _).bind (fun _ _ h => h) ?_
  exact fun _ _ _ _ _ h₃ => .ok trivial h₃

/-- What is made for a creation is the same trigger in both. -/
theorem insertNew_endsAlike (h : Twins ts rows s s') (htable : Trigger.Table s.supply ts)
    {data : Entries} (hallowed : data.keys.filter (!Trigger.createFields.contains ·) = [])
    (hdata : ∀ e ∈ data, e.2.Suits e.1) {userId : Value} (huser : userId = .null ∨ userId.IsText)
    (definitionId : Value) :
    EndAlike Twinned (fun _ _ => True) (insertNew data userId definitionId s)
      (insertNew data userId definitionId s') := by
  refine (h.make_endsAlike _).bind (fun _ _ => Twins.twinned) ?_
  rintro _ t s₁ s₁' ⟨⟨supply, hcreate⟩, rfl⟩ h₁
  have ht := Trigger.storable_of_created hallowed hcreate hdata huser h.timely
  have hnoId : (data.put "created_by_id" userId).get? "id" = none :=
    get?_owned_eq_none hallowed (by decide) (by decide)
  have hnew : t.id ∉ ts.keys := by
    obtain ⟨type, -, rfl⟩ := Trigger.create_eq_made hnoId hcreate
    exact htable.next_not_mem
  refine (h₁.insertTrigger_endsAlike ht hnew).bind (fun _ _ h => h) ?_
  intro saved saved' s₂ s₂' _ h₂
  exact (h₂.log_endsAlike .registry Log.info _ _).bind (fun _ _ h => h)
    fun _ _ _ _ _ h₃ => .ok trivial h₃

theorem create_endsAlike (h : Twins ts rows s s') (htable : Trigger.Table s.supply ts)
    {data : Entries} (hdata : ∀ e ∈ data, e.2.Suits e.1) {userId : Value}
    (huser : userId = .null ∨ userId.IsText) :
    EndAlike Twinned (fun _ _ => True) ((create data userId).prepare s)
      ((create data userId).prepare s') := by
  rw [prepare]
  dsimp only
  split
  · exact .error h.twinned
  · next hallowed =>
    rw [Bool.not_eq_true', Bool.not_eq_false, List.isEmpty_iff] at hallowed
    -- Until something is made, neither state changes.
    obtain ⟨S, hS⟩ : ∃ S : Automation → Automation → Prop, S = fun a a' => a = s ∧ a' = s' :=
      ⟨_, rfl⟩
    have hsame : S s s' := hS ▸ ⟨rfl, rfl⟩
    have htwinned : ∀ a a', S a a' → Twinned a a' := by
      rintro a a' ha
      obtain ⟨rfl, rfl⟩ := hS ▸ ha
      exact h.twinned
    refine (ofExcept_endsAlike hsame (fun v => v) rfl).bind htwinned ?_
    rintro _ definitionId a a' ⟨-, rfl⟩ ha
    obtain ⟨rfl, rfl⟩ := hS ▸ ha
    refine (requireDefinition_endsAlike hsame h.orchestrator definitionId).bind htwinned ?_
    intro _ _ a a' _ ha
    obtain ⟨rfl, rfl⟩ := hS ▸ ha
    exact insertNew_endsAlike h htable hallowed hdata huser definitionId

end Registry.Mutation

namespace Operation

/-- An edit with values of the types that are meant for them; only what is given for a switch may be
of any type. -/
def IsTyped : Operation → Prop
  | create data userId => (∀ e ∈ data, e.2.Suits e.1) ∧ (userId = .null ∨ userId.IsText)
  | update id changes => id.IsText ∧ ∀ e ∈ changes, e.2.Suits e.1
  | toggle id => id.IsText
  | setClock t => (Stamp.ofInstant t.instant).IsUtc
  | _ => False

theorem IsTyped.isEdit {op : Operation} (h : op.IsTyped) : op.IsEdit := by
  cases op <;> first | exact trivial | exact h

end Operation

namespace Automation

variable {s s' : Automation} {ts : Keyed Trigger} {rows : List Entries}

/-- A call of the registry leaves twins if its preparation does. -/
theorem Twinned.ofPrepared {m : Registry.Mutation} (hm : m.operation.IsEdit)
    (h : EndAlike Twinned (fun _ _ => True) (m.prepare s) (m.prepare s')) :
    Twinned (m.operation.perform s).2 (m.operation.perform s').2 := by
  obtain ⟨ts, rows, htwins⟩ := h.states
  rw [m.operation_run, m.operation_run]
  exact (htwins.retimed (Registry.Mutation.perform_edit hm s)
    (Registry.Mutation.perform_edit hm s')).twinned

/-- An edit leaves twins. -/
theorem Twinned.perform (h : Twinned s s') (hs : Catalogued 0 s) {op : Operation}
    (hop : op.IsTyped) : Twinned (op.perform s).2 (op.perform s').2 := by
  obtain ⟨ts, rows, htwins⟩ := h
  cases op with
  | create data userId =>
    have hstore := hs.store
    rw [htwins.memory] at hstore
    exact ofPrepared (m := .create data userId) trivial
      (Registry.Mutation.create_endsAlike htwins hstore hop.1 hop.2)
  | update id changes =>
    exact ofPrepared (m := .update id changes) trivial
      (Registry.Mutation.update_endsAlike htwins hop.1 hop.2)
  | toggle id =>
    exact ofPrepared (m := .toggle id) trivial (Registry.Mutation.toggle_endsAlike htwins hop)
  | setClock t => exact ⟨ts, rows, { htwins with clock := rfl, timely := hop }⟩
  | _ => exact hop.elim

/-- Programs that start as twins remain twins. -/
theorem Twinned.after (h : Twinned s s') (hs : Catalogued 0 s) {ops : List Operation}
    (hops : ∀ op ∈ ops, op.IsTyped) : Twinned (s.after ops) (s'.after ops) := by
  induction ops generalizing s s' with
  | nil => exact h
  | cons op ops ih =>
    exact ih (h.perform hs (hops op List.mem_cons_self)) (op.perform_catalogues s hs)
      fun op' hop' => hops op' (List.mem_cons_of_mem op hop')

end Automation

namespace Trigger

/-- The trigger is in a workspace, or in any one if none is given, and of a type. -/
def IsIn (t : Trigger) (type : TriggerType) (workspaceId : Value) : Prop :=
  (Registry.given workspaceId).all t.workspaceId.equal = true ∧ t.type.is type = true

theorem isAmong_active {t : Trigger} {type : TriggerType} {workspaceId : Value} :
    t.isAmong { workspaceId := Registry.given workspaceId
                type := some type
                isActive := some (.bool true) } = true ↔
      t.IsIn type workspaceId ∧ t.isActive.equal (.bool true) = true := by
  simp only [isAmong, IsIn, Option.all_some, Option.all_none, Bool.and_true, Bool.and_eq_true]

end Trigger

namespace Automation

/-- Two programs find the same triggers active. -/
def SameActive (type : TriggerType) (workspaceId : Value) (s s' : Automation) : Prop :=
  ∃ found found', (Registry.findActive type workspaceId s).1 = .ok found ∧
    (Registry.findActive type workspaceId s').1 = .ok found' ∧
    ∀ id, id ∈ found.map (·.id) ↔ id ∈ found'.map (·.id)

variable {s s' : Automation} {ts : Keyed Trigger} {rows : List Entries}

/-- In memory those are active whose switch equals true, and in a relation those whose switch is
truthy. -/
theorem Twins.findActive_run (h : Twins ts rows s s') (htable : Trigger.Table s.supply ts)
    (type : TriggerType) {workspaceId : Value}
    (hworkspace : workspaceId = .null ∨ workspaceId.IsText) :
    ∃ found found', (Registry.findActive type workspaceId s).1 = .ok found ∧
      (Registry.findActive type workspaceId s').1 = .ok found' ∧
      (∀ t, t ∈ found ↔ t ∈ ts.items ∧ t.IsIn type workspaceId ∧
        t.isActive.equal (.bool true) = true) ∧
      ∀ id, id ∈ found'.map (·.id) ↔ ∃ t ∈ ts.items, t.id = id ∧ t.IsIn type workspaceId ∧
        t.isActive.truthy = true := by
  obtain ⟨f, hf⟩ : ∃ f : TriggerFilter, f =
      { workspaceId := Registry.given workspaceId, type, isActive := some (.bool true) } :=
    ⟨_, rfl⟩
  have hproper : (Call.find f).Proper (.memory (Keyed.settled ts)) := by
    rw [hf]
    refine ⟨fun v hv => ?_, fun v hv => ⟨true, (Option.some.inj hv).symm⟩, fun v hv => nomatch hv⟩
    rcases hworkspace with rfl | htext
    · cases hv
    · obtain ⟨text, rfl, hhalf⟩ := htext
      exact Option.some.inj hv ▸ ⟨text, rfl, hhalf⟩
  obtain ⟨found, hfind, hperm, -⟩ := htable.find_run f
  obtain ⟨settled, found', hsettled, hfind', hperm', -⟩ := h.mirrors.find hproper
  obtain ⟨s₁, hrun, -⟩ := findTriggers_answers (f := f) h.unbroken (h.memory ▸ hfind)
  obtain ⟨s₁', hrun', -⟩ := findTriggers_answers (f := f) h.unbroken' (h.relation ▸ hfind')
  rw [hf] at hrun hrun'
  refine ⟨found, found', congrArg Prod.fst hrun, congrArg Prod.fst hrun', fun t => ?_, fun id => ?_⟩
  · rw [hperm.mem_iff, List.mem_filter, hf, Trigger.isAmong_active]
  · have hperm₂ := hperm'.symm.trans (Value.sortNewestFirst_perm hsettled)
    rw [List.mem_map]
    simp only [hperm₂.mem_iff, List.mem_filter, Keyed.items_settled, List.mem_map, hf,
      Trigger.isAmong_active]
    constructor
    · rintro ⟨_, ⟨⟨t, ht, rfl⟩, hin, hactive⟩, rfl⟩
      have htruthy : t.settled.isActive.truthy = true := Value.truthy_of_equal_true hactive
      exact ⟨t, ht, rfl, hin, htruthy⟩
    · rintro ⟨t, ht, rfl, hin, hactive⟩
      refine ⟨t.settled, ⟨⟨t, ht, rfl⟩, hin, ?_⟩, rfl⟩
      rw [Trigger.settled, hactive]
      rfl

/-- Twins find the same triggers active exactly if the switches of these are clear. -/
theorem Twins.sameActive_iff (h : Twins ts rows s s') (htable : Trigger.Table s.supply ts)
    (type : TriggerType) {workspaceId : Value}
    (hworkspace : workspaceId = .null ∨ workspaceId.IsText) :
    SameActive type workspaceId s s' ↔
      ∀ t ∈ ts.items, t.IsIn type workspaceId → t.isActive.IsClear := by
  obtain ⟨found, found', hrun, hrun', hfound, hfound'⟩ := h.findActive_run htable type hworkspace
  have hsame : SameActive type workspaceId s s' ↔
      ∀ id, id ∈ found.map (·.id) ↔ id ∈ found'.map (·.id) := by
    constructor
    · rintro ⟨found₁, found₁', hrun₁, hrun₁', hids⟩
      obtain rfl := Except.ok.inj (hrun.symm.trans hrun₁)
      obtain rfl := Except.ok.inj (hrun'.symm.trans hrun₁')
      exact hids
    · exact fun hids => ⟨found, found', hrun, hrun', hids⟩
  rw [hsame]
  constructor
  · intro hids t ht hin hactive
    obtain ⟨t', ht', heq⟩ := List.mem_map.mp ((hids t.id).mpr ((hfound' t.id).mpr
      ⟨t, ht, rfl, hin, hactive⟩))
    obtain ⟨hitem, -, hequal⟩ := (hfound t').mp ht'
    exact htable.item_unique hitem ht heq ▸ hequal
  · intro hclear id
    rw [hfound' id, List.mem_map]
    constructor
    · rintro ⟨t, ht, rfl⟩
      obtain ⟨hitem, hin, hequal⟩ := (hfound t).mp ht
      exact ⟨t, hitem, rfl, hin, Value.truthy_of_equal_true hequal⟩
    · rintro ⟨t, hitem, rfl, hin, hactive⟩
      exact ⟨t, (hfound t).mpr ⟨hitem, hin, hclear t hitem hin hactive⟩, rfl⟩

/-- The readers of a switch agree about a trigger exactly if its switch is not truthy without being
equal to true. Every switch is one that a call gave or a boolean. A program that keeps its triggers
in a relation and gets the same calls, with values of the right types but for the switches, finds
the same triggers active exactly if the switches of these are so. -/
theorem readers_agree_iff {s : Automation} (hunused : Unused s) (hempty : s.triggers = .memory [])
    {ops : List Operation} (hops : ∀ op ∈ ops, op.IsEdit) :
    ∃ ts, (s.after ops).triggers = .memory ts ∧
      (∀ t ∈ ts.items, (∃ b, t.isActive = .bool b) ∨ ∃ op ∈ ops, op.Gives t.isActive) ∧
      (∀ t ∈ ts.items, ∀ type, t.type = .known type →
        t.workspaceId.equal t.workspaceId = true →
          ((s.after ops).Agree t ↔ t.isActive.IsClear)) ∧
      ((Stamp.ofInstant s.clock.instant).IsUtc → (∀ op ∈ ops, op.IsTyped) →
        ∀ type workspaceId, workspaceId = .null ∨ workspaceId.IsText →
          (SameActive type workspaceId (s.after ops)
              ({ s with triggers := .relation [] }.after ops) ↔
            ∀ t ∈ ts.items, t.IsIn type workspaceId → t.isActive.IsClear)) := by
  have hs := after_catalogued hunused ops
  have hbroken : (s.after ops).broken = [] := Ongoing.unbroken ⟨s, ops, hunused, rfl⟩
  obtain ⟨ts, hts, hswitches⟩ := after_switches hunused hempty hops
  have hstore := hs.store
  rw [hts] at hstore
  have htable : Trigger.Table (s.after ops).supply ts := hstore
  refine ⟨ts, hts, fun t ht => ?_, fun t ht type htype hworkspace => ?_,
    fun hclock htyped type workspaceId hworkspace => ?_⟩
  · obtain ⟨key, hkey⟩ := Keyed.mem_items.mp ht
    exact hswitches _ hkey
  · exact agree_iff hs hbroken hts ht htype hworkspace
  · obtain ⟨ts', rows, htwins⟩ :=
      Twinned.after (hunused.twins hempty hclock).twinned hunused.catalogued htyped
    obtain rfl := TriggerStore.memory.inj (hts.symm.trans htwins.memory)
    exact htwins.sameActive_iff htable type hworkspace

/-- A program that knows one definition, and no triggers. -/
def oneDefinition : Automation where
  clock := ⟨63000000000000000, some 0⟩
  orchestrator := { definitions := [(.text "d1", ⟨.text "d1", .text "w1", .null, .text "k1"⟩)] }

/-- The creation of a trigger that goes off every minute, with a text for its switch. -/
def minutely : Operation :=
  .create [("workspace_id", .text "w1"), ("process_definition_id", .text "d1"),
    ("trigger_type", .text "cron"), ("conditions", .object [("expression", .text "* * * * *")]),
    ("is_active", .text "yes")] (.text "u1")

theorem minutely_isTyped : minutely.IsTyped := by
  have htext : ∀ s : String, Text.hasHalf s = false → (Value.text s).IsText := fun s hs =>
    ⟨s, rfl, hs⟩
  have hconditions : Json.Exact (.object [("expression", .text "* * * * *")]) :=
    .object (List.nodup_singleton _) (fun e he => List.mem_singleton.mp he ▸ by decide)
      fun e he => List.mem_singleton.mp he ▸ .text (by decide)
  refine ⟨fun e he => ?_, .inr (htext "u1" (by decide))⟩
  simp only [List.mem_cons, List.not_mem_nil, or_false] at he
  rcases he with rfl | rfl | rfl | rfl | rfl
  · exact htext "w1" (by decide)
  · exact htext "d1" (by decide)
  · exact htext "cron" (by decide)
  · exact .inr (Value.isJsonObject_iff.mpr ⟨⟨_, rfl⟩, hconditions⟩)
  · trivial

/-- With a text for its switch, a trigger goes off on a tick but is not among the active ones, as it
is in a relation. -/
theorem readers_agree_iff_minutely : ∃ t,
    (oneDefinition.after [minutely]).triggers = .memory [(.text "id-1", t)] ∧
      t.isActive = .text "yes" ∧ ¬(oneDefinition.after [minutely]).Agree t ∧
      ¬SameActive .cron (.text "w1") (oneDefinition.after [minutely])
        ({ oneDefinition with triggers := .relation [] }.after [minutely]) := by
  have hunused : Unused oneDefinition := ⟨rfl, .inl rfl, .inl rfl, rfl⟩
  have htyped : ∀ op ∈ [minutely], op.IsTyped := fun op hop =>
    List.mem_singleton.mp hop ▸ minutely_isTyped
  obtain ⟨ts, hts, -, hagree, hsame⟩ := readers_agree_iff hunused rfl fun op hop =>
    (htyped op hop).isEdit
  obtain ⟨t, hstored, htype, hworkspace, hactive⟩ : ∃ t,
      (oneDefinition.after [minutely]).triggers = .memory [(.text "id-1", t)] ∧
        t.type = .known .cron ∧ t.workspaceId = .text "w1" ∧ t.isActive = .text "yes" :=
    ⟨_, rfl, rfl, rfl, rfl⟩
  obtain rfl := TriggerStore.memory.inj (hts.symm.trans hstored)
  have hunclear : ¬t.isActive.IsClear := hactive ▸ by decide
  have hmem : t ∈ Keyed.items [(Value.text "id-1", t)] := List.mem_singleton_self t
  refine ⟨t, hstored, hactive, fun h => ?_, fun h => ?_⟩
  · exact hunclear ((hagree t hmem .cron htype (hworkspace ▸ by decide)).mp h)
  · have hin : t.IsIn .cron (.text "w1") := by
      rw [Trigger.IsIn, hworkspace, htype]
      decide
    have hiff := hsame ⟨rfl, by decide⟩ htyped .cron (.text "w1") (.inr ⟨"w1", rfl, by decide⟩)
    exact hunclear (hiff.mp h t hmem hin)

end Automation
end ProcessTriggers
