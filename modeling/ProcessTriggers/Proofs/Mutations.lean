import ProcessTriggers.Proofs.Entries
import ProcessTriggers.Proofs.Silence
import ProcessTriggers.Proofs.Tables
import ProcessTriggers.Registry

/-!
The calls of the registry that change the stored triggers. Each of them first finds everything that
can be wrong and writes what is to be written, then tells the listener, and only a removal has
something left to do after that.
-/

namespace ProcessTriggers

open Action Automation

namespace Trigger

/-- A new trigger without an identifier and a time of its own takes the next one of the supply and
the present. -/
theorem create_cases (supply : Supply) (now : Stamp) {es : Entries} (hid : es.get? "id" = none)
    (hcreated : es.get? "created_at" = none) :
    (∃ e supply', create supply now es = (.error e, supply') ∧ supply.drawn ≤ supply'.drawn) ∨
      ∃ t, create supply now es = (.ok t, ⟨supply.drawn + 1⟩) ∧
        t.id = .text (Supply.idText (supply.drawn + 1)) ∧ t.createdAt = .stamp now := by
  rw [create]
  split
  · exact Or.inl ⟨_, supply, rfl, Nat.le_refl _⟩
  · exact Or.inl ⟨_, supply, rfl, Nat.le_refl _⟩
  · rw [hid]
    dsimp only
    cases htype : newType (Value.entry es "trigger_type") with
    | error e => exact Or.inl ⟨e, ⟨supply.drawn + 1⟩, rfl, Nat.le_succ _⟩
    | ok type =>
      refine Or.inr ⟨_, rfl, rfl, ?_⟩
      exact congrArg (fun v => v.getD (.stamp now)) hcreated

/-- A new trigger has the fields that were given for it; those without a default were given. -/
theorem create_eq_ok {supply supply' : Supply} {now : Stamp} {es : Entries} {t : Trigger}
    (h : create supply now es = (.ok t, supply')) :
    (∀ name ∈ requiredNames, name ∈ es.keys) ∧
      t.workspaceId = Value.entry es "workspace_id" ∧
      t.definitionId = Value.entry es "process_definition_id" ∧
      newType (Value.entry es "trigger_type") = .ok t.type ∧
      t.createdById = Value.entry es "created_by_id" ∧
      t.triggerCount = Value.entryOr es "trigger_count" (.int 0) := by
  rw [create] at h
  split at h
  · cases h
  · cases h
  · next hrequired =>
    cases htype : newType (Value.entry es "trigger_type") with
    | error e =>
      rw [htype] at h
      cases congrArg Prod.fst h
    | ok type =>
      rw [htype] at h
      obtain rfl := Except.ok.inj (congrArg Prod.fst h)
      refine ⟨fun name hname => ?_, rfl, rfl, rfl, rfl, rfl⟩
      have hgiven := List.find?_eq_none.mp hrequired name hname
      rwa [Bool.not_eq_true', Bool.not_eq_false, List.contains_iff_mem] at hgiven

end Trigger

namespace Automation

variable {s : Automation}

theorem insertTrigger_cases (t : Trigger) (s : Automation) :
    (∃ e s', insertTrigger t s = (.error e, s') ∧ Quiet s s') ∨
      ∃ store s', insertTrigger t s = (.ok t, s') ∧ s.triggers.insert t = .ok store ∧
        Quiet { s with triggers := store } s' := by
  obtain ⟨e, s₁, hrun, hquiet⟩ | ⟨s₁, hrun, hquiet⟩ :=
    reaching_cases .insert .triggers (t.toRow.map fun _ => ()) (do
      let store ← Action.ofExcept ((← get).triggers.insert t)
      modify ({ · with triggers := store })
      return t) s
  · exact Or.inl ⟨e, s₁, hrun, hquiet⟩
  · rw [bind_get, hquiet.triggers] at hrun
    cases h : s.triggers.insert t with
    | error e => exact Or.inl ⟨e, s₁, hrun.trans (bind_ofExcept_error h _ _), hquiet⟩
    | ok store =>
      refine Or.inr ⟨store, _, hrun.trans (bind_ofExcept h _ _), rfl, ?_⟩
      exact { hquiet with triggers := rfl }

theorem saveTrigger_cases (t : Trigger) (s : Automation) :
    (∃ e s', saveTrigger t s = (.error e, s') ∧ Quiet s s') ∨
      ∃ store s', saveTrigger t s = (.ok t, s') ∧ s.triggers.save t = .ok store ∧
        Quiet { s with triggers := store } s' := by
  obtain ⟨e, s₁, hrun, hquiet⟩ | ⟨s₁, hrun, hquiet⟩ :=
    reaching_cases .save .triggers (t.toRow.map fun _ => ()) (do
      let store ← Action.ofExcept ((← get).triggers.save t)
      modify ({ · with triggers := store })
      return t) s
  · exact Or.inl ⟨e, s₁, hrun, hquiet⟩
  · rw [bind_get, hquiet.triggers] at hrun
    cases h : s.triggers.save t with
    | error e => exact Or.inl ⟨e, s₁, hrun.trans (bind_ofExcept_error h _ _), hquiet⟩
    | ok store =>
      refine Or.inr ⟨store, _, hrun.trans (bind_ofExcept h _ _), rfl, ?_⟩
      exact { hquiet with triggers := rfl }

theorem deleteTrigger_cases (id : Value) (s : Automation) :
    (∃ e s', deleteTrigger id s = (.error e, s') ∧ Quiet s s') ∨
      ∃ found store s', deleteTrigger id s = (.ok found, s') ∧
        s.triggers.delete id = .ok (found, store) ∧ Quiet { s with triggers := store } s' := by
  obtain ⟨e, s₁, hrun, hquiet⟩ | ⟨s₁, hrun, hquiet⟩ :=
    reaching_cases .delete .triggers (.ok ()) (do
      let deleted ← Action.ofExcept ((← get).triggers.delete id)
      modify ({ · with triggers := deleted.2 })
      return deleted.1) s
  · exact Or.inl ⟨e, s₁, hrun, hquiet⟩
  · rw [bind_get, hquiet.triggers] at hrun
    cases h : s.triggers.delete id with
    | error e => exact Or.inl ⟨e, s₁, hrun.trans (bind_ofExcept_error h _ _), hquiet⟩
    | ok r =>
      refine Or.inr ⟨r.1, r.2, _, hrun.trans (bind_ofExcept h _ _), rfl, ?_⟩
      exact { hquiet with triggers := rfl }

theorem getTrigger_cases (id : Value) (s : Automation) :
    (∃ e s', getTrigger id s = (.error e, s') ∧ Quiet s s') ∨
      ∃ found s', getTrigger id s = (.ok found, s') ∧ s.triggers.get id = .ok found ∧
        Quiet s s' := by
  obtain ⟨e, s₁, hrun, hquiet⟩ | ⟨s₁, hrun, hquiet⟩ :=
    reaching_cases .get .triggers (.ok ()) (do
      Action.ofExcept ((← get).triggers.get id)) s
  · exact Or.inl ⟨e, s₁, hrun, hquiet⟩
  · rw [bind_get, hquiet.triggers, ofExcept_run] at hrun
    cases h : s.triggers.get id with
    | error e => exact Or.inl ⟨e, s₁, hrun.trans (by rw [h]), hquiet⟩
    | ok found => exact Or.inr ⟨found, s₁, hrun.trans (by rw [h]), rfl, hquiet⟩

/-- What was done is of no importance, but for the identifiers that were drawn. -/
def Untouched (s s' : Automation) : Prop :=
  ∃ n, s.supply.drawn ≤ n ∧ Quiet { s with supply := ⟨n⟩ } s'

theorem Quiet.untouched {s s' : Automation} (h : Quiet s s') : Untouched s s' :=
  ⟨s.supply.drawn, Nat.le_refl _, h⟩

end Automation

namespace Registry

/-- What the listener does when it is told about a change. -/
def tell (t : Trigger) (deleted : Bool) : Action Unit := do
  match (← get).listener with
  | .none => return
  | .scheduler => Scheduler.onTriggerChanged t deleted
  | .recorder failure =>
    let stored := ((← get).triggers.get t.id).toOption.any (·.isSome)
    modify fun s => { s with events := s.events ++ [.noticed t.id t.isActive deleted stored] }
    if let some e := failure then throw e

/-- Tells a listener about a change. An error of the listener is logged and otherwise ignored. -/
def notifyWith (listener : Trigger → Bool → Action Unit) (t : Trigger) (deleted : Bool) :
    Action Unit := do
  match ← Action.attempt (listener t deleted) with
  | .ok _ => return
  | .error e =>
    log .registry Log.error
      ("Change listener failed for trigger " ++ t.id.shown ++ ": " ++ e.message)

theorem notify_eq (t : Trigger) (deleted : Bool) : notify t deleted = notifyWith tell t deleted :=
  rfl

theorem requireDefinition_cases (id : Value) (s : Automation) :
    (∃ d, s.orchestrator.findDefinition id = .ok (some d) ∧
      requireDefinition id s = (.ok ⟨⟩, s)) ∨ ∃ e, requireDefinition id s = (.error e, s) := by
  rw [requireDefinition]
  cases h : s.orchestrator.findDefinition id with
  | error e =>
    refine Or.inr ⟨e, bind_error ?_⟩
    rw [findDefinition, bind_get, h]
    rfl
  | ok d =>
    have hfind : findDefinition id s = (.ok d, s) := by
      rw [findDefinition, bind_get, h]
      rfl
    rw [bind_ok hfind]
    cases d with
    | none => exact Or.inr ⟨_, rfl⟩
    | some d => exact Or.inl ⟨d, rfl, rfl⟩

/-- Of data without unknown fields, only fields that can be given are there, and the owner. -/
theorem get?_owned_eq_none {data : Entries} {userId : Value}
    (hknown : data.keys.filter (!Trigger.createFields.contains ·) = []) {name : String}
    (hname : name ≠ "created_by_id") (hfield : name ∉ Trigger.createFields) :
    (data.put "created_by_id" userId).get? name = none := by
  refine Entries.get?_eq_none_of_not_mem fun hmem => ?_
  rcases Entries.mem_keys_put hmem with heq | hmem
  · exact hname heq
  · have hunknown : name ∈ data.keys.filter (!Trigger.createFields.contains ·) := by
      rw [List.mem_filter, Bool.not_eq_true', Bool.eq_false_iff, Ne, List.contains_iff_mem]
      exact ⟨hmem, hfield⟩
    rw [hknown] at hunknown
    exact List.not_mem_nil hunknown

theorem findOne_cases (id : Value) (s : Automation) :
    (∃ e s', findOne id s = (.error e, s') ∧ Quiet s s') ∨
      ∃ t s', findOne id s = (.ok t, s') ∧ s.triggers.get id = .ok (some t) ∧ Quiet s s' := by
  rw [findOne]
  obtain ⟨e, s₁, hget, hquiet⟩ | ⟨found, s₁, hget, hfound, hquiet⟩ := getTrigger_cases id s
  · exact Or.inl ⟨e, s₁, bind_error hget, hquiet⟩
  · rw [bind_ok hget]
    cases found with
    | none => exact Or.inl ⟨_, s₁, rfl, hquiet⟩
    | some t => exact Or.inr ⟨t, s₁, rfl, hfound, hquiet⟩

/-- The calls that change the stored triggers. -/
inductive Mutation
  | create (data : Entries) (userId : Value)
  | update (id : Value) (changes : Entries)
  | toggle (id : Value)
  | delete (id : Value)

namespace Mutation

/-- The call itself. It answers with the trigger that was written, if one was. -/
def perform : Mutation → Action (Option Trigger)
  | create data userId => do return some (← Registry.create data userId)
  | update id changes => do return some (← Registry.update id changes)
  | toggle id => do return some (← Registry.toggle id)
  | delete id => do
    Registry.delete id
    return none

/-- Makes and inserts the trigger of a creation, whose definition is known. -/
def insertNew (data : Entries) (userId definitionId : Value) : Action (Trigger × Bool) := do
  let t ← Automation.make fun supply now =>
    Trigger.create supply now (data.put "created_by_id" userId)
  let saved ← Automation.insertTrigger t
  log .registry Log.info
    ("Created trigger " ++ saved.id.shown ++ " for process " ++ definitionId.shown)
  return (saved, false)

/-- Writes a trigger that was changed. -/
def saveChanged (t : Trigger) : Action (Trigger × Bool) := do
  let saved ← Automation.saveTrigger { t with updatedAt := .stamp (← Automation.now) }
  return (saved, false)

/-- What a call does before the listener is told. It yields the trigger to tell about, and whether
that is going to be removed. -/
def prepare : Mutation → Action (Trigger × Bool)
  | create data userId => do
    let unknown := data.keys.filter (!Trigger.createFields.contains ·)
    if !unknown.isEmpty then
      let names := unknown.mergeSort fun a b => !(b < a)
      throw (.foreign .invalidValue ("Unknown trigger fields: " ++ ", ".intercalate names))
    let definitionId ← Action.ofExcept (Value.requireEntry data "process_definition_id")
    requireDefinition definitionId
    insertNew data userId definitionId
  | update id changes => do
    let t ← Action.ofExcept ((← findOne id).applyChanges changes)
    if changes.has "process_definition_id" then requireDefinition t.definitionId
    saveChanged t
  | toggle id => do
    let saved ← saveChanged (← findOne id).toggled
    let state := if saved.1.isActive.truthy then "active" else "inactive"
    log .registry Log.info ("Trigger " ++ id.shown ++ " is now " ++ state)
    return saved
  | delete id => do return (← findOne id, true)

/-- What is left to do after the listener was told about a trigger. -/
def finish : Mutation → Trigger → Action (Option Trigger)
  | delete id, _ => do
    let _ ← Automation.deleteTrigger id
    log .registry Log.info ("Deleted trigger " ++ id.shown)
    return none
  | _, t => return some t

/-- The call with somebody else to tell about the change. -/
def performTelling (listener : Trigger → Bool → Action Unit) (m : Mutation) :
    Action (Option Trigger) := do
  let (t, deleted) ← m.prepare
  notifyWith listener t deleted
  m.finish t

/-- The call tells the listener of the program. -/
theorem perform_eq (m : Mutation) : m.perform = m.performTelling tell := by
  cases m with
  | create data userId =>
    simp only [perform, performTelling, prepare, insertNew, finish, Registry.create, notify_eq,
      notifyWith, bind_assoc]
    split
    · rfl
    · simp only [bind_assoc, pure_bind]
  | update id changes =>
    simp only [perform, performTelling, prepare, saveChanged, finish, Registry.update, notify_eq,
      notifyWith, bind_assoc]
    refine bind_congr fun t => bind_congr fun t' => ?_
    split <;> simp only [bind_assoc, pure_bind]
  | toggle id =>
    simp only [perform, performTelling, prepare, saveChanged, finish, Registry.toggle, notify_eq,
      notifyWith, bind_assoc, pure_bind]
  | delete id =>
    simp only [perform, performTelling, prepare, finish, Registry.delete, notify_eq, notifyWith,
      bind_assoc, pure_bind]

/-- Where a call stands when the listener is about to be told: what was found and checked, and what
was written. -/
inductive Prepared (s : Automation) : Mutation → Trigger → Bool → Automation → Prop
  | created {data : Entries} {userId definitionId : Value} {d : Definition} {t : Trigger}
    {store : TriggerStore} {s' : Automation}
    (allowed : data.keys.filter (!Trigger.createFields.contains ·) = [])
    (given : data.get? "process_definition_id" = some definitionId)
    (known : s.orchestrator.findDefinition definitionId = .ok (some d))
    (made : Trigger.create s.supply (Stamp.ofInstant s.clock.instant)
      (data.put "created_by_id" userId) = (.ok t, ⟨s.supply.drawn + 1⟩))
    (id : t.id = .text (Supply.idText (s.supply.drawn + 1)))
    (createdAt : t.createdAt = .stamp (Stamp.ofInstant s.clock.instant))
    (inserted : s.triggers.insert t = .ok store)
    (stored : Quiet { s with supply := ⟨s.supply.drawn + 1⟩, triggers := store } s') :
    Prepared s (.create data userId) t false s'
  | updated {id : Value} {changes : Entries} {t t' : Trigger} {store : TriggerStore}
    {s' : Automation} (found : s.triggers.get id = .ok (some t))
    (changed : t.applyChanges changes = .ok t')
    (known : changes.has "process_definition_id" = true →
      ∃ d, s.orchestrator.findDefinition t'.definitionId = .ok (some d))
    (saved : s.triggers.save { t' with updatedAt := .stamp (Stamp.ofInstant s.clock.instant) } =
      .ok store)
    (stored : Quiet { s with triggers := store } s') :
    Prepared s (.update id changes)
      { t' with updatedAt := .stamp (Stamp.ofInstant s.clock.instant) } false s'
  | toggled {id : Value} {t : Trigger} {store : TriggerStore} {s' : Automation}
    (found : s.triggers.get id = .ok (some t))
    (saved : s.triggers.save
      { t.toggled with updatedAt := .stamp (Stamp.ofInstant s.clock.instant) } = .ok store)
    (stored : Quiet { s with triggers := store } s') :
    Prepared s (.toggle id)
      { t.toggled with updatedAt := .stamp (Stamp.ofInstant s.clock.instant) } false s'
  | doomed {id : Value} {t : Trigger} {s' : Automation}
    (found : s.triggers.get id = .ok (some t)) (quiet : Quiet s s') :
    Prepared s (.delete id) t true s'

theorem insertNew_cases {data : Entries} (userId : Value) {definitionId : Value} {d : Definition}
    {s : Automation} (hknown : data.keys.filter (!Trigger.createFields.contains ·) = [])
    (hgiven : data.get? "process_definition_id" = some definitionId)
    (hdefinition : s.orchestrator.findDefinition definitionId = .ok (some d)) :
    (∃ e s', insertNew data userId definitionId s = (.error e, s') ∧ Untouched s s') ∨
      ∃ t s', insertNew data userId definitionId s = (.ok (t, false), s') ∧
        Prepared s (.create data userId) t false s' := by
  -- Neither an identifier nor a time can be given, so both are drawn for the trigger.
  have hnoId : (data.put "created_by_id" userId).get? "id" = none :=
    get?_owned_eq_none hknown (by decide) (by decide)
  have hnoTime : (data.put "created_by_id" userId).get? "created_at" = none :=
    get?_owned_eq_none hknown (by decide) (by decide)
  obtain ⟨e, supply, hcreate, hdrawn⟩ | ⟨t, hcreate, hid, hcreatedAt⟩ :=
    Trigger.create_cases s.supply (Stamp.ofInstant s.clock.instant) hnoId hnoTime
  · have hmake : make (fun supply now => Trigger.create supply now
        (data.put "created_by_id" userId)) s = (.error e, { s with supply }) := by
      rw [make, bind_get, hcreate]
      rfl
    exact Or.inl ⟨e, _, bind_error hmake, supply.drawn, hdrawn, .refl _⟩
  · have hmake : make (fun supply now => Trigger.create supply now
        (data.put "created_by_id" userId)) s =
        (.ok t, { s with supply := ⟨s.supply.drawn + 1⟩ }) := by
      rw [make, bind_get, hcreate]
      rfl
    rw [insertNew, bind_ok hmake]
    obtain ⟨e, s₁, hinsert, hquiet⟩ | ⟨store, s₁, hinsert, hstore, hquiet⟩ :=
      insertTrigger_cases t { s with supply := ⟨s.supply.drawn + 1⟩ }
    · exact Or.inl ⟨e, s₁, bind_error hinsert, _, Nat.le_succ _, hquiet⟩
    · rw [bind_ok hinsert, bind_ok (log_run _ _ _ s₁)]
      exact Or.inr ⟨t, _, rfl, .created hknown hgiven hdefinition hcreate hid hcreatedAt hstore
        (hquiet.trans (by constructor <;> rfl))⟩

theorem saveChanged_cases {t : Trigger} {s s₁ : Automation} (hquiet : Quiet s s₁) :
    (∃ e s', saveChanged t s₁ = (.error e, s') ∧ Untouched s s') ∨
      ∃ store s', saveChanged t s₁ =
          (.ok ({ t with updatedAt := .stamp (Stamp.ofInstant s.clock.instant) }, false), s') ∧
        s.triggers.save { t with updatedAt := .stamp (Stamp.ofInstant s.clock.instant) } =
          .ok store ∧ Quiet { s with triggers := store } s' := by
  rw [saveChanged, bind_ok (now_run s₁), hquiet.clock]
  obtain ⟨e, s₂, hsave, hquiet'⟩ | ⟨store, s₂, hsave, hstore, hquiet'⟩ := saveTrigger_cases
    { t with updatedAt := .stamp (Stamp.ofInstant s.clock.instant) } s₁
  · exact Or.inl ⟨e, s₂, bind_error hsave, (hquiet.trans hquiet').untouched⟩
  · rw [hquiet.triggers] at hstore
    exact Or.inr ⟨store, s₂, bind_ok hsave, hstore, (hquiet.withTriggers store).trans hquiet'⟩

/-- Before the listener is told, a call ends in an error and nothing is touched, or everything is
prepared. -/
theorem prepare_cases (m : Mutation) (s : Automation) :
    (∃ e s', m.prepare s = (.error e, s') ∧ Untouched s s') ∨
      ∃ t deleted s', m.prepare s = (.ok (t, deleted), s') ∧ Prepared s m t deleted s' := by
  cases m with
  | create data userId =>
    rw [prepare]
    dsimp only
    split
    · exact Or.inl ⟨_, s, rfl, (Quiet.refl s).untouched⟩
    · next hknown =>
      rw [Bool.not_eq_true', Bool.not_eq_false, List.isEmpty_iff] at hknown
      cases hgiven : data.get? "process_definition_id" with
      | none =>
        have hrequire : Value.requireEntry data "process_definition_id" =
            .error (.missingEntry "process_definition_id") := by rw [Value.requireEntry, hgiven]
        exact Or.inl ⟨_, s, bind_ofExcept_error hrequire _ s, (Quiet.refl s).untouched⟩
      | some definitionId =>
        have hrequire : Value.requireEntry data "process_definition_id" = .ok definitionId := by
          rw [Value.requireEntry, hgiven]
        rw [bind_ofExcept hrequire]
        obtain ⟨d, hdefinition, hrequired⟩ | ⟨e, hrequired⟩ :=
          requireDefinition_cases definitionId s
        · rw [bind_ok hrequired]
          obtain hfailed | ⟨t, s', hrun, hprepared⟩ :=
            insertNew_cases userId hknown hgiven hdefinition
          · exact Or.inl hfailed
          · exact Or.inr ⟨t, false, s', hrun, hprepared⟩
        · exact Or.inl ⟨e, s, bind_error hrequired, (Quiet.refl s).untouched⟩
  | update id changes =>
    rw [prepare]
    obtain ⟨e, s₁, hfind, hquiet⟩ | ⟨t, s₁, hfind, hfound, hquiet⟩ := findOne_cases id s
    · exact Or.inl ⟨e, s₁, bind_error hfind, hquiet.untouched⟩
    · rw [bind_ok hfind]
      cases hchanged : t.applyChanges changes with
      | error e => exact Or.inl ⟨e, s₁, bind_ofExcept_error rfl _ s₁, hquiet.untouched⟩
      | ok t' =>
        rw [bind_ofExcept rfl]
        -- Whether or not a new definition is looked for, what is written is the same.
        have hwritten : (changes.has "process_definition_id" = true →
              ∃ d, s.orchestrator.findDefinition t'.definitionId = .ok (some d)) →
            (∃ e s', saveChanged t' s₁ = (.error e, s') ∧ Untouched s s') ∨
              ∃ t deleted s', saveChanged t' s₁ = (.ok (t, deleted), s') ∧
                Prepared s (.update id changes) t deleted s' := by
          intro hdefinition
          obtain hfailed | ⟨store, s', hrun, hstore, hquiet'⟩ := saveChanged_cases (t := t') hquiet
          · exact Or.inl hfailed
          · exact Or.inr ⟨_, false, s', hrun,
              .updated hfound hchanged hdefinition hstore hquiet'⟩
        dsimp only
        by_cases hgiven : changes.has "process_definition_id" = true
        · rw [if_pos hgiven]
          obtain ⟨d, hdefinition, hrequired⟩ | ⟨e, hrequired⟩ :=
            requireDefinition_cases t'.definitionId s₁
          · rw [bind_ok hrequired]
            exact hwritten fun _ => ⟨d, hquiet.orchestrator ▸ hdefinition⟩
          · exact Or.inl ⟨e, s₁, bind_error hrequired, hquiet.untouched⟩
        · rw [if_neg hgiven]
          exact hwritten fun h => absurd h hgiven
  | toggle id =>
    rw [prepare]
    obtain ⟨e, s₁, hfind, hquiet⟩ | ⟨t, s₁, hfind, hfound, hquiet⟩ := findOne_cases id s
    · exact Or.inl ⟨e, s₁, bind_error hfind, hquiet.untouched⟩
    · rw [bind_ok hfind]
      obtain ⟨e, s₂, hrun, huntouched⟩ | ⟨store, s₂, hrun, hstore, hquiet'⟩ :=
        saveChanged_cases (t := t.toggled) hquiet
      · exact Or.inl ⟨e, s₂, bind_error hrun, huntouched⟩
      · rw [bind_ok hrun, bind_ok (log_run _ _ _ s₂)]
        exact Or.inr ⟨_, false, _, rfl,
          .toggled hfound hstore (hquiet'.trans (by constructor <;> rfl))⟩
  | delete id =>
    rw [prepare]
    obtain ⟨e, s₁, hfind, hquiet⟩ | ⟨t, s₁, hfind, hfound, hquiet⟩ := findOne_cases id s
    · exact Or.inl ⟨e, s₁, bind_error hfind, hquiet.untouched⟩
    · exact Or.inr ⟨t, true, s₁, bind_ok hfind, .doomed hfound hquiet⟩

end Mutation
end Registry
end ProcessTriggers
