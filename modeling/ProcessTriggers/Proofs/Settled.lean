import ProcessTriggers.Proofs.Interchange
import ProcessTriggers.Proofs.Switches

/-!
Triggers as a relation gives them back. Of a switch it keeps no more than whether it is truthy; all
else is kept where the values are of the types that are meant for the fields. So a trigger with any
switch can be stored, changed and looked up in memory and in a relation alike, and what the relation
holds is the trigger in memory with its switch settled.
-/

namespace ProcessTriggers

theorem Supply.idText_ne_empty (n : Nat) : idText n ≠ "" := by
  intro h
  have hlist : "id-".toList ++ (toString n).toList = [] :=
    String.toList_append.symm.trans (congrArg String.toList h)
  cases (List.append_eq_nil_iff.mp hlist).1

namespace Trigger

/-- The trigger as it comes back from a relation. -/
def settled (t : Trigger) : Trigger := { t with isActive := .bool t.isActive.truthy }

theorem toRow_settled (t : Trigger) : t.settled.toRow = t.toRow := by
  have htruthy : t.settled.isActive.truthy = t.isActive.truthy := rfl
  rw [toRow, toRow, htruthy, toObject, toObject]
  simp only [settled]
  cases t.type.name with
  | error e => rfl
  | ok type =>
    cases t.lastTriggeredAt.writeTime with
    | error e => rfl
    | ok fired =>
      cases t.createdAt.writeTime with
      | error e => rfl
      | ok created =>
        cases t.updatedAt.writeTime with
        | error e => rfl
        | ok updated => rfl

theorem toRow_congr {t t' : Trigger} (h : t'.settled = t.settled) : t'.toRow = t.toRow := by
  rw [← toRow_settled, h, toRow_settled]

theorem keepsType_settled (t : Trigger) (changes : Entries) :
    t.settled.keepsType changes = t.keepsType changes := rfl

/-- What settles to the same trigger differs in the switch at most. -/
theorem eq_of_settled {t t' : Trigger} (h : t'.settled = t.settled) :
    t' = { t with isActive := t'.isActive } := by
  cases t
  cases t'
  simp only [settled, mk.injEq] at h
  simp only [h]

/-- A change of one field is refused for neither or for both. -/
theorem change_congr {t t' : Trigger} (h : t'.settled = t.settled) (name : String) (v : Value) :
    (t'.change name v).map settled = (t.change name v).map settled := by
  have htruthy : t'.isActive.truthy = t.isActive.truthy :=
    Value.bool.inj (congrArg Trigger.isActive h)
  rw [eq_of_settled h]
  unfold change
  split <;> simp only [Except.map, settled, htruthy]

theorem foldlM_change_congr {changes : List (String × Value)} {t t' : Trigger}
    (h : t'.settled = t.settled) :
    (changes.foldlM (fun (t : Trigger) e => t.change e.1 e.2) t').map settled =
      (changes.foldlM (fun (t : Trigger) e => t.change e.1 e.2) t).map settled := by
  induction changes generalizing t t' with
  | nil => exact congrArg Except.ok h
  | cons e changes ih =>
    rw [List.foldlM_cons, List.foldlM_cons]
    have hchange := change_congr h e.1 e.2
    generalize t'.change e.1 e.2 = r', t.change e.1 e.2 = r at hchange
    cases r' with
    | error e =>
      cases r with
      | error e' =>
        cases hchange
        rfl
      | ok t₁ => cases hchange
    | ok t₁' =>
      cases r with
      | error e' => cases hchange
      | ok t₁ => exact ih (Except.ok.inj hchange)

theorem applyChanges_settled (t : Trigger) (changes : Entries) :
    (t.settled.applyChanges changes).map settled = (t.applyChanges changes).map settled := by
  rw [applyChanges, applyChanges, keepsType_settled]
  cases t.keepsType changes with
  | error e => rfl
  | ok _ => exact foldlM_change_congr rfl

end Trigger

/-- A value of the type that is meant for a field of a trigger. For a switch, any value will do. -/
def Value.Suits (name : String) (v : Value) : Prop :=
  match name with
  | "workspace_id" | "process_definition_id" | "trigger_type" => v.IsText
  | "conditions" | "variable_mappings" => v = .null ∨ v.IsJsonObject
  | "name" | "description" => v = .null ∨ v.IsText
  | _ => True

namespace Trigger

theorem isJsonObject_nil : (Value.object []).IsJsonObject :=
  Value.isJsonObject_iff.mpr ⟨⟨_, rfl⟩, .object List.nodup_nil
    (fun _ he => absurd he List.not_mem_nil) fun _ he => absurd he List.not_mem_nil⟩

theorem isJsonObject_nullToEmpty {v : Value} (h : v = .null ∨ v.IsJsonObject) :
    (nullToEmpty v).IsJsonObject := by
  rcases h with rfl | h
  · exact isJsonObject_nil
  · have hobject := h.1
    obtain ⟨es, rfl⟩ := hobject
    exact h

theorem Storable.change {t t' : Trigger} (h : t.settled.Storable) {name : String} {v : Value}
    (hv : v.Suits name) (hchange : t.change name v = .ok t') : t'.settled.Storable := by
  unfold Trigger.change at hchange
  split at hchange
  · rw [← Except.ok.inj hchange]
    exact { h with definitionId := hv }
  · rw [← Except.ok.inj hchange]
    exact { h with conditions := isJsonObject_nullToEmpty hv }
  · rw [← Except.ok.inj hchange]
    exact { h with variableMappings := isJsonObject_nullToEmpty hv }
  · rw [← Except.ok.inj hchange]
    exact { h with isActive := ⟨_, rfl⟩ }
  · rw [← Except.ok.inj hchange]
    exact { h with name := hv }
  · rw [← Except.ok.inj hchange]
    exact { h with description := hv }
  · cases hchange

theorem Storable.foldlM_change {changes : List (String × Value)} {t t' : Trigger}
    (h : t.settled.Storable) (hchanges : ∀ e ∈ changes, e.2.Suits e.1)
    (hchange : changes.foldlM (fun t e => t.change e.1 e.2) t = .ok t') :
    t'.settled.Storable := by
  induction changes generalizing t with
  | nil =>
    rw [← Except.ok.inj hchange]
    exact h
  | cons e changes ih =>
    rw [List.foldlM_cons] at hchange
    obtain ⟨t₁, h₁, hchange⟩ := exists_of_bind_eq_ok hchange
    exact ih (h.change (hchanges e List.mem_cons_self) h₁)
      (fun e' he' => hchanges e' (List.mem_cons_of_mem e he')) hchange

theorem Storable.applyChanges {changes : Entries} {t t' : Trigger} (h : t.settled.Storable)
    (hchanges : ∀ e ∈ changes, e.2.Suits e.1) (hchange : t.applyChanges changes = .ok t') :
    t'.settled.Storable := by
  obtain ⟨_, _, hchange⟩ := exists_of_bind_eq_ok hchange
  exact h.foldlM_change (fun e he => hchanges e (List.mem_of_mem_filter he)) hchange

section

variable {data : Entries} {name : String}

/-- A value that was given for a field suits it. -/
theorem suits_of_get? (hdata : ∀ e ∈ data, e.2.Suits e.1) {v : Value}
    (h : data.get? name = some v) : v.Suits name := hdata _ (Entries.mem_of_get? h)

theorem suits_entry (hdata : ∀ e ∈ data, e.2.Suits e.1) (hmem : name ∈ data.keys) :
    (Value.entry data name).Suits name := suits_of_get? hdata (Entries.get?_eq_entry hmem)

/-- A text that suits, or null where none is given. -/
theorem isText_entry (hdata : ∀ e ∈ data, e.2.Suits e.1)
    (hname : ∀ v : Value, v.Suits name → v = .null ∨ v.IsText) :
    Value.entry data name = .null ∨ (Value.entry data name).IsText := by
  rw [Value.entry]
  cases hget : data.get? name with
  | none => exact .inl rfl
  | some v => exact hname v (suits_of_get? hdata hget)

/-- An object that suits, or an empty one where none is given. -/
theorem isJsonObject_entryOr (hdata : ∀ e ∈ data, e.2.Suits e.1)
    (hname : ∀ v : Value, v.Suits name → v = .null ∨ v.IsJsonObject) :
    (nullToEmpty (Value.entryOr data name (.object []))).IsJsonObject := by
  rw [Value.entryOr]
  cases hget : data.get? name with
  | none => exact isJsonObject_nil
  | some v => exact isJsonObject_nullToEmpty (hname v (suits_of_get? hdata hget))

end

/-- The type that a text is taken for is a known one. -/
theorem known_of_newType {v : Value} (hv : v.IsText) {type : TypeField}
    (h : newType v = .ok type) : ∃ known, type = .known known := by
  obtain ⟨name, rfl, -⟩ := hv
  rw [newType] at h
  cases hread : Enumeration.read TriggerType (.text name) with
  | error e =>
    rw [hread] at h
    cases h
  | ok known =>
    rw [hread] at h
    exact ⟨known, (Except.ok.inj h).symm⟩

theorem made_owned (id : String) (now : Stamp) (type : TypeField) (data : Entries)
    (userId : Value) : made id now type (data.put "created_by_id" userId) =
      { made id now type data with createdById := userId } := by
  simp [made, Value.entry_put_of_ne, Value.entry_put_self, Value.entryOr, Entries.get?_put_of_ne]

/-- A trigger that is made of suitable values can be stored in a relation, but for its switch. -/
theorem storable_of_made {data : Entries} {userId : Value} {n : Nat} {now : Stamp}
    {type : TypeField} (hdata : ∀ e ∈ data, e.2.Suits e.1)
    (hrequired : ∀ name ∈ requiredNames, name ∈ data.keys)
    (habsent : ∀ name, name ∉ createFields → data.get? name = none)
    (htype : newType (Value.entry data "trigger_type") = .ok type)
    (huser : userId = .null ∨ userId.IsText) (hnow : now.IsUtc) :
    ({ made (Supply.idText n) now type data with createdById := userId } :
      Trigger).settled.Storable where
  id := ⟨Supply.isText_idText n, fun h => Supply.idText_ne_empty n (Value.text.inj h)⟩
  workspaceId := suits_entry hdata (hrequired "workspace_id" (by decide))
  definitionId := suits_entry hdata (hrequired "process_definition_id" (by decide))
  type := known_of_newType (suits_entry hdata (hrequired "trigger_type" (by decide))) htype
  conditions := isJsonObject_entryOr hdata fun _ h => h
  variableMappings := isJsonObject_entryOr hdata fun _ h => h
  isActive := ⟨_, rfl⟩
  name := isText_entry hdata fun _ h => h
  description := isText_entry hdata fun _ h => h
  createdById := huser
  lastTriggeredAt := .inl (congrArg Value.ofOption (habsent "last_triggered_at" (by decide)))
  triggerCount :=
    ⟨0, congrArg (·.getD (.int 0)) (habsent "trigger_count" (by decide)), by decide, by decide⟩
  createdAt := ⟨now, congrArg (·.getD (.stamp now)) (habsent "created_at" (by decide)), hnow⟩
  updatedAt := ⟨now, congrArg (·.getD (.stamp now)) (habsent "updated_at" (by decide)), hnow⟩

/-- A new trigger of suitable values can be stored in a relation, but for its switch. -/
theorem storable_of_created {data : Entries} {userId : Value} {supply supply' : Supply}
    {now : Stamp} {t : Trigger} (hallowed : data.keys.filter (!createFields.contains ·) = [])
    (hcreate : create supply now (data.put "created_by_id" userId) = (.ok t, supply'))
    (hdata : ∀ e ∈ data, e.2.Suits e.1) (huser : userId = .null ∨ userId.IsText)
    (hnow : now.IsUtc) : t.settled.Storable := by
  obtain ⟨hrequired, -⟩ := create_eq_ok hcreate
  have hgiven : ∀ name ∈ requiredNames, name ∈ data.keys := fun name hname =>
    (Entries.mem_keys_put (hrequired name hname)).resolve_left fun heq =>
      absurd (heq ▸ hname) (by decide)
  have habsent : ∀ name, name ∉ createFields → data.get? name = none := fun name hname =>
    Entries.get?_eq_none_of_not_mem fun hmem =>
      List.filter_eq_nil_iff.mp hallowed name hmem (by simpa using hname)
  have hnew : (data.put "created_by_id" userId).get? "id" = none :=
    Registry.get?_owned_eq_none hallowed (by decide) (by decide)
  obtain ⟨type, htype, rfl⟩ := create_eq_made hnew hcreate
  rw [Value.entry_put_of_ne _ (by decide)] at htype
  rw [made_owned]
  exact storable_of_made hdata hgiven habsent htype huser hnow

theorem Storable.touched {t : Trigger} (h : t.settled.Storable) {now : Stamp} (hnow : now.IsUtc) :
    ({ t with updatedAt := .stamp now } : Trigger).settled.Storable :=
  { h with updatedAt := ⟨now, rfl, hnow⟩ }

end Trigger

namespace Keyed

/-- Triggers in memory as they come back from a relation. -/
def settled (ts : Keyed Trigger) : Keyed Trigger := ts.map fun e => (e.1, e.2.settled)

variable (ts : Keyed Trigger)

theorem keys_settled : (settled ts).keys = ts.keys := by
  rw [keys, settled, List.map_map]
  rfl

theorem has_settled (key : Value) : (settled ts).has key = ts.has key := by
  rw [has, settled, List.any_map]
  rfl

theorem get?_settled (key : Value) : (settled ts).get? key = (ts.get? key).map Trigger.settled := by
  rw [get?, settled, List.find?_map, get?, Option.map_map, Option.map_map]
  rfl

theorem put_settled (key : Value) (t : Trigger) :
    (settled ts).put key t.settled = settled (ts.put key t) := by
  induction ts with
  | nil => rfl
  | cons e ts ih =>
    have hhead : settled (e :: ts) = (e.1, e.2.settled) :: settled ts := rfl
    rw [hhead, put, put]
    split
    · rfl
    · rw [ih]
      rfl

theorem items_settled : (settled ts).items = ts.items.map Trigger.settled := by
  rw [items, settled, items, List.map_map, List.map_map]
  rfl

end Keyed

namespace TriggerStore.Mirrors

variable {ts : Keyed Trigger} {rows : List Entries} {t t' : Trigger}

/-- A new trigger is added to both, whatever its switch. -/
theorem insert_settled (h : Mirrors (Keyed.settled ts) rows) (ht : t.settled.Storable)
    (hnew : t.id ∉ ts.keys) : ∃ rows',
      (memory ts).insert t = .ok (memory (ts.put t.id t)) ∧
      (relation rows).insert t = .ok (relation rows') ∧
      Mirrors (Keyed.settled (ts.put t.id t)) rows' := by
  have hfresh : t.settled.id ∉ (Keyed.settled ts).keys := Keyed.keys_settled ts ▸ hnew
  obtain ⟨ts', rows', hmemory, hrelation, hmirrors⟩ := h.insert ht hfresh
  have hkey : t.id.asKey = .ok t.id := asKey_isText ht.id.1
  refine ⟨rows', ?_, ?_, ?_⟩
  · rw [TriggerStore.insert, hkey]
    rfl
  · rw [TriggerStore.insert, Trigger.toRow_settled] at hrelation
    exact hrelation
  · have hput : (memory (Keyed.settled ts)).insert t.settled =
        .ok (memory (Keyed.settled (ts.put t.id t))) := by
      rw [TriggerStore.insert, ← Keyed.put_settled]
      exact congrArg (· >>= _) hkey
    rw [hput] at hmemory
    exact memory.inj (Except.ok.inj hmemory) ▸ hmirrors

/-- A stored trigger is replaced in both, by triggers that differ in the switch at most. -/
theorem save_settled (h : Mirrors (Keyed.settled ts) rows) (ht : t.settled.Storable)
    (hmem : t.id ∈ ts.keys) (hsame : t'.settled = t.settled) : ∃ rows',
      (memory ts).save t = .ok (memory (ts.put t.id t)) ∧
      (relation rows).save t' = .ok (relation rows') ∧
      Mirrors (Keyed.settled (ts.put t.id t)) rows' := by
  have hkey : t.id.asKey = .ok t.id := asKey_isText ht.id.1
  have hknown : t.settled.id ∈ (Keyed.settled ts).keys := (Keyed.keys_settled ts).symm ▸ hmem
  obtain ⟨ts', rows', hmemory, hrelation, hmirrors⟩ := h.save ht hknown
  have hhas : (Keyed.settled ts).has t.id = true := h.texts.has_iff.mpr hknown
  have hput : (memory (Keyed.settled ts)).save t.settled =
      .ok (memory (Keyed.settled (ts.put t.id t))) := by
    rw [TriggerStore.save, ← Keyed.put_settled]
    simp only [Trigger.settled, hkey, hhas, if_true, bind, Except.bind, pure, Except.pure]
  rw [hput] at hmemory
  refine ⟨rows', ?_, ?_, memory.inj (Except.ok.inj hmemory) ▸ hmirrors⟩
  · rw [Keyed.has_settled] at hhas
    simp only [TriggerStore.save, hkey, hhas, if_true, bind, Except.bind, pure, Except.pure]
  · rw [TriggerStore.save, Trigger.toRow_settled, ← Trigger.toRow_congr hsame] at hrelation
    have hid : t'.settled.id = t.settled.id := congrArg Trigger.id hsame
    have hown : t'.id = t.settled.id := hid
    rw [TriggerStore.save, hown]
    exact hrelation

end TriggerStore.Mirrors

end ProcessTriggers
