import ProcessTriggers.Proofs.Rows
import ProcessTriggers.Proofs.WellFormed

/-!
The store behind a timer. In memory and in a relation alike, a timer can be backed by a stored
trigger, and the calls of the registry on other triggers leave it so.
-/

namespace ProcessTriggers

namespace Timer

/-- A timer is that of a row: the row is marked as an active cron trigger, and the timer has the
schedule of the conditions that the row stands for. -/
structure ServesRow (timer : Timer) (row : Entries) (defaultZone : Value) : Prop where
  id : Value.entry row "id" = timer.triggerId
  cron : Value.entry row "trigger_type" = .text TriggerType.cron.name
  active : (Value.entry row "is_active").equal (.int 1) = true
  schedule : ∃ conditions, Trigger.Spells (Value.entry row "conditions") conditions ∧
    timer.Fits conditions defaultZone

theorem Serves.ofRule {timer : Timer} {t t' : Trigger} {defaultZone : Value}
    (h : timer.Serves t defaultZone) (hrule : t'.rule = t.rule) : timer.Serves t' defaultZone where
  id := h.id.trans (congrArg Trigger.id hrule).symm
  cron := (congrArg Trigger.isCron hrule).trans h.cron
  active := (congrArg (fun t : Trigger => t.isActive.truthy) hrule).trans h.active
  schedule := by
    have hconditions : t'.rule.conditions = t.rule.conditions := congrArg Trigger.conditions hrule
    exact (hconditions : t'.conditions = t.conditions) ▸ h.schedule

theorem ServesRow.ofEntries {timer : Timer} {row row' : Entries} {defaultZone : Value}
    (h : timer.ServesRow row defaultZone)
    (hentry : ∀ key ∈ ["id", "trigger_type", "is_active", "conditions"],
      Value.entry row' key = Value.entry row key) : timer.ServesRow row' defaultZone where
  id := (hentry "id" (by simp)).trans h.id
  cron := (hentry "trigger_type" (by simp)).trans h.cron
  active := hentry "is_active" (by simp) ▸ h.active
  schedule := hentry "conditions" (by simp) ▸ h.schedule

end Timer

namespace TriggerStore

/-- A store as the registry leaves it: in a relation, no two rows have the same identifier. -/
def Orderly (supply : Supply) : TriggerStore → Prop
  | .memory ts => Trigger.Table supply ts
  | .relation rows => (∀ row ∈ rows, ∃ id, Value.entry row "id" = .text id) ∧
    (rows.map fun row => Value.entry row "id").Nodup

/-- A store that keeps its triggers under identifiers of their own. -/
def Filed : TriggerStore → Prop
  | .memory ts => Trigger.Filed ts
  | .relation rows => (∀ row ∈ rows, ∃ id, Value.entry row "id" = .text id) ∧
    (rows.map fun row => Value.entry row "id").Nodup

/-- The trigger of a timer is stored, as an active cron trigger with the timer's schedule. -/
def Backs (store : TriggerStore) (timer : Timer) (defaultZone : Value) : Prop :=
  match store with
  | .memory ts => ∃ t, ts.get? timer.triggerId = some t ∧ timer.Serves t defaultZone
  | .relation rows => ∃ row ∈ rows, timer.ServesRow row defaultZone

/-- What is looked for when the scheduler looks for its triggers. -/
abbrev activeCron : TriggerFilter := { type := some .cron, isActive := some (.bool true) }

variable {supply supply' : Supply} {store store' : TriggerStore} {timer : Timer} {t t' : Trigger}
  {id defaultZone : Value}

theorem Orderly.filed (h : store.Orderly supply) : store.Filed := by
  cases store with
  | memory ts => exact Trigger.Table.filed h
  | relation rows => exact h

theorem Orderly.mono (h : store.Orderly supply) (hle : supply.drawn ≤ supply'.drawn) :
    store.Orderly supply' := by
  cases store with
  | memory ts => exact Trigger.Table.mono h hle
  | relation rows => exact h

/-! Starts of triggers do not show. -/

theorem entry_of_rules {rows rows' : List Entries}
    (h : (relation rows').rules = (relation rows).rules) {row : Entries} (hrow : row ∈ rows) :
    ∃ row' ∈ rows', ∀ key, fireColumns.contains key = false →
      Value.entry row' key = Value.entry row key := by
  have hmem : (row.filter fun e => !fireColumns.contains e.1) ∈
      rows'.map fun row => row.filter fun e => !fireColumns.contains e.1 := by
    rw [relation.inj h]
    exact List.mem_map_of_mem hrow
  obtain ⟨row', hrow', heq⟩ := List.mem_map.mp hmem
  refine ⟨row', hrow', fun key hkey => ?_⟩
  have hkept : (!fireColumns.contains key) = true := by rw [hkey]; rfl
  rw [← Value.entry_filter (p := fun name => !fireColumns.contains name) hkept row', heq,
    Value.entry_filter (p := fun name => !fireColumns.contains name) hkept row]

theorem Orderly.ofRules (h : store.Orderly supply) (hrules : store'.rules = store.rules) :
    store'.Orderly supply := by
  match store, store', h, hrules with
  | .memory ts, .memory ts', h, hrules => exact Trigger.Table.ofRules h hrules
  | .relation rows, .relation rows', h, hrules =>
    have hids : (rows'.map fun row => Value.entry row "id") =
        rows.map fun row => Value.entry row "id" := by
      have hmap := congrArg (List.map fun row => Value.entry row "id") (relation.inj hrules)
      have hkept : (!fireColumns.contains "id") = true := by decide
      simpa only [List.map_map, Function.comp_def,
        Value.entry_filter (p := fun name => !fireColumns.contains name) hkept] using hmap
    refine ⟨fun row' hrow' => ?_, hids ▸ h.2⟩
    obtain ⟨row, hrow, hentry⟩ := entry_of_rules hrules.symm hrow'
    obtain ⟨id, hid⟩ := h.1 row hrow
    exact ⟨id, (hentry "id" (by decide)).symm.trans hid⟩

theorem Backs.ofRules (ho : store.Orderly supply) (h : store.Backs timer defaultZone)
    (hrules : store'.rules = store.rules) : store'.Backs timer defaultZone := by
  match store, store', ho, h, hrules with
  | .memory ts, .memory ts', ho, ⟨t, hget, hserves⟩, hrules =>
    have hmem := (Trigger.Table.texts ho).get?_eq_some_iff.mp hget
    obtain ⟨⟨key, t'⟩, hmem', hkey, hrule⟩ := mem_of_rules hrules.symm hmem
    obtain rfl : key = timer.triggerId := hkey
    have ho' : Trigger.Table supply ts' := Trigger.Table.ofRules ho hrules
    exact ⟨t', ho'.texts.get?_eq_some_iff.mpr hmem', hserves.ofRule hrule⟩
  | .relation rows, .relation rows', ho, ⟨row, hrow, hserves⟩, hrules =>
    obtain ⟨row', hrow', hentry⟩ := entry_of_rules hrules hrow
    refine ⟨row', hrow', hserves.ofEntries fun key hkey => hentry key ?_⟩
    revert key
    decide

/-! A stored trigger is found again. -/

theorem find?_of_get {rows : List Entries} (h : (relation rows).get id = .ok (some t)) :
    ∃ bound row, Relation.bind id = .ok bound ∧ row ∈ rows ∧ Relation.isAt "id" bound row = true ∧
      Trigger.ofRow row = .ok t := by
  obtain ⟨bound, hbound, h⟩ := exists_of_bind_eq_ok h
  cases hfind : rows.find? (Relation.isAt "id" bound) with
  | none =>
    rw [hfind] at h
    cases h
  | some row =>
    rw [hfind, Option.mapM_some] at h
    obtain ⟨t', ht', h⟩ := exists_of_bind_eq_ok h
    cases h
    exact ⟨bound, row, hbound, List.mem_of_find?_eq_some hfind, List.find?_some hfind, ht'⟩

theorem Orderly.text_of_get (ho : store.Orderly supply) (h : store.get id = .ok (some t)) :
    ∃ s, t.id = .text s := by
  cases store with
  | memory ts =>
    obtain ⟨key, _, h⟩ := exists_of_bind_eq_ok h
    have htable : Trigger.Table supply ts := ho
    have hmem := htable.texts.get?_eq_some_iff.mp (Except.ok.inj h)
    rw [htable.own _ hmem]
    exact htable.texts.text key (Keyed.mem_keys hmem)
  | relation rows =>
    obtain ⟨bound, row, _, hrow, _, hread⟩ := find?_of_get h
    rw [(Trigger.ofRow_eq_ok hread).1]
    exact ho.1 row hrow

/-- The trigger that is found for a text has it for its identifier. -/
theorem Filed.id_of_get (hf : store.Filed) {s : String} (h : store.get (.text s) = .ok (some t)) :
    t.id = .text s := by
  cases store with
  | memory ts =>
    obtain ⟨key, hkey, h⟩ := exists_of_bind_eq_ok h
    have hfiled : Trigger.Filed ts := hf
    have hmem := hfiled.texts.get?_eq_some_iff.mp (Except.ok.inj h)
    rw [hfiled.own _ hmem]
    exact (Except.ok.inj hkey).symm
  | relation rows =>
    obtain ⟨bound, row, hbound, _, hmeant, hread⟩ := find?_of_get h
    rw [Relation.bindAt_text hbound] at hmeant
    rw [(Trigger.ofRow_eq_ok hread).1]
    exact Relation.isAt_text.mp hmeant

/-- Only a cron trigger backs a timer. -/
theorem Orderly.cron_of_get (ho : store.Orderly supply) (h : store.get id = .ok (some t))
    (hb : store.Backs timer defaultZone) (hid : timer.triggerId = t.id) : t.isCron = true := by
  cases store with
  | memory ts =>
    obtain ⟨key, _, h⟩ := exists_of_bind_eq_ok h
    have htable : Trigger.Table supply ts := ho
    have hmem := htable.texts.get?_eq_some_iff.mp (Except.ok.inj h)
    obtain ⟨t', hget, hserves⟩ := hb
    have hmem' := htable.texts.get?_eq_some_iff.mp hget
    rw [hid, htable.own _ hmem] at hmem'
    exact htable.texts.unique hmem' hmem ▸ hserves.cron
  | relation rows =>
    obtain ⟨bound, row, _, hrow, _, hread⟩ := find?_of_get h
    obtain ⟨hsame, hcron, _⟩ := Trigger.ofRow_eq_ok hread
    obtain ⟨row', hrow', hserves⟩ := hb
    have hrows : row' = row :=
      List.inj_on_of_nodup_map ho.2 hrow' hrow (hserves.id.trans (hid.trans hsame))
    exact hcron (hrows ▸ hserves.cron)

/-- The row that is written for a trigger backs the timers of the trigger. -/
theorem servesRow_of_serves {es row : Entries} (hes : t.toRow = .ok es)
    (hrow : Trigger.schema.row es = .ok row) {s : String} (hid : t.id = .text s)
    (h : timer.Serves t defaultZone) : timer.ServesRow row defaultZone := by
  obtain ⟨hentry, hcron, hactive, hspells⟩ := Trigger.row_entries hes hrow hid
  refine ⟨hentry.trans (hid.symm.trans h.id.symm), hcron h.cron, ?_, _, hspells, h.schedule⟩
  rw [hactive h.active]
  rfl

/-! A new trigger is stored beside the others. -/

theorem insert_memory {ts : Keyed Trigger} {s : String} (hid : t.id = .text s)
    (h : (memory ts).insert t = .ok store') : store' = .memory (ts.put t.id t) := by
  rw [insert, hid] at h
  cases h
  rw [hid]

theorem insert_relation {rows : List Entries} {s : String} (hid : t.id = .text s)
    (h : (relation rows).insert t = .ok store') : ∃ es row, t.toRow = .ok es ∧
      Trigger.schema.row es = .ok row ∧ store' = .relation (rows ++ [row]) ∧
      ∀ r ∈ rows, Value.entry r "id" ≠ .text s := by
  obtain ⟨es, hes, h⟩ := exists_of_bind_eq_ok h
  obtain ⟨rows', hinsert, h⟩ := exists_of_bind_eq_ok h
  cases h
  obtain ⟨row, hrow, rfl, hnew⟩ := Relation.insert_eq_ok hinsert
  obtain ⟨hentry, _⟩ := Trigger.row_entries hes hrow hid
  refine ⟨es, row, hes, hrow, rfl, fun r hr heq => ?_⟩
  have hnot : Relation.isAt "id" (Value.entry row "id") r = false := hnew r hr
  rw [hentry, Bool.eq_false_iff] at hnot
  exact hnot (Relation.isAt_text.mpr heq)

theorem Orderly.insert (ho : store.Orderly supply)
    (hid : t.id = .text (Supply.idText (supply.drawn + 1)))
    (hcreated : ∃ created, t.createdAt = .stamp created ∧ created.isAware = true)
    (h : store.insert t = .ok store') : store'.Orderly ⟨supply.drawn + 1⟩ := by
  cases store with
  | memory ts =>
    rw [insert_memory hid h]
    exact Trigger.Table.put_new ho hid hcreated
  | relation rows =>
    obtain ⟨es, row, hes, hrow, rfl, hnew⟩ := insert_relation hid h
    obtain ⟨hentry, _⟩ := Trigger.row_entries hes hrow hid
    constructor
    · intro r hr
      rcases List.mem_append.mp hr with hr | hr
      · exact ho.1 r hr
      · rw [List.mem_singleton.mp hr]
        exact ⟨_, hentry⟩
    · rw [List.map_append, List.map_singleton, hentry]
      refine List.nodup_append.mpr ⟨ho.2, List.nodup_singleton _, fun v hv w hw heq => ?_⟩
      obtain ⟨r, hr, rfl⟩ := List.mem_map.mp hv
      exact hnew r hr (heq.trans (List.mem_singleton.mp hw))

theorem Backs.insert (ho : store.Orderly supply)
    (hid : t.id = .text (Supply.idText (supply.drawn + 1))) (h : store.insert t = .ok store')
    (hb : store.Backs timer defaultZone) : store'.Backs timer defaultZone := by
  cases store with
  | memory ts =>
    rw [insert_memory hid h]
    obtain ⟨t', hget, hserves⟩ := hb
    have htable : Trigger.Table supply ts := ho
    -- The identifier of the new trigger is fresh, so it is not that of the timer.
    have hmem := htable.texts.get?_eq_some_iff.mp hget
    have hne : timer.triggerId ≠ t.id := fun heq =>
      htable.next_not_mem (hid ▸ heq ▸ Keyed.mem_keys hmem)
    exact ⟨t', htable.texts.get?_put_of_ne hid hne hget, hserves⟩
  | relation rows =>
    obtain ⟨es, row, _, _, rfl, _⟩ := insert_relation hid h
    obtain ⟨r, hr, hserves⟩ := hb
    exact ⟨r, List.mem_append_left _ hr, hserves⟩

theorem Orderly.backs_inserted (ho : store.Orderly supply) {s : String} (hid : t.id = .text s)
    (h : store.insert t = .ok store') (hserves : timer.Serves t defaultZone) :
    store'.Backs timer defaultZone := by
  cases store with
  | memory ts =>
    rw [insert_memory hid h]
    have htable : Trigger.Table supply ts := ho
    refine ⟨t, ?_, hserves⟩
    rw [hserves.id]
    exact htable.texts.get?_put_self hid
  | relation rows =>
    obtain ⟨es, row, hes, hrow, rfl, _⟩ := insert_relation hid h
    exact ⟨row, List.mem_append_right _ (List.mem_singleton_self row),
      servesRow_of_serves hes hrow hid hserves⟩

/-! A changed trigger is stored in the place of the former one. -/

theorem save_memory {ts : Keyed Trigger} {s : String} (hid : t.id = .text s)
    (h : (memory ts).save t = .ok store') :
    ts.has t.id = true ∧ store' = .memory (ts.put t.id t) := by
  rw [save, hid] at h
  obtain ⟨key, hkey, h⟩ := exists_of_bind_eq_ok h
  obtain rfl := Value.asKey_eq_ok hkey
  rw [hid]
  split at h
  · next hhas =>
    cases h
    exact ⟨hhas, rfl⟩
  · cases h

theorem save_relation {rows : List Entries} {s : String} (hid : t.id = .text s)
    (h : (relation rows).save t = .ok store') : ∃ es row, t.toRow = .ok es ∧
      Trigger.schema.row es = .ok row ∧ (∃ r ∈ rows, Value.entry r "id" = .text s) ∧
      store' = .relation (rows.map fun r =>
        if Relation.isAt "id" (.text s) r then row.put "id" (Value.entry r "id") else r) := by
  obtain ⟨es, hes, h⟩ := exists_of_bind_eq_ok h
  obtain ⟨rows', hupdate, h⟩ := exists_of_bind_eq_ok h
  cases rows' with
  | none => cases h
  | some rows' =>
    cases h
    obtain ⟨row, hrow, hany, rfl⟩ := Relation.update_eq_ok hupdate
    obtain ⟨hentry, _⟩ := Trigger.row_entries hes hrow hid
    have hkey : Value.entry row Trigger.schema.key = .text s := hentry
    rw [hkey] at hany ⊢
    obtain ⟨r, hr, hmeant⟩ := List.any_eq_true.mp hany
    exact ⟨es, row, hes, hrow, ⟨r, hr, Relation.isAt_text.mp hmeant⟩, rfl⟩

/-- The identifier of a row stays as it is. -/
theorem entry_id_of_saved (row r : Entries) (s : String) :
    Value.entry (if Relation.isAt "id" (.text s) r then row.put "id" (Value.entry r "id") else r)
      "id" = Value.entry r "id" := by
  split
  · exact Value.entry_put_self row "id" _
  · rfl

theorem Orderly.save (ho : store.Orderly supply) (hfound : store.get id = .ok (some t))
    (hamends : t.Amends t') (h : store.save t' = .ok store') : store'.Orderly supply := by
  obtain ⟨s, hs⟩ := ho.text_of_get hfound
  have hid : t'.id = .text s := hamends.id.trans hs
  cases store with
  | memory ts =>
    rw [(save_memory hid h).2]
    have htable : Trigger.Table supply ts := ho
    obtain ⟨key, _, hget⟩ := exists_of_bind_eq_ok hfound
    exact htable.put_amended (htable.texts.get?_eq_some_iff.mp (Except.ok.inj hget)) hamends
  | relation rows =>
    obtain ⟨es, row, hes, hrow, _, rfl⟩ := save_relation hid h
    constructor
    · intro r' hr'
      obtain ⟨r, hr, rfl⟩ := List.mem_map.mp hr'
      rw [entry_id_of_saved]
      exact ho.1 r hr
    · simp only [List.map_map, Function.comp_def, entry_id_of_saved]
      exact ho.2

theorem Backs.save (ho : store.Orderly supply) {s : String} (hid : t.id = .text s)
    (h : store.save t = .ok store') (hne : timer.triggerId ≠ t.id)
    (hb : store.Backs timer defaultZone) : store'.Backs timer defaultZone := by
  cases store with
  | memory ts =>
    rw [(save_memory hid h).2]
    obtain ⟨t', hget, hserves⟩ := hb
    have htable : Trigger.Table supply ts := ho
    exact ⟨t', htable.texts.get?_put_of_ne hid hne hget, hserves⟩
  | relation rows =>
    obtain ⟨es, row, _, _, _, rfl⟩ := save_relation hid h
    obtain ⟨r, hr, hserves⟩ := hb
    refine ⟨r, List.mem_map.mpr ⟨r, hr, if_neg fun hmeant => hne ?_⟩, hserves⟩
    rw [← hserves.id, Relation.isAt_text.mp hmeant, hid]

theorem Orderly.backs_saved (ho : store.Orderly supply) {s : String} (hid : t.id = .text s)
    (h : store.save t = .ok store') (hserves : timer.Serves t defaultZone) :
    store'.Backs timer defaultZone := by
  cases store with
  | memory ts =>
    rw [(save_memory hid h).2]
    have htable : Trigger.Table supply ts := ho
    refine ⟨t, ?_, hserves⟩
    rw [hserves.id]
    exact htable.texts.get?_put_self hid
  | relation rows =>
    obtain ⟨es, row, hes, hrow, ⟨r, hr, hentry⟩, rfl⟩ := save_relation hid h
    refine ⟨_, List.mem_map.mpr ⟨r, hr, if_pos (Relation.isAt_text.mpr hentry)⟩, ?_⟩
    -- The row keeps the identifier it had, which is the text that was written.
    refine (servesRow_of_serves hes hrow hid hserves).ofEntries fun key hkey => ?_
    by_cases hkeyId : key = "id"
    · rw [hkeyId, Value.entry_put_self, hentry, (Trigger.row_entries hes hrow hid).1]
    · exact Value.entry_put_of_ne row hkeyId _

/-! A removed trigger is one only. -/

theorem Orderly.delete (ho : store.Orderly supply) {b : Bool}
    (h : store.delete id = .ok (b, store')) : store'.Orderly supply := by
  cases store with
  | memory ts =>
    obtain ⟨key, _, h⟩ := exists_of_bind_eq_ok h
    cases h
    exact Trigger.Table.erase ho key
  | relation rows =>
    obtain ⟨bound, _, h⟩ := exists_of_bind_eq_ok h
    cases h
    exact ⟨fun row hrow => ho.1 row (List.mem_of_mem_filter hrow),
      ho.2.sublist (List.filter_sublist.map _)⟩

theorem Backs.delete (ho : store.Orderly supply) (hfound : store.get id = .ok (some t)) {b : Bool}
    (h : store.delete id = .ok (b, store')) (hne : timer.triggerId ≠ t.id)
    (hb : store.Backs timer defaultZone) : store'.Backs timer defaultZone := by
  cases store with
  | memory ts =>
    obtain ⟨key, hkey, hget⟩ := exists_of_bind_eq_ok hfound
    obtain ⟨key', hkey', h⟩ := exists_of_bind_eq_ok h
    rw [hkey] at hkey'
    obtain rfl := Except.ok.inj hkey'
    cases h
    have htable : Trigger.Table supply ts := ho
    have hown : t.id = key :=
      htable.own _ (htable.texts.get?_eq_some_iff.mp (Except.ok.inj hget))
    obtain ⟨t', hget', hserves⟩ := hb
    exact ⟨t', htable.texts.get?_erase_of_ne (hown ▸ hne) hget', hserves⟩
  | relation rows =>
    obtain ⟨bound, row, hbound, hrow, hmeant, hread⟩ := find?_of_get hfound
    obtain ⟨bound', hbound', h⟩ := exists_of_bind_eq_ok h
    rw [hbound] at hbound'
    obtain rfl := Except.ok.inj hbound'
    cases h
    obtain ⟨r, hr, hserves⟩ := hb
    refine ⟨r, List.mem_filter.mpr ⟨hr, ?_⟩, hserves⟩
    rw [Bool.not_eq_true', Bool.eq_false_iff]
    -- A row that is meant by the same identifier would be the row of the removed trigger.
    intro hmeant'
    obtain ⟨s, hs⟩ := ho.1 row hrow
    obtain ⟨s', hs'⟩ := ho.1 r hr
    refine hne ?_
    rw [← hserves.id, hs', (Trigger.ofRow_eq_ok hread).1, hs,
      Relation.isAt_unique hmeant' hmeant hs' hs]

/-! What the scheduler finds backs the timers that it registers. -/

theorem mapM_mem {α β ε : Type} {f : α → Except ε β} {xs : List α} {ys : List β}
    (h : xs.mapM f = .ok ys) {y : β} (hy : y ∈ ys) : ∃ x ∈ xs, f x = .ok y := by
  rw [mapM_eq_ok_iff] at h
  induction h with
  | nil => exact absurd hy List.not_mem_nil
  | @cons x y' xs ys hxy _ ih =>
    rcases List.mem_cons.mp hy with rfl | hy
    · exact ⟨x, List.mem_cons_self, hxy⟩
    · obtain ⟨x', hx', hfx'⟩ := ih hy
      exact ⟨x', List.mem_cons_of_mem x hx', hfx'⟩

theorem map_mapM {α β γ ε : Type} {f : α → Except ε β} {g : β → γ} {h : α → γ}
    (hf : ∀ {x : α} {y : β}, f x = .ok y → g y = h x) {xs : List α} {ys : List β}
    (hys : xs.mapM f = .ok ys) :
    ys.map g = xs.map h := by
  rw [mapM_eq_ok_iff] at hys
  induction hys with
  | nil => rfl
  | cons hxy _ ih => rw [List.map_cons, List.map_cons, hf hxy, ih]

theorem rowIsAmong_activeCron {isAmong : Entries → Bool} (h : rowIsAmong activeCron = .ok isAmong)
    {row : Entries} (hrow : isAmong row = true) :
    Value.entry row "trigger_type" = .text TriggerType.cron.name ∧
      (Value.entry row "is_active").equal (.int 1) = true := by
  have hfilter : rowIsAmong activeCron = .ok fun row =>
      Relation.isAt "trigger_type" (.text TriggerType.cron.name) row &&
        ((Value.entry row "is_active").equal (.int 1) && true) := rfl
  rw [hfilter] at h
  cases h
  simp only [Bool.and_true, Bool.and_eq_true] at hrow
  exact ⟨Relation.isAt_text.mp hrow.1, hrow.2⟩

theorem Orderly.ofFind (ho : store.Orderly supply) {found : List Trigger}
    (h : store.find activeCron = .ok found) (ht : t ∈ found) :
    (∃ s, t.id = .text s) ∧ t.isCron = true ∧ t.isActive.truthy = true ∧
      ∀ {timer : Timer} {defaultZone : Value}, timer.Serves t defaultZone →
        store.Backs timer defaultZone := by
  cases store with
  | memory ts =>
    have hfiled : Trigger.Filed ts := ho.filed
    obtain ⟨hmem, hamong⟩ := hfiled.mem_of_find h ht
    have hcron : t.isCron = true ∧ t.isActive.equal (.bool true) = true := by
      simpa [Trigger.isAmong, Trigger.isCron] using hamong
    rw [Value.equal_bool] at hcron
    refine ⟨hfiled.texts.text t.id (Keyed.mem_keys hmem), hcron.1,
      Value.truthy_of_equal_one hcron.2, fun hserves => ⟨t, ?_, hserves⟩⟩
    exact hfiled.texts.get?_eq_some_iff.mpr (hserves.id ▸ hmem)
  | relation rows =>
    obtain ⟨isAmong, hamong, h⟩ := exists_of_bind_eq_ok h
    obtain ⟨row, hsorted, hread⟩ := mapM_mem h ht
    obtain ⟨hrow, hmeant⟩ := List.mem_filter.mp (List.mem_mergeSort.mp hsorted)
    obtain ⟨hid, hcron, hactive, hspells⟩ := Trigger.ofRow_eq_ok hread
    obtain ⟨htype, hequal⟩ := rowIsAmong_activeCron hamong hmeant
    have htruthy := hactive (Value.truthy_of_equal_one hequal)
    obtain ⟨s, hs⟩ := ho.1 row hrow
    refine ⟨⟨s, hid.trans hs⟩, hcron htype, by rw [htruthy]; rfl, fun hserves => ?_⟩
    obtain ⟨es, hconditions, hexpression, hzone⟩ := hserves.schedule
    -- Conditions with an expression are not empty, so they were not read from a null.
    have hne : es ≠ [] := by
      rintro rfl
      cases hexpression
    exact ⟨row, hrow, hid ▸ hserves.id.symm, htype, hequal, _, hspells es hconditions hne, es, rfl,
      hexpression, hzone⟩

/-- No trigger is found twice. -/
theorem Filed.distinct_of_find {f : TriggerFilter} (h : store.Filed) {found : List Trigger}
    (hfind : store.find f = .ok found) : (found.map (·.id)).Nodup := by
  cases store with
  | memory ts => exact Trigger.Filed.distinct_of_find h hfind
  | relation rows =>
    obtain ⟨isAmong, _, hfind⟩ := exists_of_bind_eq_ok hfind
    have hids := map_mapM (fun hread => (Trigger.ofRow_eq_ok hread).1) hfind
    rw [hids, Relation.newestFirst, ((List.mergeSort_perm _ _).map _).nodup_iff]
    exact h.2.sublist (List.filter_sublist.map _)

theorem Filed.text_of_find {f : TriggerFilter} (h : store.Filed) {found : List Trigger}
    (hfind : store.find f = .ok found) (ht : t ∈ found) : ∃ s, t.id = .text s := by
  cases store with
  | memory ts =>
    have hfiled : Trigger.Filed ts := h
    exact hfiled.texts.text t.id (Keyed.mem_keys (hfiled.mem_of_find hfind ht).1)
  | relation rows =>
    obtain ⟨isAmong, _, hfind⟩ := exists_of_bind_eq_ok hfind
    obtain ⟨row, hsorted, hread⟩ := mapM_mem hfind ht
    obtain ⟨hrow, _⟩ := List.mem_filter.mp (List.mem_mergeSort.mp hsorted)
    rw [(Trigger.ofRow_eq_ok hread).1]
    exact h.1 row hrow

end TriggerStore
end ProcessTriggers
