import Mathlib.Data.List.Perm.Basic
import ProcessTriggers.Proofs.StoredTriggers
import ProcessTriggers.Proofs.WellFormed

/-!
The two kinds of trigger store. A store in memory and one in a relation that get the same calls give
the same answers, as long as the triggers are such that a relation holds them without loss.
-/

namespace ProcessTriggers

section

variable {α β : Type} {R : α → β → Prop} {as : List α} {bs : List β} {p : α → Bool} {q : β → Bool}

theorem forall₂_find? (h : List.Forall₂ R as bs) (hpq : ∀ a b, R a b → p a = q b) :
    Option.Rel R (as.find? p) (bs.find? q) := by
  induction h with
  | nil => exact .none
  | @cons a b as bs hab _ ih =>
    rw [List.find?_cons, List.find?_cons, hpq a b hab]
    cases q b with
    | true => exact .some hab
    | false => exact ih

theorem forall₂_any (h : List.Forall₂ R as bs) (hpq : ∀ a b, R a b → p a = q b) :
    as.any p = bs.any q := by
  induction h with
  | nil => rfl
  | @cons a b as bs hab _ ih => rw [List.any_cons, List.any_cons, hpq a b hab, ih]

theorem forall₂_pairwise {S : α → α → Prop} {T : β → β → Prop} (h : List.Forall₂ R as bs)
    (hbs : bs.Pairwise T) (hST : ∀ a b a' b', R a b → R a' b' → T b b' → S a a') :
    as.Pairwise S := by
  have hlength := h.length_eq
  rw [List.pairwise_iff_getElem] at hbs ⊢
  intro i j hi hj hij
  have hi' := hlength ▸ hi
  have hj' := hlength ▸ hj
  exact hST as[i] bs[i] as[j] bs[j] (h.get hi hi') (h.get hj hj') (hbs i j hi' hj' hij)

end

/-- The texts of two times are in the order of the times. -/
theorem Value.instant_le_of_written {v v' w w' : Value} (hv : v.IsUtc) (hv' : v'.IsUtc)
    (hw : v.writeTime = .ok w) (hw' : v'.writeTime = .ok w')
    (horder : ∀ s s', w = .text s → w' = .text s' →
      compare ((Text.encodeUtf8 s).map UInt8.toNat) ((Text.encodeUtf8 s').map UInt8.toNat) ≠
        .lt) : v'.instant ≤ v.instant := by
  obtain ⟨t, rfl, ht⟩ := hv
  obtain ⟨t', rfl, ht'⟩ := hv'
  have hcompare := horder _ _ (Except.ok.inj hw).symm (Except.ok.inj hw').symm
  rw [Stamp.compare_isoText ht ht', Ne, Int.compare_eq_lt] at hcompare
  exact Int.not_lt.mp hcompare

/-- The items of sorted rows, in the order of the rows. Where the rows are sorted by the texts of
the items' times, the newest item comes first. -/
theorem Relation.newestFirst_items {α : Type} {R : α → Entries → Prop} (time : α → Value)
    {column : String} (htime : ∀ a row, R a row → (time a).IsUtc ∧
      (time a).writeTime = .ok (Value.entry row column))
    {as : List α} {rows : List Entries} (h : List.Forall₂ R as rows) :
    ∃ sorted : List α, sorted.Perm as ∧ List.Forall₂ R sorted (newestFirst column rows) ∧
      sorted.Pairwise fun a a' => (time a').instant ≤ (time a).instant := by
  have hcomp : Relation.Comp (List.Forall₂ R) List.Perm as (newestFirst column rows) :=
    ⟨rows, h, (List.mergeSort_perm _ _).symm⟩
  rw [List.forall₂_comp_perm_eq_perm_comp_forall₂] at hcomp
  obtain ⟨sorted, hperm, hsorted⟩ := hcomp
  refine ⟨sorted, hperm.symm, hsorted, ?_⟩
  refine forall₂_pairwise hsorted (pairwise_newestFirst column rows) ?_
  intro a row a' row' ha ha' horder
  obtain ⟨hutc, hwritten⟩ := htime a row ha
  obtain ⟨hutc', hwritten'⟩ := htime a' row' ha'
  exact Value.instant_le_of_written hutc hutc' hwritten hwritten' horder

namespace TriggerStore

/-- A call of a store of triggers. -/
inductive Call
  | insert (t : Trigger)
  | get (id : Value)
  | save (t : Trigger)
  | delete (id : Value)
  | recordFire (id : Value) (firedAt : Stamp)
  | find (f : TriggerFilter)

inductive Answer
  | stored (t : Trigger)
  | lookedUp (t : Option Trigger)
  | removed (wasThere : Bool)
  | counted
  | found (ts : List Trigger)

/-- Makes a call. One that fails leaves the store as it is. -/
def serve (s : TriggerStore) : Call → Except Error Answer × TriggerStore
  | .insert t =>
    match s.insert t with
    | .ok s' => (.ok (.stored t), s')
    | .error e => (.error e, s)
  | .get id => ((s.get id).map .lookedUp, s)
  | .save t =>
    match s.save t with
    | .ok s' => (.ok (.stored t), s')
    | .error e => (.error e, s)
  | .delete id =>
    match s.delete id with
    | .ok (wasThere, s') => (.ok (.removed wasThere), s')
    | .error e => (.error e, s)
  | .recordFire id firedAt =>
    match s.recordFire id firedAt with
    | .ok s' => (.ok .counted, s')
    | .error e => (.error e, s)
  | .find f => ((s.find f).map .found, s)

/-- The answers to calls that are made one after another. -/
def answers (s : TriggerStore) : List Call → List (Except Error Answer)
  | [] => []
  | c :: cs => (s.serve c).1 :: answers (s.serve c).2 cs

/-- The calls for which a store is meant: the triggers can be held without loss, one that is
inserted is new, what is looked for is a text or a boolean, and no count of starts grows too
large. -/
def Call.Proper (s : TriggerStore) : Call → Prop
  | .insert t => t.Storable ∧ s.get t.id = .ok none
  | .get id => id.IsText
  | .save t => t.Storable
  | .delete id => id.IsText
  | .recordFire id firedAt => id.IsText ∧ firedAt.IsUtc ∧
    ∀ t n, s.get id = .ok (some t) → t.triggerCount = .int n → n + 1 < 2 ^ 63
  | .find f => (∀ v ∈ f.workspaceId, v.IsText) ∧ (∀ v ∈ f.isActive, ∃ b, v = .bool b) ∧
    ∀ v ∈ f.definitionId, v.IsText

def Proper (s : TriggerStore) : List Call → Prop
  | [] => True
  | c :: cs => c.Proper s ∧ Proper (s.serve c).2 cs

/-- Answers that a caller cannot tell apart, but for the order of triggers that were created at the
same time. The only error is that a trigger to be saved is not there. -/
inductive Agree : Except Error Answer → Except Error Answer → Prop
  | stored (t : Trigger) : Agree (.ok (.stored t)) (.ok (.stored t))
  | lookedUp (t : Option Trigger) : Agree (.ok (.lookedUp t)) (.ok (.lookedUp t))
  | removed (wasThere : Bool) : Agree (.ok (.removed wasThere)) (.ok (.removed wasThere))
  | counted : Agree (.ok .counted) (.ok .counted)
  | notFound (id : Value) : Agree (.error (notFound id)) (.error (notFound id))
  | found {ts us : List Trigger} : ts.Perm us → (ts.map (·.id)).Nodup →
      ts.Pairwise (fun t t' => t'.creation ≤ t.creation) →
      us.Pairwise (fun t t' => t'.creation ≤ t.creation) → Agree (.ok (.found ts)) (.ok (.found us))

/-- A trigger in memory and the row that holds the same trigger. -/
structure Mirrored (e : Value × Trigger) (row : Entries) : Prop where
  own : e.1 = e.2.id
  storable : e.2.Storable
  held : e.2.HeldBy row

/-- The rows hold the triggers in memory, in the same order. -/
structure Mirrors (ts : Keyed Trigger) (rows : List Entries) : Prop where
  rows : List.Forall₂ Mirrored ts rows
  nodup : ts.keys.Nodup

variable {ts : Keyed Trigger} {rows : List Entries} {t : Trigger} {id : Value}

theorem Mirrors.nil : Mirrors [] [] := ⟨.nil, List.nodup_nil⟩

theorem Mirrors.mirrored_of_mem (h : Mirrors ts rows) :
    ∀ e ∈ ts, e.1 = e.2.id ∧ e.2.Storable :=
  ((List.forall₂_and_left ts rows).mp (h.rows.imp fun _ _ hm => ⟨⟨hm.own, hm.storable⟩, hm⟩)).1

theorem Mirrors.texts (h : Mirrors ts rows) : Keyed.Texts ts := by
  refine ⟨fun k hk => ?_, h.nodup⟩
  obtain ⟨t, ht⟩ := Keyed.mem_keys_iff.mp hk
  obtain ⟨hown, hstorable⟩ := h.mirrored_of_mem _ ht
  obtain ⟨s, hs, -⟩ := hstorable.id.1
  exact ⟨s, hown.trans hs⟩

/-- A trigger is found in memory under a text exactly if its row is. -/
theorem Mirrored.equal_iff {e : Value × Trigger} {row : Entries} (h : Mirrored e row)
    (hid : id.IsText) : e.1.equal id = Relation.isAt "id" id row := by
  rw [h.own, Relation.isAt_isText h.held.id h.storable.id.1 hid]

/-! One call. -/

theorem asKey_isText (hid : id.IsText) : id.asKey = .ok id := by
  obtain ⟨s, rfl, -⟩ := hid
  rfl

theorem Mirrors.has_eq_any (h : Mirrors ts rows) (hid : id.IsText) :
    ts.has id = rows.any (Relation.isAt "id" id) :=
  forall₂_any h.rows fun _ _ hm => hm.equal_iff hid

/-- A look-up finds the same trigger on both sides. -/
theorem Mirrors.get (h : Mirrors ts rows) (hid : id.IsText) :
    (memory ts).get id = .ok (ts.get? id) ∧ (relation rows).get id = .ok (ts.get? id) := by
  have hbound : Relation.bind id = .ok id := Relation.bindAt_isText hid 1
  have hfound := forall₂_find? h.rows fun _ _ hm => hm.equal_iff hid
  constructor
  · rw [TriggerStore.get, asKey_isText hid]
    rfl
  · rw [TriggerStore.get, Keyed.get?]
    simp only [hbound, bind, Except.bind]
    generalize ts.find? (·.1.equal id) = found, rows.find? (Relation.isAt "id" id) = row at hfound
    cases hfound with
    | none => rfl
    | @some e row hm =>
      have hread := hm.held.ofRow hm.storable
      simp only [Option.mapM_some, hread]
      rfl

/-- The rows still mirror the triggers after one was replaced on both sides. -/
theorem Mirrors.replace (h : Mirrors ts rows) (hid : id.IsText) (hmem : id ∈ ts.keys)
    (change : Entries → Entries)
    (hchange : ∀ e ∈ ts, e.1 = id → ∀ row, Mirrored e row → Mirrored (id, t) (change row)) :
    Mirrors (ts.put id t)
      (rows.map fun row => if Relation.isAt "id" id row then change row else row) := by
  have hall : List.Forall₂ (fun e row => e ∈ ts ∧ Mirrored e row) ts rows :=
    (List.forall₂_and_left ts rows).mpr ⟨fun _ he => he, h.rows⟩
  obtain ⟨s, rfl, hs⟩ := hid
  refine ⟨?_, (h.texts.put s).nodup⟩
  rw [h.texts.put_of_mem hmem, List.forall₂_map_left_iff, List.forall₂_map_right_iff]
  refine hall.imp fun e row ⟨he, hm⟩ => ?_
  rw [hm.equal_iff ⟨s, rfl, hs⟩]
  split
  · next hmeant =>
    rw [← hm.equal_iff ⟨s, rfl, hs⟩] at hmeant
    have hkey : e.1 = .text s := ((h.texts.equal_iff (Keyed.mem_keys he)).mp hmeant).symm
    rw [hkey]
    exact hchange e he hkey row hm
  · exact hm

/-- A new trigger is added on both sides. -/
theorem Mirrors.insert (h : Mirrors ts rows) (ht : t.Storable) (hnew : t.id ∉ ts.keys) :
    ∃ ts' rows', (memory ts).insert t = .ok (memory ts') ∧
      (relation rows).insert t = .ok (relation rows') ∧ Mirrors ts' rows' := by
  obtain ⟨row, hrow, hheld⟩ := ht.toRow
  obtain ⟨hkept, -, hrequired⟩ := hheld.row_eq_self ht
  have hput := h.texts.put_of_not_mem (x := t) hnew
  have hany : rows.any (Relation.isAt "id" t.id) = false := by
    rw [← h.has_eq_any ht.id.1]
    exact h.texts.has_eq_false_iff.mpr hnew
  have hunique : rows.any (Relation.isAt "id" (Value.entry row "id")) = false :=
    hheld.id ▸ hany
  refine ⟨ts.put t.id t, rows ++ [row], ?_, ?_, ?_, ?_⟩
  · rw [TriggerStore.insert, asKey_isText ht.id.1]
    rfl
  · have hinsert : Relation.insert Trigger.schema rows row = .ok (rows ++ [row]) := by
      have hkey : Trigger.schema.key = "id" := rfl
      rw [Relation.insert, hkept, hkey]
      simp only [hrequired, hunique, bind, Except.bind]
      rfl
    simp only [TriggerStore.insert, hrow, hinsert, bind, Except.bind, pure, Except.pure]
  · rw [hput]
    exact List.rel_append h.rows (.cons ⟨rfl, ht, hheld⟩ .nil)
  · obtain ⟨s, hs, -⟩ := ht.id.1
    rw [hs]
    exact (h.texts.put s).nodup

/-- What becomes of the rows when a trigger is saved. -/
theorem update_row {row : Entries} (ht : t.Storable) (hheld : t.HeldBy row) :
    Relation.update Trigger.schema rows row = .ok (
      if rows.any (Relation.isAt "id" t.id) then some (rows.map fun r =>
        if Relation.isAt "id" t.id r then row.put "id" (Value.entry r "id") else r)
      else none) := by
  obtain ⟨-, hkept, hrequired⟩ := hheld.row_eq_self ht
  have hkey : Trigger.schema.key = "id" := rfl
  rw [Relation.update, hkept, hkey]
  simp only [hheld.id, hrequired, bind, Except.bind]
  cases rows.any (Relation.isAt "id" t.id) with
  | true => rfl
  | false => rfl

/-- A stored trigger is replaced on both sides. -/
theorem Mirrors.save (h : Mirrors ts rows) (ht : t.Storable) (hmem : t.id ∈ ts.keys) :
    ∃ ts' rows', (memory ts).save t = .ok (memory ts') ∧
      (relation rows).save t = .ok (relation rows') ∧ Mirrors ts' rows' := by
  obtain ⟨row, hrow, hheld⟩ := ht.toRow
  have hhas : ts.has t.id = true := h.texts.has_iff.mpr hmem
  have hany : rows.any (Relation.isAt "id" t.id) = true := by rw [← h.has_eq_any ht.id.1, hhas]
  have hmirrors := h.replace (t := t) ht.id.1 hmem
    (fun r => row.put "id" (Value.entry r "id")) fun e he hkey r hm => by
      have hsame : row.put "id" (Value.entry r "id") = row := by
        have hid : Value.entry r "id" = Value.entry row "id" :=
          (hm.held.id.trans (hm.own.symm.trans hkey)).trans hheld.id.symm
        rw [hid]
        exact Entries.put_entry_self (hheld.keys ▸ by decide)
      rw [hsame]
      exact ⟨rfl, ht, hheld⟩
  refine ⟨_, _, ?_, ?_, hmirrors⟩
  · simp only [TriggerStore.save, asKey_isText ht.id.1, hhas, if_true, bind, Except.bind, pure,
      Except.pure]
  · simp only [TriggerStore.save, hrow, update_row ht hheld, hany, if_true, bind, Except.bind,
      pure, Except.pure]

/-- A trigger that is not stored is refused on both sides. -/
theorem Mirrors.save_unknown (h : Mirrors ts rows) (ht : t.Storable) (hmem : t.id ∉ ts.keys) :
    (memory ts).save t = .error (notFound t.id) ∧
      (relation rows).save t = .error (notFound t.id) := by
  obtain ⟨row, hrow, hheld⟩ := ht.toRow
  have hhas : ts.has t.id = false := h.texts.has_eq_false_iff.mpr hmem
  have hany : rows.any (Relation.isAt "id" t.id) = false := by rw [← h.has_eq_any ht.id.1, hhas]
  constructor
  · simp only [TriggerStore.save, asKey_isText ht.id.1, hhas, Bool.false_eq_true, if_false, bind,
      Except.bind]
    rfl
  · simp only [TriggerStore.save, hrow, update_row ht hheld, hany, Bool.false_eq_true, if_false,
      bind, Except.bind]
    rfl

/-- A trigger is removed on both sides, if it is there. -/
theorem Mirrors.delete (h : Mirrors ts rows) (hid : id.IsText) :
    ∃ wasThere ts' rows', (memory ts).delete id = .ok (wasThere, memory ts') ∧
      (relation rows).delete id = .ok (wasThere, relation rows') ∧ Mirrors ts' rows' := by
  have hbound : Relation.bind id = .ok id := Relation.bindAt_isText hid 1
  refine ⟨ts.has id, ts.erase id, rows.filter (!Relation.isAt "id" id ·), ?_, ?_, ?_, ?_⟩
  · simp only [TriggerStore.delete, asKey_isText hid, bind, Except.bind, pure, Except.pure]
  · simp only [TriggerStore.delete, hbound, h.has_eq_any hid, bind, Except.bind, pure, Except.pure]
  · refine List.rel_filter (fun e row hm => ?_) h.rows
    simp only [hm.equal_iff hid]
  · exact h.nodup.sublist (Keyed.Texts.erase_sublist ts id)

/-- No row is changed where the trigger is not in memory. -/
theorem Mirrors.map_unmeant (h : Mirrors ts rows) (hid : id.IsText) (hget : ts.get? id = none)
    (change : Entries → Entries) :
    rows.map (fun row => if Relation.isAt "id" id row then change row else row) = rows := by
  have hany : rows.any (Relation.isAt "id" id) = false := by
    rw [← h.has_eq_any hid, h.texts.has_eq_false_iff]
    exact h.texts.get?_eq_none_iff.mp hget
  rw [List.any_eq_false] at hany
  refine (List.map_congr_left fun row hrow => ?_).trans (List.map_id' rows)
  rw [if_neg (hany row hrow)]

/-- A start is counted on both sides, if the trigger is there. -/
theorem Mirrors.recordFire (h : Mirrors ts rows) (hid : id.IsText) {firedAt : Stamp}
    (hfired : firedAt.IsUtc)
    (hcount : ∀ t n, ts.get? id = some t → t.triggerCount = .int n → n + 1 < 2 ^ 63) :
    ∃ ts' rows', (memory ts).recordFire id firedAt = .ok (memory ts') ∧
      (relation rows).recordFire id firedAt = .ok (relation rows') ∧ Mirrors ts' rows' := by
  have hbound : Relation.bindAt 2 id = .ok id := Relation.bindAt_isText hid 2
  obtain ⟨change, hchange⟩ : ∃ change : Entries → Entries, change = fun row =>
      (row.put "trigger_count" (Relation.addOne (Value.entry row "trigger_count"))).put
        "last_triggered_at" (.text firedAt.isoText) := ⟨_, rfl⟩
  have hrows : (relation rows).recordFire id firedAt = .ok (relation
      (rows.map fun row => if Relation.isAt "id" id row then change row else row)) := by
    rw [TriggerStore.recordFire, hchange]
    simp only [hbound, bind, Except.bind, pure, Except.pure]
  cases hget : ts.get? id with
  | none =>
    rw [h.map_unmeant hid hget] at hrows
    refine ⟨ts, rows, ?_, hrows, h⟩
    simp only [TriggerStore.recordFire, asKey_isText hid, hget, bind, Except.bind, pure,
      Except.pure]
  | some t =>
    have hmem : (id, t) ∈ ts := h.texts.get?_eq_some_iff.mp hget
    obtain ⟨hown, ht⟩ := h.mirrored_of_mem _ hmem
    obtain ⟨n, hn, hpos, -⟩ := ht.triggerCount
    have hlt := hcount t n hget hn
    have hincrement : t.triggerCount.increment = .ok (.int (n + 1)) := by
      rw [hn]
      rfl
    have hmirrors := h.replace (t := t.fired (n + 1) firedAt) hid (Keyed.mem_keys hmem) change
      fun e he hkey row hm => by
        obtain ⟨k, t'⟩ := e
        obtain rfl : k = id := hkey
        obtain rfl : t' = t := h.texts.unique he hmem
        rw [hchange]
        exact ⟨hown, ht.fired (by omega) hlt hfired, hm.held.fired hn hpos hlt firedAt⟩
    refine ⟨_, _, ?_, hrows, hmirrors⟩
    simp only [TriggerStore.recordFire, asKey_isText hid, hget, hincrement, bind, Except.bind,
      pure, Except.pure]
    rfl

/-! Searching. -/

theorem type_name_inj {type type' : TriggerType} : type.name = type'.name ↔ type = type' := by
  refine ⟨fun h => ?_, congrArg _⟩
  cases type <;> cases type' <;> first | rfl | exact absurd h (by decide)

/-- The columns that a row is searched by say the same as the fields of its trigger. -/
theorem Mirrored.isAmong {e : Value × Trigger} {row : Entries} (h : Mirrored e row)
    {f : TriggerFilter} (hf : (Call.find f).Proper (memory ts)) :
    (f.workspaceId.all (Relation.isAt "workspace_id" · row) &&
      f.type.all (fun type => Relation.isAt "trigger_type" (.text type.name) row) &&
      f.isActive.all (fun v => (Value.entry row "is_active").equal
        (.int (if v.truthy then 1 else 0))) &&
      f.definitionId.all (Relation.isAt "process_definition_id" · row)) = e.2.isAmong f := by
  obtain ⟨hworkspace, hactive, hdefinition⟩ := hf
  have hworkspace' : f.workspaceId.all (Relation.isAt "workspace_id" · row) =
      f.workspaceId.all e.2.workspaceId.equal := by
    cases hv : f.workspaceId with
    | none => rfl
    | some v =>
      exact Relation.isAt_isText h.held.workspaceId h.storable.workspaceId (hworkspace v hv)
  have hdefinition' : f.definitionId.all (Relation.isAt "process_definition_id" · row) =
      f.definitionId.all e.2.definitionId.equal := by
    cases hv : f.definitionId with
    | none => rfl
    | some v =>
      exact Relation.isAt_isText h.held.definitionId h.storable.definitionId (hdefinition v hv)
  have htype' : f.type.all (fun type => Relation.isAt "trigger_type" (.text type.name) row) =
      f.type.all e.2.type.is := by
    obtain ⟨type, htype, hrow⟩ := h.held.type
    cases f.type with
    | none => rfl
    | some type' =>
      rw [Option.all_some, Option.all_some, htype, Bool.eq_iff_iff, Relation.isAt_text, hrow,
        Value.text.injEq, type_name_inj]
      exact beq_iff_eq.symm
  have hactive' : f.isActive.all (fun v => (Value.entry row "is_active").equal
      (.int (if v.truthy then 1 else 0))) = f.isActive.all e.2.isActive.equal := by
    obtain ⟨b, hb, hrow⟩ := h.held.isActive
    cases hv : f.isActive with
    | none => rfl
    | some v =>
      obtain ⟨b', rfl⟩ := hactive v hv
      rw [Option.all_some, Option.all_some, hrow, hb]
      cases b <;> cases b' <;> rfl
  rw [hworkspace', htype', hactive', hdefinition', Trigger.isAmong]

/-- Rows are searched for what triggers in memory are searched for. -/
theorem rowIsAmong_run {f : TriggerFilter} (hf : (Call.find f).Proper (memory ts)) :
    ∃ p, rowIsAmong f = .ok p ∧ ∀ e row, Mirrored e row → p row = e.2.isAmong f := by
  have hbound : Relation.bindAll ((conditions f).map (·.2)) = .ok ((conditions f).map (·.2)) := by
    refine Relation.bindAll_self fun v hv i => ?_
    obtain ⟨c, hc, rfl⟩ := List.mem_map.mp hv
    obtain ⟨hworkspace, hactive, hdefinition⟩ := hf
    simp only [conditions, List.mem_filterMap, List.mem_cons, List.not_mem_nil, or_false] at hc
    obtain ⟨⟨column, v⟩, hcolumn, hmap⟩ := hc
    obtain ⟨w, hw, rfl⟩ := Option.map_eq_some_iff.mp hmap
    simp only [Prod.mk.injEq] at hcolumn
    rcases hcolumn with ⟨-, rfl⟩ | ⟨-, rfl⟩ | ⟨-, rfl⟩ | ⟨-, rfl⟩
    · exact Relation.bindAt_isText (hworkspace w hw) i
    · obtain ⟨type, -, rfl⟩ := Option.map_eq_some_iff.mp hw
      exact Relation.bindAt_isText ⟨type.name, rfl, by cases type <;> decide⟩ i
    · obtain ⟨b, -, rfl⟩ := Option.map_eq_some_iff.mp hw
      exact Relation.bindAt_int (by cases b.truthy <;> decide) i
    · exact Relation.bindAt_isText (hdefinition w hw) i
  refine ⟨_, by simp only [rowIsAmong, hbound]; rfl, fun e row hm => ?_⟩
  have hzip : (conditions f).zip ((conditions f).map (·.2)) =
      (conditions f).map fun c => (c, c.2) := by
    rw [List.zip, List.zipWith_map_right, List.zipWith_self]
  rw [← hm.isAmong hf, hzip, List.all_map, conditions, List.all_filterMap]
  simp only [List.all_cons, List.all_nil, Bool.and_true, Bool.and_assoc]
  refine congrArg₂ and ?_ (congrArg₂ and ?_ (congrArg₂ and ?_ ?_))
  · cases f.workspaceId <;> rfl
  · cases f.type <;> rfl
  · cases f.isActive <;> rfl
  · cases f.definitionId <;> rfl

theorem mapM_ofRow {es : List (Value × Trigger)} (h : List.Forall₂ Mirrored es rows) :
    rows.mapM Trigger.ofRow = .ok (es.map (·.2)) := by
  rw [mapM_eq_ok_iff, List.forall₂_map_right_iff]
  exact (h.imp fun _ _ hm => hm.held.ofRow hm.storable).flip

/-- The same triggers are found on both sides, each once and the newest first. -/
theorem Mirrors.find (h : Mirrors ts rows) {f : TriggerFilter}
    (hf : (Call.find f).Proper (memory ts)) :
    ∃ found found', (memory ts).find f = .ok found ∧ (relation rows).find f = .ok found' ∧
      found.Perm found' ∧ (found.map (·.id)).Nodup ∧
      found.Pairwise (fun t t' => t'.creation ≤ t.creation) ∧
      found'.Pairwise (fun t t' => t'.creation ≤ t.creation) := by
  have hcreated : ∀ e ∈ ts, ∃ s, e.2.createdAt = .stamp s ∧ s.isAware = true := by
    intro e he
    obtain ⟨s, hs, hutc⟩ := (h.mirrored_of_mem e he).2.createdAt
    exact ⟨s, hs, by rw [Stamp.isAware, hutc.offset]; rfl⟩
  obtain ⟨found, hfound, hperm, hfalling⟩ :=
    Trigger.find_memory (f := f) fun e he _ => hcreated e he
  obtain ⟨p, hp, hsame⟩ := rowIsAmong_run hf
  have hfiltered : List.Forall₂ Mirrored (ts.filter (·.2.isAmong f)) (rows.filter p) := by
    refine List.rel_filter (fun e row hm => ?_) h.rows
    simp only [hsame e row hm]
  have hwritten : ∀ e row, Mirrored e row → e.2.createdAt.IsUtc ∧
      e.2.createdAt.writeTime = .ok (Value.entry row "created_at") := fun e row hm =>
    ⟨hm.storable.createdAt, hm.held.createdAt⟩
  obtain ⟨es, hes, hmirrored, hfalling'⟩ :=
    Relation.newestFirst_items (fun e => e.2.createdAt) hwritten hfiltered
  have hitems : ts.items.filter (·.isAmong f) = (ts.filter (·.2.isAmong f)).map (·.2) :=
    List.filter_map
  rw [hitems] at hperm
  refine ⟨found, es.map (·.2), hfound, ?_, hperm.trans (hes.symm.map _), ?_, hfalling, ?_⟩
  · rw [TriggerStore.find, hp]
    exact mapM_ofRow hmirrored
  · have hids : (ts.filter (·.2.isAmong f)).map (·.2.id) =
        (ts.filter (·.2.isAmong f)).map (·.1) := List.map_congr_left fun e he =>
      (h.mirrored_of_mem e (List.mem_of_mem_filter he)).1.symm
    rw [(hperm.map _).nodup_iff, List.map_map, Function.comp_def, hids]
    exact h.nodup.sublist (List.filter_sublist.map _)
  · rw [List.pairwise_map]
    exact hfalling'

/-! Calls one after another. -/

/-- A call is answered alike on both sides, and both still hold the same triggers after it. -/
theorem Mirrors.serve (h : Mirrors ts rows) {c : Call} (hc : c.Proper (memory ts)) :
    ∃ ts' rows', ((memory ts).serve c).2 = memory ts' ∧
      ((relation rows).serve c).2 = relation rows' ∧ Mirrors ts' rows' ∧
      Agree ((memory ts).serve c).1 ((relation rows).serve c).1 := by
  cases c with
  | insert t =>
    obtain ⟨ht, hnew⟩ := hc
    have hfresh : t.id ∉ ts.keys := by
      rw [(h.get ht.id.1).1] at hnew
      exact h.texts.get?_eq_none_iff.mp (Except.ok.inj hnew)
    obtain ⟨ts', rows', hmemory, hrelation, hmirrors⟩ := h.insert ht hfresh
    simp only [TriggerStore.serve, hmemory, hrelation]
    exact ⟨ts', rows', rfl, rfl, hmirrors, .stored t⟩
  | get id =>
    obtain ⟨hmemory, hrelation⟩ := h.get hc
    simp only [TriggerStore.serve, hmemory, hrelation]
    exact ⟨ts, rows, rfl, rfl, h, .lookedUp _⟩
  | save t =>
    by_cases hmem : t.id ∈ ts.keys
    · obtain ⟨ts', rows', hmemory, hrelation, hmirrors⟩ := h.save hc hmem
      simp only [TriggerStore.serve, hmemory, hrelation]
      exact ⟨ts', rows', rfl, rfl, hmirrors, .stored t⟩
    · obtain ⟨hmemory, hrelation⟩ := h.save_unknown hc hmem
      simp only [TriggerStore.serve, hmemory, hrelation]
      exact ⟨ts, rows, rfl, rfl, h, .notFound t.id⟩
  | delete id =>
    obtain ⟨wasThere, ts', rows', hmemory, hrelation, hmirrors⟩ := h.delete hc
    simp only [TriggerStore.serve, hmemory, hrelation]
    exact ⟨ts', rows', rfl, rfl, hmirrors, .removed wasThere⟩
  | recordFire id firedAt =>
    obtain ⟨hid, hfired, hcount⟩ := hc
    obtain ⟨ts', rows', hmemory, hrelation, hmirrors⟩ := h.recordFire hid hfired
      fun t n ht hn => hcount t n (by rw [(h.get hid).1, ht]) hn
    simp only [TriggerStore.serve, hmemory, hrelation]
    exact ⟨ts', rows', rfl, rfl, hmirrors, .counted⟩
  | find f =>
    obtain ⟨found, found', hmemory, hrelation, hperm, hnodup, hfalling, hfalling'⟩ := h.find hc
    simp only [TriggerStore.serve, hmemory, hrelation]
    exact ⟨ts, rows, rfl, rfl, h, .found hperm hnodup hfalling hfalling'⟩

theorem Mirrors.answers (h : Mirrors ts rows) {calls : List Call}
    (hcalls : Proper (memory ts) calls) :
    List.Forall₂ Agree ((memory ts).answers calls) ((relation rows).answers calls) := by
  induction calls generalizing ts rows with
  | nil => exact .nil
  | cons c calls ih =>
    obtain ⟨hc, hcalls⟩ := hcalls
    obtain ⟨ts', rows', hmemory, hrelation, hmirrors, hagree⟩ := h.serve hc
    rw [hmemory] at hcalls
    rw [TriggerStore.answers, TriggerStore.answers, hmemory, hrelation]
    exact .cons hagree (ih hmirrors hcalls)

/-- A trigger with conditions that hold an object and a list. -/
def greeting (id : String) (created : Stamp) : Trigger where
  id := .text id
  workspaceId := .text "ws"
  definitionId := .text "welcome"
  type := .known .message
  conditions := .object [("user.name", .text "Zoë"), ("level", .list [.int (-1), .null])]
  variableMappings := .object []
  isActive := .bool true
  name := .null
  description := .text "\"hello\""
  createdById := .null
  lastTriggeredAt := .null
  triggerCount := .int 0
  createdAt := .stamp created
  updatedAt := .stamp created

theorem greeting_storable (id : String) (hid : Text.hasHalf id = false) (hne : id ≠ "")
    {created : Stamp} (hcreated : created.IsUtc) : (greeting id created).Storable := by
  have hconditions : Json.Exact (greeting id created).conditions := by
    refine .object (by decide) (by decide) fun e he => ?_
    rcases List.mem_pair.mp he with rfl | rfl
    · exact .text (by decide)
    · refine .list fun x hx => ?_
      rcases List.mem_pair.mp hx with rfl | rfl
      · exact .int (by decide)
      · exact .null
  have hmappings : Json.Exact (greeting id created).variableMappings :=
    .object List.nodup_nil (fun _ he => absurd he List.not_mem_nil)
      fun _ he => absurd he List.not_mem_nil
  exact {
    id := ⟨⟨id, rfl, hid⟩, fun h => hne (Value.text.inj h)⟩
    workspaceId := ⟨"ws", rfl, by decide⟩
    definitionId := ⟨"welcome", rfl, by decide⟩
    type := ⟨.message, rfl⟩
    conditions := Value.isJsonObject_iff.mpr ⟨⟨_, rfl⟩, hconditions⟩
    variableMappings := Value.isJsonObject_iff.mpr ⟨⟨_, rfl⟩, hmappings⟩
    isActive := ⟨true, rfl⟩
    name := .inl rfl
    description := .inr ⟨"\"hello\"", rfl, by decide⟩
    createdById := .inl rfl
    lastTriggeredAt := .inl rfl
    triggerCount := ⟨0, rfl, by decide, by decide⟩
    createdAt := ⟨created, rfl, hcreated⟩
    updatedAt := ⟨created, rfl, hcreated⟩ }

/-- Calls that store two triggers, the second a microsecond younger than the first. -/
def exchange : List Call := [
  .insert (greeting "a" ⟨63000000000000000, some 0⟩),
  .insert (greeting "b" ⟨63000000000000001, some 0⟩),
  .find { workspaceId := some (.text "ws"), isActive := some (.bool true) },
  .recordFire (.text "a") ⟨63000000000000002, some 0⟩,
  .get (.text "a"),
  .delete (.text "b"),
  .save (greeting "b" ⟨63000000000000001, some 0⟩)]

end TriggerStore
end ProcessTriggers
