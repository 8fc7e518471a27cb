import Mathlib.Data.List.Forall2
import ProcessTriggers.Proofs.Entries
import ProcessTriggers.Proofs.Mutations
import ProcessTriggers.Proofs.Timers
import ProcessTriggers.Store.Triggers

/-!
Rows of relations: what is held in their columns, and what the row of a trigger tells about it.
-/

namespace ProcessTriggers

namespace Value

theorem equal_bool (v : Value) (b : Bool) :
    v.equal (.bool b) = v.equal (.int (if b then 1 else 0)) := by
  cases v <;> simp [equal, sameNumber?, integer?, isNull, isMissing]

/-- What equals one is something. -/
theorem truthy_of_equal_one {v : Value} (h : v.equal (.int 1) = true) : v.truthy = true := by
  cases v with
  | int n =>
    have hn : n = 1 := by simpa [equal, sameNumber?, integer?] using h
    rw [hn]
    rfl
  | bool b =>
    cases b with
    | true => rfl
    | false => simp [equal, sameNumber?, integer?] at h
  | double x =>
    cases x with
    | finite negative m e =>
      cases m with
      | succ m => rfl
      | zero =>
        have hlt : (0 : Rat) < 1 := by decide
        cases negative <;>
          simp [equal, sameNumber?, integer?, Double.compareInt?, Double.value?,
            Double.compareRat, hlt] at h
    | _ => rfl
  | _ => simp [equal, sameNumber?, integer?, isNull, isMissing] at h

theorem equal_of_text {v : Value} {s : String} (h : v.equal (.text s) = true) : v = .text s := by
  cases v with
  | text t =>
    rw [equal_text_iff] at h
    exact h.symm
  | _ => simp [equal, sameNumber?, integer?, isNull, isMissing] at h

end Value

namespace Relation

/-- Items that are sorted by lists of numbers come in their falling order. -/
theorem pairwise_mergeSort_falling {α : Type} (key : α → List Nat) (xs : List α) :
    (xs.mergeSort fun a b => compare (key a) (key b) != .lt).Pairwise
      fun a b => compare (key a) (key b) ≠ .lt := by
  have hsorted : (xs.mergeSort fun a b => compare (key a) (key b) != .lt).Pairwise
      fun a b => (compare (key a) (key b) != .lt) = true := by
    refine List.pairwise_mergeSort (fun a b c hab hbc => ?_) (fun a b => ?_) xs
    · rw [bne_iff_ne, Ne, ← Ordering.isGE_eq_false, Bool.not_eq_false] at *
      exact Std.TransOrd.isGE_trans hab hbc
    · rw [Bool.or_eq_true, bne_iff_ne, bne_iff_ne, or_iff_not_imp_left, not_not]
      exact Std.OrientedCmp.not_lt_of_lt
  exact hsorted.imp fun h => bne_iff_ne.mp h

/-- Texts in a column come in the falling order of their bytes. -/
theorem pairwise_newestFirst (column : String) (rows : List Entries) :
    (newestFirst column rows).Pairwise fun row row' => ∀ s s',
      Value.entry row column = .text s → Value.entry row' column = .text s' →
        compare ((Text.encodeUtf8 s).map UInt8.toNat) ((Text.encodeUtf8 s').map UInt8.toNat) ≠
          .lt := by
  refine (pairwise_mergeSort_falling _ rows).imp fun {row row'} hle s s' hs hs' => ?_
  simpa only [hs, hs'] using hle

/-- What is bound for a text is the text itself. -/
theorem bindAt_text {i : Nat} {s : String} {v : Value} (h : bindAt i (.text s) = .ok v) :
    v = .text s := by
  rw [bindAt] at h
  cases hbytes : Text.bytesOf s with
  | error e =>
    rw [hbytes] at h
    cases h
  | ok bs =>
    rw [hbytes] at h
    exact (Except.ok.inj h).symm

theorem isAt_text {column s : String} {row : Entries} :
    isAt column (.text s) row = true ↔ Value.entry row column = .text s :=
  Value.equal_text_iff s _

/-- Two rows that hold the same bound value hold the same text, if they hold texts. -/
theorem isAt_unique {column : String} {bound : Value} {row row' : Entries} {s s' : String}
    (h : isAt column bound row = true) (h' : isAt column bound row' = true)
    (hs : Value.entry row column = .text s) (hs' : Value.entry row' column = .text s') :
    s = s' := by
  -- A row is found by what its column makes of the bound value, which is then a text.
  have hbound : ∀ {row : Entries} {s : String}, isAt column bound row = true →
      Value.entry row column = .text s → Preference.text.convert bound = .text s := by
    intro row s h hs
    rw [isAt] at h
    split at h
    · cases h
    · rw [hs] at h
      exact Value.equal_of_text h
  exact Value.text.inj ((hbound h hs).symm.trans (hbound h' hs'))

theorem bindAll_eq_ok_iff {vs held : List Value} : bindAll vs = .ok held ↔
    List.Forall₂ (fun p w => bindAt (p.2 + 1) p.1 = .ok w) vs.zipIdx held := mapM_eq_ok_iff

theorem bindAll_eq_ok {vs held : List Value} (h : bindAll vs = .ok held) :
    List.Forall₂ (fun v w => ∃ i, bindAt i v = .ok w) vs held := by
  rw [← List.zipIdx_map_fst 0 vs, List.forall₂_map_left_iff]
  exact (bindAll_eq_ok_iff.mp h).imp fun _ _ hw => ⟨_, hw⟩

/-- What is bound is held as it is, if every item alone is. -/
theorem bindAll_self {vs : List Value} (h : ∀ v ∈ vs, ∀ i, bindAt i v = .ok v) :
    bindAll vs = .ok vs := by
  have hself : List.Forall₂ (fun p w => bindAt (p.2 + 1) p.1 = .ok w) vs.zipIdx
      (vs.zipIdx.map Prod.fst) := by
    rw [List.forall₂_map_right_iff, List.forall₂_same]
    exact fun p hp => h p.1 (List.fst_mem_of_mem_zipIdx hp) (p.2 + 1)
  rw [List.zipIdx_map_fst] at hself
  exact bindAll_eq_ok_iff.mpr hself

theorem entry_zipWith {es : Entries} {columns : List Column} {held : List Value}
    (hnames : (columns.map (·.name)).Nodup)
    (hbound : List.Forall₂ (fun c w => ∃ i, bindAt i (Value.entry es c.name) = .ok w) columns held)
    {c : Column} (hc : c ∈ columns) : ∃ i v, bindAt i (Value.entry es c.name) = .ok v ∧
      Value.entry (List.zipWith (fun c v => (c.name, c.preference.convert v)) columns held) c.name =
        c.preference.convert v := by
  induction hbound with
  | nil => exact absurd hc List.not_mem_nil
  | @cons d w ds ws hw _ ih =>
    obtain ⟨hd, hds⟩ := List.nodup_cons.mp hnames
    rw [List.zipWith_cons_cons, Value.entry_cons]
    by_cases hname : c.name = d.name
    · obtain rfl : c = d := (List.mem_cons.mp hc).resolve_right fun hmem =>
        hd (List.mem_map.mpr ⟨c, hmem, hname⟩)
      obtain ⟨i, hi⟩ := hw
      exact ⟨i, w, hi, if_pos rfl⟩
    · rw [if_neg hname]
      exact ih hds ((List.mem_cons.mp hc).resolve_left fun heq => hname (heq ▸ rfl))

/-- What a row holds in a column was bound for the entry of that name. -/
theorem Schema.entry_row {schema : Schema} (hnames : (schema.columns.map (·.name)).Nodup)
    {es row : Entries} (h : schema.row es = .ok row) {c : Column} (hc : c ∈ schema.columns) :
    ∃ i v, bindAt i (Value.entry es c.name) = .ok v ∧
      Value.entry row c.name = c.preference.convert v := by
  obtain ⟨held, hheld, h⟩ := exists_of_bind_eq_ok h
  cases h
  exact entry_zipWith hnames (List.forall₂_map_left_iff.mp (bindAll_eq_ok hheld)) hc

theorem insert_eq_ok {schema : Schema} {rows rows' : List Entries} {es : Entries}
    (h : insert schema rows es = .ok rows') : ∃ row, schema.row es = .ok row ∧
      rows' = rows ++ [row] ∧
      ∀ r ∈ rows, isAt schema.key (Value.entry row schema.key) r = false := by
  obtain ⟨row, hrow, h⟩ := exists_of_bind_eq_ok h
  obtain ⟨_, _, h⟩ := exists_of_bind_eq_ok h
  dsimp only at h
  split at h
  · cases h
  · next hnew =>
    cases h
    refine ⟨row, hrow, rfl, fun r hr => ?_⟩
    rw [Bool.not_eq_true, List.any_eq_false] at hnew
    exact Bool.eq_false_iff.mpr (hnew r hr)

/-- An update puts the changed row in the place of a row with its key. -/
theorem rows_of_update {schema : Schema} {rows rows' : List Entries} {es : Entries}
    (h : update schema rows es = .ok (some rows')) : ∃ row, schema.changedRow es = .ok row ∧
      rows.any (isAt schema.key (Value.entry row schema.key)) = true ∧
      rows' = rows.map fun r => if isAt schema.key (Value.entry row schema.key) r then
        row.put schema.key (Value.entry r schema.key) else r := by
  obtain ⟨row, hrow, h⟩ := exists_of_bind_eq_ok h
  refine ⟨row, hrow, ?_⟩
  dsimp only at h
  split at h
  · cases h
  · next hany =>
    obtain ⟨_, -, h⟩ := exists_of_bind_eq_ok h
    cases h
    exact ⟨by simpa using hany, rfl⟩

theorem update_eq_ok {schema : Schema} {rows rows' : List Entries} {es : Entries}
    (h : update schema rows es = .ok (some rows')) : ∃ row, schema.row es = .ok row ∧
      rows.any (isAt schema.key (Value.entry row schema.key)) = true ∧
      rows' = rows.map fun r =>
        if isAt schema.key (Value.entry row schema.key) r
        then row.put schema.key (Value.entry r schema.key) else r := by
  obtain ⟨row, hchanged, hmeant, hrows⟩ := rows_of_update h
  obtain ⟨_, _, hrow⟩ := exists_of_bind_eq_ok hchanged
  exact ⟨row, hrow, hmeant, hrows⟩

/-- Where a row with a key was replaced, the new one is found by the key. -/
theorem find?_replaced {rows : List Entries} {row : Entries} {p : Entries → Bool}
    {replace : Entries → Entries} (hany : rows.any p = true) (hrow : p row = true)
    (hreplace : ∀ r, p r = true → replace r = row) :
    (rows.map fun r => if p r then replace r else r).find? p = some row := by
  induction rows with
  | nil => cases hany
  | cons r rows ih =>
    rw [List.map_cons, List.find?_cons]
    by_cases hr : p r = true
    · rw [if_pos hr, hreplace r hr, hrow]
    · rw [List.any_cons, Bool.or_eq_true] at hany
      rw [if_neg hr, Bool.eq_false_iff.mpr hr]
      exact ih (hany.resolve_left hr)

end Relation

namespace Trigger

theorem schema_names : (schema.columns.map (·.name)).Nodup := by decide

/-- A text stands for conditions: it was written for them, or they are read from it. -/
def Spells (text conditions : Value) : Prop := ∃ s, text = .text s ∧
  (Json.print Json.stored conditions = .ok s ∨ Json.parse? s = some conditions)

theorem toRow_entries {t : Trigger} {es : Entries} (h : t.toRow = .ok es) :
    Value.entry es "id" = t.id ∧ t.type.name = .ok (Value.entry es "trigger_type") ∧
      Value.entry es "is_active" = .int (if t.isActive.truthy then 1 else 0) ∧
      Spells (Value.entry es "conditions") t.conditions := by
  obtain ⟨fs, hfs, h⟩ := exists_of_bind_eq_ok h
  obtain ⟨name, hname, hfs⟩ := exists_of_bind_eq_ok hfs
  obtain ⟨fired, _, hfs⟩ := exists_of_bind_eq_ok hfs
  obtain ⟨created, _, hfs⟩ := exists_of_bind_eq_ok hfs
  obtain ⟨updated, _, hfs⟩ := exists_of_bind_eq_ok hfs
  cases hfs
  obtain ⟨conditions, hconditions, h⟩ := exists_of_bind_eq_ok h
  obtain ⟨mappings, _, h⟩ := exists_of_bind_eq_ok h
  cases h
  exact ⟨rfl, hname, rfl, conditions, rfl, .inl hconditions⟩

/-- What the row of a trigger with a text for its identifier holds. -/
theorem row_entries {t : Trigger} {es row : Entries} (hes : t.toRow = .ok es)
    (hrow : schema.row es = .ok row) {id : String} (hid : t.id = .text id) :
    Value.entry row "id" = .text id ∧
      (t.isCron = true → Value.entry row "trigger_type" = .text TriggerType.cron.name) ∧
      (t.isActive.truthy = true → Value.entry row "is_active" = .int 1) ∧
      Spells (Value.entry row "conditions") t.conditions := by
  obtain ⟨hesId, htype, hactive, text, htext, hkept⟩ := toRow_entries hes
  -- A column that prefers texts holds a text as it was given.
  have hheld : ∀ {c : Relation.Column} {s : String}, c ∈ schema.columns → c.preference = .text →
      Value.entry es c.name = .text s → Value.entry row c.name = .text s := by
    intro c s hc hpreference hs
    obtain ⟨i, v, hv, hentry⟩ := Relation.Schema.entry_row schema_names hrow hc
    rw [hs] at hv
    rw [hentry, hpreference, Relation.bindAt_text hv]
    rfl
  refine ⟨?_, fun hcron => ?_, fun htruthy => ?_, text, ?_, hkept⟩
  · exact hheld (c := { name := "id", required := false }) (by simp [schema]) rfl (hesId.trans hid)
  · refine hheld (c := { name := "trigger_type" }) (by simp [schema]) rfl ?_
    cases hfield : t.type with
    | known type =>
      rw [isCron, hfield] at hcron
      rw [hfield, beq_iff_eq.mp hcron] at htype
      exact (Except.ok.inj htype).symm
    | other v =>
      rw [isCron, hfield] at hcron
      cases hcron
  · obtain ⟨i, v, hv, hentry⟩ := Relation.Schema.entry_row schema_names hrow
      (c := { name := "is_active", preference := .integer }) (by simp [schema])
    rw [hactive, if_pos htruthy] at hv
    cases hv
    exact hentry
  · exact hheld (c := { name := "conditions" }) (by simp [schema]) rfl htext

theorem entry_of_required {es : Entries} {key : String} {v : Value}
    (h : Value.requireEntry es key = .ok v) : Value.entry es key = v := by
  rw [Value.requireEntry] at h
  split at h
  · next w hw =>
    rw [Value.entry, hw]
    exact Except.ok.inj h
  · cases h

theorem spells_of_readJson {text conditions : Value} (h : readJson text = .ok conditions) :
    Spells text conditions := by
  cases text with
  | text s =>
    cases hparse : Json.parse? s with
    | some w =>
      rw [readJson, hparse] at h
      cases h
      exact ⟨s, rfl, .inr hparse⟩
    | none =>
      rw [readJson, hparse] at h
      cases h
  | _ => cases h

/-- What is read from a row. -/
theorem ofRow_eq_ok {row : Entries} {t : Trigger} (h : ofRow row = .ok t) :
    t.id = Value.entry row "id" ∧
      (Value.entry row "trigger_type" = .text TriggerType.cron.name → t.isCron = true) ∧
      ((Value.entry row "is_active").truthy = true → t.isActive = .bool true) ∧
      ∀ es, t.conditions = .object es → es ≠ [] →
        Spells (Value.entry row "conditions") (.object es) := by
  obtain ⟨conditions, hconditions, h⟩ := exists_of_bind_eq_ok h
  obtain ⟨mappings, _, h⟩ := exists_of_bind_eq_ok h
  dsimp only at h
  have hes : ∀ key, key ≠ "conditions" → key ≠ "variable_mappings" → Value.entry
      ((row.put "conditions" conditions).put "variable_mappings" mappings) key =
      Value.entry row key := by
    intro key hc hm
    rw [Value.entry_put_of_ne _ hm, Value.entry_put_of_ne _ hc]
  generalize hput : (row.put "conditions" conditions).put "variable_mappings" mappings = es at h hes
  obtain ⟨workspace, _, h⟩ := exists_of_bind_eq_ok h
  obtain ⟨definition, _, h⟩ := exists_of_bind_eq_ok h
  obtain ⟨type, htype, h⟩ := exists_of_bind_eq_ok h
  obtain ⟨known, hknown, h⟩ := exists_of_bind_eq_ok h
  obtain ⟨fired, _, h⟩ := exists_of_bind_eq_ok h
  obtain ⟨created, _, h⟩ := exists_of_bind_eq_ok h
  obtain ⟨updated, _, h⟩ := exists_of_bind_eq_ok h
  cases h
  refine ⟨rfl, fun hcron => ?_, fun hactive => ?_, fun fs hfs hne => ?_⟩
  · have hentry := entry_of_required htype
    rw [hes "trigger_type" (by decide) (by decide), hcron] at hentry
    subst hentry
    cases hknown
    rfl
  · rw [← hes "is_active" (by decide) (by decide)] at hactive
    have hor : Value.entryOr es "is_active" (.bool true) = Value.entry es "is_active" := by
      cases hget : es.get? "is_active" with
      | some v =>
        rw [Value.entryOr, Value.entry, hget]
        rfl
      | none =>
        rw [Value.entry, hget] at hactive
        cases hactive
    rw [hor, hactive]
  · -- Empty conditions may also stand for a null that was read.
    have hentry : Value.entry es "conditions" = conditions := by
      rw [← hput, Value.entry_put_of_ne _ (by decide), Value.entry_put_self]
    rw [hentry] at hfs
    have hread : conditions = .object fs := by
      cases htruthy : conditions.truthy with
      | true => rwa [Value.orElse_of_truthy htruthy] at hfs
      | false =>
        rw [Value.orElse_of_falsy htruthy] at hfs
        exact absurd (Value.object.inj hfs).symm hne
    exact hread ▸ spells_of_readJson hconditions

end Trigger
end ProcessTriggers
