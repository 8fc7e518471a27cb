import ProcessTriggers.Proofs.JsonText
import ProcessTriggers.Proofs.Records
import ProcessTriggers.Proofs.Rows

/-!
Triggers that a relation can hold without loss. The row of such a trigger is the trigger's own
fields, with its conditions and mappings as JSON text and its times as ISO text, and the trigger is
read back from it.
-/

namespace ProcessTriggers

namespace Value

/-- A text without halves of surrogate pairs. -/
def IsText (v : Value) : Prop := ∃ s, v = .text s ∧ Text.hasHalf s = false

/-- An object that JSON text stands for, without doubles and without halves of surrogate pairs. -/
def IsJsonObject (v : Value) : Prop :=
  (∃ es, v = .object es) ∧ (∃ s, Json.parse? s = some v) ∧ Json.Plain v

/-- A point in universal time. -/
def IsUtc (v : Value) : Prop := ∃ t : Stamp, v = .stamp t ∧ t.IsUtc

theorem IsText.isoText {t : Stamp} (h : t.IsUtc) : (Value.text t.isoText).IsText :=
  ⟨t.isoText, rfl, Text.hasHalf_of_ascii (Stamp.toNat_lt_of_mem_isoText h)⟩

theorem IsUtc.orElse {v : Value} (h : v.IsUtc) (w : Value) : v.orElse w = v := by
  obtain ⟨t, rfl, -⟩ := h
  rfl

theorem IsJsonObject.orElse {v : Value} (h : v.IsJsonObject) : v.orElse (.object []) = v := by
  obtain ⟨⟨es, rfl⟩, -⟩ := h
  exact orElse_object es

theorem exists_writeTime {v : Value} (h : v = .null ∨ v.IsUtc) : ∃ w, v.writeTime = .ok w := by
  rcases h with rfl | ⟨t, rfl, -⟩
  · exact ⟨.null, rfl⟩
  · exact ⟨.text t.isoText, rfl⟩

/-- What was written for a point in universal time is a text and is read as that point. -/
theorem IsUtc.written {v w : Value} (h : v.IsUtc) (hw : v.writeTime = .ok w) :
    w.IsText ∧ w.readTime = .ok v := by
  obtain ⟨t, rfl, ht⟩ := h
  cases hw
  exact ⟨.isoText ht, readTime_isoText ht.isRegular⟩

theorem written {v w : Value} (h : v = .null ∨ v.IsUtc) (hw : v.writeTime = .ok w) :
    (w = .null ∨ w.IsText) ∧ w.readTime = .ok v := by
  rcases h with rfl | h
  · cases hw
    exact ⟨.inl rfl, rfl⟩
  · exact ⟨.inr (h.written hw).1, (h.written hw).2⟩

/-- These are the objects with distinct keys and with integers of not too many digits. -/
theorem isJsonObject_iff {v : Value} : v.IsJsonObject ↔ (∃ es, v = .object es) ∧ Json.Exact v := by
  constructor
  · rintro ⟨hobject, ⟨s, hs⟩, hplain⟩
    exact ⟨hobject, Json.exact_of_parse hs hplain⟩
  · rintro ⟨hobject, hexact⟩
    obtain ⟨s, -, -, hs⟩ := Json.print_stored hexact
    exact ⟨hobject, ⟨s, hs⟩, hexact.plain⟩

/-- What is stored for an object is read back as the object. -/
theorem IsJsonObject.print {v : Value} (h : v.IsJsonObject) :
    ∃ s, Json.print Json.stored v = .ok s ∧ Text.hasHalf s = false ∧ Json.parse? s = some v :=
  Json.print_stored (isJsonObject_iff.mp h).2

end Value

namespace Relation

/-- A column holds a value as it is. -/
structure Keeps (c : Column) (v : Value) : Prop where
  bound : ∀ i, bindAt i v = .ok v
  converted : c.preference.convert v = v
  required : c.required = true → v.isNull = false

theorem bindAt_isText {v : Value} (h : v.IsText) (i : Nat) : bindAt i v = .ok v := by
  obtain ⟨s, rfl, hs⟩ := h
  rw [bindAt, Text.bytesOf, hs]
  rfl

/-- Texts are compared as values are. -/
theorem isAt_isText {column : String} {row : Entries} {v w : Value}
    (hv : Value.entry row column = v) (hvText : v.IsText) (hw : w.IsText) :
    isAt column w row = v.equal w := by
  obtain ⟨s, rfl, -⟩ := hvText
  obtain ⟨t, rfl, -⟩ := hw
  rw [Bool.eq_iff_iff, isAt_text, hv, Value.equal_text_iff]
  exact eq_comm

theorem bindAt_int {n : Int} (h : LeadingNumber.fits n = true) (i : Nat) :
    bindAt i (.int n) = .ok (.int n) := by
  rw [bindAt, if_pos h]

theorem keeps_text {c : Column} {v : Value} (hc : c.preference = .text) (h : v.IsText) :
    Keeps c v := by
  refine ⟨bindAt_isText h, ?_, fun _ => ?_⟩
  all_goals obtain ⟨s, rfl, -⟩ := h
  · rw [hc]
    rfl
  · rfl

theorem keeps_textOrNull {c : Column} {v : Value} (hc : c.preference = .text)
    (hrequired : c.required = false) (h : v = .null ∨ v.IsText) : Keeps c v := by
  rcases h with rfl | h
  · refine ⟨fun _ => rfl, ?_, fun hnot => ?_⟩
    · rw [hc]
      rfl
    · rw [hrequired] at hnot
      cases hnot
  · exact keeps_text hc h

theorem keeps_int {c : Column} {n : Int} (hc : c.preference = .integer)
    (h : LeadingNumber.fits n = true) : Keeps c (.int n) := by
  refine ⟨bindAt_int h, ?_, fun _ => rfl⟩
  rw [hc]
  rfl

/-- Entries that every column holds as they are become a row as they are. -/
theorem Schema.row_eq_self {schema : Schema} {es : Entries}
    (hkeys : es.keys = schema.columns.map (·.name)) (hnames : (schema.columns.map (·.name)).Nodup)
    (h : ∀ c ∈ schema.columns, Keeps c (Value.entry es c.name)) :
    schema.row es = .ok es ∧ schema.changedRow es = .ok es ∧ schema.checkRequired es = .ok () := by
  have hbound : ∀ names : List String, (∀ name ∈ names, name ∈ schema.columns.map (·.name)) →
      bindAll (names.map (Value.entry es)) = .ok (names.map (Value.entry es)) := by
    intro names hsub
    refine bindAll_self fun v hv i => ?_
    obtain ⟨name, hname, rfl⟩ := List.mem_map.mp hv
    obtain ⟨c, hc, rfl⟩ := List.mem_map.mp (hsub name hname)
    exact (h c hc).bound i
  have hrow : schema.row es = .ok es := by
    have hheld := hbound (schema.columns.map (·.name)) fun _ hname => hname
    rw [List.map_map] at hheld
    have hzip : List.zipWith (fun c v => (c.name, c.preference.convert v)) schema.columns
        (schema.columns.map (Value.entry es ∘ (·.name))) = es := by
      rw [List.zipWith_map_right, List.zipWith_self]
      calc schema.columns.map (fun c => (c.name, c.preference.convert (Value.entry es c.name)))
          = schema.columns.map (fun c => (c.name, Value.entry es c.name)) :=
            List.map_congr_left fun c hc => by rw [(h c hc).converted]
        _ = es.keys.map (fun name => (name, Value.entry es name)) := by
            rw [hkeys, List.map_map]
            rfl
        _ = es := (Entries.eq_map_entry (hkeys ▸ hnames)).symm
    rw [Schema.row]
    simp only [Function.comp_def] at hheld hzip
    simp only [hheld]
    exact congrArg Except.ok hzip
  refine ⟨hrow, ?_, ?_⟩
  · have hheld := hbound
      ((schema.columns.map (·.name)).drop 1 ++ (schema.columns.map (·.name)).take 1)
      fun name hname => (List.mem_append.mp hname).elim List.mem_of_mem_drop List.mem_of_mem_take
    rw [Schema.changedRow]
    simp only [hheld, hrow]
    rfl
  · have hnone : schema.columns.find? (fun c => c.required && (Value.entry es c.name).isNull) =
        none := by
      rw [List.find?_eq_none]
      intro c hc hlacking
      rw [Bool.and_eq_true] at hlacking
      rw [(h c hc).required hlacking.1] at hlacking
      exact Bool.false_ne_true hlacking.2
    rw [Schema.checkRequired, hnone]

end Relation

namespace Trigger

/-- A trigger that a relation can hold without loss. -/
structure Storable (t : Trigger) : Prop where
  id : t.id.IsText ∧ t.id ≠ .text ""
  workspaceId : t.workspaceId.IsText
  definitionId : t.definitionId.IsText
  type : ∃ type, t.type = .known type
  conditions : t.conditions.IsJsonObject
  variableMappings : t.variableMappings.IsJsonObject
  isActive : ∃ b, t.isActive = .bool b
  name : t.name = .null ∨ t.name.IsText
  description : t.description = .null ∨ t.description.IsText
  createdById : t.createdById = .null ∨ t.createdById.IsText
  lastTriggeredAt : t.lastTriggeredAt = .null ∨ t.lastTriggeredAt.IsUtc
  triggerCount : ∃ n : Int, t.triggerCount = .int n ∧ 0 ≤ n ∧ n < 2 ^ 63
  createdAt : t.createdAt.IsUtc
  updatedAt : t.updatedAt.IsUtc

/-- A row holds a trigger. Its columns are the trigger's fields, in the form that a relation
keeps. -/
structure HeldBy (t : Trigger) (row : Entries) : Prop where
  keys : row.keys = fieldNames
  id : Value.entry row "id" = t.id
  workspaceId : Value.entry row "workspace_id" = t.workspaceId
  definitionId : Value.entry row "process_definition_id" = t.definitionId
  type : ∃ type, t.type = .known type ∧ Value.entry row "trigger_type" = .text type.name
  conditions : ∃ s, Value.entry row "conditions" = .text s ∧ Text.hasHalf s = false ∧
    Json.parse? s = some t.conditions
  variableMappings : ∃ s, Value.entry row "variable_mappings" = .text s ∧
    Text.hasHalf s = false ∧ Json.parse? s = some t.variableMappings
  isActive : ∃ b : Bool, t.isActive = .bool b ∧
    Value.entry row "is_active" = .int (if b then 1 else 0)
  name : Value.entry row "name" = t.name
  description : Value.entry row "description" = t.description
  createdById : Value.entry row "created_by_id" = t.createdById
  lastTriggeredAt : t.lastTriggeredAt.writeTime = .ok (Value.entry row "last_triggered_at")
  triggerCount : Value.entry row "trigger_count" = t.triggerCount
  createdAt : t.createdAt.writeTime = .ok (Value.entry row "created_at")
  updatedAt : t.updatedAt.writeTime = .ok (Value.entry row "updated_at")

theorem fits_of_count {n : Int} (h : 0 ≤ n) (hn : n < 2 ^ 63) : LeadingNumber.fits n = true := by
  have hbound : (Nat.pow 2 63 : Int) = 9223372036854775808 := by decide
  rw [LeadingNumber.fits, hbound, Bool.and_eq_true, decide_eq_true_eq, decide_eq_true_eq]
  omega

/-- The columns of a trigger's row hold what they are given. -/
theorem HeldBy.keeps {t : Trigger} {row : Entries} (h : t.HeldBy row) (ht : t.Storable) :
    ∀ c ∈ schema.columns, Relation.Keeps c (Value.entry row c.name) := by
  have hjson : ∀ {v w : Value}, (∃ s, v = .text s ∧ Text.hasHalf s = false ∧
      Json.parse? s = some w) → v.IsText := fun ⟨s, hs, hhalf, _⟩ => ⟨s, hs, hhalf⟩
  intro c hc
  simp only [schema, List.mem_cons, List.not_mem_nil, or_false] at hc
  rcases hc with rfl | rfl | rfl | rfl | rfl | rfl | rfl | rfl | rfl | rfl | rfl | rfl | rfl | rfl
  · exact Relation.keeps_text rfl (h.id ▸ ht.id.1)
  · exact Relation.keeps_text rfl (h.workspaceId ▸ ht.workspaceId)
  · exact Relation.keeps_text rfl (h.definitionId ▸ ht.definitionId)
  · obtain ⟨type, -, htype⟩ := h.type
    exact Relation.keeps_text rfl ⟨type.name, htype, by cases type <;> decide⟩
  · exact Relation.keeps_text rfl (hjson h.conditions)
  · exact Relation.keeps_text rfl (hjson h.variableMappings)
  · obtain ⟨b, -, hb⟩ := h.isActive
    rw [hb]
    exact Relation.keeps_int rfl (by cases b <;> decide)
  · exact Relation.keeps_textOrNull rfl rfl (h.name ▸ ht.name)
  · exact Relation.keeps_textOrNull rfl rfl (h.description ▸ ht.description)
  · exact Relation.keeps_textOrNull rfl rfl (h.createdById ▸ ht.createdById)
  · exact Relation.keeps_textOrNull rfl rfl (Value.written ht.lastTriggeredAt h.lastTriggeredAt).1
  · obtain ⟨n, hn, hpos, hlt⟩ := ht.triggerCount
    rw [h.triggerCount, hn]
    exact Relation.keeps_int rfl (fits_of_count hpos hlt)
  · exact Relation.keeps_text rfl (ht.createdAt.written h.createdAt).1
  · exact Relation.keeps_text rfl (ht.updatedAt.written h.updatedAt).1

theorem HeldBy.row_eq_self {t : Trigger} {row : Entries} (h : t.HeldBy row) (ht : t.Storable) :
    schema.row row = .ok row ∧ schema.changedRow row = .ok row ∧
      schema.checkRequired row = .ok () :=
  Relation.Schema.row_eq_self h.keys schema_names (h.keeps ht)

/-- A trigger becomes a row that holds it. -/
theorem Storable.toRow {t : Trigger} (h : t.Storable) : ∃ row, t.toRow = .ok row ∧
    t.HeldBy row := by
  obtain ⟨type, htype⟩ := h.type
  obtain ⟨conditions, hconditions, hhalf, hread⟩ := h.conditions.print
  obtain ⟨mappings, hmappings, hhalf', hread'⟩ := h.variableMappings.print
  obtain ⟨active, hactive⟩ := h.isActive
  obtain ⟨fired, hfired⟩ := Value.exists_writeTime h.lastTriggeredAt
  obtain ⟨created, hcreated⟩ := Value.exists_writeTime (.inr h.createdAt)
  obtain ⟨updated, hupdated⟩ := Value.exists_writeTime (.inr h.updatedAt)
  have hname : t.type.name = .ok (.text type.name) := by rw [htype]; rfl
  have htruthy : (if t.isActive.truthy then 1 else 0 : Int) = if active then 1 else 0 := by
    rw [hactive]
    rfl
  have hrow : t.toRow = .ok [("id", t.id), ("workspace_id", t.workspaceId),
      ("process_definition_id", t.definitionId), ("trigger_type", .text type.name),
      ("conditions", .text conditions), ("variable_mappings", .text mappings),
      ("is_active", .int (if active then 1 else 0)), ("name", t.name),
      ("description", t.description), ("created_by_id", t.createdById),
      ("last_triggered_at", fired), ("trigger_count", t.triggerCount), ("created_at", created),
      ("updated_at", updated)] := by
    rw [Trigger.toRow, toObject, htruthy]
    simp only [hname, hfired, hcreated, hupdated, hconditions, hmappings, bind, Except.bind, pure,
      Except.pure]
    rfl
  exact ⟨_, hrow, {
    keys := rfl
    id := rfl
    workspaceId := rfl
    definitionId := rfl
    type := ⟨type, htype, rfl⟩
    conditions := ⟨conditions, rfl, hhalf, hread⟩
    variableMappings := ⟨mappings, rfl, hhalf', hread'⟩
    isActive := ⟨active, hactive, rfl⟩
    name := rfl
    description := rfl
    createdById := rfl
    lastTriggeredAt := hfired
    triggerCount := rfl
    createdAt := hcreated
    updatedAt := hupdated }⟩

/-- A trigger is read back from the row that holds it. -/
theorem HeldBy.ofRow {t : Trigger} {row : Entries} (h : t.HeldBy row) (ht : t.Storable) :
    Trigger.ofRow row = .ok t := by
  obtain ⟨type, htype, hrowType⟩ := h.type
  obtain ⟨conditions, hconditions, -, hreadConditions⟩ := h.conditions
  obtain ⟨mappings, hmappings, -, hreadMappings⟩ := h.variableMappings
  obtain ⟨active, hactive, hrowActive⟩ := h.isActive
  obtain ⟨es, hes⟩ : ∃ es, es = (row.put "conditions" t.conditions).put "variable_mappings"
    t.variableMappings := ⟨_, rfl⟩
  have hget : ∀ key ∈ fieldNames, key ≠ "conditions" → key ≠ "variable_mappings" →
      es.get? key = some (Value.entry row key) := by
    intro key hkey hc hm
    rw [hes, Entries.get?_put_of_ne _ hm, Entries.get?_put_of_ne _ hc,
      Entries.get?_eq_entry (h.keys ▸ hkey)]
  have hentry : ∀ key ∈ fieldNames, key ≠ "conditions" → key ≠ "variable_mappings" →
      Value.entry es key = Value.entry row key := by
    intro key hkey hc hm
    rw [Value.entry, hget key hkey hc hm]
    rfl
  have hesConditions : Value.entry es "conditions" = t.conditions := by
    rw [hes, Value.entry_put_of_ne _ (by decide), Value.entry_put_self]
  have hesMappings : Value.entry es "variable_mappings" = t.variableMappings := by
    rw [hes, Value.entry_put_self]
  rw [Trigger.ofRow, hconditions, hmappings]
  simp only [readJson, hreadConditions, hreadMappings, bind, Except.bind]
  rw [← hes, readFields]
  simp only [Value.requireEntry, Value.entryOr, Value.readTimeOr,
    hget "workspace_id" (by decide) (by decide) (by decide),
    hget "process_definition_id" (by decide) (by decide) (by decide),
    hget "trigger_type" (by decide) (by decide) (by decide),
    hget "is_active" (by decide) (by decide) (by decide),
    hget "trigger_count" (by decide) (by decide) (by decide),
    hentry "name" (by decide) (by decide) (by decide),
    hentry "description" (by decide) (by decide) (by decide),
    hentry "created_by_id" (by decide) (by decide) (by decide),
    hentry "last_triggered_at" (by decide) (by decide) (by decide),
    hentry "created_at" (by decide) (by decide) (by decide),
    hentry "updated_at" (by decide) (by decide) (by decide),
    hesConditions, hesMappings, ht.conditions.orElse, ht.variableMappings.orElse, hrowType,
    TriggerType.read_name, hrowActive, (Value.written ht.lastTriggeredAt h.lastTriggeredAt).2,
    (ht.createdAt.written h.createdAt).2, (ht.updatedAt.written h.updatedAt).2, bind, Except.bind,
    pure, Except.pure, Option.getD_some, h.id, h.workspaceId, h.definitionId, h.name,
    h.description, h.createdById, h.triggerCount]
  have hactiveKept : Value.bool (Value.int (if active = true then 1 else 0)).truthy =
      t.isActive := by
    rw [hactive]
    cases active <;> rfl
  rw [ht.createdAt.orElse, ht.updatedAt.orElse, hactiveKept, ← htype]

/-- A trigger that was started once more. -/
def fired (t : Trigger) (count : Int) (firedAt : Stamp) : Trigger :=
  { t with triggerCount := .int count, lastTriggeredAt := .stamp firedAt }

theorem Storable.fired {t : Trigger} (h : t.Storable) {n : Int} (hpos : 0 ≤ n) (hlt : n < 2 ^ 63)
    {firedAt : Stamp} (hfired : firedAt.IsUtc) : (t.fired n firedAt).Storable :=
  { h with
    triggerCount := ⟨n, rfl, hpos, hlt⟩
    lastTriggeredAt := .inr ⟨firedAt, rfl, hfired⟩ }

/-- A start is counted in the row that holds a trigger. -/
theorem HeldBy.fired {t : Trigger} {row : Entries} (h : t.HeldBy row) {n : Int}
    (hcount : t.triggerCount = .int n) (hpos : 0 ≤ n) (hlt : n + 1 < 2 ^ 63) (firedAt : Stamp) :
    (t.fired (n + 1) firedAt).HeldBy ((row.put "trigger_count"
      (Relation.addOne (Value.entry row "trigger_count"))).put "last_triggered_at"
        (.text firedAt.isoText)) := by
  have hadd : Relation.addOne (Value.entry row "trigger_count") = .int (n + 1) := by
    have hfits := fits_of_count (n := n + 1) (by omega) hlt
    rw [h.triggerCount, hcount, Relation.addOne]
    simp only [hfits, if_true]
  rw [hadd]
  have hentry : ∀ key, key ≠ "trigger_count" → key ≠ "last_triggered_at" → Value.entry
      ((row.put "trigger_count" (.int (n + 1))).put "last_triggered_at" (.text firedAt.isoText))
        key = Value.entry row key := by
    intro key hc hl
    rw [Value.entry_put_of_ne _ hl, Value.entry_put_of_ne _ hc]
  have hkeys : (row.put "trigger_count" (.int (n + 1))).keys = fieldNames :=
    (Entries.keys_put_of_mem (h.keys ▸ by decide) _).trans h.keys
  exact {
    keys := (Entries.keys_put_of_mem (hkeys ▸ by decide) _).trans hkeys
    id := (hentry "id" (by decide) (by decide)).trans h.id
    workspaceId := (hentry "workspace_id" (by decide) (by decide)).trans h.workspaceId
    definitionId := (hentry "process_definition_id" (by decide) (by decide)).trans h.definitionId
    type := hentry "trigger_type" (by decide) (by decide) ▸ h.type
    conditions := hentry "conditions" (by decide) (by decide) ▸ h.conditions
    variableMappings := hentry "variable_mappings" (by decide) (by decide) ▸ h.variableMappings
    isActive := hentry "is_active" (by decide) (by decide) ▸ h.isActive
    name := (hentry "name" (by decide) (by decide)).trans h.name
    description := (hentry "description" (by decide) (by decide)).trans h.description
    createdById := (hentry "created_by_id" (by decide) (by decide)).trans h.createdById
    lastTriggeredAt := by
      rw [Value.entry_put_self]
      rfl
    triggerCount := by
      rw [Value.entry_put_of_ne _ (by decide), Value.entry_put_self]
      rfl
    createdAt := hentry "created_at" (by decide) (by decide) ▸ h.createdAt
    updatedAt := hentry "updated_at" (by decide) (by decide) ▸ h.updatedAt }

end Trigger
end ProcessTriggers
