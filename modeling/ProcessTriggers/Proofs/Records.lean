import ProcessTriggers.Proofs.IsoText
import ProcessTriggers.Trigger.Codec

/-!
Triggers and executions as objects. What is written for a record whose fields are of their own kinds
is read back as the record: no field of such a record is replaced by a default, its times keep their
offsets, and no identifier is drawn for it.
-/

namespace ProcessTriggers

namespace Value

/-- A point in time whose text says all of it. -/
def IsTime (v : Value) : Prop := ∃ t : Stamp, v = .stamp t ∧ t.IsRegular

theorem orElse_object (es : Entries) : (Value.object es).orElse (.object []) = .object es := by
  cases es <;> rfl

theorem readTime_isoText {t : Stamp} (h : t.IsRegular) :
    (Value.text t.isoText).readTime = .ok (.stamp t) := by
  rw [readTime, Stamp.parse_isoText h]

/-- A point in time, or none, is read back from what is written for it. -/
theorem exists_written {v : Value} (h : v = .null ∨ v.IsTime) :
    ∃ w, v.writeTime = .ok w ∧ w.readTime = .ok v := by
  rcases h with rfl | ⟨t, rfl, ht⟩
  · exact ⟨.null, rfl, rfl⟩
  · exact ⟨.text t.isoText, rfl, readTime_isoText ht⟩

/-- A point in time that was written under a key is not replaced by the current one. -/
theorem readTimeOr_of_written {es : Entries} {key : String} {v w : Value} (h : v.IsTime)
    (hentry : entry es key = w) (hread : w.readTime = .ok v) (now : Stamp) :
    readTimeOr es key now = .ok v := by
  obtain ⟨t, rfl, -⟩ := h
  rw [readTimeOr, hentry, hread]
  rfl

end Value

theorem TriggerType.read_name (type : TriggerType) :
    Enumeration.read TriggerType (.text type.name) = .ok type := by
  cases type <;> rfl

theorem ExecutionStatus.read_name (status : ExecutionStatus) :
    Enumeration.read ExecutionStatus (.text status.name) = .ok status := by
  cases status <;> rfl

/-- An identifier that is there is kept, and none is drawn. -/
theorem Supply.idOf_of_text (s : Supply) {es : Entries} {id : String} (h : id ≠ "")
    (hid : Value.entry es "id" = .text id) : s.idOf es = (.text id, s) := by
  have htruthy : (Value.text id).truthy = true := by
    rw [Value.truthy, Bool.not_eq_true', String.isEmpty_eq_false_iff]
    exact h
  simp only [Supply.idOf, hid, htruthy, if_true]

namespace Trigger

/-- A trigger whose fields are of their own kinds. -/
structure Portable (t : Trigger) : Prop where
  id : ∃ s, t.id = .text s ∧ s ≠ ""
  type : ∃ type, t.type = .known type
  conditions : ∃ es, t.conditions = .object es
  variableMappings : ∃ es, t.variableMappings = .object es
  isActive : ∃ b, t.isActive = .bool b
  lastTriggeredAt : t.lastTriggeredAt = .null ∨ t.lastTriggeredAt.IsTime
  createdAt : t.createdAt.IsTime
  updatedAt : t.updatedAt.IsTime

variable {t : Trigger}

/-- The entries of a trigger, with its type and its times in the form in which they are written. -/
def entriesWith (t : Trigger) (type fired created updated : Value) : Entries :=
  [("id", t.id), ("workspace_id", t.workspaceId), ("process_definition_id", t.definitionId),
    ("trigger_type", type), ("conditions", t.conditions),
    ("variable_mappings", t.variableMappings), ("is_active", t.isActive), ("name", t.name),
    ("description", t.description), ("created_by_id", t.createdById),
    ("last_triggered_at", fired), ("trigger_count", t.triggerCount), ("created_at", created),
    ("updated_at", updated)]

/-- None of the fields is falsy where the reader has a default for falsy ones. -/
theorem Portable.readFields_entriesWith (h : t.Portable) {type : TriggerType}
    {fired created updated : Value} (htype : t.type = .known type)
    (hfired : fired.readTime = .ok t.lastTriggeredAt)
    (hcreated : created.readTime = .ok t.createdAt)
    (hupdated : updated.readTime = .ok t.updatedAt) (now : Stamp) :
    readFields t.id now (t.entriesWith (.text type.name) fired created updated) = .ok t := by
  obtain ⟨conditions, hconditions⟩ := h.conditions
  obtain ⟨mappings, hmappings⟩ := h.variableMappings
  obtain ⟨active, hactive⟩ := h.isActive
  obtain ⟨es, hes⟩ : ∃ es, es = t.entriesWith (.text type.name) fired created updated := ⟨_, rfl⟩
  have hread : readFields t.id now es = do
      return {
        id := t.id
        workspaceId := t.workspaceId
        definitionId := t.definitionId
        type := .known (← Enumeration.read TriggerType (.text type.name))
        conditions := t.conditions.orElse (.object [])
        variableMappings := t.variableMappings.orElse (.object [])
        isActive := .bool t.isActive.truthy
        name := t.name
        description := t.description
        createdById := t.createdById
        lastTriggeredAt := ← fired.readTime
        triggerCount := t.triggerCount
        createdAt := ← Value.readTimeOr es "created_at" now
        updatedAt := ← Value.readTimeOr es "updated_at" now } := by
    rw [hes]
    rfl
  have hkept : Value.bool t.isActive.truthy = t.isActive := by
    rw [hactive]
    rfl
  have hcreated : Value.readTimeOr es "created_at" now = .ok t.createdAt :=
    Value.readTimeOr_of_written h.createdAt (hes ▸ rfl) hcreated now
  have hupdated : Value.readTimeOr es "updated_at" now = .ok t.updatedAt :=
    Value.readTimeOr_of_written h.updatedAt (hes ▸ rfl) hupdated now
  rw [← hes, hread]
  simp only [TriggerType.read_name, hfired, hcreated, hupdated, hkept, hconditions, hmappings,
    Value.orElse_object, bind, Except.bind, pure, Except.pure]
  rw [← htype, ← hconditions, ← hmappings]

/-- A trigger is read back from the object that is written for it. -/
theorem Portable.read_written (h : t.Portable) (s : Supply) (now : Stamp) :
    ∃ es, t.toObject = .ok es ∧ ofObject s now es = (.ok t, s) := by
  obtain ⟨id, hid, hne⟩ := h.id
  obtain ⟨type, htype⟩ := h.type
  obtain ⟨fired, hfired, hreadFired⟩ := Value.exists_written h.lastTriggeredAt
  obtain ⟨created, hcreated, hreadCreated⟩ := Value.exists_written (.inr h.createdAt)
  obtain ⟨updated, hupdated, hreadUpdated⟩ := Value.exists_written (.inr h.updatedAt)
  have hname : t.type.name = .ok (.text type.name) := by
    rw [htype]
    rfl
  refine ⟨t.entriesWith (.text type.name) fired created updated, ?_, ?_⟩
  · simp only [toObject, entriesWith, hname, hfired, hcreated, hupdated, bind, Except.bind, pure,
      Except.pure]
  · have hown : s.idOf (t.entriesWith (.text type.name) fired created updated) = (.text id, s) :=
      s.idOf_of_text hne hid
    simp only [ofObject, hown, ← hid,
      h.readFields_entriesWith htype hreadFired hreadCreated hreadUpdated]

end Trigger

namespace Execution

/-- An execution whose fields are of their own kinds. -/
structure Portable (e : Execution) : Prop where
  id : ∃ s, e.id = .text s ∧ s ≠ ""
  context : ∃ es, e.context = .object es
  executedAt : e.executedAt.IsTime

variable {e : Execution}

/-- The entries of an execution, with its time in the form in which it is written. -/
def entriesWith (e : Execution) (executed : Value) : Entries :=
  [("id", e.id), ("trigger_id", e.triggerId), ("trigger_context", e.context),
    ("status", .text e.status.name), ("process_instance_id", e.processInstanceId),
    ("error_message", e.errorMessage), ("executed_at", executed)]

theorem Portable.readFields_entriesWith (h : e.Portable) {executed : Value}
    (hexecuted : executed.readTime = .ok e.executedAt) (now : Stamp) :
    readFields e.id now (e.entriesWith executed) = .ok e := by
  obtain ⟨context, hcontext⟩ := h.context
  obtain ⟨es, hes⟩ : ∃ es, es = e.entriesWith executed := ⟨_, rfl⟩
  have hread : readFields e.id now es = do
      return {
        id := e.id
        triggerId := e.triggerId
        context := e.context.orElse (.object [])
        status := ← Enumeration.read ExecutionStatus (.text e.status.name)
        processInstanceId := e.processInstanceId
        errorMessage := e.errorMessage
        executedAt := ← Value.readTimeOr es "executed_at" now } := by
    rw [hes]
    rfl
  have hexecuted : Value.readTimeOr es "executed_at" now = .ok e.executedAt :=
    Value.readTimeOr_of_written h.executedAt (hes ▸ rfl) hexecuted now
  rw [← hes, hread]
  simp only [ExecutionStatus.read_name, hexecuted, hcontext, Value.orElse_object, bind,
    Except.bind, pure, Except.pure]
  rw [← hcontext]

/-- An execution is read back from the object that is written for it. -/
theorem Portable.read_written (h : e.Portable) (s : Supply) (now : Stamp) :
    ∃ es, e.toObject = .ok es ∧ ofObject s now es = (.ok e, s) := by
  obtain ⟨id, hid, hne⟩ := h.id
  obtain ⟨executed, hexecuted, hreadExecuted⟩ := Value.exists_written (.inr h.executedAt)
  refine ⟨e.entriesWith executed, ?_, ?_⟩
  · simp only [toObject, entriesWith, hexecuted, bind, Except.bind, pure, Except.pure]
  · have hown : s.idOf (e.entriesWith executed) = (.text id, s) := s.idOf_of_text hne hid
    simp only [ofObject, hown, ← hid, h.readFields_entriesWith hreadExecuted]

end Execution

/-- Records are read back from the objects that are written for them, with no identifier drawn, and
what is then written again is the same object. -/
theorem records_read_back (s : Supply) (now : Stamp) :
    (∀ t : Trigger, t.Portable → ∃ es, t.toObject = .ok es ∧
      Trigger.ofObject s now es = (.ok t, s) ∧
      (Trigger.ofObject s now es).1.bind Trigger.toObject = .ok es) ∧
    ∀ e : Execution, e.Portable → ∃ es, e.toObject = .ok es ∧
      Execution.ofObject s now es = (.ok e, s) ∧
      (Execution.ofObject s now es).1.bind Execution.toObject = .ok es := by
  constructor
  · intro t ht
    obtain ⟨es, hwritten, hread⟩ := ht.read_written s now
    exact ⟨es, hwritten, hread, by rw [hread]; exact hwritten⟩
  · intro e he
    obtain ⟨es, hwritten, hread⟩ := he.read_written s now
    exact ⟨es, hwritten, hread, by rw [hread]; exact hwritten⟩

/-- Records with falsy fields, and with times at both ends of the years and of the offsets. -/
theorem records_read_back_extremes :
    let earliest : Stamp := ⟨0, none⟩
    let latest : Stamp := ⟨Stamp.limit - 1, some (Stamp.second - Stamp.day)⟩
    let quiet : Trigger := {
      id := .text "t"
      workspaceId := .text ""
      definitionId := .text "d"
      type := .known .cron
      conditions := .object []
      variableMappings := .object []
      isActive := .bool false
      name := .text ""
      description := .null
      createdById := .null
      lastTriggeredAt := .stamp ⟨63000000000000001, some (-30 * Stamp.second)⟩
      triggerCount := .int 0
      createdAt := .stamp earliest
      updatedAt := .stamp latest }
    let skipped : Execution := ⟨.text "e", .text "t", .object [], .skipped, .null, .text "",
      .stamp ⟨63000000000000000, some (Stamp.day - Stamp.minute)⟩⟩
    (∃ es, quiet.toObject = .ok es ∧ Trigger.ofObject ⟨3⟩ earliest es = (.ok quiet, ⟨3⟩)) ∧
    ∃ es, skipped.toObject = .ok es ∧ Execution.ofObject ⟨3⟩ earliest es = (.ok skipped, ⟨3⟩) := by
  intro earliest latest quiet skipped
  have htime : ∀ {t : Stamp} {o : Int}, t.InRange → t.offset = some o →
      Stamp.IsOffset o → (Value.stamp t).IsTime := by
    intro t o hrange ho hoffset
    refine ⟨t, rfl, hrange, fun p hp => ?_⟩
    cases ho.symm.trans hp
    exact hoffset
  have hquiet : quiet.Portable := {
    id := ⟨"t", rfl, by decide⟩
    type := ⟨.cron, rfl⟩
    conditions := ⟨[], rfl⟩
    variableMappings := ⟨[], rfl⟩
    isActive := ⟨false, rfl⟩
    lastTriggeredAt := .inr (htime (by decide) rfl ⟨by decide, by decide⟩)
    createdAt := ⟨earliest, rfl, by decide, fun _ ho => nomatch ho⟩
    updatedAt := htime (by decide) rfl ⟨by decide, by decide⟩ }
  have hskipped : skipped.Portable := {
    id := ⟨"e", rfl, by decide⟩
    context := ⟨[], rfl⟩
    executedAt := htime (by decide) rfl ⟨by decide, by decide⟩ }
  obtain ⟨es, hwritten, hread, -⟩ := (records_read_back ⟨3⟩ earliest).1 quiet hquiet
  obtain ⟨fs, hwritten', hread', -⟩ := (records_read_back ⟨3⟩ earliest).2 skipped hskipped
  exact ⟨⟨es, hwritten, hread⟩, fs, hwritten', hread'⟩

end ProcessTriggers
