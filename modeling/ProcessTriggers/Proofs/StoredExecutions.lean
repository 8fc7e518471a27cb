import ProcessTriggers.Proofs.StoredTriggers
import ProcessTriggers.Store.Executions

/-!
Executions that a relation can hold without loss. The context of one is written in a style that
finds a text for every value, but on one line like the conditions of a trigger.
-/

namespace ProcessTriggers

namespace Value

/-- What is written for an object in a log is read back as the object. -/
theorem IsJsonObject.printTolerant {v : Value} (h : v.IsJsonObject) :
    ∃ s, Json.print Json.tolerant v = .ok s ∧ Text.hasHalf s = false ∧
      Json.parse? s = some v := by
  obtain ⟨s, hs, hreads, hparse⟩ :=
    Json.print_onOneLine Json.onOneLine_tolerant (isJsonObject_iff.mp h).2
  exact ⟨s, hs, Json.hasHalf_of_visible hreads.visible, hparse⟩

end Value

namespace Execution

theorem schema_names : (schema.columns.map (·.name)).Nodup := by decide

/-- An execution that a relation can hold without loss. -/
structure Storable (e : Execution) : Prop where
  id : e.id.IsText ∧ e.id ≠ .text ""
  triggerId : e.triggerId.IsText
  context : e.context.IsJsonObject
  processInstanceId : e.processInstanceId = .null ∨ e.processInstanceId.IsText
  errorMessage : e.errorMessage = .null ∨ e.errorMessage.IsText
  executedAt : e.executedAt.IsUtc

/-- A row holds an execution. -/
structure HeldBy (e : Execution) (row : Entries) : Prop where
  keys : row.keys = schema.columns.map (·.name)
  id : Value.entry row "id" = e.id
  triggerId : Value.entry row "trigger_id" = e.triggerId
  context : ∃ s, Value.entry row "trigger_context" = .text s ∧ Text.hasHalf s = false ∧
    Json.parse? s = some e.context
  status : Value.entry row "status" = .text e.status.name
  processInstanceId : Value.entry row "process_instance_id" = e.processInstanceId
  errorMessage : Value.entry row "error_message" = e.errorMessage
  executedAt : e.executedAt.writeTime = .ok (Value.entry row "executed_at")

variable {e : Execution} {row : Entries}

/-- A row of texts, some of which may be null, is held as it is. -/
theorem row_of_texts (hkeys : row.keys = schema.columns.map (·.name))
    (htexts : ∀ key ∈ ["id", "trigger_id", "trigger_context", "status", "executed_at"],
      (Value.entry row key).IsText)
    (hothers : ∀ key ∈ ["process_instance_id", "error_message"],
      Value.entry row key = .null ∨ (Value.entry row key).IsText) :
    schema.row row = .ok row ∧ schema.checkRequired row = .ok () := by
  have hkeeps : ∀ c ∈ schema.columns, Relation.Keeps c (Value.entry row c.name) := by
    intro c hc
    simp only [schema, List.mem_cons, List.not_mem_nil, or_false] at hc
    rcases hc with rfl | rfl | rfl | rfl | rfl | rfl | rfl
    · exact Relation.keeps_text rfl (htexts "id" (by simp))
    · exact Relation.keeps_text rfl (htexts "trigger_id" (by simp))
    · exact Relation.keeps_text rfl (htexts "trigger_context" (by simp))
    · exact Relation.keeps_text rfl (htexts "status" (by simp))
    · exact Relation.keeps_textOrNull rfl rfl (hothers "process_instance_id" (by simp))
    · exact Relation.keeps_textOrNull rfl rfl (hothers "error_message" (by simp))
    · exact Relation.keeps_text rfl (htexts "executed_at" (by simp))
  obtain ⟨hrow, -, hrequired⟩ := Relation.Schema.row_eq_self hkeys schema_names hkeeps
  exact ⟨hrow, hrequired⟩

theorem isText_status (status : ExecutionStatus) : (Value.text status.name).IsText :=
  ⟨status.name, rfl, by cases status <;> decide⟩

/-- The columns of an execution's row hold what they are given. -/
theorem HeldBy.row_eq_self (h : e.HeldBy row) (he : e.Storable) :
    schema.row row = .ok row ∧ schema.checkRequired row = .ok () := by
  refine row_of_texts h.keys ?_ ?_
  · simp only [List.forall_mem_cons, h.id, h.triggerId, h.status]
    obtain ⟨s, hs, hhalf, -⟩ := h.context
    exact ⟨he.id.1, he.triggerId, ⟨s, hs, hhalf⟩, isText_status _,
      (he.executedAt.written h.executedAt).1, List.forall_mem_nil _⟩
  · simp only [List.forall_mem_cons, h.processInstanceId, h.errorMessage]
    exact ⟨he.processInstanceId, he.errorMessage, List.forall_mem_nil _⟩

/-- What is written for an execution with the texts of its context and its time. -/
def written (e : Execution) (context : String) (executed : Value) : Entries :=
  [("id", e.id), ("trigger_id", e.triggerId), ("trigger_context", .text context),
    ("status", .text e.status.name), ("process_instance_id", e.processInstanceId),
    ("error_message", e.errorMessage), ("executed_at", executed)]

theorem toRow_eq {context : String} {executed : Value}
    (hcontext : Json.print Json.tolerant e.context = .ok context)
    (hexecuted : e.executedAt.writeTime = .ok executed) :
    e.toRow = .ok (e.written context executed) := by
  rw [toRow, toObject]
  simp only [hexecuted, hcontext, bind, Except.bind, pure, Except.pure]
  rfl

/-- An execution becomes a row that holds it. -/
theorem Storable.toRow (h : e.Storable) : ∃ row, e.toRow = .ok row ∧ e.HeldBy row := by
  obtain ⟨context, hcontext, hhalf, hread⟩ := h.context.printTolerant
  obtain ⟨executed, hexecuted⟩ := Value.exists_writeTime (.inr h.executedAt)
  exact ⟨_, toRow_eq hcontext hexecuted, {
    keys := rfl
    id := rfl
    triggerId := rfl
    context := ⟨context, rfl, hhalf, hread⟩
    status := rfl
    processInstanceId := rfl
    errorMessage := rfl
    executedAt := hexecuted }⟩

/-- An execution is read back from the row that holds it. -/
theorem HeldBy.ofRow (h : e.HeldBy row) (he : e.Storable) : Execution.ofRow row = .ok e := by
  obtain ⟨context, hcontext, -, hread⟩ := h.context
  have hget : ∀ key ∈ schema.columns.map (·.name), key ≠ "trigger_context" →
      (row.put "trigger_context" e.context).get? key = some (Value.entry row key) := by
    intro key hkey hne
    rw [Entries.get?_put_of_ne _ hne, Entries.get?_eq_entry (h.keys ▸ hkey)]
  have hentry : ∀ key, key ≠ "trigger_context" →
      Value.entry (row.put "trigger_context" e.context) key = Value.entry row key :=
    fun key hne => Value.entry_put_of_ne row hne e.context
  rw [Execution.ofRow, hcontext]
  simp only [Trigger.readJson, hread, bind, Except.bind]
  rw [readFields]
  simp only [Value.requireEntry, Value.readTimeOr, hget "trigger_id" (by decide) (by decide),
    hget "status" (by decide) (by decide), hentry "process_instance_id" (by decide),
    hentry "error_message" (by decide), hentry "executed_at" (by decide), Value.entry_put_self,
    h.id, h.triggerId, h.status, ExecutionStatus.read_name, h.processInstanceId, h.errorMessage,
    (he.executedAt.written h.executedAt).2, he.context.orElse, he.executedAt.orElse, bind,
    Except.bind, pure, Except.pure]

end Execution
end ProcessTriggers
