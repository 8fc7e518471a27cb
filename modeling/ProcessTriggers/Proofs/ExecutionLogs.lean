import ProcessTriggers.Proofs.Catalogue
import ProcessTriggers.Proofs.Interchange
import ProcessTriggers.Proofs.Isolation
import ProcessTriggers.Proofs.PrintedText

/-!
The two kinds of execution log. A log in memory and one in a relation to which the same executions
were added list the same newest executions of any triggers. A new execution adds one row to a log,
unless that is a relation and the error message is none that a text of the relation can hold.
-/

namespace ProcessTriggers

/-- Points in universal time are the same if they are the same instant. -/
theorem Stamp.IsUtc.eq_of_instant {s t : Stamp} (hs : s.IsUtc) (ht : t.IsUtc)
    (h : s.instant = t.instant) : s = t := by
  obtain ⟨wall, offset⟩ := s
  obtain ⟨wall', offset'⟩ := t
  obtain rfl : offset = some 0 := hs.offset
  obtain rfl : offset' = some 0 := ht.offset
  simp only [Stamp.instant, Option.getD_some, Int.sub_zero] at h
  rw [h]

namespace Execution

/-- An execution and the row that holds it. -/
structure Mirrored (e : Execution) (row : Entries) : Prop where
  storable : e.Storable
  held : e.HeldBy row

/-- The `limit` newest executions of some triggers, the newest first. -/
def Newest (ids : List Value) (limit : Int) (es found : List Execution) : Prop :=
  ∃ sorted : List Execution, sorted.Perm (among ids es) ∧
    sorted.Pairwise (fun e e' => e'.executedAt.instant ≤ e.executedAt.instant) ∧
    found = sorted.take limit.toNat

/-- There is only one answer where no two executions have the same time. -/
theorem Newest.unique {ids : List Value} {limit : Int} {es found found' : List Execution}
    (h : Newest ids limit es found) (h' : Newest ids limit es found')
    (hutc : ∀ e ∈ es, e.executedAt.IsUtc)
    (hdistinct : ((among ids es).map (·.executedAt)).Nodup) : found = found' := by
  obtain ⟨sorted, hperm, hfalling, rfl⟩ := h
  obtain ⟨sorted', hperm', hfalling', rfl⟩ := h'
  refine congrArg _ (List.Perm.eq_of_pairwise ?_ hfalling hfalling' (hperm.trans hperm'.symm))
  intro e e' he he' hle hge
  have hmem := hperm.subset he
  have hmem' := hperm'.subset he'
  obtain ⟨s, hs, hsUtc⟩ := hutc e (List.mem_of_mem_filter hmem)
  obtain ⟨s', hs', hsUtc'⟩ := hutc e' (List.mem_of_mem_filter hmem')
  apply List.inj_on_of_nodup_map hdistinct hmem hmem'
  rw [hs, hs'] at hle hge ⊢
  exact congrArg Value.stamp (hsUtc.eq_of_instant hsUtc' (Int.le_antisymm hge hle))

/-- The identifiers of an execution have forms in UTF-8, and its time is a point in time. -/
structure Regular (e : Execution) : Prop where
  id : e.id.IsText
  triggerId : e.triggerId.IsText
  processInstanceId : e.processInstanceId = .null ∨ e.processInstanceId.IsText
  executedAt : ∃ t, e.executedAt = .stamp t

end Execution

namespace ExecutionStore

/-- The second log is the first with one more row, for an execution. Only a relation may refuse an
execution, and only for an error message that has no form in UTF-8. -/
def Gains (e : Execution) : ExecutionStore → ExecutionStore → Prop
  | .memory log, store => store = .memory (log ++ [e])
  | .relation rows, store =>
    (∃ row es, e.toRow = .ok es ∧ Execution.schema.row es = .ok row ∧
      store = .relation (rows ++ [row])) ∨
    (¬ (e.errorMessage = .null ∨ e.errorMessage.IsText) ∧ store = .relation rows)

/-- Adds executions one after another. -/
def appendAll (s : ExecutionStore) (es : List Execution) : Except Error ExecutionStore :=
  es.foldlM append s

variable {es added : List Execution} {rows : List Entries} {e : Execution} {id : Value}
  {ids : List Value} {limit : Int}

/-! Adding. -/

/-- What is written for an execution is added to the rows, if its columns hold it and its identifier
is new. -/
theorem append_new {row : Entries} (hrow : e.toRow = .ok row)
    (hkept : Execution.schema.row row = .ok row)
    (hrequired : Execution.schema.checkRequired row = .ok ()) (hid : Value.entry row "id" = e.id)
    (hunique : rows.any (Relation.isAt "id" e.id) = false) :
    (relation rows).append e = .ok (relation (rows ++ [row])) := by
  have hinsert : Relation.insert Execution.schema rows row = .ok (rows ++ [row]) := by
    have hkey : Execution.schema.key = "id" := rfl
    rw [Relation.insert, hkept, hkey]
    simp only [hrequired, hid, hunique, bind, Except.bind]
    rfl
  simp only [append, hrow, hinsert, bind, Except.bind, pure, Except.pure]

/-- A new execution is added to the rows as a row that holds it. -/
theorem append_mirrored (h : List.Forall₂ Execution.Mirrored es rows) (he : e.Storable)
    (hnew : e.id ∉ es.map (·.id)) : ∃ row, e.Mirrored row ∧
      (relation rows).append e = .ok (relation (rows ++ [row])) := by
  obtain ⟨row, hrow, hheld⟩ := he.toRow
  obtain ⟨hkept, hrequired⟩ := hheld.row_eq_self he
  have hunique : rows.any (Relation.isAt "id" e.id) = false := by
    have hsame : es.any (·.id.equal e.id) = rows.any (Relation.isAt "id" e.id) := by
      have hmirrored : List.Forall₂ (fun d row => d.Mirrored row) es rows := h
      refine forall₂_any hmirrored fun d row hm => ?_
      exact (Relation.isAt_isText hm.held.id hm.storable.id.1 he.id.1).symm
    rw [← hsame, List.any_eq_false]
    intro d hd hequal
    obtain ⟨s, hs, -⟩ := he.id.1
    rw [hs] at hequal
    have hid : d.id = e.id := (Value.equal_of_text hequal).trans hs.symm
    exact hnew (hid ▸ List.mem_map_of_mem hd)
  exact ⟨row, ⟨he, hheld⟩, append_new hrow hkept hrequired hheld.id hunique⟩

/-- A relation takes a new execution if its error message has a form in UTF-8. -/
theorem append_regular (h : e.Regular)
    (hmessage : e.errorMessage = .null ∨ e.errorMessage.IsText)
    (hnew : e.id ∉ (relation rows).ids) :
    ∃ row, (relation rows).append e = .ok (relation (rows ++ [row])) := by
  obtain ⟨context, hcontext, hhalf⟩ := Json.print_tolerant e.context
  obtain ⟨t, ht⟩ := h.executedAt
  have hexecuted : e.executedAt.writeTime = .ok (.text t.isoText) := by rw [ht]; rfl
  have hexecutedText : Text.hasHalf t.isoText = false := Text.hasHalf_of_clean t.clean_isoText
  have htexts : ∀ key ∈ ["id", "trigger_id", "trigger_context", "status", "executed_at"],
      (Value.entry (e.written context (.text t.isoText)) key).IsText := by
    simp only [List.forall_mem_cons]
    exact ⟨h.id, h.triggerId, ⟨context, rfl, hhalf⟩, Execution.isText_status _,
      ⟨t.isoText, rfl, hexecutedText⟩, List.forall_mem_nil _⟩
  have hothers : ∀ key ∈ ["process_instance_id", "error_message"],
      Value.entry (e.written context (.text t.isoText)) key = .null ∨
        (Value.entry (e.written context (.text t.isoText)) key).IsText := by
    simp only [List.forall_mem_cons]
    exact ⟨h.processInstanceId, hmessage, List.forall_mem_nil _⟩
  obtain ⟨hkept, hrequired⟩ := Execution.row_of_texts rfl htexts hothers
  have hunique : rows.any (Relation.isAt "id" e.id) = false := by
    obtain ⟨s, hs, -⟩ := h.id
    rw [List.any_eq_false]
    intro row hrow hsame
    rw [hs] at hsame
    exact hnew (List.mem_map.mpr ⟨row, hrow, (Relation.isAt_text.mp hsame).trans hs.symm⟩)
  exact ⟨_, append_new (Execution.toRow_eq hcontext hexecuted) hkept hrequired rfl hunique⟩

/-- A new execution that is handed to a log adds one row. -/
theorem appended_gains {store : ExecutionStore} (h : e.Regular) (hnew : e.id ∉ store.ids) :
    Gains e store (store.appended e) := by
  cases store with
  | memory log => rfl
  | relation rows =>
    rw [appended]
    cases happend : (relation rows).append e with
    | error cause =>
      refine .inr ⟨fun hmessage => ?_, rfl⟩
      obtain ⟨row, hrow⟩ := append_regular h hmessage hnew
      cases happend.symm.trans hrow
    | ok store =>
      obtain ⟨es, hes, happend⟩ := exists_of_bind_eq_ok happend
      obtain ⟨rows', hinsert, happend⟩ := exists_of_bind_eq_ok happend
      cases happend
      obtain ⟨row, hrow, rfl, -⟩ := Relation.insert_eq_ok hinsert
      exact .inl ⟨row, es, hes, hrow, rfl⟩

/-- Both kinds of log take all executions that are new, and the rows hold them in their order. -/
theorem appendAll_run (h : List.Forall₂ Execution.Mirrored es rows)
    (hadded : ∀ e ∈ added, e.Storable) (hids : ((es ++ added).map (·.id)).Nodup) :
    (memory es).appendAll added = .ok (memory (es ++ added)) ∧
      ∃ rows', (relation rows).appendAll added = .ok (relation rows') ∧
        List.Forall₂ Execution.Mirrored (es ++ added) rows' := by
  induction added generalizing es rows with
  | nil =>
    rw [List.append_nil]
    exact ⟨rfl, rows, rfl, h⟩
  | cons e added ih =>
    have hnew : e.id ∉ es.map (·.id) := by
      rw [List.map_append, List.map_cons] at hids
      exact fun hmem => (List.nodup_append.mp hids).2.2 e.id hmem e.id List.mem_cons_self rfl
    obtain ⟨row, hrow, happend⟩ := append_mirrored h (hadded e List.mem_cons_self) hnew
    have hsplit : es ++ e :: added = es ++ [e] ++ added := List.append_cons es e added
    obtain ⟨hmemory, rows', hrelation, hrows⟩ := ih (List.rel_append h (.cons hrow .nil))
      (fun d hd => hadded d (List.mem_cons_of_mem e hd)) (hsplit ▸ hids)
    rw [hsplit]
    refine ⟨hmemory, rows', ?_, hrows⟩
    rw [appendAll, List.foldlM_cons, happend]
    exact hrelation

/-! Listing. -/

theorem listForTrigger_memory (hid : id.IsText) (htraced : ∀ e ∈ es, e.triggerId.IsText) :
    (memory es).listRecent [id] (.int limit) = (memory es).listForTrigger id (.int limit) := by
  have hamong : Execution.among [id] es = es.filter (·.triggerId.equal id) := by
    refine List.filter_congr fun e _ => ?_
    rw [List.any_cons, List.any_nil, Bool.or_false]
  rw [listRecent_memory, hamong]
  · rfl
  · intro id' hmem
    obtain ⟨s, hs, -⟩ := hid
    exact ⟨s, (List.mem_singleton.mp hmem).trans hs⟩
  · intro e he
    obtain ⟨s, hs, -⟩ := htraced e he
    exact ⟨s, hs⟩

theorem listRecent_memory_newest (hes : ∀ e ∈ es, e.Storable) (hids : ∀ id ∈ ids, id.IsText)
    (hlimit : 0 ≤ limit) : ∃ found, (memory es).listRecent ids (.int limit) = .ok found ∧
      Execution.Newest ids limit es found := by
  have hstamps : ∀ e ∈ Execution.among ids es,
      ∃ s, e.executedAt = .stamp s ∧ s.isAware = true := by
    intro e he
    obtain ⟨s, hs, hutc⟩ := (hes e (List.mem_of_mem_filter he)).executedAt
    exact ⟨s, hs, by rw [Stamp.isAware, hutc.offset]; rfl⟩
  obtain ⟨sorted, hsorted, hperm, hfalling⟩ :=
    Value.sortNewestFirst_spec (Value.rankedOn_stamps Execution.executedAt) hstamps
  refine ⟨sorted.take limit.toNat, ?_, sorted, hperm, hfalling, rfl⟩
  rw [listRecent_memory]
  · simp only [hsorted, bind, Except.bind, Value.takeLimit, Value.integer?, if_pos hlimit]
  · intro id hid
    obtain ⟨s, hs, -⟩ := hids id hid
    exact ⟨s, hs⟩
  · intro e he
    obtain ⟨s, hs, -⟩ := (hes e he).triggerId
    exact ⟨s, hs⟩

/-- Texts and a limit are bound as they are. -/
theorem bindAll_texts (hids : ∀ id ∈ ids, id.IsText) (hlimit : 0 ≤ limit)
    (hbound : limit < 2 ^ 63) :
    Relation.bindAll (ids ++ [.int limit]) = .ok (ids ++ [.int limit]) := by
  refine Relation.bindAll_self fun v hv i => ?_
  rcases List.mem_append.mp hv with hmem | hmem
  · exact Relation.bindAt_isText (hids v hmem) i
  · rw [List.mem_singleton.mp hmem]
    exact Relation.bindAt_int (Trigger.fits_of_count hlimit hbound) i

theorem listForTrigger_relation (hid : id.IsText) (hlimit : 0 ≤ limit) (hbound : limit < 2 ^ 63) :
    (relation rows).listRecent [id] (.int limit) =
      (relation rows).listForTrigger id (.int limit) := by
  have hbind : Relation.bindAll [id, .int limit] = .ok [id, .int limit] :=
    bindAll_texts (fun v hv => List.mem_singleton.mp hv ▸ hid) hlimit hbound
  have hone : (rows.filter fun row => [id].any (Relation.isAt "trigger_id" · row)) =
      rows.filter (Relation.isAt "trigger_id" id) := by
    refine List.filter_congr fun row _ => ?_
    rw [List.any_cons, List.any_nil, Bool.or_false]
  simp only [listRecent, listForTrigger, List.isEmpty_cons, Bool.false_eq_true, if_false,
    List.cons_append, List.nil_append, hbind, bind, Except.bind, List.dropLast_cons_cons,
    List.dropLast_singleton, hone]
  rfl

theorem listRecent_relation_newest (h : List.Forall₂ Execution.Mirrored es rows)
    (hids : ∀ id ∈ ids, id.IsText) (hlimit : 0 ≤ limit) (hbound : limit < 2 ^ 63) :
    ∃ found, (relation rows).listRecent ids (.int limit) = .ok found ∧
      Execution.Newest ids limit es found := by
  have hfiltered : List.Forall₂ Execution.Mirrored (Execution.among ids es)
      (rows.filter fun row => ids.any (Relation.isAt "trigger_id" · row)) := by
    refine List.rel_filter (fun e row hm => ?_) h
    have hsame : ids.any (Relation.isAt "trigger_id" · row) = ids.any e.triggerId.equal := by
      rw [Bool.eq_iff_iff, List.any_eq_true, List.any_eq_true]
      refine exists_congr fun id => and_congr_right fun hid => ?_
      rw [Relation.isAt_isText hm.held.triggerId hm.storable.triggerId (hids id hid)]
    simp only [hsame]
  obtain ⟨sorted, hperm, hsorted, hfalling⟩ := Relation.newestFirst_items
    Execution.executedAt (fun e row (hm : e.Mirrored row) =>
      ⟨hm.storable.executedAt, hm.held.executedAt⟩) hfiltered
  refine ⟨sorted.take limit.toNat, ?_, sorted, hperm, hfalling, rfl⟩
  cases ids with
  | nil =>
    have hempty : sorted = [] := by
      rw [← List.perm_nil]
      exact hperm.trans (List.Perm.of_eq (List.filter_eq_nil_iff.mpr fun e _ => by simp))
    rw [hempty, List.take_nil]
    rfl
  | cons id ids =>
    have htaken : ((Relation.newestFirst "executed_at" (rows.filter fun row =>
        (id :: ids).any (Relation.isAt "trigger_id" · row))).take limit.toNat).mapM
          Execution.ofRow = .ok (sorted.take limit.toNat) := by
      rw [mapM_eq_ok_iff]
      exact ((List.forall₂_take limit.toNat hsorted).imp fun e row hm =>
        hm.held.ofRow hm.storable).flip
    have hlast : (id :: ids ++ [Value.int limit]).getLastD .null = .int limit := by
      rw [List.getLastD_concat]
    simp only [listRecent, List.isEmpty_cons, Bool.false_eq_true, if_false,
      bindAll_texts hids hlimit hbound, bind, Except.bind, hlast, List.dropLast_concat,
      Relation.takeLimit, Relation.Preference.convert, if_neg (Int.not_lt.mpr hlimit)]
    exact htaken

/-! Both. -/

/-- Two logs of the same executions answer with the newest of some triggers, and with the same ones
if no two of these triggers' executions have the same time. -/
structure SameNewest (ids : List Value) (limit : Int) (es found found' : List Execution) :
    Prop where
  newest : Execution.Newest ids limit es found
  newest' : Execution.Newest ids limit es found'
  same : ((Execution.among ids es).map (·.executedAt)).Nodup → found = found'

/-- An execution of the trigger `t` with a context that holds a list. -/
def delivery (id : String) (status : ExecutionStatus) (executed : Stamp) : Execution where
  id := .text id
  triggerId := .text "t"
  context := .object [("user.name", .text "Zoë"), ("levels", .list [.int (-1), .null])]
  status := status
  processInstanceId := .null
  errorMessage := .text "\"no\""
  executedAt := .stamp executed

theorem delivery_storable (id : String) (status : ExecutionStatus)
    (hid : Text.hasHalf id = false) (hne : id ≠ "") {executed : Stamp} (h : executed.IsUtc) :
    (delivery id status executed).Storable := by
  have hcontext : Json.Exact (delivery id status executed).context := by
    refine .object (by decide) (by decide) fun e he => ?_
    rcases List.mem_pair.mp he with rfl | rfl
    · exact .text (by decide)
    · refine .list fun x hx => ?_
      rcases List.mem_pair.mp hx with rfl | rfl
      · exact .int (by decide)
      · exact .null
  exact {
    id := ⟨⟨id, rfl, hid⟩, fun h => hne (Value.text.inj h)⟩
    triggerId := ⟨"t", rfl, by decide⟩
    context := Value.isJsonObject_iff.mpr ⟨⟨_, rfl⟩, hcontext⟩
    processInstanceId := .inl rfl
    errorMessage := .inr ⟨"\"no\"", rfl, by decide⟩
    executedAt := ⟨executed, rfl, h⟩ }

/-- A failure, and a success that is a microsecond older but added later. -/
def deliveries : List Execution := [
  delivery "a" .failed ⟨63000000000000001, some 0⟩,
  delivery "b" .success ⟨63000000000000000, some 0⟩]

end ExecutionStore
end ProcessTriggers
