import ProcessTriggers.Proofs.Origins
import ProcessTriggers.Proofs.Tally

/-!
Every operation keeps the counts of starts in step with the log of executions. An attempt that a
task has in hand is not in the log yet; that it is for a trigger of a known type, under an
identifier that was drawn, is what makes its conclusion count right whatever happened meanwhile.
-/

namespace ProcessTriggers

open Action Automation

/-- The triggers that a store holds in memory. -/
def TriggerStore.inMemory : TriggerStore → List Trigger
  | .memory ts => ts.items
  | .relation _ => []

/-- An attempt for a trigger of a known type, whose identifier is one of the first of the supply. -/
structure Attempt.Sound (n : Nat) (a : Attempt) : Prop where
  typed : ∃ type, a.trigger.type = .known type
  own : a.execution.triggerId = a.trigger.id
  given : Supply.Gave n a.trigger.id

theorem Attempt.Sound.mono {m n : Nat} {a : Attempt} (h : a.Sound m) (hle : m ≤ n) : a.Sound n :=
  { h with given := h.given.mono hle }

namespace Automation

/-- A state in which the stored triggers agree with the log and the orchestrator, after at least `n`
identifiers were drawn. -/
structure Tallied (n : Nat) (s : Automation) : Prop where
  unbroken : s.broken = []
  tally : ∃ ts log, s.triggers = .memory ts ∧ s.executions = .memory log ∧
    Trigger.Tally s.supply s.orchestrator log ts
  due : ∀ d ∈ s.scheduler.due, ∀ a, d.stage.attempt? = some a → a.Sound s.supply.drawn
  drawn : n ≤ s.supply.drawn

namespace Tallied

variable {n : Nat} {s s' : Automation}

theorem ofQuiet (h : Quiet s s') (hs : Tallied n s) : Tallied n s' where
  unbroken := h.broken.trans hs.unbroken
  tally := by
    rw [h.triggers, h.executions, h.supply, h.orchestrator]
    exact hs.tally
  due := by
    rw [h.scheduler, h.supply]
    exact hs.due
  drawn := by
    rw [h.supply]
    exact hs.drawn

/-- The state itself tells how many identifiers were drawn. -/
theorem present (h : Tallied n s) : Tallied s.supply.drawn s := { h with drawn := Nat.le_refl _ }

/-- More identifiers may be drawn. -/
theorem withSupply (h : Tallied n s) {m : Nat} (hle : s.supply.drawn ≤ m) :
    Tallied n { s with supply := ⟨m⟩ } where
  unbroken := h.unbroken
  tally := by
    obtain ⟨ts, log, hts, hlog, htally⟩ := h.tally
    exact ⟨ts, log, hts, hlog, htally.mono hle⟩
  due d hd a ha := (h.due d hd a ha).mono hle
  drawn := Nat.le_trans h.drawn hle

/-- Other triggers and executions may take the place of the present ones if they agree. -/
theorem withTally (h : Tallied n s) {ts : Keyed Trigger} {log : List Execution}
    (htally : Trigger.Tally s.supply s.orchestrator log ts) :
    Tallied n { s with triggers := .memory ts, executions := .memory log } :=
  { h with tally := ⟨ts, log, rfl, rfl, htally⟩ }

theorem withDefinitions (h : Tallied n s) {o : Orchestrator}
    (hknows : ∀ {id}, s.orchestrator.Knows id → o.Knows id) :
    Tallied n { s with orchestrator := o } := by
  obtain ⟨ts, log, hts, hlog, htally⟩ := h.tally
  exact { h with tally := ⟨ts, log, hts, hlog, htally.withDefinitions hknows⟩ }

/-- What happens before an attempt is recorded does not matter. -/
theorem ofUnrecorded (h : Tallied n s) (hunrecorded : Unrecorded s s')
    (htriggers : s'.triggers = s.triggers) : Tallied n s' where
  unbroken := hunrecorded.broken.trans h.unbroken
  tally := by
    obtain ⟨ts, log, hts, hlog, htally⟩ := h.tally
    exact ⟨ts, log, htriggers.trans hts, hunrecorded.executions_eq.trans hlog,
      (htally.mono hunrecorded.supply).withDefinitions fun hid =>
        hid.congr hunrecorded.definitions⟩
  due := by
    rw [hunrecorded.scheduler]
    exact fun d hd a ha => (h.due d hd a ha).mono hunrecorded.supply
  drawn := Nat.le_trans h.drawn hunrecorded.supply

/-- Of a stored trigger, the type is known and the identifier was drawn. -/
theorem stored (h : Tallied n s) {id : Value} {t : Trigger}
    (hget : s.triggers.get id = .ok (some t)) :
    (∃ type, t.type = .known type) ∧ Supply.Gave s.supply.drawn t.id := by
  obtain ⟨ts, log, hts, _, htally⟩ := h.tally
  rw [hts] at hget
  obtain ⟨key, _, hget⟩ := exists_of_bind_eq_ok hget
  have hmem : (key, t) ∈ ts := htally.texts.get?_eq_some_iff.mp (Except.ok.inj hget)
  have hid : t.id = key := htally.own _ hmem
  refine ⟨htally.typed _ hmem, ?_⟩
  rw [hid]
  exact htally.toTable.gave (Keyed.mem_keys hmem)

theorem found (h : Tallied n s) {f : TriggerFilter} {found : List Trigger} {t : Trigger}
    (hfind : s.triggers.find f = .ok found) (ht : t ∈ found) :
    (∃ type, t.type = .known type) ∧ Supply.Gave s.supply.drawn t.id := by
  obtain ⟨ts, log, hts, _, htally⟩ := h.tally
  rw [hts] at hfind
  obtain ⟨found', hfind', hperm, _⟩ := htally.toTable.find_run f
  obtain rfl := Except.ok.inj (hfind.symm.trans hfind')
  obtain ⟨key, hmem⟩ := Keyed.mem_items.mp (List.mem_of_mem_filter (hperm.mem_iff.mp ht))
  have hid : t.id = key := htally.own _ hmem
  refine ⟨htally.typed _ hmem, ?_⟩
  rw [hid]
  exact htally.toTable.gave (Keyed.mem_keys hmem)

end Tallied
end Automation

/-- The frame of what keeps the counts right. -/
def tallyFrame (n : Nat) : Frame := .ofInvariant (Tallied n) Tallied.ofQuiet

variable {n : Nat}

theorem tallyFrame_timeless : (tallyFrame n).Timeless where
  tasks s scheduler hdue h := by
    refine { h with due := fun d hd a ha => ?_ }
    rcases hdue d hd with hd | hnone
    · exact h.due d hd a ha
    · rw [hnone] at ha
      cases ha
  gauge s m h := { h with }
  clock s clock h := { h with }

/-- It suffices to count the identifiers anew in each state. -/
theorem keeps_tally {α : Type} {act : Action α}
    (h : ∀ s, Tallied s.supply.drawn s → Tallied s.supply.drawn (act s).2) :
    Keeps (tallyFrame n) act := by
  intro s hs
  have hafter := h s hs.present
  exact { hafter with drawn := Nat.le_trans hs.drawn hafter.drawn }

namespace Engine

/-- The conclusion of an attempt counts a start just if it notes a success. -/
theorem conclude_tallies {a : Attempt} (ha : a.Sound n) (outcome : Except Error StartedRun) :
    Keeps (tallyFrame n) (conclude a outcome) := by
  intro s hs
  obtain ⟨ts, log, hts, hlog, htally⟩ := hs.tally
  obtain ⟨store, s₁, hquiet, hconclude, hstore⟩ := conclude_notes a outcome s
  have hid : (outcomeOf a outcome).triggerId = a.trigger.id := by rw [outcomeOf_triggerId, ha.own]
  have hgiven : Supply.Gave s.supply.drawn (outcomeOf a outcome).triggerId :=
    hid ▸ ha.given.mono hs.drawn
  -- What is counted fits the row that is about to be written.
  obtain ⟨ts', hcounted, htally'⟩ : ∃ ts', store = .memory ts' ∧
      Trigger.Tally s.supply s.orchestrator (log ++ [outcomeOf a outcome]) ts' := by
    rw [hstore hs.unbroken, hts, ← hid]
    cases outcome with
    | ok run => exact htally.success hgiven rfl _
    | error cause => exact ⟨ts, rfl, htally.failure hgiven rfl⟩
  obtain ⟨type, htype⟩ := ha.typed
  have hnamed : ∃ name, a.trigger.type.name = .ok name := ⟨_, congrArg TypeField.name htype⟩
  obtain ⟨s₂, hnote, hquiet'⟩ := noteOutcome_run (hquiet.broken.trans hs.unbroken)
    (fun _ => hnamed) (outcomeOf a outcome)
  rw [ExecutionStore.appended_memory (hquiet.executions.trans hlog)] at hquiet'
  rw [hcounted] at hquiet
  have hwritten := (hquiet.withExecutions (.memory (log ++ [outcomeOf a outcome]))).trans hquiet'
  have hs₂ : Tallied n s₂ := .ofQuiet hwritten (hs.withTally htally')
  rw [hconclude, hnote]
  exact { hs₂ with }

theorem dispatch_tallies {a : Attempt} (ha : a.Sound n) : Keeps (tallyFrame n) (dispatch a) := by
  intro s hs
  obtain ⟨outcome, s₁, hdispatch, hunrecorded, htriggers, _⟩ := dispatch_concludes a s
  rw [hdispatch]
  exact conclude_tallies ha outcome s₁ (hs.ofUnrecorded hunrecorded htriggers)

theorem newAttempt_tallies (t : Trigger) (context vars : Entries) (options : StartOptions) :
    Keeps (tallyFrame n) (newAttempt t context vars options) :=
  fun s hs => hs.withSupply (Nat.le_succ s.supply.drawn)

theorem fire_tallies {t : Trigger} (htype : ∃ type, t.type = .known type)
    (hgiven : Supply.Gave n t.id) (context : Value) : Keeps (tallyFrame n) (fire t context) := by
  refine fire_frame (newAttempt_tallies t) fun a htrigger hid _ => dispatch_tallies ?_
  subst htrigger
  exact ⟨htype, hid, hgiven⟩

theorem evaluate_tallies (type : TriggerType) (context workspaceId : Value) :
    Keeps (tallyFrame n) (evaluate type context workspaceId) := by
  refine keeps_tally fun s hs => ?_
  refine evaluate_frame (F := tallyFrame s.supply.drawn) (fun found t hfind ht => ?_) hs
  obtain ⟨htype, hgiven⟩ := hs.found hfind ht
  exact evaluateOne_frame fun _ => fire_tallies htype hgiven context

theorem beginScheduled_tallies (id expression : Value) :
    Keeps (tallyFrame n) (beginScheduled id expression) :=
  beginScheduled_frame newAttempt_tallies id expression

/-- A scheduled attempt that was begun is sound. -/
theorem beginScheduled_sound {s s' : Automation} (hs : Tallied n s) {id expression : Value}
    {a : Attempt} (h : beginScheduled id expression s = (.ok (some a), s')) :
    a.Sound s.supply.drawn := by
  obtain ⟨hget, hown, -⟩ := beginScheduled_begins h
  obtain ⟨htype, hgiven⟩ := hs.stored hget
  exact ⟨htype, hown, hgiven⟩

theorem fireScheduled_tallies (id expression : Value) :
    Keeps (tallyFrame n) (fireScheduled id expression) := by
  refine keeps_tally fun s hs => ?_
  have hbegun : Tallied s.supply.drawn (beginScheduled id expression s).2 :=
    beginScheduled_tallies id expression s hs
  rw [fireScheduled, bind_run]
  cases hrun : beginScheduled id expression s with
  | mk r s₁ =>
    rw [hrun] at hbegun
    cases r with
    | error e => exact hbegun
    | ok begun =>
      cases begun with
      | none => exact hbegun
      | some a =>
        have hdispatch : Keeps (tallyFrame s.supply.drawn) (do return some (← dispatch a)) :=
          keeps_bind (dispatch_tallies (beginScheduled_sound hs hrun)) fun _ => keeps_pure _
        exact hdispatch s₁ hbegun

theorem start_tallies (a : Attempt) : Keeps (tallyFrame n) (start a) := by
  intro s hs
  obtain ⟨r, s', hstart, hunrecorded, htriggers, _⟩ := start_ends a s
  rw [hstart]
  exact hs.ofUnrecorded hunrecorded htriggers

end Engine

theorem Webhook.handle_tallies (id body signature plainSecret : Value) :
    Keeps (tallyFrame n) (handle id body signature plainSecret) := by
  intro s hs
  obtain ⟨e, s₁, hrun, hquiet⟩ | ⟨a, s₁, _, hquiet, hrun⟩ :=
    handle_cases id body signature plainSecret s
  · rw [hrun]
    exact .ofQuiet hquiet hs
  · rw [hrun]
    exact Engine.evaluate_tallies _ _ _ s₁ (.ofQuiet hquiet hs)

namespace Scheduler

/-- A step may be made due if the attempt that it has in hand is sound. -/
theorem makeDue_tallies (task : Nat) {stage : Stage}
    (hstage : ∀ a, stage.attempt? = some a → a.Sound n) :
    Keeps (tallyFrame n) (makeDue task stage) := by
  refine keeps_modify fun s hs => { hs with due := fun d hd a ha => ?_ }
  rcases List.mem_append.mp hd with hd | hd
  · exact hs.due d hd a ha
  · rw [List.mem_singleton.mp hd] at ha
    exact (hstage a ha).mono hs.drawn

theorem concludeTick_tallies (t : Timer) {a : Attempt} (ha : a.Sound n)
    (outcome : Except Error StartedRun) : Keeps (tallyFrame n) (concludeTick t a outcome) :=
  concludeTick_timeless tallyFrame_timeless t (Engine.conclude_tallies ha outcome)

theorem wakeTimer_tallies (t : Timer) : Keeps (tallyFrame n) (wakeTimer t) := by
  refine keeps_tally fun s hs => ?_
  refine wakeTimer_frame (F := tallyFrame s.supply.drawn) (Engine.beginScheduled_tallies _ _ s)
    (unregister_timeless tallyFrame_timeless _) (advanceTimer_timeless tallyFrame_timeless t)
    (fun a s' hrun => ?_) hs
  have ha : a.Sound s.supply.drawn := Engine.beginScheduled_sound hs hrun
  refine ⟨_, fun _ => id, makeDue_tallies _ fun a' ha' => ?_,
    fun e => concludeTick_tallies t ha _⟩
  exact Option.some.inj ha' ▸ ha

theorem timerStep_tallies {stage : Stage} (hstage : ∀ a, stage.attempt? = some a → a.Sound n)
    (t : Timer) : Keeps (tallyFrame n) (timerStep t stage) := fun s =>
  timerStep_frame tallyFrame_timeless.waits (wakeTimer_tallies t s) Engine.start_tallies
    (fun _ hsame => makeDue_tallies _ fun a ha => hstage a (hsame a ha))
    fun a outcome ha => concludeTick_tallies t (hstage a ha) outcome s

/-- The attempts in hand are sound when the steps are taken, and remain so until it is their
turn. -/
theorem tallyFrame_turns : (tallyFrame n).Turns := by
  intro s taken rest hdue hs
  have hrest : Tallied s.supply.drawn { s with scheduler.due := rest } :=
    { hs.present with due := fun d hd => hs.due d (hdue d (List.mem_append_right taken hd)) }
  have htaken : Keeps (tallyFrame s.supply.drawn) (each step taken) := keeps_each fun d hd =>
    step_timeless tallyFrame_timeless fun t =>
      timerStep_tallies (hs.due d (hdue d (List.mem_append_left rest hd))) t
  have hafter : Tallied s.supply.drawn (takeSome taken rest s).2 := by
    rw [takeSome, change, bind_ok (modify_run _ s)]
    exact htaken _ hrest
  exact { hafter with drawn := Nat.le_trans hs.drawn hafter.drawn }

end Scheduler

theorem Automation.tallied_of_untouched {s s' : Automation} (h : Untouched s s')
    (hs : Tallied n s) : Tallied n s' := by
  obtain ⟨m, hdrawn, hquiet⟩ := h
  exact .ofQuiet hquiet (hs.withSupply hdrawn)

namespace Trigger

theorem change_keepsCount {t t' : Trigger} {name : String} {v : Value}
    (h : t.change name v = .ok t') : t'.triggerCount = t.triggerCount ∧
      (name ≠ "process_definition_id" → t'.definitionId = t.definitionId) := by
  unfold change at h
  split at h
  all_goals first
    | (cases h; done)
    | (rw [← Except.ok.inj h]; exact ⟨rfl, fun hne => by first | rfl | exact absurd rfl hne⟩)

theorem foldlM_change_keepsCount {changes : List (String × Value)} {t t' : Trigger}
    (h : changes.foldlM (fun t e => t.change e.1 e.2) t = .ok t') :
    t'.triggerCount = t.triggerCount ∧
      ((∀ e ∈ changes, e.1 ≠ "process_definition_id") → t'.definitionId = t.definitionId) := by
  induction changes generalizing t with
  | nil =>
    rw [← Except.ok.inj h]
    exact ⟨rfl, fun _ => rfl⟩
  | cons e changes ih =>
    rw [List.foldlM_cons] at h
    obtain ⟨t₁, h₁, h⟩ := exists_of_bind_eq_ok h
    obtain ⟨hcount, hdefinition⟩ := change_keepsCount h₁
    obtain ⟨hcount', hdefinition'⟩ := ih h
    refine ⟨hcount'.trans hcount, fun hnone => ?_⟩
    rw [hdefinition' fun e' he' => hnone e' (List.mem_cons_of_mem e he'),
      hdefinition (hnone e List.mem_cons_self)]

/-- No change touches the count, and the definition changes only if another one is given. -/
theorem applyChanges_keepsCount {t t' : Trigger} {changes : Entries}
    (h : t.applyChanges changes = .ok t') : t'.triggerCount = t.triggerCount ∧
      (changes.has "process_definition_id" = false → t'.definitionId = t.definitionId) := by
  obtain ⟨_, _, h⟩ := exists_of_bind_eq_ok h
  obtain ⟨hcount, hdefinition⟩ := foldlM_change_keepsCount h
  refine ⟨hcount, fun hhas => hdefinition fun e he heq => ?_⟩
  have hnone : changes.get? "process_definition_id" = none :=
    Option.not_isSome_iff_eq_none.mp (Bool.eq_false_iff.mp hhas)
  exact Entries.ne_of_get?_eq_none hnone (List.mem_of_mem_filter he) heq

end Trigger

namespace Automation.Tallied

variable {s : Automation}

/-- A stored trigger may be replaced by what became of it. -/
theorem amended (hs : Tallied n s) {id : Value} {t t' : Trigger} {store : TriggerStore}
    (hget : s.triggers.get id = .ok (some t)) (hamends : t.Amends t')
    (hcount : t'.triggerCount = t.triggerCount)
    (hdefined : t'.definitionId = t.definitionId ∨ s.orchestrator.Knows t'.definitionId)
    (hsaved : s.triggers.save t' = .ok store) : Tallied n { s with triggers := store } := by
  obtain ⟨ts, log, hts, hlog, htally⟩ := hs.tally
  rw [hts] at hget hsaved
  obtain ⟨hmem, rfl⟩ := htally.toTable.save_put hget hamends hsaved
  have hknown : s.orchestrator.Knows t'.definitionId := by
    rcases hdefined with heq | hknown
    · rw [heq]
      exact htally.defined _ hmem
    · exact hknown
  have hput := htally.put_amended hmem hamends hcount hknown
  exact { hs with tally := ⟨_, log, rfl, hlog, hput⟩ }

/-- A trigger may be removed. -/
theorem removed (hs : Tallied n s) {id : Value} {b : Bool} {store : TriggerStore}
    (hdeleted : s.triggers.delete id = .ok (b, store)) :
    Tallied n { s with triggers := store } := by
  obtain ⟨ts, log, hts, hlog, htally⟩ := hs.tally
  rw [hts] at hdeleted
  obtain ⟨key, _, hdeleted⟩ := exists_of_bind_eq_ok hdeleted
  cases hdeleted
  exact { hs with tally := ⟨_, log, rfl, hlog, htally.erase key⟩ }

end Automation.Tallied

namespace Registry.Mutation

/-- Whether the type of a new trigger, if one is given, is given by its name. -/
def Typed : Mutation → Prop
  | create data _ => ∀ v, data.get? "trigger_type" = some v → ∃ name, v = .text name
  | _ => True

theorem newType_known {name : String} {field : TypeField}
    (h : Trigger.newType (.text name) = .ok field) : ∃ type, field = .known type := by
  cases hread : Enumeration.read TriggerType (.text name) with
  | error e =>
    rw [Trigger.newType, hread] at h
    cases h
  | ok type =>
    rw [Trigger.newType, hread] at h
    exact ⟨type, (Except.ok.inj h).symm⟩

theorem prepare_tallies {m : Mutation} (hm : m.Typed) : Keeps (tallyFrame n) m.prepare := by
  intro s hs
  obtain ⟨e, s₁, hrun, huntouched⟩ | ⟨t, deleted, s₁, hrun, hprepared⟩ := m.prepare_cases s
  · rw [hrun]
    exact tallied_of_untouched huntouched hs
  · rw [hrun]
    cases hprepared with
    | @created data userId definitionId d t store s₁ allowed given known made id createdAt inserted
        stored =>
      obtain ⟨_, hdefinition, ⟨v, hv, hnew⟩, _, hcount⟩ := created_fields allowed made
      obtain ⟨name, rfl⟩ := hm v hv
      have hknows : s.orchestrator.Knows t.definitionId := by
        rw [hdefinition, Value.entry, given]
        exact ⟨d, known⟩
      obtain ⟨ts, log, hts, hlog, htally⟩ := hs.tally
      rw [hts] at inserted
      obtain rfl := TriggerStore.insert_memory id inserted
      have hput := htally.put_new id ⟨_, createdAt, rfl⟩ (newType_known hnew) hknows hcount
      have hs₁ : Tallied n { s with
          supply := ⟨s.supply.drawn + 1⟩, triggers := .memory (ts.put t.id t) } :=
        { hs.withSupply (Nat.le_succ _) with tally := ⟨_, log, rfl, hlog, hput⟩ }
      exact .ofQuiet stored hs₁
    | @updated id changes t t' store s₁ found changed known saved stored =>
      have hamends := (Trigger.applyChanges_amends changed).touched
        (.stamp (Stamp.ofInstant s.clock.instant))
      obtain ⟨hcount, hdefinition⟩ := Trigger.applyChanges_keepsCount changed
      have hdefined : t'.definitionId = t.definitionId ∨ s.orchestrator.Knows t'.definitionId := by
        cases hhas : changes.has "process_definition_id" with
        | true => exact .inr (known hhas)
        | false => exact .inl (hdefinition hhas)
      exact .ofQuiet stored (hs.amended found hamends hcount hdefined saved)
    | @toggled id t store s₁ found saved stored =>
      have hamends : t.Amends { t.toggled with
          updatedAt := .stamp (Stamp.ofInstant s.clock.instant) } := ⟨rfl, rfl, rfl, rfl, rfl⟩
      exact .ofQuiet stored (hs.amended found hamends rfl (.inl rfl) saved)
    | doomed found quiet => exact .ofQuiet quiet hs

theorem finish_tallies (m : Mutation) (t : Trigger) : Keeps (tallyFrame n) (m.finish t) := by
  cases m with
  | delete id =>
    have hdelete : Keeps (tallyFrame n) (deleteTrigger id) := by
      intro s hs
      obtain ⟨e, s₁, hrun, hquiet⟩ | ⟨b, store, s₁, hrun, hstore, hquiet⟩ :=
        deleteTrigger_cases id s
      · rw [hrun]
        exact .ofQuiet hquiet hs
      · rw [hrun]
        exact .ofQuiet hquiet (hs.removed hstore)
    exact keeps_bind hdelete fun _ => keeps_bind (log_keeps _ _ _) fun _ => keeps_pure _
  | create | update | toggle => exact keeps_pure _

theorem perform_tallies {m : Mutation} (hm : m.Typed) : Keeps (tallyFrame n) m.perform := by
  rw [m.perform_eq]
  refine keeps_bind (prepare_tallies hm) fun prepared => ?_
  have hnotify : Keeps (tallyFrame n) (notify prepared.1 prepared.2) :=
    Scheduler.notify_keeps (Scheduler.unregister_timeless tallyFrame_timeless _) fun _ _ _ =>
      Scheduler.register_timeless tallyFrame_timeless _
  exact keeps_bind hnotify fun _ => finish_tallies m prepared.1

end Registry.Mutation

namespace Operation

/-- The operations whose starts are counted by the engine alone: new triggers have their types given
by name, and neither are starts counted from outside nor are triggers fired that may not be
stored. -/
def Accountable : Operation → Prop
  | create data _ => ∀ v, data.get? "trigger_type" = some v → ∃ name, v = .text name
  | recordFire .. | fire .. => False
  | _ => True

theorem mutation_tallies {m : Registry.Mutation} (hm : m.Typed) :
    Keeps (tallyFrame n) m.operation.perform := by
  intro s hs
  rw [m.operation_run]
  exact Registry.Mutation.perform_tallies hm s hs

/-- Every accountable operation keeps the counts right. -/
theorem perform_tallies {op : Operation} (hop : op.Accountable) :
    Keeps (tallyFrame n) op.perform := by
  cases op with
  | create data userId =>
    exact mutation_tallies (m := .create data userId) hop
  | update id changes => exact mutation_tallies (m := .update id changes) trivial
  | toggle id => exact mutation_tallies (m := .toggle id) trivial
  | delete id => exact mutation_tallies (m := .delete id) trivial
  | recordFire | fire => exact hop.elim
  | listen listener => exact keeps_modify fun s hs => { hs with }
  | deploy d =>
    refine keeps_getBind fun s => ?_
    cases hdeploy : s.orchestrator.deploy d with
    | error e => exact Frame.refl _ s
    | ok o => exact fun hs => hs.withDefinitions fun hid => hid.deploy hdeploy
  | failNextStart e =>
    exact keeps_modify fun s hs => hs.withDefinitions fun hid => hid.congr rfl
  | startProcess definitionId vars options =>
    have hstart : Keeps (tallyFrame n) (Automation.startProcess definitionId vars options) := by
      intro s hs
      obtain ⟨outcome, s', hrun, hunrecorded, htriggers, _⟩ :=
        startProcess_ends definitionId vars options s
      rw [hrun]
      exact hs.ofUnrecorded hunrecorded htriggers
    exact keeps_bind hstart fun _ => keeps_pure _
  | cancelRun id =>
    refine keeps_getBind fun s => ?_
    cases hcancel : s.orchestrator.cancel id with
    | error e => exact Frame.refl _ s
    | ok o =>
      rw [Orchestrator.cancel] at hcancel
      split at hcancel
      · cases hcancel
        exact fun hs => hs.withDefinitions fun hid => hid.congr rfl
      · cases hcancel
  | evaluate type context workspaceId =>
    exact keeps_bind (Engine.evaluate_tallies _ _ _) fun _ => keeps_pure _
  | fireScheduled id expression =>
    exact keeps_bind (Engine.fireScheduled_tallies _ _) fun _ => keeps_pure _
  | handleWebhook id body signature plainSecret =>
    exact keeps_bind (Webhook.handle_tallies _ _ _ _) fun _ => keeps_pure _
  | tick id expression =>
    have htick : Keeps (tallyFrame n) (Scheduler.tick id expression) :=
      Scheduler.tick_keeps (Scheduler.unregister_timeless tallyFrame_timeless id)
        (Engine.fireScheduled_tallies id expression)
    exact keeps_bind htick fun _ => keeps_pure _
  | startScheduler | stopScheduler | reconcile | unregister | wake | takeTurn | runUntilIdle
  | release | advance | setClock =>
    exact perform_schedules tallyFrame_timeless Scheduler.tallyFrame_turns trivial
  | drawId =>
    have hdraw : Keeps (tallyFrame n) Automation.drawId := fun s hs =>
      hs.withSupply (Nat.le_succ s.supply.drawn)
    exact keeps_bind hdraw fun _ => keeps_pure _
  | elsewhere f quiet => exact keeps_modify fun s => Tallied.ofQuiet (quiet s)

end Operation

namespace Automation

/-- A program whose stores are in memory, not broken and empty, and whose tasks have nothing in
hand. -/
structure Blank (s : Automation) : Prop where
  unbroken : s.broken = []
  triggers : s.triggers = .memory []
  executions : s.executions = .memory []
  idle : s.scheduler.due = []

theorem Blank.tallied {s : Automation} (h : Blank s) : Tallied 0 s where
  unbroken := h.unbroken
  tally := ⟨[], [], h.triggers, h.executions, .nil _ _⟩
  due d hd := by
    rw [h.idle] at hd
    exact absurd hd List.not_mem_nil
  drawn := Nat.zero_le _

theorem after_tallied {s : Automation} (h : Blank s) {ops : List Operation}
    (hops : ∀ op ∈ ops, op.Accountable) : Tallied 0 (s.after ops) :=
  after_induction h.tallied fun op hop s hs => Operation.perform_tallies (hops op hop) s hs

theorem after_recalls {s : Automation} (h : Blank s) {ops : List Operation}
    (hops : ∀ op ∈ ops, op.Accountable) {ts : Keyed Trigger}
    (hts : (s.after ops).triggers = .memory ts) : ∀ e ∈ ts, s.Recalls ops e.2 := by
  induction ops using List.reverseRecOn generalizing ts with
  | nil =>
    have hnone : ts = [] := TriggerStore.memory.inj (hts.symm.trans h.triggers)
    intro e he
    rw [hnone] at he
    exact absurd he List.not_mem_nil
  | append_singleton ops op ih =>
    have hbefore : ∀ op ∈ ops, op.Accountable := fun op' hop' =>
      hops op' (List.mem_append_left [op] hop')
    obtain ⟨ts₀, _, hts₀, _, htally⟩ := (after_tallied h hbefore).tally
    have hone : s.after (ops ++ [op]) = (op.perform (s.after ops)).2 := after_append s ops [op]
    rw [hone] at hts
    intro e he
    obtain ⟨ts', hts', hdescend⟩ | ⟨data, userId, t, rfl, hts', hcreate, hstems⟩ :=
      op.perform_origin hts₀ htally.toTable
    · obtain rfl := TriggerStore.memory.inj (hts.symm.trans hts')
      obtain ⟨e₀, he₀, _, hamends⟩ := hdescend e he
      exact (ih hbefore hts₀ e₀ he₀).later hamends op
    · obtain rfl := TriggerStore.memory.inj (hts.symm.trans hts')
      rcases htally.texts.mem_put.mp he with rfl | ⟨he, _⟩
      · exact ⟨ops, data, userId, [], t, rfl, hcreate, rfl, hstems⟩
      · exact (ih hbefore hts₀ e he).later (.refl _) _

/-- The statistics of the stored triggers agree with the log after any accountable operations. Each
trigger has been counted once for each of its successful executions, has a definition that is known,
and has the workspace, type, owner and time with which it was created; and the log of every earlier
state is the beginning of the present one. -/
theorem statistics_agree {s : Automation} (h : Blank s) {ops : List Operation}
    (hops : ∀ op ∈ ops, op.Accountable) :
    ∃ ts log, (s.after ops).triggers = .memory ts ∧ (s.after ops).executions = .memory log ∧
      (∀ e ∈ ts, e.2.id = e.1 ∧
        e.2.triggerCount = .int (Execution.successes log e.2.id) ∧
        (s.after ops).orchestrator.Knows e.2.definitionId ∧ s.Recalls ops e.2) ∧
      ∀ before rest, ops = before ++ rest →
        ∃ earlier, (s.after before).executions = .memory earlier ∧ earlier <+: log := by
  obtain ⟨ts, log, hts, hlog, htally⟩ := (after_tallied h hops).tally
  refine ⟨ts, log, hts, hlog, fun e he => ?_, fun before rest hsplit => ?_⟩
  · have hid : e.2.id = e.1 := htally.own e he
    refine ⟨hid, ?_, htally.defined e he, after_recalls h hops hts e he⟩
    rw [hid]
    exact htally.counted e he
  · subst hsplit
    have hextends := after_extends (s.after before) rest
    rw [← after_append, hlog] at hextends
    cases hearlier : (s.after before).executions with
    | relation rows =>
      rw [hearlier] at hextends
      exact hextends.elim
    | memory earlier =>
      rw [hearlier] at hextends
      obtain ⟨added, hadded, _⟩ := hextends
      exact ⟨earlier, rfl, added, hadded.symm⟩

/-- A program that has just begun and gives starts some time. -/
def patient : Automation where
  clock := Stamp.ofInstant Stamp.epoch
  config := { startTimeout := .int 30 }

/-- A trigger for messages is created, and one message comes in. -/
def oneMessage : List Operation :=
  [.deploy ⟨.text "d1", .text "w1", .null, .text "k1"⟩,
    .create [("workspace_id", .text "w1"), ("process_definition_id", .text "d1"),
      ("trigger_type", .text "message")] .null,
    .evaluate .message (.object []) (.text "w1")]

theorem statistics_agree_oneMessage :
    Blank patient ∧ (∀ op ∈ oneMessage, op.Accountable) ∧
      ∃ e log, (patient.after oneMessage).triggers = .memory [e] ∧
        (patient.after oneMessage).executions = .memory log ∧ e.2.triggerCount = .int 1 ∧
        Execution.successes log e.2.id = 1 ∧ patient.Recalls oneMessage e.2 := by
  have h : Blank patient := by constructor <;> rfl
  have hops : ∀ op ∈ oneMessage, op.Accountable := by
    simp [oneMessage, Operation.Accountable, Entries.get?, List.lookup_cons]
  have hstored : (patient.after oneMessage).triggers.inMemory.length = 1 := by decide +kernel
  have hcounted : ((patient.after oneMessage).triggers.inMemory.all fun t =>
      t.triggerCount.equal (.int 1)) = true := by decide +kernel
  obtain ⟨ts, log, hts, hlog, hagree, _⟩ := statistics_agree h hops
  refine ⟨h, hops, ?_⟩
  -- The state reached is named, so that no step of the run is taken again.
  generalize patient.after oneMessage = s at hstored hcounted hts hlog hagree ⊢
  rw [hts] at hstored hcounted
  obtain ⟨e, rfl⟩ : ∃ e, ts = [e] :=
    List.length_eq_one_iff.mp ((List.length_map _).symm.trans hstored)
  obtain ⟨_, hsuccesses, _, hrecalls⟩ := hagree e (List.mem_singleton_self e)
  have hone : e.2.triggerCount.equal (.int 1) = true :=
    List.all_eq_true.mp hcounted e.2 (List.mem_singleton_self e.2)
  rw [hsuccesses] at hone
  have hint : (Execution.successes log e.2.id : Int) = 1 := by
    simpa [Value.equal, Value.sameNumber?, Value.integer?] using hone
  have hcount : Execution.successes log e.2.id = 1 := Int.ofNat.inj hint
  refine ⟨e, log, hts, hlog, ?_, hcount, hrecalls⟩
  rw [hsuccesses, hcount]
  rfl

end Automation
end ProcessTriggers
