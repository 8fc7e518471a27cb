import ProcessTriggers.Proofs.Origins
import ProcessTriggers.Proofs.StoredExecutions
import ProcessTriggers.Proofs.Tally

/-!
The catalogue of the stored records. Whatever is done, the triggers are kept under identifiers of
their own, and the executions in the log, like those of the attempts in hand, have identifiers that
were drawn. So the next execution is new in the log, of whichever kind that is.
-/

namespace ProcessTriggers

open Action Automation

namespace Execution

theorem toRow_id {e : Execution} {es : Entries} (h : e.toRow = .ok es) :
    Value.entry es "id" = e.id := by
  obtain ⟨fields, hfields, h⟩ := exists_of_bind_eq_ok h
  obtain ⟨executed, _, hfields⟩ := exists_of_bind_eq_ok hfields
  cases hfields
  obtain ⟨context, _, h⟩ := exists_of_bind_eq_ok h
  cases h
  rfl

end Execution

namespace ExecutionStore

/-- The identifiers of the executions in a log. -/
def ids : ExecutionStore → List Value
  | .memory log => log.map (·.id)
  | .relation rows => rows.map fun row => Value.entry row "id"

/-- What a log is extended with has the identifiers of the added executions, if these are texts. -/
theorem Extends.mem_ids {row : Execution → Prop} {store store' : ExecutionStore}
    (h : store.Extends row store') (htexts : ∀ e, row e → ∃ s, e.id = .text s) {id : Value}
    (hid : id ∈ store'.ids) : id ∈ store.ids ∨ ∃ e, row e ∧ e.id = id := by
  match store, store', h with
  | .memory log, .memory _, ⟨added, rfl, hadded⟩ =>
    obtain ⟨e, he, rfl⟩ := List.mem_map.mp hid
    rcases List.mem_append.mp he with he | he
    · exact .inl (List.mem_map_of_mem he)
    · exact .inr ⟨e, hadded e he, rfl⟩
  | .relation rows, .relation _, ⟨added, rfl, hadded⟩ =>
    obtain ⟨r, hr, rfl⟩ := List.mem_map.mp hid
    rcases List.mem_append.mp hr with hr | hr
    · exact .inl (List.mem_map_of_mem hr)
    · obtain ⟨e, es, he, hes, hrow⟩ := hadded r hr
      obtain ⟨s, hs⟩ := htexts e he
      obtain ⟨i, v, hbound, hentry⟩ := Relation.Schema.entry_row Execution.schema_names hrow
        (c := { name := "id", required := false }) (by simp [Execution.schema])
      rw [Execution.toRow_id hes, hs] at hbound
      refine .inr ⟨e, he, ?_⟩
      rw [hentry, Relation.bindAt_text hbound, hs]
      rfl

end ExecutionStore

namespace Automation

/-- The triggers are stored in order, and the identifiers of the executions were drawn, of those in
the log and of those in hand. At least `n` identifiers were drawn at all. -/
structure Catalogued (n : Nat) (s : Automation) : Prop where
  store : s.triggers.Orderly s.supply
  log : ∀ id ∈ s.executions.ids, Supply.Gave s.supply.drawn id
  due : ∀ d ∈ s.scheduler.due, ∀ a, d.stage.attempt? = some a →
    Supply.Gave s.supply.drawn a.execution.id
  drawn : n ≤ s.supply.drawn

namespace Catalogued

variable {m n : Nat} {s s' : Automation}

theorem mono (h : Catalogued n s) (hle : m ≤ n) : Catalogued m s :=
  { h with drawn := Nat.le_trans hle h.drawn }

/-- The state itself tells how many identifiers were drawn. -/
theorem present (h : Catalogued n s) : Catalogued s.supply.drawn s :=
  { h with drawn := Nat.le_refl _ }

theorem ofFired {run : StartedRun → Prop} (h : Catalogued n s)
    (hfired : Fired (fun e => Supply.Gave n e.id) run s s') : Catalogued n s' where
  store := (h.store.ofRules hfired.rules).mono hfired.supply
  log id hid := by
    have htexts : ∀ e : Execution, Supply.Gave n e.id → ∃ s, e.id = .text s := fun e he => by
      obtain ⟨m, _, hm⟩ := he
      exact ⟨_, hm⟩
    rcases hfired.executions.mem_ids htexts hid with hid | ⟨e, he, rfl⟩
    · exact (h.log id hid).mono hfired.supply
    · exact he.mono (Nat.le_trans h.drawn hfired.supply)
  due := by
    rw [hfired.scheduler]
    exact fun d hd a ha => (h.due d hd a ha).mono hfired.supply
  drawn := Nat.le_trans h.drawn hfired.supply

theorem ofQuiet (hquiet : Quiet s s') (h : Catalogued n s) : Catalogued n s' := by
  have hfired : Fired (fun e => Supply.Gave n e.id) (fun _ => True) s s' := .ofQuiet hquiet
  exact h.ofFired hfired

/-- Other triggers may take the place of the stored ones, and identifiers be drawn for them. -/
theorem withStore (h : Catalogued n s) {supply : Supply} {store : TriggerStore}
    (hle : s.supply.drawn ≤ supply.drawn) (hstore : store.Orderly supply) :
    Catalogued n { s with supply, triggers := store } where
  store := hstore
  log id hid := (h.log id hid).mono hle
  due d hd a ha := (h.due d hd a ha).mono hle
  drawn := Nat.le_trans h.drawn hle

end Catalogued
end Automation

/-- The frame of what keeps the catalogue. -/
def catalogueFrame (n : Nat) : Frame := .ofInvariant (Catalogued n) Catalogued.ofQuiet

variable {n : Nat}

theorem catalogueFrame_timeless : (catalogueFrame n).Timeless where
  tasks s scheduler hdue h := by
    refine { h with due := fun d hd a ha => ?_ }
    rcases hdue d hd with hd | hnone
    · exact h.due d hd a ha
    · rw [hnone] at ha
      cases ha
  gauge s m h := { h with }
  clock s clock h := { h with }

theorem Action.keeps_catalogue_of_fired {α : Type} {run : StartedRun → Prop} {act : Action α}
    (h : Keeps (firedFrame (fun e => Supply.Gave n e.id) run) act) :
    Keeps (catalogueFrame n) act := fun s hs => hs.ofFired (h s)

namespace Engine

variable {a : Attempt}

theorem outcomeOf_id (a : Attempt) (outcome : Except Error StartedRun) :
    (outcomeOf a outcome).id = a.execution.id := by
  cases outcome <;> rfl

theorem conclude_catalogues (ha : Supply.Gave n a.execution.id)
    (outcome : Except Error StartedRun) : Keeps (catalogueFrame n) (conclude a outcome) := by
  have hrow : Supply.Gave n (outcomeOf a outcome).id := by rwa [outcomeOf_id]
  have hconclude : Keeps (firedFrame (fun e => Supply.Gave n e.id) fun _ => True)
      (conclude a outcome) := conclude_fires hrow
  exact keeps_catalogue_of_fired hconclude

theorem dispatch_catalogues (ha : Supply.Gave n a.execution.id) :
    Keeps (catalogueFrame n) (dispatch a) := by
  have hdispatch : Keeps (firedFrame (fun e => Supply.Gave n e.id) fun _ => True) (dispatch a) :=
    dispatch_fires (fun outcome => by rwa [outcomeOf_id]) fun _ _ _ => trivial
  exact keeps_catalogue_of_fired hdispatch

/-- An attempt that is carried through at once gets the next identifier. -/
theorem made_catalogues (t : Trigger) (context vars : Entries) (options : StartOptions) :
    Keeps (catalogueFrame n) (do dispatch (← newAttempt t context vars options)) := by
  intro s hs
  have hdrawn : Catalogued (s.supply.drawn + 1) { s with supply := ⟨s.supply.drawn + 1⟩ } :=
    { hs.withStore (Nat.le_succ _) (hs.store.mono (Nat.le_succ _)) with drawn := Nat.le_refl _ }
  rw [bind_ok (newAttempt_run _ _ _ _ s)]
  exact (dispatch_catalogues ⟨_, Nat.le_refl _, rfl⟩ _ hdrawn).mono (Nat.le_succ_of_le hs.drawn)

theorem fire_catalogues (t : Trigger) (context : Value) :
    Keeps (catalogueFrame n) (fire t context) :=
  fire_frame_of_made fun _ _ _ _ => made_catalogues _ _ _ _

theorem evaluate_catalogues (type : TriggerType) (context workspaceId : Value) :
    Keeps (catalogueFrame n) (evaluate type context workspaceId) := fun _ =>
  evaluate_frame fun _ _ _ _ => evaluateOne_frame fun _ => fire_catalogues _ _

theorem beginScheduled_catalogues (id expression : Value) :
    Keeps (catalogueFrame n) (beginScheduled id expression) := by
  have hbegin : Keeps (firedFrame (fun e => Supply.Gave n e.id) fun _ => True)
      (beginScheduled id expression) := beginScheduled_fires id expression
  exact keeps_catalogue_of_fired hbegin

/-- A scheduled attempt that was begun has an identifier that was drawn. -/
theorem gave_of_begun {s s' : Automation} {id expression : Value}
    (h : beginScheduled id expression s = (.ok (some a), s')) :
    Supply.Gave s'.supply.drawn a.execution.id :=
  ⟨_, Nat.le_refl _, (beginScheduled_begins h).2.2⟩

theorem fireScheduled_catalogues (id expression : Value) :
    Keeps (catalogueFrame n) (fireScheduled id expression) := by
  intro s hs
  have hbegun : Catalogued n (beginScheduled id expression s).2 :=
    beginScheduled_catalogues id expression s hs
  rw [fireScheduled, bind_run]
  cases hrun : beginScheduled id expression s with
  | mk r s₁ =>
    rw [hrun] at hbegun
    cases r with
    | error e => exact hbegun
    | ok begun =>
      cases begun with
      | none => exact hbegun
      | some a =>
        have hdispatch : Keeps (catalogueFrame s₁.supply.drawn) (do return some (← dispatch a)) :=
          keeps_bind (dispatch_catalogues (gave_of_begun hrun)) fun _ => keeps_pure _
        exact (hdispatch s₁ hbegun.present).mono hbegun.drawn

end Engine

theorem Webhook.handle_catalogues (id body signature plainSecret : Value) :
    Keeps (catalogueFrame n) (handle id body signature plainSecret) := by
  intro s hs
  obtain ⟨e, s₁, hrun, hquiet⟩ | ⟨a, s₁, _, hquiet, hrun⟩ :=
    handle_cases id body signature plainSecret s
  · rw [hrun]
    exact .ofQuiet hquiet hs
  · rw [hrun]
    exact Engine.evaluate_catalogues _ _ _ s₁ (.ofQuiet hquiet hs)

namespace Scheduler

theorem makeDue_catalogues (task : Nat) {stage : Stage}
    (hstage : ∀ a, stage.attempt? = some a → Supply.Gave n a.execution.id) :
    Keeps (catalogueFrame n) (makeDue task stage) := by
  refine keeps_modify fun s hs => { hs with due := fun d hd a ha => ?_ }
  rcases List.mem_append.mp hd with hd | hd
  · exact hs.due d hd a ha
  · rw [List.mem_singleton.mp hd] at ha
    exact (hstage a ha).mono hs.drawn

theorem concludeTick_catalogues (t : Timer) {a : Attempt} (ha : Supply.Gave n a.execution.id)
    (outcome : Except Error StartedRun) : Keeps (catalogueFrame n) (concludeTick t a outcome) :=
  concludeTick_timeless catalogueFrame_timeless t (Engine.conclude_catalogues ha outcome)

theorem wakeTimer_catalogues (t : Timer) : Keeps (catalogueFrame n) (wakeTimer t) := by
  intro s
  refine wakeTimer_frame (Engine.beginScheduled_catalogues _ _ s)
    (unregister_timeless catalogueFrame_timeless _)
    (advanceTimer_timeless catalogueFrame_timeless t) fun a s' hrun => ?_
  have ha : Supply.Gave s'.supply.drawn a.execution.id := Engine.gave_of_begun hrun
  -- From here on, the identifier of the attempt is one of those that were drawn.
  refine ⟨catalogueFrame s'.supply.drawn, fun s'' h hs' => (h hs'.present).mono hs'.drawn,
    makeDue_catalogues _ fun a' ha' => ?_, fun e => concludeTick_catalogues t ha _⟩
  exact Option.some.inj ha' ▸ ha

theorem timerStep_catalogues {stage : Stage}
    (hstage : ∀ a, stage.attempt? = some a → Supply.Gave n a.execution.id) (t : Timer) :
    Keeps (catalogueFrame n) (timerStep t stage) := by
  have hstart : ∀ a, Keeps (firedFrame (fun e => Supply.Gave n e.id) fun _ => True)
      (Engine.start a) := fun a => Engine.start_fires fun _ _ _ => trivial
  exact fun s => timerStep_frame catalogueFrame_timeless.waits (wakeTimer_catalogues t s)
    (fun a => keeps_catalogue_of_fired (hstart a))
    (fun _ hsame => makeDue_catalogues _ fun a ha => hstage a (hsame a ha))
    fun a outcome ha => concludeTick_catalogues t (hstage a ha) outcome s

/-- The identifiers of the attempts in hand were drawn when the steps are taken. -/
theorem catalogueFrame_turns : (catalogueFrame n).Turns := by
  intro s taken rest hdue hs
  have hrest : Catalogued s.supply.drawn { s with scheduler.due := rest } :=
    { hs.present with due := fun d hd => hs.due d (hdue d (List.mem_append_right taken hd)) }
  have htaken : Keeps (catalogueFrame s.supply.drawn) (each step taken) := keeps_each fun d hd =>
    step_timeless catalogueFrame_timeless fun t =>
      timerStep_catalogues (hs.due d (hdue d (List.mem_append_left rest hd))) t
  rw [takeSome, change, bind_ok (modify_run _ s)]
  exact (htaken _ hrest).mono hs.drawn

theorem notify_catalogues (t : Trigger) (deleted : Bool) :
    Keeps (catalogueFrame n) (Registry.notify t deleted) :=
  notify_keeps (unregister_timeless catalogueFrame_timeless _) fun _ _ _ =>
    register_timeless catalogueFrame_timeless t

end Scheduler

namespace Automation.Catalogued

variable {s s' : Automation}

theorem ofTold (h : Catalogued n s) {t : Trigger} {deleted : Bool}
    (htold : Registry.notify t deleted s = (.ok ⟨⟩, s')) : Catalogued n s' := by
  have hnotify := Scheduler.notify_catalogues (n := n) t deleted s h
  rwa [htold] at hnotify

/-- A call of the registry keeps the catalogue, however it ends. -/
theorem ofChanged (h : Catalogued n s) (hchanged : Registry.Changed s s') : Catalogued n s' := by
  cases hchanged with
  | nothing fired =>
    exact h.ofFired { fired with
      executions := fired.executions.mono fun _ => False.elim }
  | created id createdAt inserted stored told =>
    have hstore := h.store.insert id ⟨_, createdAt, rfl⟩ inserted
    exact (ofQuiet stored (h.withStore (Nat.le_succ _) hstore)).ofTold told
  | amended found amends saved stored told =>
    have hstore := h.store.save found amends saved
    exact (ofQuiet stored (h.withStore (Nat.le_refl _) hstore)).ofTold told
  | removed found quiet told deleted stored =>
    have htold := (ofQuiet quiet h).ofTold told
    exact ofQuiet stored (htold.withStore (Nat.le_refl _) (htold.store.delete deleted))
  | kept found quiet told stored => exact ofQuiet stored ((ofQuiet quiet h).ofTold told)

end Automation.Catalogued

namespace Operation

theorem mutation_catalogues (m : Registry.Mutation) :
    Keeps (catalogueFrame n) m.operation.perform := by
  intro s hs
  rw [m.operation_run]
  exact hs.ofChanged (Registry.perform_changed m s)

/-- Every operation keeps the catalogue. -/
theorem perform_catalogues (op : Operation) : Keeps (catalogueFrame n) op.perform := by
  have horchestrator : ∀ s : Automation, ∀ o : Orchestrator,
      (catalogueFrame n).holds s { s with orchestrator := o } := fun s o hs => { hs with }
  cases op with
  | create data userId => exact mutation_catalogues (.create data userId)
  | update id changes => exact mutation_catalogues (.update id changes)
  | toggle id => exact mutation_catalogues (.toggle id)
  | delete id => exact mutation_catalogues (.delete id)
  | recordFire id firedAt =>
    have hrecord : Keeps (firedFrame (fun e => Supply.Gave n e.id) fun _ => True)
        (Registry.recordFire id firedAt) :=
      keeps_bind now_keeps fun _ => Automation.recordFire_fires _ _
    exact keeps_catalogue_of_fired hrecord
  | listen listener => exact keeps_modify fun s hs => { hs with }
  | deploy d =>
    refine keeps_getBind fun s => ?_
    cases s.orchestrator.deploy d with
    | error e => exact Frame.refl _ s
    | ok o => exact horchestrator s o
  | failNextStart e => exact keeps_modify fun s => horchestrator s _
  | startProcess definitionId vars options =>
    have hstart : Keeps (firedFrame (fun e => Supply.Gave n e.id) fun _ => True)
        (Automation.startProcess definitionId vars options) :=
      startProcess_fires fun _ _ _ => trivial
    exact keeps_bind (keeps_catalogue_of_fired hstart) fun _ => keeps_pure _
  | cancelRun id =>
    refine keeps_getBind fun s => ?_
    cases s.orchestrator.cancel id with
    | error e => exact Frame.refl _ s
    | ok o => exact horchestrator s o
  | evaluate type context workspaceId =>
    exact keeps_bind (Engine.evaluate_catalogues _ _ _) fun _ => keeps_pure _
  | fire t context => exact keeps_bind (Engine.fire_catalogues _ _) fun _ => keeps_pure _
  | fireScheduled id expression =>
    exact keeps_bind (Engine.fireScheduled_catalogues _ _) fun _ => keeps_pure _
  | handleWebhook id body signature plainSecret =>
    exact keeps_bind (Webhook.handle_catalogues _ _ _ _) fun _ => keeps_pure _
  | tick id expression =>
    have htick : Keeps (catalogueFrame n) (Scheduler.tick id expression) :=
      Scheduler.tick_keeps (Scheduler.unregister_timeless catalogueFrame_timeless id)
        (Engine.fireScheduled_catalogues id expression)
    exact keeps_bind htick fun _ => keeps_pure _
  | startScheduler | stopScheduler | reconcile | unregister | wake | takeTurn | runUntilIdle
  | release | advance | setClock =>
    exact perform_schedules catalogueFrame_timeless Scheduler.catalogueFrame_turns trivial
  | drawId =>
    have hdraw : Keeps (firedFrame (fun e => Supply.Gave n e.id) fun _ => True)
        Automation.drawId := drawId_fires
    exact keeps_bind (keeps_catalogue_of_fired hdraw) fun _ => keeps_pure _
  | elsewhere f quiet => exact keeps_modify fun s => Catalogued.ofQuiet (quiet s)

end Operation

namespace Automation

/-- A program that has stored nothing yet, wherever it keeps its records, and whose tasks have
nothing in hand. -/
structure Unused (s : Automation) : Prop where
  unbroken : s.broken = []
  triggers : s.triggers = .memory [] ∨ s.triggers = .relation []
  executions : s.executions = .memory [] ∨ s.executions = .relation []
  idle : s.scheduler.due = []

theorem Unused.catalogued {s : Automation} (h : Unused s) : Catalogued 0 s where
  store := by
    obtain hstore | hstore := h.triggers
    · rw [hstore]
      exact .nil _
    · rw [hstore]
      exact ⟨fun _ hrow => absurd hrow List.not_mem_nil, List.nodup_nil⟩
  log id hid := by
    obtain hlog | hlog := h.executions
    all_goals
      rw [hlog] at hid
      exact absurd hid List.not_mem_nil
  due d hd := by
    rw [h.idle] at hd
    exact absurd hd List.not_mem_nil
  drawn := Nat.zero_le _

theorem after_catalogued {s : Automation} (h : Unused s) (ops : List Operation) :
    Catalogued 0 (s.after ops) :=
  after_induction h.catalogued fun op _ s hs => op.perform_catalogues s hs

/-- The states that a program reaches that began without records, wherever it keeps them. -/
def Ongoing (s : Automation) : Prop := ∃ s₀ ops, Unused s₀ ∧ s = s₀.after ops

theorem Ongoing.catalogued {s : Automation} (h : Ongoing s) : Catalogued 0 s := by
  obtain ⟨s₀, ops, hunused, rfl⟩ := h
  exact after_catalogued hunused ops

/-- The next execution is new in the log. -/
theorem Catalogued.next_not_mem {s : Automation} (h : Catalogued n s) :
    .text (Supply.idText (s.supply.drawn + 1)) ∉ s.executions.ids := fun hmem =>
  (h.log _ hmem).ne_next rfl

end Automation
end ProcessTriggers
