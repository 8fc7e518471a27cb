import ProcessTriggers.Proofs.Atomicity
import ProcessTriggers.Proofs.Settled

/-!
Two changes of one trigger at the same time. An update and a switch read a whole record, change
their copy and write it back. If one reads only after the other has written, both changes are kept;
if both read before either writes, the one that writes last undoes the change of the other.
-/

namespace ProcessTriggers

open Action Automation

/-! What is given back as it was written. -/

namespace Trigger

/-- A trigger as it is written at a time. -/
def touchedAt (t : Trigger) (now : Value) : Trigger := { t with updatedAt := now }

/-- A trigger that is read back from its own row. -/
structure ReadsBack (t : Trigger) : Prop where
  id : t.id.IsText
  row : ∀ es, t.toRow = .ok es → ∀ row, schema.changedRow es = .ok row →
    Value.entry row "id" = t.id ∧ ofRow row = .ok t

theorem Storable.readsBack {t : Trigger} (h : t.Storable) : t.ReadsBack := by
  obtain ⟨row, hrow, hheld⟩ := h.toRow
  refine ⟨h.id.1, fun es hes row' hrow' => ?_⟩
  obtain rfl := Except.ok.inj (hrow.symm.trans hes)
  obtain rfl := Except.ok.inj ((hheld.row_eq_self h).2.1.symm.trans hrow')
  exact ⟨hheld.id, hheld.ofRow h⟩

theorem getD_of_forall {P : Value → Prop} {given : Option Value} {v : Value} (hv : P v)
    (hgiven : ∀ w ∈ given, P w) : P (given.getD v) := by
  cases given with
  | none => exact hv
  | some w => exact hgiven w rfl

/-- Where fields are replaced by suitable values, what could be stored still can. -/
theorem Storable.replaced {t : Trigger} {changes : Entries} (h : t.Storable)
    (hchanges : ∀ e ∈ changes, e.2.Suits e.1) (hswitch : changes.get? "is_active" = none) :
    (t.replaced changes).Storable := by
  have hobject : ∀ name v, (∀ w : Value, w.Suits name → w = .null ∨ w.IsJsonObject) →
      v.IsJsonObject → (((changes.get? name).map nullToEmpty).getD v).IsJsonObject := by
    intro name v hsuits hv
    refine getD_of_forall hv fun w hw => ?_
    obtain ⟨w', hw', rfl⟩ := Option.mem_map.mp hw
    exact isJsonObject_nullToEmpty (hsuits w' (suits_of_get? hchanges hw'))
  exact { h with
    definitionId := getD_of_forall h.definitionId fun _ hw => suits_of_get? hchanges hw
    conditions := hobject "conditions" _ (fun _ hw => hw) h.conditions
    variableMappings := hobject "variable_mappings" _ (fun _ hw => hw) h.variableMappings
    isActive := by
      rw [Trigger.replaced, hswitch]
      exact h.isActive
    name := getD_of_forall (P := fun v => v = .null ∨ v.IsText) h.name fun _ hw =>
      suits_of_get? hchanges hw
    description := getD_of_forall (P := fun v => v = .null ∨ v.IsText) h.description fun _ hw =>
      suits_of_get? hchanges hw }

end Trigger

namespace TriggerStore

/-- What a store gives back as it was written: in memory every trigger. -/
def GivesBack : TriggerStore → Trigger → Prop
  | memory _, _ => True
  | relation _, t => t.ReadsBack

/-- A trigger that was saved is there, and what the store gives back has not changed. -/
theorem get_of_save {store store' : TriggerStore} {t : Trigger} (h : store.save t = .ok store')
    (hback : store.GivesBack t) :
    store'.get t.id = .ok (some t) ∧ ∀ u, store'.GivesBack u = store.GivesBack u := by
  cases store with
  | memory ts =>
    obtain ⟨key, hkey, h⟩ := exists_of_bind_eq_ok h
    split at h
    · next hhas =>
      cases h
      refine ⟨?_, fun _ => rfl⟩
      simp only [get, hkey, bind, Except.bind, pure, Except.pure, Keyed.get?_put_of_has hhas]
    · cases h
  | relation rows =>
    obtain ⟨es, hes, h⟩ := exists_of_bind_eq_ok h
    obtain ⟨rows', hupdate, h⟩ := exists_of_bind_eq_ok h
    cases rows' with
    | none => cases h
    | some rows' =>
      cases h
      refine ⟨?_, fun _ => rfl⟩
      obtain ⟨row, hrow, hany, rfl⟩ := Relation.rows_of_update hupdate
      obtain ⟨⟨name, hname, hhalf⟩, hread⟩ := hback
      obtain ⟨hid, hofRow⟩ := hread es hes row hrow
      have hkey : Trigger.schema.key = "id" := rfl
      rw [hname] at hid
      rw [hkey, hid] at hany
      have hown : Relation.isAt "id" (.text name) row = true := Relation.isAt_text.mpr hid
      have hsame : ∀ r, Relation.isAt "id" (.text name) r = true →
          row.put "id" (Value.entry r "id") = row := by
        intro r hr
        rw [Relation.isAt_text.mp hr, ← hid]
        refine Entries.put_entry_self (Decidable.byContradiction fun hnot => ?_)
        rw [Value.entry, Entries.get?_eq_none_of_not_mem hnot] at hid
        cases hid
      have hbound : Relation.bind (.text name) = .ok (.text name) :=
        Relation.bindAt_isText ⟨name, rfl, hhalf⟩ 1
      rw [get, hkey, hid, hname, hbound]
      simp only [bind, Except.bind, Relation.find?_replaced hany hown hsame]
      exact congrArg (Except.map some) hofRow

end TriggerStore

namespace Registry

/-- The time at which triggers are written. -/
def timeOf (s : Automation) : Value := .stamp (Stamp.ofInstant s.clock.instant)

/-! One change in stages. -/

/-- A change of a stored trigger, by what it makes of the copy that was read, what it asks about the
copy before it is written, and what it reports of what was written. -/
structure Edit where
  change : Trigger → Except Error Trigger
  check : Trigger → Action Unit
  report : Trigger → Action Unit

/-- How far a change has come. While it waits for a store or for an orchestrator, nothing else is
known of the trigger than the copy. -/
inductive Stage
  | waiting
  | copied (t : Trigger)
  | checked (t : Trigger)
  | written (saved : Trigger)
  | ended (saved : Trigger)
  | failed (e : Error)

/-- The stage after a part of a change. -/
def Stage.after {α : Type} (next : α → Stage) : Except Error α × Automation → Stage × Automation
  | (.ok x, s) => (next x, s)
  | (.error e, s) => (.failed e, s)

namespace Edit

def update (changes : Entries) : Edit where
  change t := t.applyChanges changes
  check t := do
    if changes.has "process_definition_id" then requireDefinition t.definitionId
  report _ := return

def toggle (id : Value) : Edit where
  change t := .ok t.toggled
  check _ := return
  report saved :=
    let state := if saved.isActive.truthy then "active" else "inactive"
    log .registry Log.info ("Trigger " ++ id.shown ++ " is now " ++ state)

/-- Reads the record and changes the copy. -/
def read (e : Edit) (id : Value) : Action Trigger := do
  Action.ofExcept (e.change (← findOne id))

/-- Writes the whole copy. -/
def write (t : Trigger) : Action Trigger := do
  Automation.saveTrigger (t.touchedAt (.stamp (← Automation.now)))

def conclude (e : Edit) (saved : Trigger) : Action Unit := do
  e.report saved
  notify saved false

def perform (e : Edit) (id : Value) : Action Trigger := do
  let t ← e.read id
  e.check t
  let saved ← write t
  e.conclude saved
  return saved

/-- Carries a change on from one time that it is waited for to the next. -/
def advance (e : Edit) (id : Value) : Stage → Automation → Stage × Automation
  | .waiting, s => Stage.after .copied (e.read id s)
  | .copied t, s => Stage.after (fun _ => .checked t) (e.check t s)
  | .checked t, s => Stage.after .written (write t s)
  | .written saved, s => Stage.after (fun _ => .ended saved) (e.conclude saved s)
  | stage, s => (stage, s)

theorem update_eq (id : Value) (changes : Entries) :
    Registry.update id changes = (update changes).perform id := by
  simp only [Registry.update, perform, read, update, write, conclude, Trigger.touchedAt, bind_assoc,
    pure_bind]
  refine bind_congr fun t => bind_congr fun t' => ?_
  split <;> simp only [pure_bind]

theorem toggle_eq (id : Value) : Registry.toggle id = (toggle id).perform id := by
  have hcopy : ∀ t : Trigger, Action.ofExcept (.ok t) = pure t := fun _ => rfl
  simp only [Registry.toggle, perform, read, toggle, write, conclude, Trigger.touchedAt, bind_assoc,
    pure_bind, hcopy]

/-- The stages of a change one after another are the whole call. -/
theorem advance_through (e : Edit) (id : Value) (s : Automation) :
    (fun p => e.advance id p.1 p.2)^[4] (.waiting, s) = Stage.after .ended (e.perform id s) := by
  simp only [Function.iterate_succ_apply, Function.iterate_zero_apply, advance]
  rw [perform, bind_run]
  rcases e.read id s with ⟨_ | t, s₁⟩
  · rfl
  dsimp only [Stage.after]
  rw [bind_run]
  rcases e.check t s₁ with ⟨_ | _, s₂⟩
  · rfl
  dsimp only [Stage.after]
  rw [bind_run]
  rcases write t s₂ with ⟨_ | saved, s₃⟩
  · rfl
  dsimp only [Stage.after]
  rw [bind_run]
  rcases e.conclude saved s₃ with ⟨_ | _, s₄⟩ <;> rfl

/-- What an edit makes of a trigger, where it says nothing else to the store of triggers. -/
structure Makes (e : Edit) (f : Trigger → Trigger) : Prop where
  change : ∀ {t t' : Trigger}, e.change t = .ok t' → t' = f t
  check : ∀ t s, Quiet s (e.check t s).2
  report : ∀ t s, Quiet s (e.report t s).2

theorem update_makes {changes : Entries} (hnodup : changes.keys.Nodup) :
    (update changes).Makes (·.replaced changes) where
  change h := (Trigger.applyChanges_replaces hnodup h).1
  check t s := by
    simp only [update]
    split
    · obtain ⟨d, -, hrun⟩ | ⟨e, hrun⟩ := requireDefinition_cases t.definitionId s
      · rw [hrun]
        exact .refl s
      · rw [hrun]
        exact .refl s
    · exact .refl s
  report _ s := .refl s

theorem toggle_makes (id : Value) : (toggle id).Makes Trigger.toggled where
  change h := (Except.ok.inj h).symm
  check _ s := .refl s
  report _ s := by constructor <;> rfl

variable {e : Edit} {f : Trigger → Trigger} {id : Value} {x : Trigger} {s : Automation}

theorem Makes.read_cases (h : e.Makes f) (id : Value) (s : Automation) :
    (∃ err s', e.read id s = (.error err, s') ∧ Quiet s s') ∨
      ∃ t s', e.read id s = (.ok (f t), s') ∧ s.triggers.get id = .ok (some t) ∧ Quiet s s' := by
  rw [read]
  obtain ⟨err, s₁, hfind, hquiet⟩ | ⟨t, s₁, hfind, hfound, hquiet⟩ := findOne_cases id s
  · exact .inl ⟨err, s₁, bind_error hfind, hquiet⟩
  · rw [bind_ok hfind]
    cases hchange : e.change t with
    | error err => exact .inl ⟨err, s₁, rfl, hquiet⟩
    | ok t' =>
      refine .inr ⟨t, s₁, ?_, hfound, hquiet⟩
      rw [← h.change hchange]
      rfl

theorem write_cases (x : Trigger) (s : Automation) :
    (∃ err s', write x s = (.error err, s') ∧ Quiet s s') ∨
      ∃ store s', write x s = (.ok (x.touchedAt (timeOf s)), s') ∧
        s.triggers.save (x.touchedAt (timeOf s)) = .ok store ∧
        Quiet { s with triggers := store } s' := by
  rw [write, bind_ok (now_run s)]
  exact saveTrigger_cases _ s

theorem Makes.conclude_retimed (h : e.Makes f) (saved : Trigger) (s : Automation) :
    Retimed s (e.conclude saved s).2 := by
  have hreport := h.report saved s
  rw [conclude, bind_run]
  revert hreport
  rcases e.report saved s with ⟨_ | _, s₁⟩
  · exact .ofQuiet
  · intro hreport
    obtain ⟨s₂, hrun, hretimed, -⟩ := notify_run saved false s₁
    dsimp only
    rw [hrun]
    exact (Retimed.ofQuiet hreport).trans hretimed

end Edit

/-! Two changes at the same time. -/

/-- The two that change a trigger at the same time: one replaces fields, the other switches it. -/
inductive Caller
  | updater
  | toggler
  deriving DecidableEq

inductive Access
  | read
  | write
  deriving DecidableEq

/-- The call of the store by which a stage was reached. -/
def Stage.access? : Stage → Option Access
  | .copied _ => some .read
  | .written _ => some .write
  | _ => none

/-- Where two changes of one trigger stand, with the calls of the store that were answered. -/
structure Overlap where
  state : Automation
  stage : Caller → Stage := fun _ => .waiting
  history : List (Caller × Access) := []

def edits (id : Value) (changes : Entries) : Caller → Edit
  | .updater => .update changes
  | .toggler => .toggle id

/-- The whole calls. -/
def call (id : Value) (changes : Entries) : Caller → Action Trigger
  | .updater => Registry.update id changes
  | .toggler => Registry.toggle id

theorem edits_perform (id : Value) (changes : Entries) (c : Caller) :
    (edits id changes c).perform id = call id changes c := by
  cases c with
  | updater => exact (Edit.update_eq id changes).symm
  | toggler => exact (Edit.toggle_eq id).symm

/-! Whose changes a record holds. -/

/-- Whose changes the stored record holds, and whose each caller has read, in the order of
writing. -/
structure Lineage where
  stored : List Caller := []
  copy : Caller → List Caller := fun _ => []

def Lineage.next (l : Lineage) : Caller × Access → Lineage
  | (c, .read) => { l with copy := Function.update l.copy c l.stored }
  | (c, .write) => { l with stored := l.copy c ++ [c] }

def lineage (history : List (Caller × Access)) : Lineage := history.foldl Lineage.next {}

/-- The calls of one caller. -/
def accesses (c : Caller) (history : List (Caller × Access)) : List Access :=
  (history.filter (·.1 = c)).map (·.2)

/-- Changes are read only of callers that have written, and each was written once. -/
structure Lineage.Traced (l : Lineage) (history : List (Caller × Access)) : Prop where
  nodup : l.stored.Nodup
  copyNodup : ∀ c, (l.copy c).Nodup
  wrote : ∀ a ∈ l.stored, (a, Access.write) ∈ history
  copyWrote : ∀ c, ∀ a ∈ l.copy c, (a, Access.write) ∈ history

variable {c c' : Caller} {a : Access} {l : Lineage} {history : List (Caller × Access)}

theorem lineage_append (history : List (Caller × Access)) (e : Caller × Access) :
    lineage (history ++ [e]) = (lineage history).next e := by
  rw [lineage, List.foldl_append]
  rfl

theorem Lineage.copy_read : (l.next (c, .read)).copy c = l.stored := Function.update_self ..

theorem Lineage.copy_read_of_ne (h : c' ≠ c) : (l.next (c, .read)).copy c' = l.copy c' :=
  Function.update_of_ne h _ _

theorem Lineage.copy_write : (l.next (c, .write)).copy = l.copy := rfl

theorem accesses_append_self : accesses c (history ++ [(c, a)]) = accesses c history ++ [a] := by
  simp [accesses]

theorem accesses_append_of_ne (h : c ≠ c') :
    accesses c (history ++ [(c', a)]) = accesses c history := by
  simp [accesses, h.symm]

theorem mem_accesses (h : (c, a) ∈ history) : a ∈ accesses c history :=
  List.mem_map.mpr ⟨(c, a), List.mem_filter.mpr ⟨h, by simp⟩, rfl⟩

theorem not_wrote (h : accesses c history = [.read]) : (c, Access.write) ∉ history := by
  intro hmem
  have hwrote := mem_accesses hmem
  rw [h] at hwrote
  cases List.mem_singleton.mp hwrote

namespace Lineage.Traced

theorem empty : Traced {} [] :=
  ⟨.nil, fun _ => .nil, List.forall_mem_nil _, fun _ => List.forall_mem_nil _⟩

theorem read (h : l.Traced history) (c : Caller) :
    (l.next (c, .read)).Traced (history ++ [(c, .read)]) where
  nodup := h.nodup
  copyNodup c' := by
    by_cases hc : c' = c
    · subst hc
      rw [copy_read]
      exact h.nodup
    · rw [copy_read_of_ne hc]
      exact h.copyNodup c'
  wrote a ha := List.mem_append_left _ (h.wrote a ha)
  copyWrote c' a ha := by
    by_cases hc : c' = c
    · subst hc
      rw [copy_read] at ha
      exact List.mem_append_left _ (h.wrote a ha)
    · rw [copy_read_of_ne hc] at ha
      exact List.mem_append_left _ (h.copyWrote c' a ha)

/-- A caller that writes for the first time was not read from before. -/
theorem nodup_write (h : l.Traced history) (hnew : (c, Access.write) ∉ history) :
    (l.copy c ++ [c]).Nodup :=
  List.nodup_append'.mpr ⟨h.copyNodup c, List.nodup_singleton c,
    List.disjoint_singleton.mpr fun hmem => hnew (h.copyWrote c c hmem)⟩

theorem write (h : l.Traced history) (hnew : (c, Access.write) ∉ history) :
    (l.next (c, .write)).Traced (history ++ [(c, .write)]) where
  nodup := h.nodup_write hnew
  copyNodup := h.copyNodup
  wrote a ha := by
    rcases List.mem_append.mp ha with ha | ha
    · exact List.mem_append_left _ (h.copyWrote c a ha)
    · rw [List.mem_singleton.mp ha]
      exact List.mem_append_right _ (List.mem_singleton_self _)
  copyWrote c' a ha := List.mem_append_left _ (h.copyWrote c' a ha)

end Lineage.Traced

/-- What a caller makes of a trigger. -/
def effect (changes : Entries) : Caller → Trigger → Trigger
  | .updater, t => t.replaced changes
  | .toggler, t => t.toggled

/-- A trigger after callers have changed it one after another. -/
def changedBy (changes : Entries) (now : Value) (t : Trigger) (order : List Caller) : Trigger :=
  order.foldl (fun t c => (effect changes c t).touchedAt now) t

theorem edits_makes {changes : Entries} (hnodup : changes.keys.Nodup) (id : Value) (c : Caller) :
    (edits id changes c).Makes (effect changes c) := by
  cases c with
  | updater => exact Edit.update_makes hnodup
  | toggler => exact Edit.toggle_makes id

theorem changedBy_append {changes : Entries} {now : Value} {t : Trigger} (order : List Caller) :
    changedBy changes now t (order ++ [c]) =
      (effect changes c (changedBy changes now t order)).touchedAt now := by
  rw [changedBy, List.foldl_append]
  rfl

theorem id_changedBy {changes : Entries} {now : Value} {t : Trigger} (order : List Caller) :
    (changedBy changes now t order).id = t.id := by
  induction order using List.reverseRecOn with
  | nil => rfl
  | append_singleton order c ih =>
    rw [changedBy_append, ← ih]
    cases c <;> rfl

/-- What callers make of a trigger that can be stored can be stored. -/
theorem storable_changedBy {changes : Entries} {now : Value} {t : Trigger} (h : t.Storable)
    (hchanges : ∀ e ∈ changes, e.2.Suits e.1) (hswitch : changes.get? "is_active" = none)
    (hnow : now.IsUtc) (order : List Caller) : (changedBy changes now t order).Storable := by
  induction order using List.reverseRecOn with
  | nil => exact h
  | append_singleton order c ih =>
    rw [changedBy_append]
    have heffect : (effect changes c (changedBy changes now t order)).Storable := by
      cases c with
      | updater => exact ih.replaced hchanges hswitch
      | toggler => exact { ih with isActive := ⟨_, rfl⟩ }
    exact { heffect with updatedAt := hnow }

/-- Where all values are of the types that are meant for the fields, either store gives back
whatever the callers write. -/
theorem givesBack_changedBy (store : TriggerStore) {changes : Entries} {now : Value} {t : Trigger}
    (h : t.Storable) (hchanges : ∀ e ∈ changes, e.2.Suits e.1)
    (hswitch : "is_active" ∉ changes.keys) (hnow : now.IsUtc) (order : List Caller) :
    store.GivesBack (changedBy changes now t order) := by
  cases store with
  | memory _ => trivial
  | relation _ => exact (storable_changedBy h hchanges
      (Entries.get?_eq_none_of_not_mem hswitch) hnow order).readsBack

namespace Overlap

variable {s s' : Automation} {t x : Trigger} {changes : Entries} {o : Overlap} {stage : Stage}

/-- One of the callers has got to a stage. -/
def moved (o : Overlap) (c : Caller) (stage : Stage) (s : Automation) : Overlap where
  state := s
  stage := Function.update o.stage c stage
  history := o.history ++ (stage.access?.map (c, ·)).toList

/-- One of the callers goes on. -/
def step (id : Value) (changes : Entries) (o : Overlap) (c : Caller) : Overlap :=
  let (stage, s) := (edits id changes c).advance id (o.stage c) o.state
  o.moved c stage s

/-- The callers go on in the order of a schedule. -/
def run (id : Value) (changes : Entries) (o : Overlap) (schedule : List Caller) : Overlap :=
  schedule.foldl (step id changes) o

theorem stage_moved : (o.moved c stage s).stage c = stage := Function.update_self ..

theorem stage_moved_of_ne (h : c' ≠ c) : (o.moved c stage s).stage c' = o.stage c' :=
  Function.update_of_ne h _ _

/-- A caller that goes on alone goes through its stages, and the other one stays where it is. -/
theorem run_replicate (id : Value) (changes : Entries) (c : Caller) (n : Nat) (o : Overlap) :
    (o.run id changes (List.replicate n c)).stage = Function.update o.stage c
        ((fun p => (edits id changes c).advance id p.1 p.2)^[n] (o.stage c, o.state)).1 ∧
      (o.run id changes (List.replicate n c)).state =
        ((fun p => (edits id changes c).advance id p.1 p.2)^[n] (o.stage c, o.state)).2 := by
  induction n generalizing o with
  | zero => exact ⟨(Function.update_eq_self c o.stage).symm, rfl⟩
  | succ n ih =>
    obtain ⟨hstage, hstate⟩ := ih (o.step id changes c)
    rw [List.replicate_succ, Function.iterate_succ_apply]
    have hfirst : ((o.step id changes c).stage c, (o.step id changes c).state) =
        (edits id changes c).advance id (o.stage c) o.state := by
      rw [step, stage_moved]
      rfl
    rw [hfirst] at hstage hstate
    refine ⟨hstage.trans ?_, hstate⟩
    have hmoved : (o.step id changes c).stage = Function.update o.stage c
        ((edits id changes c).advance id (o.stage c) o.state).1 := rfl
    rw [hmoved, Function.update_idem]

/-- Callers that go on one after the other make their whole calls. -/
theorem run_in_turn (id : Value) (changes : Entries) (s : Automation) {a b : Caller}
    (h : b ≠ a) :
    (Overlap.run id changes { state := s } (List.replicate 4 a ++ List.replicate 4 b)).state =
      (call id changes b (call id changes a s).2).2 := by
  have hafter : ∀ r : Except Error Trigger × Automation, (Stage.after .ended r).2 = r.2 := by
    rintro ⟨_ | _, _⟩ <;> rfl
  have hrun : Overlap.run id changes { state := s } (List.replicate 4 a ++ List.replicate 4 b) =
      (Overlap.run id changes { state := s } (List.replicate 4 a)).run id changes
        (List.replicate 4 b) := List.foldl_append
  obtain ⟨hstage, hstate⟩ := run_replicate id changes a 4 { state := s }
  rw [hrun, (run_replicate id changes b 4 _).2, hstage, hstate, Function.update_of_ne h,
    Edit.advance_through, Edit.advance_through, hafter, hafter, edits_perform, edits_perform]

theorem step_eq {id : Value}
    (h : (edits id changes c).advance id (o.stage c) o.state = (stage, s')) :
    o.step id changes c = o.moved c stage s' := by
  rw [step, h]

/-- A stage of a caller, with what it makes of the record that it has read and with its calls. -/
inductive Fits (make : Trigger → Trigger) (base : Trigger) : Stage → List Access → Prop
  | waiting : Fits make base .waiting []
  | copied : Fits make base (.copied (make base)) [.read]
  | checked : Fits make base (.checked (make base)) [.read]
  | written (saved : Trigger) : Fits make base (.written saved) [.read, .write]
  | ended (saved : Trigger) : Fits make base (.ended saved) [.read, .write]
  | failed (e : Error) (made : List Access) : Fits make base (.failed e) made

/-- Records and copies are what the history says. -/
structure Follows (s : Automation) (t : Trigger) (changes : Entries) (o : Overlap) : Prop where
  clock : o.state.clock = s.clock
  back : ∀ u, o.state.triggers.GivesBack u = s.triggers.GivesBack u
  stored : o.state.triggers.get t.id =
    .ok (some (changedBy changes (timeOf s) t (lineage o.history).stored))
  traced : (lineage o.history).Traced o.history
  fits : ∀ c, Fits (effect changes c)
    (changedBy changes (timeOf s) t ((lineage o.history).copy c)) (o.stage c)
    (accesses c o.history)

namespace Follows

theorem start (hstored : s.triggers.get t.id = .ok (some t)) :
    Follows s t changes { state := s } where
  clock := rfl
  back _ := rfl
  stored := hstored
  traced := .empty
  fits _ := .waiting

/-- A stage that is reached without the store. -/
theorem still (h : Follows s t changes o) (htriggers : s'.triggers = o.state.triggers)
    (hclock : s'.clock = o.state.clock) (hnone : stage.access? = none)
    (hfits : Fits (effect changes c)
      (changedBy changes (timeOf s) t ((lineage o.history).copy c)) stage
      (accesses c o.history)) : Follows s t changes (o.moved c stage s') := by
  have hhistory : (o.moved c stage s').history = o.history := by
    rw [moved, hnone]
    exact List.append_nil _
  refine ⟨hclock.trans h.clock, fun u => ?_, ?_, ?_, fun c' => ?_⟩
  · rw [← h.back u, ← htriggers]
    rfl
  · rw [hhistory, ← h.stored, ← htriggers]
    rfl
  · rw [hhistory]
    exact h.traced
  · rw [hhistory]
    by_cases hc : c' = c
    · subst hc
      rw [stage_moved]
      exact hfits
    · rw [stage_moved_of_ne hc]
      exact h.fits c'

/-- A record is read. -/
theorem read (h : Follows s t changes o) (htriggers : s'.triggers = o.state.triggers)
    (hclock : s'.clock = o.state.clock) (hnew : accesses c o.history = []) :
    Follows s t changes (o.moved c (.copied (effect changes c
      (changedBy changes (timeOf s) t (lineage o.history).stored))) s') := by
  have hlineage := lineage_append o.history (c, .read)
  have hhistory : (o.moved c (.copied (effect changes c (changedBy changes (timeOf s) t
      (lineage o.history).stored))) s').history = o.history ++ [(c, .read)] := rfl
  refine ⟨hclock.trans h.clock, fun u => ?_, ?_, ?_, fun c' => ?_⟩
  · rw [← h.back u, ← htriggers]
    rfl
  · rw [hhistory, hlineage]
    show s'.triggers.get t.id = _
    rw [htriggers]
    exact h.stored
  · rw [hhistory, hlineage]
    exact h.traced.read c
  · rw [hhistory, hlineage]
    by_cases hc : c' = c
    · subst hc
      rw [stage_moved, Lineage.copy_read, accesses_append_self, hnew]
      exact .copied
    · rw [stage_moved_of_ne hc, Lineage.copy_read_of_ne hc, accesses_append_of_ne hc]
      exact h.fits c'

/-- A copy is written. -/
theorem write (h : Follows s t changes o)
    (hgets : s'.triggers.get t.id = .ok (some
      (changedBy changes (timeOf s) t ((lineage o.history).copy c ++ [c]))))
    (hback : ∀ u, s'.triggers.GivesBack u = o.state.triggers.GivesBack u)
    (hclock : s'.clock = o.state.clock) (hread : accesses c o.history = [.read]) (saved : Trigger) :
    Follows s t changes (o.moved c (.written saved) s') := by
  have hlineage := lineage_append o.history (c, .write)
  have hhistory : (o.moved c (.written saved) s').history = o.history ++ [(c, .write)] := rfl
  refine ⟨hclock.trans h.clock, fun u => (hback u).trans (h.back u), ?_, ?_, fun c' => ?_⟩
  · rw [hhistory, hlineage]
    exact hgets
  · rw [hhistory, hlineage]
    exact h.traced.write (not_wrote hread)
  · rw [hhistory, hlineage]
    by_cases hc : c' = c
    · subst hc
      rw [stage_moved, accesses_append_self, hread]
      exact .written saved
    · rw [stage_moved_of_ne hc, Lineage.copy_write, accesses_append_of_ne hc]
      exact h.fits c'

theorem step (h : Follows s t changes o) (hnodup : changes.keys.Nodup)
    (hback : ∀ order ≠ [], order.Nodup →
      s.triggers.GivesBack (changedBy changes (timeOf s) t order)) (c : Caller) :
    Follows s t changes (o.step t.id changes c) := by
  have hmakes := edits_makes hnodup t.id c
  have hfits := h.fits c
  generalize hstage : o.stage c = stage at hfits
  generalize hmade : accesses c o.history = made at hfits
  have hstep : ∀ {stage' s'}, (edits t.id changes c).advance t.id stage o.state = (stage', s') →
      o.step t.id changes c = o.moved c stage' s' := fun hadvance => step_eq (hstage ▸ hadvance)
  cases hfits with
  | waiting =>
    obtain ⟨e, s', hread, hquiet⟩ | ⟨x, s', hread, hfound, hquiet⟩ :=
      hmakes.read_cases t.id o.state
    · rw [hstep (by rw [Edit.advance, hread])]
      exact h.still hquiet.triggers hquiet.clock rfl (.failed e _)
    · rw [h.stored] at hfound
      cases hfound
      rw [hstep (by rw [Edit.advance, hread])]
      exact h.read hquiet.triggers hquiet.clock hmade
  | copied =>
    have hquiet := hmakes.check
      (effect changes c (changedBy changes (timeOf s) t ((lineage o.history).copy c))) o.state
    rcases hcheck : (edits t.id changes c).check _ o.state with ⟨e | _, s'⟩
    · rw [hcheck] at hquiet
      rw [hstep (by rw [Edit.advance, hcheck])]
      exact h.still hquiet.triggers hquiet.clock rfl (.failed e _)
    · rw [hcheck] at hquiet
      rw [hstep (by rw [Edit.advance, hcheck])]
      exact h.still hquiet.triggers hquiet.clock rfl (hmade ▸ .checked)
  | checked =>
    obtain ⟨e, s', hwrite, hquiet⟩ | ⟨store, s', hwrite, hsave, hquiet⟩ := Edit.write_cases
      (effect changes c (changedBy changes (timeOf s) t ((lineage o.history).copy c))) o.state
    · rw [hstep (by rw [Edit.advance, hwrite])]
      exact h.still hquiet.triggers hquiet.clock rfl (.failed e _)
    · rw [hstep (by rw [Edit.advance, hwrite])]
      have htime : timeOf o.state = timeOf s := by rw [timeOf, h.clock, timeOf]
      rw [htime, ← changedBy_append] at hsave
      obtain ⟨hget, hsame⟩ := TriggerStore.get_of_save hsave (by
        rw [h.back]
        exact hback _ (List.concat_ne_nil _ _) (h.traced.nodup_write (not_wrote hmade)))
      rw [id_changedBy] at hget
      refine h.write ?_ ?_ hquiet.clock hmade _
      · rw [hquiet.triggers]
        exact hget
      · rw [hquiet.triggers]
        exact hsame
  | written saved =>
    have hretimed := hmakes.conclude_retimed saved o.state
    rcases hconclude : (edits t.id changes c).conclude saved o.state with ⟨e | _, s'⟩
    · rw [hconclude] at hretimed
      rw [hstep (by rw [Edit.advance, hconclude])]
      exact h.still hretimed.triggers hretimed.clock rfl (.failed e _)
    · rw [hconclude] at hretimed
      rw [hstep (by rw [Edit.advance, hconclude])]
      exact h.still hretimed.triggers hretimed.clock rfl (hmade ▸ .ended saved)
  | ended saved =>
    rw [hstep rfl]
    exact h.still rfl rfl rfl (hmade ▸ .ended saved)
  | failed e =>
    rw [hstep rfl]
    exact h.still rfl rfl rfl (.failed e _)

theorem run (h : Follows s t changes o) (hnodup : changes.keys.Nodup)
    (hback : ∀ order ≠ [], order.Nodup →
      s.triggers.GivesBack (changedBy changes (timeOf s) t order)) (schedule : List Caller) :
    Follows s t changes (o.run t.id changes schedule) := by
  induction schedule generalizing o with
  | nil => exact h
  | cons c schedule ih => exact ih (h.step hnodup hback c)

/-- A caller that is done has read once and written once. -/
theorem accesses_of_ended (h : Follows s t changes o) {saved : Trigger}
    (hended : o.stage c = .ended saved) : accesses c o.history = [.read, .write] := by
  have hfits := h.fits c
  rw [hended] at hfits
  generalize accesses c o.history = made at hfits
  cases hfits
  rfl

end Follows

end Overlap

/-! The orders of the calls. -/

/-- One caller reads after the other has written. -/
def Serial (history : List (Caller × Access)) : Prop :=
  ∃ a b, a ≠ b ∧ history = [(a, .read), (a, .write), (b, .read), (b, .write)]

/-- Both callers read before either writes, and the last to write is known. -/
def Crossed (last : Caller) (history : List (Caller × Access)) : Prop :=
  ∃ a b first, a ≠ b ∧ first ≠ last ∧
    history = [(a, .read), (b, .read), (first, .write), (last, .write)]

theorem length_eq_accesses (history : List (Caller × Access)) : history.length =
    (accesses .updater history).length + (accesses .toggler history).length := by
  induction history with
  | nil => rfl
  | cons e history ih =>
    obtain ⟨c, a⟩ := e
    simp only [accesses, List.length_map] at ih ⊢
    cases c <;> simp [ih] <;> omega

/-- Two callers that each read and then write do so one after the other or crossed. -/
theorem serial_or_crossed (hu : accesses .updater history = [.read, .write])
    (ht : accesses .toggler history = [.read, .write]) :
    Serial history ∨ ∃ last, Crossed last history := by
  have hlength : history.length = 4 := by rw [length_eq_accesses, hu, ht]; rfl
  obtain _ | ⟨⟨c₁, a₁⟩, _ | ⟨⟨c₂, a₂⟩, _ | ⟨⟨c₃, a₃⟩, _ | ⟨⟨c₄, a₄⟩, _ | _⟩⟩⟩⟩ := history <;>
    simp only [List.length_nil, List.length_cons] at hlength <;> try omega
  cases c₁ <;> cases c₂ <;> cases c₃ <;> cases c₄ <;>
    simp [accesses] at hu ht <;> obtain ⟨⟨rfl, rfl⟩, rfl, rfl⟩ := And.intro hu ht
  -- Two of the six orders are serial.
  · exact .inl ⟨.updater, .toggler, by decide, rfl⟩
  · exact .inr ⟨.toggler, .updater, .toggler, .updater, by decide, by decide, rfl⟩
  · exact .inr ⟨.updater, .updater, .toggler, .toggler, by decide, by decide, rfl⟩
  · exact .inr ⟨.toggler, .toggler, .updater, .updater, by decide, by decide, rfl⟩
  · exact .inr ⟨.updater, .toggler, .updater, .toggler, by decide, by decide, rfl⟩
  · exact .inl ⟨.toggler, .updater, by decide, rfl⟩

theorem lineage_of_serial (h : Serial history) : (lineage history).stored = [.updater, .toggler] ∨
    (lineage history).stored = [.toggler, .updater] := by
  obtain ⟨a, b, hne, rfl⟩ := h
  cases a <;> cases b
  · exact absurd rfl hne
  · exact .inl rfl
  · exact .inr rfl
  · exact absurd rfl hne

theorem lineage_of_crossed {last : Caller} (h : Crossed last history) :
    (lineage history).stored = [last] := by
  obtain ⟨a, b, first, -, -, rfl⟩ := h
  cases a <;> cases b <;> cases first <;> cases last <;> rfl

/-- A trigger with both changes. -/
def bothChanged (changes : Entries) (now : Value) (t : Trigger) : Trigger :=
  { t.replaced changes with isActive := .bool !t.isActive.truthy, updatedAt := now }

/-- The changes may be made in either order, unless they replace the switch. -/
theorem changedBy_both {changes : Entries} {now : Value} {t : Trigger}
    (h : "is_active" ∉ changes.keys) :
    changedBy changes now t [.updater, .toggler] = bothChanged changes now t ∧
      changedBy changes now t [.toggler, .updater] = bothChanged changes now t := by
  have hnone : changes.get? "is_active" = none := Entries.get?_eq_none_of_not_mem h
  constructor <;>
    simp [changedBy, effect, bothChanged, Trigger.touchedAt, Trigger.toggled, Trigger.replaced,
      hnone]

/-- Two changes of one trigger at the same time, where the store gives back what they can write.
Once both are done, either one of them read after the other had written, and the record has both
changes, or both read before either wrote, and the record is the one that was read with the change
of the one that wrote last. -/
theorem overlap_kept_or_lost {s : Automation} {t : Trigger} {changes : Entries}
    (hstored : s.triggers.get t.id = .ok (some t)) (hnodup : changes.keys.Nodup)
    (hswitch : "is_active" ∉ changes.keys)
    (hback : ∀ order ≠ [], order.Nodup →
      s.triggers.GivesBack (changedBy changes (timeOf s) t order))
    (schedule : List Caller) {updated toggled : Trigger}
    (hupdated : (Overlap.run t.id changes { state := s } schedule).stage .updater =
      .ended updated)
    (htoggled : (Overlap.run t.id changes { state := s } schedule).stage .toggler =
      .ended toggled) :
    let o := Overlap.run t.id changes { state := s } schedule
    (Serial o.history ∧
        o.state.triggers.get t.id = .ok (some (bothChanged changes (timeOf s) t))) ∨
      ∃ last, Crossed last o.history ∧ o.state.triggers.get t.id =
        .ok (some ((effect changes last t).touchedAt (timeOf s))) := by
  intro o
  have hfollows : o.Follows s t changes := (Overlap.Follows.start hstored).run hnodup hback schedule
  obtain ⟨hfirst, hsecond⟩ := @changedBy_both changes (timeOf s) t hswitch
  rcases serial_or_crossed (hfollows.accesses_of_ended hupdated)
    (hfollows.accesses_of_ended htoggled) with hserial | ⟨last, hcrossed⟩
  · refine .inl ⟨hserial, hfollows.stored.trans ?_⟩
    rcases lineage_of_serial hserial with horder | horder
    · rw [horder, hfirst]
    · rw [horder, hsecond]
  · refine .inr ⟨last, hcrossed, hfollows.stored.trans ?_⟩
    rw [lineage_of_crossed hcrossed]
    rfl

/-- The trigger of that program. -/
def soleTrigger : Trigger where
  id := .text "id-1"
  workspaceId := .text "w1"
  definitionId := .text "d1"
  type := .known .message
  conditions := .object []
  variableMappings := .object []
  isActive := .bool true
  name := .null
  description := .null
  createdById := .null
  lastTriggeredAt := .null
  triggerCount := .int 0
  createdAt := timeOf oneTrigger
  updatedAt := timeOf oneTrigger

/-- The updater reads and writes between the read and the write of the toggler. -/
theorem overlap_kept_or_lost_renamed : ∃ updated toggled,
    let o := Overlap.run (.text "id-1") [("name", .text "nightly")] { state := oneTrigger }
      [.toggler, .updater, .updater, .updater, .toggler, .updater, .toggler, .toggler]
    o.stage .updater = .ended updated ∧ o.stage .toggler = .ended toggled ∧
      ∃ last, Crossed last o.history ∧ o.state.triggers.get (.text "id-1") =
        .ok (some ((effect [("name", .text "nightly")] last soleTrigger).touchedAt
          (timeOf oneTrigger))) := by
  refine ⟨_, _, rfl, rfl, ?_⟩
  have hcases := @overlap_kept_or_lost oneTrigger soleTrigger [("name", .text "nightly")] rfl
    (List.nodup_singleton _) (by decide) (fun _ _ _ => trivial)
    [.toggler, .updater, .updater, .updater, .toggler, .updater, .toggler, .toggler] _ _ rfl rfl
  refine hcases.resolve_left fun ⟨⟨a, b, hne, hserial⟩, _⟩ => ?_
  have hsecond : (Caller.updater, Access.read) = (a, Access.write) :=
    (List.cons.inj (List.cons.inj hserial).2).1
  cases hsecond

/-- An updater that writes last switches the trigger on again. -/
theorem not_both_kept : ¬ ∀ (s : Automation) (t : Trigger) (changes : Entries)
    (schedule : List Caller) (updated toggled : Trigger),
    s.triggers.get t.id = .ok (some t) → changes.keys.Nodup → "is_active" ∉ changes.keys →
    (Overlap.run t.id changes { state := s } schedule).stage .updater = .ended updated →
    (Overlap.run t.id changes { state := s } schedule).stage .toggler = .ended toggled →
    ∃ u, (Overlap.run t.id changes { state := s } schedule).state.triggers.get t.id =
        .ok (some u) ∧ u.replaced changes = u ∧ u.isActive.truthy = !t.isActive.truthy := by
  intro h
  obtain ⟨u, hget, -, hactive⟩ := h oneTrigger soleTrigger [("name", .text "nightly")]
    [.updater, .toggler, .toggler, .toggler, .toggler, .updater, .updater, .updater] _ _ rfl
    (List.nodup_singleton _) (by decide) rfl rfl
  obtain rfl : { soleTrigger with name := .text "nightly" } = u :=
    Option.some.inj (Except.ok.inj hget)
  cases hactive

end Registry

end ProcessTriggers
