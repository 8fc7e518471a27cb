import ProcessTriggers.Proofs.Accounting
import ProcessTriggers.Proofs.Agreement

/-!
Workspaces are isolated from each other. Two runs in memory that agree on the triggers of one
workspace and on their executions do the same for that workspace, whatever triggers and executions
the others have, and leave those alone.
-/

namespace ProcessTriggers

open Action Automation

namespace Keyed

variable {α : Type} {t : Keyed α} {key : Value} {x y : α}

/-- A selection sees the item of a key that it selects replaced. -/
theorem filter_put (p : α → Bool) (hget : t.get? key = some x) (hx : p x = true)
    (hy : p y = true) : (t.put key y).filter (p ·.2) = Keyed.put (t.filter (p ·.2)) key y := by
  induction t with
  | nil => cases hget
  | cons e t ih =>
    rw [get?, List.find?_cons] at hget
    by_cases heq : e.1.equal key = true
    · rw [heq] at hget
      have hitem : e.2 = x := Option.some.inj hget
      rw [put, if_pos heq, List.filter_cons_of_pos (by exact hy),
        List.filter_cons_of_pos (by exact hitem ▸ hx), put, if_pos heq]
    · rw [Bool.eq_false_iff.mpr heq] at hget
      rw [put, if_neg heq, List.filter_cons, List.filter_cons, ih hget]
      split
      · rw [put, if_neg heq]
      · rfl

/-- A selection that does not select the item of a key sees no change. -/
theorem filter_put_of_not (p : α → Bool) (hget : t.get? key = some x) (hx : p x = false)
    (hy : p y = false) : (t.put key y).filter (p ·.2) = t.filter (p ·.2) := by
  induction t with
  | nil => cases hget
  | cons e t ih =>
    rw [get?, List.find?_cons] at hget
    by_cases heq : e.1.equal key = true
    · rw [heq] at hget
      have hitem : e.2 = x := Option.some.inj hget
      rw [put, if_pos heq, List.filter_cons_of_neg (by simp [hy]),
        List.filter_cons_of_neg (by simp [hitem, hx])]
    · rw [Bool.eq_false_iff.mpr heq] at hget
      rw [put, if_neg heq, List.filter_cons, List.filter_cons, ih hget]

end Keyed

namespace Trigger

/-- Whether a trigger belongs to a workspace. -/
def isIn (workspace : String) (t : Trigger) : Bool := t.workspaceId.equal (.text workspace)

/-- The triggers of a workspace, in their order. -/
def within (workspace : String) (ts : Keyed Trigger) : Keyed Trigger :=
  ts.filter (Trigger.isIn workspace ·.2)

/-- The triggers of the other workspaces, in their order. -/
def outside (workspace : String) (ts : Keyed Trigger) : Keyed Trigger :=
  ts.filter fun e => !Trigger.isIn workspace e.2

variable {w : String} {ts : Keyed Trigger} {f : TriggerFilter}

theorem mem_within {e : Value × Trigger} :
    e ∈ within w ts ↔ e ∈ ts ∧ e.2.isIn w = true := List.mem_filter

/-- What is looked for in a workspace is looked for among its triggers only. -/
theorem find_within (hf : f.workspaceId = some (.text w)) (ts : Keyed Trigger) :
    (TriggerStore.memory ts).find f = (TriggerStore.memory (within w ts)).find f := by
  have hisIn : ∀ t : Trigger, (t.isAmong f && t.isIn w) = t.isAmong f := by
    intro t
    rw [isAmong, hf, isIn, Option.all_some]
    cases t.workspaceId.equal (.text w) <;> simp
  have hitems : (within w ts).items = ts.items.filter (·.isIn w) := by
    rw [Keyed.items, Keyed.items, within, List.filter_map]
    rfl
  rw [TriggerStore.find, TriggerStore.find, hitems, List.filter_filter]
  simp only [hisIn]

namespace Filed

theorem within_texts (h : Filed ts) (w : String) : Keyed.Texts (within w ts) where
  text k hk := h.texts.text k ((List.filter_sublist.map _).subset hk)
  nodup := h.texts.nodup.sublist (List.filter_sublist.map _)

theorem put (h : Filed ts) {t : Trigger} {id : String} (hid : t.id = .text id) :
    Filed (ts.put (.text id) t) where
  texts := h.texts.put id
  own e he := by
    rcases h.texts.mem_put.mp he with rfl | ⟨he, _⟩
    · exact hid
    · exact h.own e he

theorem mem_within_of_find (h : Filed ts) (hf : f.workspaceId = some (.text w))
    {found : List Trigger} (hfind : (TriggerStore.memory ts).find f = .ok found) {t : Trigger}
    (ht : t ∈ found) : (t.id, t) ∈ within w ts := by
  obtain ⟨hmem, hamong⟩ := h.mem_of_find hfind ht
  refine mem_within.mpr ⟨hmem, ?_⟩
  simp only [isAmong, hf, Option.all_some, Bool.and_eq_true] at hamong
  exact hamong.1.1.1

/-- A start of a trigger of the workspace is counted among the triggers of the workspace. -/
theorem recordFire_within (h : Filed ts) {id : Value} (hid : id ∈ (within w ts).keys)
    (firedAt : Stamp) :
    (∃ e, (TriggerStore.memory ts).recordFire id firedAt = .error e ∧
      (TriggerStore.memory (within w ts)).recordFire id firedAt = .error e) ∨
    ∃ ts', (TriggerStore.memory ts).recordFire id firedAt = .ok (.memory ts') ∧ Filed ts' ∧
      (TriggerStore.memory (within w ts)).recordFire id firedAt = .ok (.memory (within w ts')) ∧
      outside w ts' = outside w ts ∧ (within w ts').keys = (within w ts).keys := by
  obtain ⟨t, hmem⟩ := Keyed.mem_keys_iff.mp hid
  obtain ⟨hstored, hisIn⟩ := mem_within.mp hmem
  obtain ⟨text, rfl⟩ := (h.within_texts w).text id hid
  have hget : ts.get? (.text text) = some t := h.texts.get?_eq_some_iff.mpr hstored
  have hget' : (within w ts).get? (.text text) = some t :=
    (h.within_texts w).get?_eq_some_iff.mpr hmem
  cases hcount : t.triggerCount.increment with
  | error e =>
    refine .inl ⟨e, ?_, ?_⟩
    · simp only [TriggerStore.recordFire, Value.asKey_text, hget, hcount, bind, Except.bind]
    · simp only [TriggerStore.recordFire, Value.asKey_text, hget', hcount, bind, Except.bind]
  | ok count =>
    obtain ⟨fired, hfired⟩ : ∃ fired : Trigger,
        fired = { t with triggerCount := count, lastTriggeredAt := .stamp firedAt } := ⟨_, rfl⟩
    have hisIn' : fired.isIn w = true := hfired ▸ hisIn
    have hid' : fired.id = .text text := hfired ▸ h.own _ hstored
    have hwithin : within w (ts.put (.text text) fired) =
        (within w ts).put (.text text) fired :=
      Keyed.filter_put (isIn w) hget hisIn hisIn'
    have houtside : outside w (ts.put (.text text) fired) = outside w ts :=
      Keyed.filter_put_of_not (fun t => !isIn w t) hget (by rw [hisIn, Bool.not_true])
        (by rw [hisIn', Bool.not_true])
    refine .inr ⟨ts.put (.text text) fired, ?_, h.put hid', ?_, houtside, ?_⟩
    · simp only [TriggerStore.recordFire, Value.asKey_text, hget, hcount, hfired, bind, Except.bind]
      rfl
    · rw [hwithin]
      simp only [TriggerStore.recordFire, Value.asKey_text, hget', hcount, hfired, bind,
        Except.bind]
      rfl
    · rw [hwithin]
      exact (h.within_texts w).keys_put_of_mem hid

end Filed
end Trigger

/-- The executions of some triggers, in their order. -/
def Execution.among (ids : List Value) (rows : List Execution) : List Execution :=
  rows.filter fun e => ids.any e.triggerId.equal

namespace Automation

/-- The program keeps its records in memory: triggers under their own identifiers, and executions of
triggers that are known by a text. -/
structure InMemory (s : Automation) (ts : Keyed Trigger) (rows : List Execution) : Prop where
  unbroken : s.broken = []
  triggers : s.triggers = .memory ts
  filed : Trigger.Filed ts
  executions : s.executions = .memory rows
  traced : ∀ e ∈ rows, ∃ id, e.triggerId = .text id

/-- Two states agree on everything that the workspaces have in common. -/
structure Common (s₁ s₂ : Automation) : Prop where
  config : s₁.config = s₂.config
  clock : s₁.clock = s₂.clock
  supply : s₁.supply = s₂.supply
  orchestrator : s₁.orchestrator = s₂.orchestrator

/-- Only the stores matter. -/
theorem InMemory.congr {s s' : Automation} {ts : Keyed Trigger} {rows : List Execution}
    (h : InMemory s ts rows) (hbroken : s'.broken = s.broken) (htriggers : s'.triggers = s.triggers)
    (hexecutions : s'.executions = s.executions) : InMemory s' ts rows where
  unbroken := hbroken.trans h.unbroken
  triggers := htriggers.trans h.triggers
  filed := h.filed
  executions := hexecutions.trans h.executions
  traced := h.traced

theorem InMemory.append {s : Automation} {ts : Keyed Trigger} {rows : List Execution}
    (h : InMemory s ts rows) {e : Execution} (hid : ∃ id, e.triggerId = .text id) :
    InMemory { s with executions := .memory (rows ++ [e]) } ts (rows ++ [e]) where
  unbroken := h.unbroken
  triggers := h.triggers
  filed := h.filed
  executions := rfl
  traced e' he' := (List.mem_append.mp he').elim (h.traced e') fun he' =>
    List.mem_singleton.mp he' ▸ hid

theorem Common.ofQuiet {s₁ s₂ s₁' s₂' : Automation} (h : Common s₁ s₂) (hquiet₁ : Quiet s₁ s₁')
    (hquiet₂ : Quiet s₂ s₂') : Common s₁' s₂' where
  config := hquiet₁.config.trans (h.config.trans hquiet₂.config.symm)
  clock := hquiet₁.clock.trans (h.clock.trans hquiet₂.clock.symm)
  supply := hquiet₁.supply.trans (h.supply.trans hquiet₂.supply.symm)
  orchestrator := hquiet₁.orchestrator.trans (h.orchestrator.trans hquiet₂.orchestrator.symm)

/-- One of two runs for a workspace: the triggers of the workspace are now `mine`, those of the
others are still `others`, and the log consists of `rows`. -/
def Sees (w : String) (mine others : Keyed Trigger) (rows : List Execution) (s : Automation) :
    Prop :=
  ∃ ts, InMemory s ts rows ∧ Trigger.within w ts = mine ∧ Trigger.outside w ts = others

theorem Sees.congr {w : String} {mine others : Keyed Trigger} {rows : List Execution}
    {s s' : Automation} (h : Sees w mine others rows s) (hbroken : s'.broken = s.broken)
    (htriggers : s'.triggers = s.triggers) (hexecutions : s'.executions = s.executions) :
    Sees w mine others rows s' := by
  obtain ⟨ts, hmemory, hparts⟩ := h
  exact ⟨ts, hmemory.congr hbroken htriggers hexecutions, hparts⟩

/-- What is given when two runs for a workspace begin: the identifiers of the triggers of the
workspace, and for each run the triggers of the others and the log. -/
structure Scene where
  workspace : String
  ids : List Value
  texts : ∀ id ∈ ids, ∃ text : String, id = .text text
  others₁ : Keyed Trigger
  others₂ : Keyed Trigger
  rows₁ : List Execution
  rows₂ : List Execution

/-- Two runs for a workspace, side by side: its triggers are the same in both, and the same rows
were added for them. -/
structure Abreast (scene : Scene) (s₁ s₂ : Automation) : Prop where
  common : Common s₁ s₂
  seen : ∃ mine added, mine.keys = scene.ids ∧ (∀ e ∈ added, e.triggerId ∈ scene.ids) ∧
    Sees scene.workspace mine scene.others₁ (scene.rows₁ ++ added) s₁ ∧
    Sees scene.workspace mine scene.others₂ (scene.rows₂ ++ added) s₂

variable {scene : Scene}

/-- What does not touch the stores keeps two runs side by side. -/
theorem Abreast.congr {s₁ s₂ s₁' s₂' : Automation} (h : Abreast scene s₁ s₂)
    (hcommon : Common s₁' s₂')
    (h₁ : s₁'.broken = s₁.broken ∧ s₁'.triggers = s₁.triggers ∧ s₁'.executions = s₁.executions)
    (h₂ : s₂'.broken = s₂.broken ∧ s₂'.triggers = s₂.triggers ∧ s₂'.executions = s₂.executions) :
    Abreast scene s₁' s₂' := by
  obtain ⟨mine, added, hids, hadded, hsees₁, hsees₂⟩ := h.seen
  exact ⟨hcommon, mine, added, hids, hadded, hsees₁.congr h₁.1 h₁.2.1 h₁.2.2,
    hsees₂.congr h₂.1 h₂.2.1 h₂.2.2⟩

/-- The coupling of two runs for a workspace. -/
def Scene.coupling (scene : Scene) : Coupling where
  holds := Abreast scene
  quiet h₁ h₂ h := h.congr (h.common.ofQuiet h₁ h₂) ⟨h₁.broken, h₁.triggers, h₁.executions⟩
    ⟨h₂.broken, h₂.triggers, h₂.executions⟩

/-- The same triggers are found in both runs, and they are of the workspace. -/
theorem findTriggers_agrees {f : TriggerFilter}
    (hf : f.workspaceId = some (.text scene.workspace)) :
    Agrees scene.coupling (fun found found' => found = found' ∧ ∀ t ∈ found, t.id ∈ scene.ids)
      (findTriggers f) (findTriggers f) := by
  rintro s₁ s₂ ⟨hcommon, mine, added, hids, hadded, ⟨ts₁, h₁, hmine₁, hothers₁⟩,
    ts₂, h₂, hmine₂, hothers₂⟩
  have hsame : (TriggerStore.memory ts₁).find f = (TriggerStore.memory ts₂).find f := by
    rw [Trigger.find_within hf ts₁, Trigger.find_within hf ts₂, hmine₁, hmine₂]
  rw [findTriggers_inMemory h₁.unbroken h₁.triggers, findTriggers_inMemory h₂.unbroken h₂.triggers,
    ← hsame]
  refine ⟨?_, hcommon, mine, added, hids, hadded, ⟨ts₁, h₁, hmine₁, hothers₁⟩, ts₂, h₂, hmine₂,
    hothers₂⟩
  cases hfind : (TriggerStore.memory ts₁).find f with
  | error e => exact .error e
  | ok found =>
    refine .ok ⟨rfl, fun t ht => ?_⟩
    rw [← hids, ← hmine₁]
    exact Keyed.mem_keys (h₁.filed.mem_within_of_find hf hfind ht)

theorem recordFire_inMemory {s : Automation} {ts : Keyed Trigger} {rows : List Execution}
    (h : InMemory s ts rows) (id : Value) (firedAt : Stamp) :
    recordFire id firedAt s = match (TriggerStore.memory ts).recordFire id firedAt with
      | .ok store => (.ok ⟨⟩, { s with triggers := store })
      | .error e => (.error e, s) := by
  have hmemory : s.isRelational .triggers = false := by rw [isRelational, h.triggers]
  rw [recordFire, reaching_run _ _ _ _ h.unbroken hmemory, bind_get, h.triggers]
  cases (TriggerStore.memory ts).recordFire id firedAt <;> rfl

/-- A start of a trigger of the workspace is counted alike in both runs. -/
theorem recordFire_agrees {id : Value} (hid : id ∈ scene.ids) (firedAt : Stamp) :
    Agrees scene.coupling Eq (recordFire id firedAt) (recordFire id firedAt) := by
  rintro s₁ s₂ ⟨hcommon, mine, added, hids, hadded, ⟨ts₁, h₁, hmine₁, hothers₁⟩,
    ts₂, h₂, hmine₂, hothers₂⟩
  rw [recordFire_inMemory h₁, recordFire_inMemory h₂]
  subst hmine₁
  rw [← hids] at hid
  have hid₂ : id ∈ (Trigger.within scene.workspace ts₂).keys := hmine₂ ▸ hid
  obtain ⟨e, hrun₁, hmine⟩ | ⟨ts₁', hrun₁, hfiled₁, hmine, houtside₁, hkeys⟩ :=
    h₁.filed.recordFire_within hid firedAt
  · obtain ⟨e', hrun₂, hmine'⟩ | ⟨ts₂', _, _, hmine', _⟩ :=
      h₂.filed.recordFire_within hid₂ firedAt
    · rw [hmine₂, hmine] at hmine'
      cases hmine'
      rw [hrun₁, hrun₂]
      exact ⟨.error e, hcommon, _, added, hids, hadded, ⟨ts₁, h₁, rfl, hothers₁⟩, ts₂, h₂, hmine₂,
        hothers₂⟩
    · rw [hmine₂, hmine] at hmine'
      cases hmine'
  · obtain ⟨e', _, hmine'⟩ | ⟨ts₂', hrun₂, hfiled₂, hmine', houtside₂, _⟩ :=
      h₂.filed.recordFire_within hid₂ firedAt
    · rw [hmine₂, hmine] at hmine'
      cases hmine'
    · rw [hmine₂, hmine] at hmine'
      have hsame : Trigger.within scene.workspace ts₂' = Trigger.within scene.workspace ts₁' :=
        (TriggerStore.memory.inj (Except.ok.inj hmine')).symm
      rw [hrun₁, hrun₂]
      exact ⟨.ok rfl, { hcommon with }, _, added, hkeys.trans hids, hadded,
        ⟨ts₁', { h₁ with triggers := rfl, filed := hfiled₁ }, rfl, houtside₁.trans hothers₁⟩,
        ts₂', { h₂ with triggers := rfl, filed := hfiled₂ }, hsame, houtside₂.trans hothers₂⟩

/-- Whether a new run is linked does not matter. -/
theorem startProcess_agrees (definitionId vars : Value) (options : StartOptions) :
    Agrees scene.coupling Eq (startProcess definitionId vars options)
      (startProcess definitionId vars options) := by
  intro s₁ s₂ (h : Abreast scene s₁ s₂)
  rw [startProcess_eq, startProcess_eq, ← h.common.orchestrator, ← h.common.supply]
  exact ⟨.ok rfl, h.congr ⟨h.common.config, h.common.clock, rfl, rfl⟩ ⟨rfl, rfl, rfl⟩
    ⟨rfl, rfl, rfl⟩⟩

end Automation

namespace Engine

variable {scene : Scene}

theorem countIfMetered_agrees {sample : Action Sample}
    (h : Agrees scene.coupling Eq sample sample) :
    Agrees scene.coupling Eq (countIfMetered sample) (countIfMetered sample) := by
  refine agrees_getBind fun s₁ s₂ hs => ?_
  have hconfig : s₁.config = s₂.config := Abreast.common hs |>.config
  rw [hconfig]
  exact agrees_ite (agrees_bindEq h count_agrees) (agrees_pure rfl) s₁ s₂ hs

theorem ensureDeployed_agrees (t : Trigger) :
    Agrees scene.coupling Eq (ensureDeployed t) (ensureDeployed t) := by
  have hfind : Agrees scene.coupling Eq (Registry.findDefinition t.definitionId)
      (Registry.findDefinition t.definitionId) := by
    refine agrees_getBind fun s₁ s₂ hs => ?_
    have horchestrator : s₁.orchestrator = s₂.orchestrator := Abreast.common hs |>.orchestrator
    rw [horchestrator]
    exact agrees_same _ s₁ s₂ hs
  exact agrees_bindEq hfind fun _ => agrees_ite (agrees_throw _) (agrees_pure rfl)

theorem recordFire_agrees {t : Trigger} (hid : t.id ∈ scene.ids) :
    Agrees scene.coupling Eq (recordFire t) (recordFire t) := by
  have hrecord : Agrees scene.coupling Eq (Registry.recordFire t.id none)
      (Registry.recordFire t.id none) := by
    refine agrees_getBind fun s₁ s₂ hs => ?_
    have hclock : s₁.clock = s₂.clock := Abreast.common hs |>.clock
    dsimp only [Option.getD_none]
    rw [hclock]
    exact Automation.recordFire_agrees hid _ s₁ s₂ hs
  refine agrees_bind (agrees_attempt hrecord) fun r r' hr => ?_
  rw [hr.eq]
  cases r' with
  | ok _ => exact agrees_pure rfl
  | error e => exact log_agrees _ _ _

/-- The execution of a trigger of the workspace is written in both runs. -/
theorem save_agrees {e : Execution} (hid : e.triggerId ∈ scene.ids) :
    Agrees scene.coupling Eq (save e) (save e) := by
  rintro s₁ s₂ ⟨hcommon, mine, added, hids, hadded, ⟨ts₁, h₁, hparts₁⟩, ts₂, h₂, hparts₂⟩
  rw [save_run h₁.unbroken h₁.executions, save_run h₂.unbroken h₂.executions]
  have htext := scene.texts _ hid
  refine ⟨.ok rfl, { hcommon with }, mine, added ++ [e], hids, fun e' he' => ?_, ?_, ?_⟩
  · exact (List.mem_append.mp he').elim (hadded e') fun he' => List.mem_singleton.mp he' ▸ hid
  · rw [← List.append_assoc]
    exact ⟨ts₁, h₁.append htext, hparts₁⟩
  · rw [← List.append_assoc]
    exact ⟨ts₂, h₂.append htext, hparts₂⟩

theorem noteOutcome_agrees (a : Attempt) {e : Execution} (hid : e.triggerId ∈ scene.ids) :
    Agrees scene.coupling Eq (noteOutcome a e) (noteOutcome a e) := by
  refine agrees_bindEq (countIfMetered_agrees ?_) fun _ => agrees_ite ?_ (save_agrees hid)
  · exact agrees_bindEq (agrees_same _) fun _ => agrees_pure rfl
  · exact agrees_bindEq (countIfMetered_agrees (agrees_pure rfl)) fun _ => save_agrees hid

/-- An attempt to start the process of a trigger of the workspace. In two runs it differs in the
correlation fields only. -/
structure Twins (scene : Scene) (a a' : Attempt) : Prop where
  same : a' = { a with bound := a'.bound }
  trigger : a.trigger.id ∈ scene.ids
  execution : a.execution.triggerId ∈ scene.ids

variable {a a' : Attempt}

theorem conclude_agrees (h : Twins scene a a') (outcome : Except Error StartedRun) :
    Agrees scene.coupling Eq (conclude a outcome) (conclude a' outcome) := by
  have hid : (outcomeOf a outcome).triggerId ∈ scene.ids :=
    (outcomeOf_triggerId a outcome).symm ▸ h.execution
  rw [h.same]
  cases outcome with
  | ok run =>
    refine agrees_withBound _ _ (agrees_bindEq (recordFire_agrees h.trigger) fun _ => ?_)
    exact agrees_bindEq (log_agrees _ _ _) fun _ => noteOutcome_agrees a hid
  | error cause =>
    exact agrees_withBound _ _ (agrees_bindEq (log_agrees _ _ _) fun _ => noteOutcome_agrees a hid)

theorem start_agrees (h : Twins scene a a') :
    Agrees scene.coupling Eq (start a) (start a') := by
  have hsame : start a' = start a := by rw [h.same]; rfl
  rw [hsame]
  refine agrees_getBind fun s₁ s₂ hs => ?_
  have hconfig : s₁.config = s₂.config := Abreast.common hs |>.config
  rw [hconfig]
  generalize (if s₂.config.startTimeout.isNull = true then Except.ok false
    else s₂.config.startTimeout.isAtMost (.int 0)) = noTime
  match noTime with
  | .error e => exact agrees_pure rfl s₁ s₂ hs
  | .ok true => exact agrees_pure rfl s₁ s₂ hs
  | .ok false =>
    refine agrees_bindEq (startProcess_agrees _ _ _) (fun outcome => ?_) s₁ s₂ hs
    split <;> exact agrees_pure rfl

theorem giveUp_agrees (h : Twins scene a a') :
    Agrees scene.coupling Eq (giveUp a) (giveUp a') := by
  rw [h.same]
  refine agrees_getBind fun s₁ s₂ hs => ?_
  have hconfig : s₁.config = s₂.config := Abreast.common hs |>.config
  rw [hconfig]
  exact agrees_pure rfl s₁ s₂ hs

theorem dispatch_agrees (h : Twins scene a a') :
    Agrees scene.coupling Eq (dispatch a) (dispatch a') := by
  have htrigger : a'.trigger = a.trigger := by rw [h.same]
  rw [dispatch, dispatch, htrigger]
  refine agrees_bind (agrees_attempt (ensureDeployed_agrees _)) fun r r' hr => ?_
  rw [hr.eq]
  cases r' with
  | error e => exact conclude_agrees h _
  | ok _ =>
    refine agrees_bindEq settle_agrees fun _ => agrees_bindEq (start_agrees h) fun outcome => ?_
    cases outcome with
    | some outcome => exact conclude_agrees h outcome
    | none => exact agrees_bindEq (giveUp_agrees h) fun outcome => conclude_agrees h outcome

theorem newAttempt_agrees {t : Trigger} (hid : t.id ∈ scene.ids) (context vars : Entries)
    (options : StartOptions) : Agrees scene.coupling (Twins scene)
      (newAttempt t context vars options) (newAttempt t context vars options) := by
  intro s₁ s₂ (h : Abreast scene s₁ s₂)
  rw [newAttempt_run, newAttempt_run, h.common.supply, h.common.clock]
  exact ⟨.ok ⟨rfl, hid, hid⟩, h.congr { h.common with supply := rfl, clock := rfl }
    ⟨rfl, rfl, rfl⟩ ⟨rfl, rfl, rfl⟩⟩

theorem fire_agrees {t : Trigger} (hid : t.id ∈ scene.ids) (context : Value) :
    Agrees scene.coupling Eq (fire t context) (fire t context) := by
  refine agrees_bindEq (agrees_same _) fun type => agrees_binding _ _ ?_
  refine agrees_bindEq (agrees_same _) fun name => agrees_bindEq (log_agrees _ _ _) fun _ => ?_
  refine agrees_bindEq (agrees_same _) fun es => agrees_bindEq (agrees_same _) fun vars => ?_
  exact agrees_bind (newAttempt_agrees hid _ _ _) fun a a' h => dispatch_agrees h

theorem isMatch_agrees (t : Trigger) (context : Value) :
    Agrees scene.coupling Eq (isMatch t context) (isMatch t context) := by
  refine agrees_bindEq (agrees_same _) fun o => ?_
  cases o.unevaluated with
  | none => exact agrees_pure rfl
  | some e => exact agrees_bindEq (log_agrees _ _ _) fun _ => agrees_pure rfl

theorem evaluateOne_agrees {t : Trigger} (hid : t.id ∈ scene.ids) (context : Value) :
    Agrees scene.coupling Eq (evaluateOne context t) (evaluateOne context t) := by
  refine agrees_bindEq (isMatch_agrees t context) fun holds => ?_
  refine agrees_bindEq (countIfMetered_agrees ?_) fun _ => ?_
  · exact agrees_bindEq (agrees_same _) fun _ => agrees_pure rfl
  · exact agrees_ite (agrees_bindEq (fire_agrees hid context) fun _ => agrees_pure rfl)
      (agrees_pure rfl)

theorem evaluateAll_agrees {ts : List Trigger} (hids : ∀ t ∈ ts, t.id ∈ scene.ids)
    (context : Value) :
    Agrees scene.coupling Eq (evaluateAll context ts) (evaluateAll context ts) := by
  induction ts with
  | nil => exact agrees_pure rfl
  | cons t ts ih =>
    have hrest := ih fun t' ht' => hids t' (List.mem_cons_of_mem t ht')
    refine agrees_bind (agrees_attempt (evaluateOne_agrees (hids t List.mem_cons_self) context))
      fun r r' hr => ?_
    rw [hr.eq]
    cases r' with
    | ok e => exact agrees_bindEq hrest fun _ => agrees_pure rfl
    | error e => exact agrees_bindEq (log_agrees _ _ _) fun _ => hrest

theorem evaluate_agrees (type : TriggerType) (context : Value) :
    Agrees scene.coupling Eq (evaluate type context (.text scene.workspace))
      (evaluate type context (.text scene.workspace)) := by
  refine agrees_bind (findTriggers_agrees rfl) fun found found' h => ?_
  obtain ⟨rfl, hids⟩ := h
  exact agrees_bindEq (log_agrees _ _ _) fun _ => evaluateAll_agrees hids context

/-- An evaluation returns if the triggers that it is meant for can be found. -/
theorem evaluateAll_returns (context : Value) (ts : List Trigger) (s : Automation) :
    ∃ rows s', evaluateAll context ts s = (.ok rows, s') := by
  induction ts generalizing s with
  | nil => exact ⟨[], s, rfl⟩
  | cons t ts ih =>
    rw [evaluateAll, bind_ok (attempt_run _ s)]
    cases (evaluateOne context t s).1 with
    | ok e =>
      obtain ⟨rows, s', hrun⟩ := ih (evaluateOne context t s).2
      exact ⟨_, s', bind_ok hrun⟩
    | error e =>
      obtain ⟨s₁, hlog, _⟩ := log_quiet .engine Log.error
        ("Error evaluating trigger " ++ t.id.shown ++ ": " ++ e.message) (evaluateOne context t s).2
      obtain ⟨rows, s', hrun⟩ := ih s₁
      exact ⟨rows, s', (bind_ok hlog).trans hrun⟩

end Engine

namespace Execution

theorem among_congr {ids ids' : List Value} {rows : List Execution}
    (htraced : ∀ e ∈ rows, ∃ id, e.triggerId = .text id) (h : ∀ id, id ∈ ids ↔ id ∈ ids') :
    among ids rows = among ids' rows := by
  refine List.filter_congr fun e he => ?_
  obtain ⟨id, hid⟩ := htraced e he
  rw [Bool.eq_iff_iff, Value.any_equal_iff hid, Value.any_equal_iff hid, h]

end Execution

theorem filterM_ok {ε α : Type} {f : α → Except ε Bool} {p : α → Bool} {xs : List α}
    (h : ∀ x ∈ xs, f x = .ok (p x)) : xs.filterM f = .ok (xs.filter p) := by
  have haux : ∀ acc, xs.filterAuxM f acc = .ok ((xs.filter p).reverse ++ acc) := by
    induction xs with
    | nil => exact fun acc => rfl
    | cons x xs ih =>
      intro acc
      have hrest := ih fun y hy => h y (List.mem_cons_of_mem x hy)
      rw [List.filterAuxM, h x List.mem_cons_self]
      cases hx : p x <;> simp [bind, Except.bind, hrest, hx]
  rw [List.filterM, haux]
  simp [bind, Except.bind, pure, Except.pure]

/-- The newest executions of some triggers are those among their executions. -/
theorem ExecutionStore.listRecent_memory {ids : List Value} {rows : List Execution} {limit : Value}
    (hids : ∀ id ∈ ids, ∃ text : String, id = .text text)
    (htraced : ∀ e ∈ rows, ∃ id, e.triggerId = .text id) :
    (ExecutionStore.memory rows).listRecent ids limit = (do
      Value.takeLimit limit
        (← Value.sortNewestFirst (·.executedAt) (Execution.among ids rows))) := by
  have hkeys : ids.mapM Value.asKey = .ok ids := by
    rw [mapM_eq_ok_iff, List.forall₂_same]
    intro id hid
    obtain ⟨text, rfl⟩ := hids id hid
    rfl
  have hfound : rows.filterM (fun e => do return ids.any (← e.triggerId.asKey).equal) =
      .ok (Execution.among ids rows) := by
    refine filterM_ok fun e he => ?_
    obtain ⟨id, hid⟩ := htraced e he
    rw [hid]
    rfl
  simp only [listRecent, hkeys, bind, Except.bind] at hfound ⊢
  rw [hfound]

namespace Automation

variable {w : String} {s s₁ s₂ : Automation} {ts ts₁ ts₂ : Keyed Trigger}
  {rows rows₁ rows₂ : List Execution}

theorem recentExecutions_inMemory (h : InMemory s ts rows) (ids : List Value) (limit : Value) :
    recentExecutions ids limit s = ((ExecutionStore.memory rows).listRecent ids limit, s) := by
  have hmemory : s.isRelational .executions = false := by rw [isRelational, h.executions]
  have hanswer : (do Action.ofExcept ((← get).executions.listRecent ids limit) :
      Action (List Execution)) s = ((ExecutionStore.memory rows).listRecent ids limit, s) := by
    rw [bind_get, h.executions]
    rfl
  rw [recentExecutions]
  split
  · rw [calling, bind_get, h.unbroken]
    exact hanswer
  · rw [reaching_run _ _ _ _ h.unbroken hmemory]
    exact hanswer

theorem findByWorkspace_inMemory (h : InMemory s ts rows) (w : String) :
    Registry.findByWorkspace (.text w) s =
      ((TriggerStore.memory ts).find { workspaceId := some (.text w) }, s) :=
  findTriggers_inMemory h.unbroken h.triggers _

theorem findActive_inMemory (h : InMemory s ts rows) (type : TriggerType) (w : String) :
    Registry.findActive type (.text w) s = ((TriggerStore.memory ts).find
      { workspaceId := some (.text w), type := some type, isActive := some (.bool true) }, s) :=
  findTriggers_inMemory h.unbroken h.triggers _

/-- The newest executions of a workspace are those among the executions of its triggers. -/
theorem recentExecutions_within (h : InMemory s ts rows) (w : String) (limit : Value) :
    (Registry.recentExecutions (.text w) limit s).1 = (do
      let _ ← (TriggerStore.memory ts).find { workspaceId := some (.text w) }
      Value.takeLimit (if limit.isNull then s.config.recentLimit else limit)
        (← Value.sortNewestFirst (·.executedAt)
          (Execution.among (Trigger.within w ts).keys rows))) := by
  have hfind := findByWorkspace_inMemory h w
  cases hfound : (TriggerStore.memory ts).find { workspaceId := some (.text w) } with
  | error e =>
    rw [hfound] at hfind
    rw [Registry.recentExecutions, bind_error hfind]
    rfl
  | ok found =>
    rw [hfound] at hfind
    have hids (id : Value) : id ∈ found.map (·.id) ↔ id ∈ (Trigger.within w ts).keys := by
      rw [Keyed.mem_keys_iff, List.mem_map]
      constructor
      · rintro ⟨t, ht, rfl⟩
        exact ⟨t, h.filed.mem_within_of_find rfl hfound ht⟩
      · rintro ⟨t, hmem⟩
        obtain ⟨hmem, hisIn⟩ := Trigger.mem_within.mp hmem
        refine ⟨t, ?_, h.filed.own _ hmem⟩
        rw [(Value.sortNewestFirst_perm hfound).mem_iff, List.mem_filter]
        refine ⟨Keyed.mem_items.mpr ⟨id, hmem⟩, ?_⟩
        simp only [Trigger.isAmong, Option.all_some, Option.all_none, Bool.and_true]
        exact hisIn
    have htexts : ∀ id ∈ found.map (·.id), ∃ text : String, id = .text text := fun id hid =>
      (h.filed.within_texts w).text id ((hids id).mp hid)
    have hlimit : Registry.limitOr limit Config.recentLimit s =
        (.ok (if limit.isNull then s.config.recentLimit else limit), s) := rfl
    rw [Registry.recentExecutions, bind_ok hfind, bind_ok hlimit, recentExecutions_inMemory h,
      ExecutionStore.listRecent_memory htexts h.traced, Execution.among_congr h.traced hids]
    rfl

/-- How the same evaluation for a workspace ends in two runs: with the same executions and the same
runs of processes. The triggers of the other workspaces are left as they were, and the rows that
were added are of triggers of the workspace. -/
structure EvaluatedAlike (w : String) (ts₁ ts₂ : Keyed Trigger) (rows₁ rows₂ : List Execution)
    (r₁ r₂ : Except Error (List Execution) × Automation) : Prop where
  executions : r₁.1 = r₂.1
  runs : r₁.2.orchestrator = r₂.2.orchestrator
  stores : ∃ ts₁' ts₂' added, InMemory r₁.2 ts₁' (rows₁ ++ added) ∧
    InMemory r₂.2 ts₂' (rows₂ ++ added) ∧
    Trigger.outside w ts₁' = Trigger.outside w ts₁ ∧
    Trigger.outside w ts₂' = Trigger.outside w ts₂ ∧
    Trigger.within w ts₁' = Trigger.within w ts₂' ∧
    ∀ e ∈ added, e.triggerId ∈ (Trigger.within w ts₁).keys

/-- The scene of two runs for a workspace. -/
def Scene.ofStores (w : String) (h₁ : Trigger.Filed ts₁) (ts₂ : Keyed Trigger)
    (rows₁ rows₂ : List Execution) : Scene where
  workspace := w
  ids := (Trigger.within w ts₁).keys
  texts := (h₁.within_texts w).text
  others₁ := Trigger.outside w ts₁
  others₂ := Trigger.outside w ts₂
  rows₁ := rows₁
  rows₂ := rows₂

theorem evaluate_alike (h₁ : InMemory s₁ ts₁ rows₁) (h₂ : InMemory s₂ ts₂ rows₂)
    (hcommon : Common s₁ s₂) (hwithin : Trigger.within w ts₁ = Trigger.within w ts₂)
    (type : TriggerType) (context : Value) : EvaluatedAlike w ts₁ ts₂ rows₁ rows₂
      (Engine.evaluate type context (.text w) s₁) (Engine.evaluate type context (.text w) s₂) := by
  have hbegin : Abreast (.ofStores w h₁.filed ts₂ rows₁ rows₂) s₁ s₂ := by
    refine ⟨hcommon, Trigger.within w ts₁, [], rfl, fun _ he => absurd he List.not_mem_nil, ?_, ?_⟩
    · exact ⟨ts₁, (List.append_nil rows₁).symm ▸ h₁, rfl, rfl⟩
    · exact ⟨ts₂, (List.append_nil rows₂).symm ▸ h₂, hwithin.symm, rfl⟩
  obtain ⟨houtcomes, hend⟩ := Engine.evaluate_agrees type context s₁ s₂ hbegin
  obtain ⟨mine, added, _, hadded, ⟨ts₁', h₁', hmine₁, hothers₁⟩, ts₂', h₂', hmine₂, hothers₂⟩ :=
    Abreast.seen hend
  exact ⟨houtcomes.eq, (Abreast.common hend).orchestrator, ts₁', ts₂', added, h₁', h₂', hothers₁,
    hothers₂, hmine₁.trans hmine₂.symm, hadded⟩

/-- The triggers of a workspace are found if their times of creation can be compared. -/
theorem find_returns (hcreated : ∀ e ∈ Trigger.within w ts,
      ∃ created, e.2.createdAt = .stamp created ∧ created.isAware = true) {f : TriggerFilter}
    (hf : f.workspaceId = some (.text w)) :
    ∃ found, (TriggerStore.memory ts).find f = .ok found := by
  rw [Trigger.find_within hf]
  obtain ⟨found, hfound, _⟩ := Trigger.find_memory (f := f) fun e he _ => hcreated e he
  exact ⟨found, hfound⟩

/-- Two runs that agree on what workspaces have in common, on the triggers of a workspace and on
their executions behave alike for that workspace, whatever else is stored: events are evaluated
alike and leave the other workspaces alone, and the same triggers and the same newest executions are
found. Nothing fails if the times of creation and of execution can be compared. -/
theorem workspaces_isolated (h₁ : InMemory s₁ ts₁ rows₁) (h₂ : InMemory s₂ ts₂ rows₂)
    (hcommon : Common s₁ s₂) (hwithin : Trigger.within w ts₁ = Trigger.within w ts₂)
    (hrows : Execution.among (Trigger.within w ts₁).keys rows₁ =
      Execution.among (Trigger.within w ts₁).keys rows₂) :
    (∀ type context, EvaluatedAlike w ts₁ ts₂ rows₁ rows₂
      (Engine.evaluate type context (.text w) s₁) (Engine.evaluate type context (.text w) s₂)) ∧
    (Registry.findByWorkspace (.text w) s₁).1 = (Registry.findByWorkspace (.text w) s₂).1 ∧
    (∀ limit, (Registry.recentExecutions (.text w) limit s₁).1 =
      (Registry.recentExecutions (.text w) limit s₂).1) ∧
    ((∀ e ∈ Trigger.within w ts₁,
        ∃ created, e.2.createdAt = .stamp created ∧ created.isAware = true) →
      (∀ type context, ∃ executions,
        (Engine.evaluate type context (.text w) s₁).1 = .ok executions) ∧
      (∃ found, (Registry.findByWorkspace (.text w) s₁).1 = .ok found) ∧
      ((∀ e ∈ Execution.among (Trigger.within w ts₁).keys rows₁,
          ∃ executed, e.executedAt = .stamp executed ∧ executed.isAware = true) →
        ∀ limit : Nat, ∃ executions,
          (Registry.recentExecutions (.text w) (.int limit) s₁).1 = .ok executions)) := by
  have hfind {f : TriggerFilter} (hf : f.workspaceId = some (.text w)) :
      (TriggerStore.memory ts₁).find f = (TriggerStore.memory ts₂).find f := by
    rw [Trigger.find_within hf ts₁, Trigger.find_within hf ts₂, hwithin]
  refine ⟨evaluate_alike h₁ h₂ hcommon hwithin, ?_, fun limit => ?_, fun hcreated =>
    ⟨fun type context => ?_, ?_, fun hexecuted limit => ?_⟩⟩
  · rw [findByWorkspace_inMemory h₁, findByWorkspace_inMemory h₂, hfind rfl]
  · rw [recentExecutions_within h₁, recentExecutions_within h₂, hfind rfl, hcommon.config, hrows,
      hwithin]
  · obtain ⟨found, hfound⟩ := find_returns hcreated
      (f := { workspaceId := some (.text w), type := some type, isActive := some (.bool true) }) rfl
    have hsearch := findActive_inMemory h₁ type w
    rw [hfound] at hsearch
    obtain ⟨s', hlog, _⟩ := log_quiet .engine Log.debug
      (s!"Evaluating {found.length} triggers of type " ++ type.name ++ " for workspace " ++
        (Value.text w).shown) s₁
    obtain ⟨executions, s'', hall⟩ := Engine.evaluateAll_returns context found s'
    exact ⟨executions, by rw [Engine.evaluate, bind_ok hsearch, bind_ok hlog, hall]⟩
  · obtain ⟨found, hfound⟩ := find_returns hcreated (f := { workspaceId := some (.text w) }) rfl
    exact ⟨found, by rw [findByWorkspace_inMemory h₁, hfound]⟩
  · obtain ⟨found, hfound⟩ := find_returns hcreated (f := { workspaceId := some (.text w) }) rfl
    obtain ⟨executions, hsort, _⟩ :=
      Value.sortNewestFirst_spec (Value.rankedOn_stamps Execution.executedAt) hexecuted
    rw [recentExecutions_within h₁, hfound]
    refine ⟨executions.take limit, ?_⟩
    have htake : Value.takeLimit (.int limit) executions = .ok (executions.take limit) := by
      simp [Value.takeLimit, Value.integer?]
    simp only [Value.isNull, bind, Except.bind]
    rw [hsort]
    exact htake

/-- A trigger of another workspace, which was fired once. -/
def neighbour : Trigger :=
  ⟨.text "n", .text "w2", .text "d1", .known .message, .object [], .object [], .bool true, .null,
    .null, .null, .null, .int 1, .stamp (Stamp.ofInstant Stamp.epoch),
    .stamp (Stamp.ofInstant Stamp.epoch)⟩

/-- The execution that the other workspace's trigger left. -/
def neighbourExecution : Execution :=
  ⟨.text "e", .text "n", .object [], .success, .text "r", .null,
    .stamp (Stamp.ofInstant Stamp.epoch)⟩

/-- The program with one rule, beside which another workspace has a trigger and an execution. -/
def besideNeighbour : Automation :=
  { Engine.oneRule with
    triggers := match Engine.oneRule.triggers with
      | .memory ts => .memory ((.text "n", neighbour) :: ts)
      | store => store
    executions := .memory [neighbourExecution] }

theorem workspaces_isolated_neighbour : ∃ executions ts added,
    (Engine.evaluate .message (.object []) (.text "w1") Engine.oneRule).1 = .ok executions ∧
    (Engine.evaluate .message (.object []) (.text "w1") besideNeighbour).1 = .ok executions ∧
    (Engine.evaluate .message (.object []) (.text "w1") besideNeighbour).2.triggers = .memory ts ∧
    Trigger.outside "w1" ts = [(.text "n", neighbour)] ∧
    (Engine.evaluate .message (.object []) (.text "w1") besideNeighbour).2.executions =
      .memory (neighbourExecution :: added) ∧ ∀ e ∈ added, e.triggerId = .text "id-1" := by
  obtain ⟨t, ht, hid, hisIn, hcreated⟩ : ∃ t,
      Engine.oneRule.triggers = .memory [(.text "id-1", t)] ∧ t.id = .text "id-1" ∧ t.isIn "w1" = true ∧
      ∃ created, t.createdAt = .stamp created ∧ created.isAware = true :=
    ⟨_, rfl, rfl, rfl, _, rfl, rfl⟩
  have hbeside : besideNeighbour.triggers =
      .memory [(.text "n", neighbour), (.text "id-1", t)] := by
    rw [besideNeighbour, ht]
  have hwithin : Trigger.within "w1" [(.text "id-1", t)] = [(.text "id-1", t)] :=
    List.filter_cons_of_pos (by exact hisIn)
  have hwithin' : Trigger.within "w1" [(.text "n", neighbour), (.text "id-1", t)] =
      [(.text "id-1", t)] := (List.filter_cons_of_neg (by decide)).trans hwithin
  have houtside : Trigger.outside "w1" [(.text "n", neighbour), (.text "id-1", t)] =
      [(.text "n", neighbour)] := by
    rw [Trigger.outside, List.filter_cons_of_pos (by decide), List.filter_cons_of_neg]
    · rfl
    · simp [hisIn]
  have hone : InMemory Engine.oneRule [(.text "id-1", t)] [] :=
    ⟨rfl, ht, ⟨⟨by simp [Keyed.keys], by simp [Keyed.keys]⟩, by simp [hid]⟩, rfl, by simp⟩
  have htwo : InMemory besideNeighbour [(.text "n", neighbour), (.text "id-1", t)]
      [neighbourExecution] :=
    ⟨rfl, hbeside, ⟨⟨by simp [Keyed.keys], by simp [Keyed.keys]⟩, by simp [hid, neighbour]⟩, rfl,
      by simp [neighbourExecution]⟩
  obtain ⟨halike, _, _, hreturns⟩ := workspaces_isolated (w := "w1") hone htwo
    ⟨rfl, rfl, rfl, rfl⟩ (hwithin.trans hwithin'.symm) (by rw [hwithin]; rfl)
  obtain ⟨hevaluates, _⟩ := hreturns (by rw [hwithin]; simpa using hcreated)
  obtain ⟨executions, hexecutions⟩ := hevaluates .message (.object [])
  obtain ⟨hsame, _, ts₁', ts₂', added, _, h₂', _, hothers, _, hadded⟩ :=
    halike .message (.object [])
  refine ⟨executions, ts₂', added, hexecutions, hsame ▸ hexecutions, h₂'.triggers,
    hothers.trans houtside, h₂'.executions, fun e he => ?_⟩
  have hmem := hadded e he
  rw [hwithin] at hmem
  exact List.mem_singleton.mp hmem

end Automation
end ProcessTriggers
