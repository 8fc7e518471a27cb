import ProcessTriggers.Proofs.Operations
import ProcessTriggers.Proofs.Sorting

/-!
What every run of the program in memory keeps: the identifiers of the stored triggers and of the
runs were given out by the supply, each once, and every trigger bears the time of its creation.
-/

namespace ProcessTriggers

open Action Automation

namespace Trigger

/-- The instant at which a trigger was created. -/
def creation (t : Trigger) : Instant :=
  match t.createdAt with
  | .stamp created => created.instant
  | _ => 0

/-- The triggers in memory that are looked for are found, the newest first. -/
theorem find_memory {ts : Keyed Trigger} {f : TriggerFilter}
    (h : ∀ e ∈ ts, e.2.isAmong f = true →
      ∃ created, e.2.createdAt = .stamp created ∧ created.isAware = true) :
    ∃ found, (TriggerStore.memory ts).find f = .ok found ∧
      found.Perm (ts.items.filter (·.isAmong f)) ∧
      found.Pairwise fun t t' => t'.creation ≤ t.creation := by
  have hstamped : ∀ t ∈ ts.items.filter (·.isAmong f),
      ∃ created, t.createdAt = .stamp created ∧ created.isAware = true := by
    intro t ht
    obtain ⟨hitem, hamong⟩ := List.mem_filter.mp ht
    obtain ⟨k, hmem⟩ := Keyed.mem_items.mp hitem
    exact h _ hmem hamong
  have hranked : Value.RankedOn (·.createdAt) Trigger.creation fun t : Trigger =>
      ∃ created, t.createdAt = .stamp created ∧ created.isAware = true :=
    Value.rankedOn_stamps Trigger.createdAt
  exact Value.sortNewestFirst_spec hranked hstamped

/-- Triggers in memory that are kept under their own identifiers. -/
structure Filed (ts : Keyed Trigger) : Prop where
  texts : Keyed.Texts ts
  own : ∀ e ∈ ts, e.2.id = e.1

namespace Filed

variable {f : TriggerFilter} {ts : Keyed Trigger} {found : List Trigger}

/-- A trigger that is found is kept under its identifier. -/
theorem mem_of_find (h : Filed ts) (hfind : (TriggerStore.memory ts).find f = .ok found)
    {t : Trigger} (ht : t ∈ found) : (t.id, t) ∈ ts ∧ t.isAmong f = true := by
  obtain ⟨hitem, hamong⟩ :=
    List.mem_filter.mp ((Value.sortNewestFirst_perm hfind).mem_iff.mp ht)
  obtain ⟨key, hmem⟩ := Keyed.mem_items.mp hitem
  have hown : t.id = key := h.own _ hmem
  exact ⟨hown ▸ hmem, hamong⟩

theorem distinct_of_find (h : Filed ts) (hfind : (TriggerStore.memory ts).find f = .ok found) :
    (found.map (·.id)).Nodup := by
  have hids : ts.items.map (·.id) = ts.keys := by
    rw [Keyed.items, Keyed.keys, List.map_map]
    exact List.map_congr_left fun e he => h.own e he
  rw [((Value.sortNewestFirst_perm hfind).map _).nodup_iff]
  exact (hids ▸ h.texts.nodup).sublist (List.filter_sublist.map _)

end Filed

/-- Triggers in memory as the registry leaves them: kept under their own identifiers, which the
supply gave out in this order, with the time of their creation. -/
structure Table (supply : Supply) (ts : Keyed Trigger) : Prop where
  issued : ∃ ids, ts.keys = ids.map Value.text ∧ Supply.Issued 0 supply.drawn ids
  own : ∀ e ∈ ts, e.2.id = e.1
  created : ∀ e ∈ ts, ∃ created, e.2.createdAt = .stamp created ∧ created.isAware = true

namespace Table

variable {supply supply' : Supply} {ts ts' : Keyed Trigger}

theorem nil (supply : Supply) : Table supply [] :=
  ⟨⟨[], rfl, .nil _ _⟩, fun _ h => absurd h List.not_mem_nil, fun _ h => absurd h List.not_mem_nil⟩

theorem texts (h : Table supply ts) : Keyed.Texts ts := by
  obtain ⟨ids, hkeys, hissued⟩ := h.issued
  constructor
  · intro k hk
    rw [hkeys] at hk
    obtain ⟨id, _, rfl⟩ := List.mem_map.mp hk
    exact ⟨id, rfl⟩
  · rw [hkeys]
    exact hissued.nodup.map fun a b heq => Value.text.inj heq

theorem mono (h : Table supply ts) (hle : supply.drawn ≤ supply'.drawn) : Table supply' ts := by
  obtain ⟨ids, hkeys, hissued⟩ := h.issued
  exact ⟨⟨ids, hkeys, hissued.mono (Nat.le_refl _) hle⟩, h.own, h.created⟩

/-- The next identifier is that of no stored trigger. -/
theorem next_not_mem (h : Table supply ts) :
    Value.text (Supply.idText (supply.drawn + 1)) ∉ ts.keys := by
  obtain ⟨ids, hkeys, hissued⟩ := h.issued
  rw [hkeys]
  intro hmem
  obtain ⟨id, hid, heq⟩ := List.mem_map.mp hmem
  exact hissued.next_not_mem (Value.text.inj heq ▸ hid)

theorem put_new (h : Table supply ts) {t : Trigger}
    (hid : t.id = .text (Supply.idText (supply.drawn + 1)))
    (hcreated : ∃ created, t.createdAt = .stamp created ∧ created.isAware = true) :
    Table ⟨supply.drawn + 1⟩ (ts.put t.id t) := by
  have hfresh := h.next_not_mem
  have hput : ts.put t.id t = ts ++ [(t.id, t)] := h.texts.put_of_not_mem (hid ▸ hfresh)
  obtain ⟨ids, hkeys, hissued⟩ := h.issued
  rw [hput]
  refine ⟨⟨ids ++ [Supply.idText (supply.drawn + 1)], ?_, ?_⟩, fun e he => ?_, fun e he => ?_⟩
  · rw [Keyed.keys, List.map_append, List.map_append, ← hkeys, List.map_singleton,
      List.map_singleton, hid]
    rfl
  · exact hissued.append (.single (Nat.lt_succ_self _) (Nat.le_refl _)) (Nat.zero_le _)
      (Nat.le_succ _)
  · rcases List.mem_append.mp he with he | he
    · exact h.own e he
    · rw [List.mem_singleton.mp he]
  · rcases List.mem_append.mp he with he | he
    · exact h.created e he
    · rw [List.mem_singleton.mp he]
      exact hcreated

theorem put_amended (h : Table supply ts) {id : Value} {t t' : Trigger} (hmem : (id, t) ∈ ts)
    (hamends : t.Amends t') : Table supply (ts.put t'.id t') := by
  have hid : t'.id = id := hamends.id.trans (h.own _ hmem)
  have hkey : t'.id ∈ ts.keys := hid ▸ Keyed.mem_keys hmem
  have hkeys := h.texts.keys_put_of_mem (x := t') hkey
  refine ⟨by rw [hkeys]; exact h.issued, fun e he => ?_, fun e he => ?_⟩
  · rcases h.texts.mem_put.mp he with rfl | ⟨he, _⟩
    · rfl
    · exact h.own e he
  · rcases h.texts.mem_put.mp he with rfl | ⟨he, _⟩
    · obtain ⟨created, hcreated, haware⟩ := h.created _ hmem
      exact ⟨created, hamends.createdAt.trans hcreated, haware⟩
    · exact h.created e he

theorem erase (h : Table supply ts) (key : Value) : Table supply (ts.erase key) := by
  obtain ⟨ids, hkeys, hissued⟩ := h.issued
  have hsub := Keyed.Texts.erase_sublist ts key
  rw [hkeys] at hsub
  obtain ⟨ids', hids', hkeys'⟩ := List.sublist_map_iff.mp hsub
  exact ⟨⟨ids', hkeys', hissued.sublist hids'⟩, fun e he => h.own e (List.mem_of_mem_filter he),
    fun e he => h.created e (List.mem_of_mem_filter he)⟩

/-- Starts of triggers do not show in the table. -/
theorem ofRules (h : Table supply ts)
    (hrules : (TriggerStore.memory ts').rules = (TriggerStore.memory ts).rules) :
    Table supply ts' := by
  have hmap := TriggerStore.memory.inj hrules
  have hkeys : ts'.keys = ts.keys := by
    have hfst := congrArg (List.map Prod.fst) hmap
    rwa [List.map_map, List.map_map] at hfst
  have hrule : ∀ e' ∈ ts', ∃ e ∈ ts, e.1 = e'.1 ∧ e.2.rule = e'.2.rule := fun e' he' =>
    TriggerStore.mem_of_rules hrules he'
  refine ⟨by rw [hkeys]; exact h.issued, fun e' he' => ?_, fun e' he' => ?_⟩
  · obtain ⟨e, he, hkey, hrule⟩ := hrule e' he'
    have hid : e'.2.id = e.2.id := (congrArg Trigger.id hrule).symm
    rw [hid, h.own e he, hkey]
  · obtain ⟨e, he, _, hrule⟩ := hrule e' he'
    obtain ⟨created, hcreated, haware⟩ := h.created e he
    exact ⟨created, (congrArg Trigger.createdAt hrule).symm.trans hcreated, haware⟩

theorem filed (h : Table supply ts) : Filed ts := ⟨h.texts, h.own⟩

theorem find_run (h : Table supply ts) (f : TriggerFilter) :
    ∃ found, (TriggerStore.memory ts).find f = .ok found ∧
      found.Perm (ts.items.filter (·.isAmong f)) ∧
      found.Pairwise fun t t' => t'.creation ≤ t.creation :=
  find_memory fun e he _ => h.created e he

end Table
end Trigger

namespace Automation

/-- A search in memory that is not broken is answered by the store at once. -/
theorem findTriggers_inMemory {s : Automation} {ts : Keyed Trigger} (hbroken : s.broken = [])
    (hts : s.triggers = .memory ts) (f : TriggerFilter) :
    findTriggers f s = ((TriggerStore.memory ts).find f, s) := by
  have hmemory : s.isRelational .triggers = false := by rw [isRelational, hts]
  rw [findTriggers, reaching_run _ _ _ _ hbroken hmemory, bind_get, hts]
  rfl

theorem getTrigger_inMemory {s : Automation} {ts : Keyed Trigger} (hbroken : s.broken = [])
    (hts : s.triggers = .memory ts) (id : Value) :
    getTrigger id s = ((TriggerStore.memory ts).get id, s) := by
  have hmemory : s.isRelational .triggers = false := by rw [isRelational, hts]
  rw [getTrigger, reaching_run _ _ _ _ hbroken hmemory, bind_get, hts]
  rfl

/-- A state of a program that keeps its records in memory. -/
structure WellFormed (s : Automation) : Prop where
  unbroken : s.broken = []
  table : ∃ ts, s.triggers = .memory ts ∧ Trigger.Table s.supply ts
  log : ∃ rows, s.executions = .memory rows
  noHangs : s.orchestrator.hangs = 0
  issued : Supply.Issued 0 s.supply.drawn (s.orchestrator.runs.map (·.handle.id))

/-- A program that has not done anything yet. -/
structure Fresh (s : Automation) : Prop where
  unbroken : s.broken = []
  triggers : s.triggers = .memory []
  executions : s.executions = .memory []
  runs : s.orchestrator.runs = []
  hangs : s.orchestrator.hangs = 0
  scheduler : s.scheduler = {}
  gauge : s.metrics.timers = 0

theorem Fresh.wellFormed {s : Automation} (h : Fresh s) : WellFormed s where
  unbroken := h.unbroken
  table := ⟨[], h.triggers, .nil _⟩
  log := ⟨[], h.executions⟩
  noHangs := h.hangs
  issued := by
    rw [h.runs]
    exact .nil _ _

namespace WellFormed

variable {s s' : Automation}

theorem ofGrown (h : WellFormed s) (hgrown : Grown s s') : WellFormed s' where
  unbroken := hgrown.broken.trans h.unbroken
  table := by
    obtain ⟨ts, hts, htable⟩ := h.table
    have hrules := hgrown.rules
    rw [hts] at hrules
    cases hts' : s'.triggers with
    | relation rows =>
      rw [hts'] at hrules
      cases hrules
    | memory ts' =>
      rw [hts'] at hrules
      exact ⟨ts', rfl, (htable.ofRules hrules).mono hgrown.supply⟩
  log := by
    obtain ⟨rows, hrows⟩ := h.log
    have hextends := hgrown.executions
    rw [hrows] at hextends
    cases hrows' : s'.executions with
    | memory rows' => exact ⟨rows', rfl⟩
    | relation rows' =>
      rw [hrows'] at hextends
      exact hextends.elim
  noHangs := Nat.le_zero.mp (h.noHangs ▸ hgrown.hangs)
  issued := by
    obtain ⟨added, hruns, hids⟩ := hgrown.runs
    rw [hruns, List.map_append]
    exact h.issued.append hids (Nat.zero_le _) hgrown.supply

theorem ofQuiet (h : WellFormed s) (hquiet : Quiet s s') : WellFormed s' :=
  h.ofGrown (.ofQuiet hquiet)

/-- Other triggers in the place of the stored ones, and identifiers drawn for them. -/
theorem withTable (h : WellFormed s) {supply : Supply} {ts : Keyed Trigger}
    (hle : s.supply.drawn ≤ supply.drawn) (htable : Trigger.Table supply ts) :
    WellFormed { s with supply, triggers := .memory ts } where
  unbroken := h.unbroken
  table := ⟨ts, rfl, htable⟩
  log := h.log
  noHangs := h.noHangs
  issued := h.issued.mono (Nat.le_refl _) hle

theorem ofTold (h : WellFormed s) {t : Trigger} {deleted : Bool}
    (htold : Registry.notify t deleted s = (.ok ⟨⟩, s')) : WellFormed s' :=
  h.ofGrown (.ofRetimed (Registry.retimed_of_told htold).1)

theorem ofChanged (h : WellFormed s) (hchanged : Registry.Changed s s') : WellFormed s' := by
  obtain ⟨ts, hts, htable⟩ := h.table
  cases hchanged with
  | nothing fired => exact h.ofGrown (.ofFired fired)
  | @created t store s₁ s' id createdAt inserted stored told =>
    rw [hts, TriggerStore.insert, id] at inserted
    cases inserted
    have hnew := htable.put_new id ⟨_, createdAt, rfl⟩
    rw [id] at hnew
    exact ((h.withTable (Nat.le_succ _) hnew).ofQuiet stored).ofTold told
  | @amended id t t' store s₁ s' found amends saved stored told =>
    rw [hts] at found saved
    obtain ⟨key, hkey, found⟩ := exists_of_bind_eq_ok found
    have hmem := htable.texts.get?_eq_some_iff.mp (Except.ok.inj found)
    obtain ⟨key', hkey', saved⟩ := exists_of_bind_eq_ok saved
    rw [Value.asKey_eq_ok hkey'] at saved
    split at saved
    · cases saved
      have hput := htable.put_amended hmem amends
      exact ((h.withTable (Nat.le_refl _) hput).ofQuiet stored).ofTold told
    · cases saved
  | @removed id t b store s₁ s₂ s' found quiet told deleted stored =>
    have h₂ := (h.ofQuiet quiet).ofTold told
    obtain ⟨ts₂, hts₂, htable₂⟩ := h₂.table
    rw [hts₂] at deleted
    obtain ⟨key, _, deleted⟩ := exists_of_bind_eq_ok deleted
    cases deleted
    exact (h₂.withTable (Nat.le_refl _) (htable₂.erase key)).ofQuiet stored
  | kept found quiet told stored => exact ((h.ofQuiet quiet).ofTold told).ofQuiet stored

theorem cancelRun (h : WellFormed s) (id : Value) :
    WellFormed ((Operation.cancelRun id).perform s).2 := by
  rw [Operation.perform, bind_get]
  cases hcancel : s.orchestrator.cancel id with
  | error e =>
    rw [bind_ofExcept_error rfl]
    exact h
  | ok o =>
    rw [bind_ofExcept rfl]
    rw [Orchestrator.cancel] at hcancel
    split at hcancel
    · next runs hruns =>
      cases hcancel
      have hids : runs.map (·.handle.id) = s.orchestrator.runs.map (·.handle.id) := by
        have hhandles := congrArg (List.map RunHandle.id) (Orchestrator.cancelRun_handles hruns)
        rwa [List.map_map, List.map_map] at hhandles
      have hissued : Supply.Issued 0 s.supply.drawn (runs.map (·.handle.id)) := by
        rw [hids]
        exact h.issued
      exact { h with issued := hissued }
    · cases hcancel

/-- Every operation keeps a program in memory well formed. -/
theorem perform (h : WellFormed s) (op : Operation) : WellFormed (op.perform s).2 := by
  cases op with
  | create data userId =>
    rw [Operation.perform, discard_run]
    exact h.ofChanged (Registry.create_changed data userId s)
  | update id changes =>
    rw [Operation.perform, discard_run]
    exact h.ofChanged (Registry.update_changed id changes s)
  | toggle id =>
    rw [Operation.perform, discard_run]
    exact h.ofChanged (Registry.toggle_changed id s)
  | delete id => exact h.ofChanged (Registry.delete_changed id s)
  | listen listener => exact { h with }
  | cancelRun id => exact h.cancelRun id
  | _ =>
    refine h.ofGrown (Operation.perform_grows ?_ s)
    trivial

theorem after (h : WellFormed s) (ops : List Operation) : WellFormed (s.after ops) :=
  after_induction h fun op _ _ h => h.perform op

end WellFormed

/-- The states of a program that keeps its records in memory and began with none. -/
def Reachable (s : Automation) : Prop := ∃ s₀ ops, Fresh s₀ ∧ s = s₀.after ops

theorem Reachable.wellFormed {s : Automation} (h : Reachable s) : WellFormed s := by
  obtain ⟨s₀, ops, hfresh, rfl⟩ := h
  exact hfresh.wellFormed.after ops

namespace WellFormed

variable {s : Automation}

/-- The triggers that are looked for, the newest first. -/
theorem findTriggers_run (h : WellFormed s) {ts : Keyed Trigger} (hts : s.triggers = .memory ts)
    (f : TriggerFilter) :
    ∃ found, findTriggers f s = (.ok found, s) ∧ found.Perm (ts.items.filter (·.isAmong f)) ∧
      found.Pairwise fun t t' => t'.creation ≤ t.creation := by
  obtain ⟨ts', hts', htable⟩ := h.table
  obtain rfl := TriggerStore.memory.inj (hts.symm.trans hts')
  obtain ⟨found, hfind, hperm, hfalling⟩ := htable.find_run f
  refine ⟨found, ?_, hperm, hfalling⟩
  rw [findTriggers_inMemory h.unbroken hts, hfind]

end WellFormed
end Automation
end ProcessTriggers
