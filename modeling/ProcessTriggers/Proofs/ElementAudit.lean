import Mathlib.Data.List.Perm.Basic
import ProcessTriggers.Proofs.AuditSteps

/-!
The audit of elements is complete. However starts, jobs and the writing of audits follow on each
other, once all audits are written there is one record for each job that has an element and belongs
to a run that was started before it.
-/

namespace ProcessTriggers.Audit

open Action Automation
open Dispatcher (Delivery Standard)

variable {s s' F : Automation} {a : PendingAudit} {todo : List PendingAudit}

theorem filterMap_cons {α β : Type} (f : α → Option β) (x : α) (xs : List α) :
    (x :: xs).filterMap f = (f x).toList ++ xs.filterMap f := by
  cases h : f x <;> simp [h]

/-- The records that are there and those that are still due are the expected ones. The state `F` is
one that the program comes to later. -/
structure Progress (F : Automation) (expected : List Audited) (s : Automation)
    (todo : List PendingAudit) : Prop where
  perm : (s.runs.records.map (·.audited) ++ todo.filterMap (·.due s)).Perm expected
  aware : ∀ a ∈ todo, a.startedAt.isAware = true
  timely : ∀ a ∈ todo, (s.runOf a.runKey).isSome ∨ F.runOf a.runKey = none

namespace Progress

variable {expected : List Audited} {todo' : List PendingAudit}

theorem reorder (h : Progress F expected s todo) (hperm : todo.Perm todo') :
    Progress F expected s todo' where
  perm := ((hperm.filterMap _).symm.append_left _).trans h.perm
  aware a ha := h.aware a (hperm.mem_iff.mpr ha)
  timely a ha := h.timely a (hperm.mem_iff.mpr ha)

/-- New runs make no difference to the audits that are noted already. -/
theorem grow (h : Progress F expected s todo)
    (hruns : s.orchestrator.runs <+: s'.orchestrator.runs)
    (hF : s'.orchestrator.runs <+: F.orchestrator.runs)
    (hrecords : s'.runs.records = s.runs.records) : Progress F expected s' todo := by
  have hrun : ∀ a ∈ todo, s'.runOf a.runKey = s.runOf a.runKey :=
    fun a ha => runOf_eq hruns hF (h.timely a ha)
  have hdue : todo.filterMap (·.due s') = todo.filterMap (·.due s) :=
    List.filterMap_congr fun a ha => by rw [PendingAudit.due, PendingAudit.due, hrun a ha]
  refine ⟨?_, h.aware, fun a ha => ?_⟩
  · rw [hrecords, hdue]
    exact h.perm
  · rw [hrun a ha]
    exact h.timely a ha

theorem deliver (h : Progress F expected s todo) (hs : Auditing s) {d : Delivery}
    (htimely : (s.runOf d.runKey.shown).isSome ∨ F.runOf d.runKey.shown = none) :
    Progress F (expected ++ (d.audited s).toList) (Dispatcher.deliver d s).2
      (todo ++ [d.audit s]) := by
  obtain ⟨horchestrator, hrecords, -⟩ := deliver_runs hs d
  refine ⟨?_, fun a ha => ?_, fun a ha => ?_⟩
  · have hlast : [d.audit s].filterMap (·.due s) = (d.audited s).toList := by
      rw [filterMap_cons, List.filterMap_nil, d.due_audit, List.append_nil]
    simp only [hrecords, due_congr horchestrator]
    rw [List.filterMap_append, hlast, ← List.append_assoc]
    exact h.perm.append_right _
  · rcases List.mem_append.mp ha with ha | ha
    · exact h.aware a ha
    · rw [List.mem_singleton.mp ha]
      rfl
  · rw [runOf_congr horchestrator]
    rcases List.mem_append.mp ha with ha | ha
    · exact h.timely a ha
    · rw [List.mem_singleton.mp ha]
      exact htimely

theorem written (h : Progress F expected s (a :: todo)) (hs : Auditing s)
    (hwritten : Written a s s') : Progress F expected s' todo := by
  obtain ⟨horchestrator, hrecords, -⟩ := written_runs hwritten
  refine ⟨?_, fun b hb => h.aware b (List.mem_cons_of_mem a hb), fun b hb => ?_⟩
  · have hnow := audited_record? hs (h.aware a List.mem_cons_self)
    have hperm := h.perm
    rw [filterMap_cons, ← List.append_assoc] at hperm
    simp only [hrecords, due_congr horchestrator]
    rw [List.map_append, ← Option.toList_map, hnow]
    exact hperm
  · rw [runOf_congr horchestrator]
    exact h.timely b (List.mem_cons_of_mem a hb)

end Progress

/-- Of the keys that are asked for, `done` are those of the audits that are written, and nothing was
dropped from the cache. -/
structure Looked (F : Automation) (asked done : List String) (s : Automation)
    (todo : List PendingAudit) : Prop where
  keys : (done ++ todo.filterMap (·.asks)).Perm asked
  holds : s.dispatcher.cache.Holds (fun key => (F.runOf key).isSome) done s.runs.lookups

namespace Looked

variable {asked done : List String} {todo' : List PendingAudit}

theorem reorder (h : Looked F asked done s todo) (hperm : todo.Perm todo') :
    Looked F asked done s todo' where
  keys := ((hperm.filterMap _).symm.append_left _).trans h.keys
  holds := h.holds

/-- One more audit is written, while there is room in the cache for all runs that are asked for. -/
theorem written {bound : Int} {ks : List String} (h : Looked F asked done s (a :: todo))
    (hs : Auditing s) (hruns : s.orchestrator.runs <+: F.orchestrator.runs)
    (htimely : (s.runOf a.runKey).isSome ∨ F.runOf a.runKey = none)
    (hbound : s.dispatcher.cache.maxSize = .int bound)
    (hks : ∀ k ∈ asked, (F.runOf k).isSome = true → k ∈ ks) (hroom : (ks.length : Int) ≤ bound)
    (hwritten : Written a s s') : Looked F asked (a.asks.toList ++ done) s' todo := by
  obtain ⟨cache, n, ⟨hresolved, huntouched, hmisses⟩, hcore⟩ := hwritten
  obtain ⟨logged, metrics, events, statuses, rfl⟩ := eq_of_core hcore
  have hperm : (a.asks.toList ++ done ++ todo.filterMap (·.asks)).Perm asked := by
    have hkeys := h.keys
    rw [filterMap_cons, ← List.append_assoc] at hkeys
    exact (List.perm_append_comm.append_right _).trans hkeys
  refine ⟨hperm, ?_⟩
  cases helement : a.job.elementId.truthy with
  | false =>
    obtain rfl := huntouched helement
    obtain rfl : n = 0 := by simpa using hmisses
    rw [PendingAudit.asks, helement]
    exact h.holds
  | true =>
    have hasks : a.asks = some a.runKey := by rw [PendingAudit.asks, helement]; rfl
    rw [hasks] at hperm ⊢
    have hknown : (s.runs.linkages.lookup a.runKey).isSome = (F.runOf a.runKey).isSome := by
      rw [hs.lookup, Option.isSome_map]
      rcases htimely with hrun | hnone
      · rw [runOf_of_isSome hruns hrun]
      · rw [hnone, runOf_eq_none hruns hnone]
    exact (hresolved helement).holds hs.cached hbound
      (fun k hk => hks k (hperm.subset (List.mem_append_left _ hk))) hroom hknown hmisses h.holds

end Looked

/-- Everything that is kept while steps are taken and audits are written: `todo` are the audits that
remain, `expected` the records of all audits so far, and `asked` the keys that they ask for. The
runs among these have their keys in `ks`. -/
structure Account (F : Automation) (bound : Int) (ks : List String) (expected : List Audited)
    (asked : List String) (s : Automation) (todo : List PendingAudit) : Prop where
  known : ∀ k ∈ asked, (F.runOf k).isSome = true → k ∈ ks
  auditing : Auditing s
  runs : s.orchestrator.runs <+: F.orchestrator.runs
  progress : Progress F expected s todo
  maxSize : s.dispatcher.cache.maxSize = .int bound
  misses : s.runs.lookups = s.dispatcher.cache.misses
  looked : (ks.length : Int) ≤ bound → ∃ done, Looked F asked done s todo

namespace Account

variable {bound : Int} {expected : List Audited} {ks asked : List String}
  {todo' : List PendingAudit}

theorem reorder (h : Account F bound ks expected asked s todo) (hperm : todo.Perm todo') :
    Account F bound ks expected asked s todo' where
  known := h.known
  auditing := h.auditing
  runs := h.runs
  progress := h.progress.reorder hperm
  maxSize := h.maxSize
  misses := h.misses
  looked hroom := (h.looked hroom).imp fun _ hlooked => hlooked.reorder hperm

/-- Where the audits that are noted stand in the state does not matter. -/
theorem erase (h : Account F bound ks expected asked s todo) (pending : List PendingAudit) :
    Account F bound ks expected asked { s with dispatcher.pending := pending } todo where
  known := h.known
  auditing := h.auditing.erase pending
  runs := h.runs
  progress := ⟨h.progress.perm, h.progress.aware, h.progress.timely⟩
  maxSize := h.maxSize
  misses := h.misses
  looked hroom := (h.looked hroom).imp fun _ hlooked => ⟨hlooked.keys, hlooked.holds⟩

theorem written (h : Account F bound ks expected asked s (a :: todo)) (hwritten : Written a s s') :
    Account F bound ks expected asked s' todo where
  known := h.known
  auditing := h.auditing.written hwritten
  runs := by
    rw [(written_runs hwritten).1]
    exact h.runs
  progress := h.progress.written h.auditing hwritten
  maxSize := by
    obtain ⟨cache, n, hconsulted, hcore⟩ := hwritten
    obtain ⟨logged, metrics, events, statuses, rfl⟩ := eq_of_core hcore
    exact hconsulted.maxSize.trans h.maxSize
  misses := by
    obtain ⟨cache, n, hconsulted, hcore⟩ := hwritten
    obtain ⟨logged, metrics, events, statuses, rfl⟩ := eq_of_core hcore
    dsimp only
    rw [hconsulted.misses, h.misses]
  looked hroom := by
    obtain ⟨done, hlooked⟩ := h.looked hroom
    exact ⟨_, hlooked.written h.auditing h.runs (h.progress.timely a List.mem_cons_self) h.maxSize
      h.known hroom hwritten⟩

theorem deliver (h : Account F bound ks expected asked s todo) {d : Delivery}
    (htimely : (s.runOf d.runKey.shown).isSome ∨ F.runOf d.runKey.shown = none)
    (hknown : ∀ k ∈ asked ++ (Step.deliver d).asks.toList, (F.runOf k).isSome = true → k ∈ ks) :
    Account F bound ks (expected ++ (d.audited s).toList) (asked ++ (Step.deliver d).asks.toList)
      (Dispatcher.deliver d s).2 (todo ++ [d.audit s]) := by
  have hprogress := h.progress.deliver h.auditing htimely
  have hauditing := h.auditing.deliver d
  obtain ⟨s', hrun, hcore⟩ := Dispatcher.deliver_ends h.auditing.standard d
  obtain ⟨logged, metrics, events, statuses, rfl⟩ := eq_of_core hcore
  rw [hrun] at hprogress hauditing ⊢
  refine ⟨hknown, hauditing, h.runs, hprogress, h.maxSize, h.misses, fun hroom => ?_⟩
  obtain ⟨done, hkeys, hholds⟩ := h.looked hroom
  have hlast : [d.audit s].filterMap (·.asks) = (Step.deliver d).asks.toList := by
    rw [filterMap_cons, List.filterMap_nil, List.append_nil]
    rfl
  refine ⟨done, ?_, hholds⟩
  rw [List.filterMap_append, hlast, ← List.append_assoc]
  exact hkeys.append_right _

theorem begun {rs : List StartedRun} (h : Account F bound ks expected asked s todo)
    (hbegun : Begun rs s s') (hF : s'.orchestrator.runs <+: F.orchestrator.runs) :
    Account F bound ks expected asked s' todo := by
  have hauditing := h.auditing.begun hbegun
  obtain ⟨hruns, hrecords, -⟩ := begun_runs hbegun
  have hprogress := h.progress.grow ⟨rs, hruns.symm⟩ hF hrecords
  obtain ⟨orchestrator, supply, rfl, -⟩ := hbegun
  exact ⟨h.known, hauditing, hF, hprogress, h.maxSize, h.misses,
    fun hroom => (h.looked hroom).imp fun _ hlooked => ⟨hlooked.keys, hlooked.holds⟩⟩

theorem elapse (h : Account F bound ks expected asked s todo) (clock : Stamp) :
    Account F bound ks expected asked { s with clock } todo where
  known := h.known
  auditing := h.auditing.take (.elapse clock)
  runs := h.runs
  progress := ⟨h.progress.perm, h.progress.aware, h.progress.timely⟩
  maxSize := h.maxSize
  misses := h.misses
  looked hroom := (h.looked hroom).imp fun _ hlooked => ⟨hlooked.keys, hlooked.holds⟩

/-- A step leads from one account to the next. -/
theorem take {step : Step} (h : Account F bound ks expected asked s s.dispatcher.pending)
    (hF : (step.take s).orchestrator.runs <+: F.orchestrator.runs)
    (htimely : ∀ d, step = .deliver d →
      (s.runOf d.runKey.shown).isSome ∨ F.runOf d.runKey.shown = none)
    (hknown : ∀ k ∈ asked ++ step.asks.toList, (F.runOf k).isSome = true → k ∈ ks) :
    Account F bound ks (expected ++ (step.audited s).toList) (asked ++ step.asks.toList)
      (step.take s) (step.take s).dispatcher.pending := by
  cases step with
  | start definitionId vars options =>
    obtain ⟨rs, hbegun⟩ := start_begun h.auditing definitionId vars options
    have hbegins := h.begun hbegun hF
    rw [Step.take, (begun_runs hbegun).2.2]
    simpa [Step.audited, Step.asks] using hbegins
  | deliver d =>
    have hdelivers := h.deliver (htimely d rfl) hknown
    rw [Step.take, (deliver_runs h.auditing d).2.2]
    exact hdelivers
  | write i =>
    have hnothing : Account F bound ks (expected ++ (Step.audited (.write i) s).toList)
        (asked ++ (Step.asks (.write i)).toList) s s.dispatcher.pending := by
      simpa [Step.audited, Step.asks] using h
    rw [Step.take]
    split
    · exact hnothing
    · next a ha =>
      obtain ⟨hi, rfl⟩ := List.getElem?_eq_some_iff.mp ha
      have htaken := (hnothing.reorder (List.getElem_cons_eraseIdx_perm hi).symm).erase
        (s.dispatcher.pending.eraseIdx i)
      have hwritten := htaken.auditing.task s.dispatcher.pending[i]
      rw [(written_runs hwritten).2.2]
      exact htaken.written hwritten
  | elapse clock =>
    have helapses := h.elapse clock
    rw [Step.take]
    simpa [Step.audited, Step.asks] using helapses

/-- All audits that remain are written one after another. -/
theorem each (h : Account F bound ks expected asked s todo) :
    Account F bound ks expected asked (Action.each task todo s).2 [] := by
  induction todo generalizing s with
  | nil => exact h
  | cons a todo ih =>
    rw [h.auditing.each_cons]
    exact ih (h.written (h.auditing.task a))

theorem after {steps : List Step} (h : Account F bound ks expected asked s s.dispatcher.pending)
    (hF : Audit.after steps s = F)
    (htimely : ∀ before d later, steps = before ++ .deliver d :: later →
      ((Audit.after before s).runOf d.runKey.shown).isSome ∨ F.runOf d.runKey.shown = none)
    (hknown : ∀ k ∈ asked ++ Audit.asked steps, (F.runOf k).isSome = true → k ∈ ks) :
    Account F bound ks (expected ++ audited steps s) (asked ++ Audit.asked steps) F
      F.dispatcher.pending := by
  induction steps generalizing s expected asked with
  | nil =>
    obtain rfl : s = F := hF
    simpa [audited, Audit.asked] using h
  | cons step steps ih =>
    have hinitial : (step.take s).orchestrator.runs <+: F.orchestrator.runs :=
      hF ▸ runs_after (h.auditing.take step) steps
    rw [Audit.asked, filterMap_cons, ← List.append_assoc] at hknown ⊢
    rw [audited, ← List.append_assoc]
    have htaken := h.take hinitial (fun d hd => htimely [] d steps (by rw [hd]; rfl))
      fun k hk => hknown k (List.mem_append_left _ hk)
    exact ih htaken hF (fun before d later hsteps =>
      htimely (step :: before) d later (by rw [hsteps]; rfl)) hknown

end Account

/-- The program with an empty cache of some bound. -/
def caching (bound : Int) (s : Automation) : Automation :=
  { s with dispatcher.cache := { maxSize := .int bound } }

/-- Nothing has happened yet, and everything that audits need is in place. -/
structure Fresh (s : Automation) : Prop where
  standard : Standard s.dispatcher
  audits : s.dispatcher.audits = true
  pending : s.dispatcher.pending = []
  links : s.linksRuns = true
  finds : s.broken.lookup .findLinkage = none
  saves : s.broken.lookup .saveElementRecord = none
  runs : s.orchestrator.runs = []
  linkages : s.runs.linkages = []
  records : s.runs.records = []
  lookups : s.runs.lookups = 0

/-- Each job belongs to a run that was started before it, or to none that is ever started. -/
def Timely (steps : List Step) (s : Automation) : Prop :=
  ∀ before d later, steps = before ++ .deliver d :: later →
    ((after before s).runOf d.runKey.shown).isSome ∨
      (after steps s).runOf d.runKey.shown = none

theorem Fresh.auditing (h : Fresh s) (bound : Int) : Auditing (caching bound s) where
  standard := ⟨h.standard.handlings, h.standard.workers⟩
  audits := h.audits
  links := h.links
  finds := h.finds
  saves := h.saves
  linkages := by
    show s.runs.linkages = s.orchestrator.runs.map _
    rw [h.linkages, h.runs, List.map_nil]
  drawn r hr := by
    have hr : r ∈ s.orchestrator.runs := hr
    rw [h.runs] at hr
    cases hr
  cached := ⟨nofun, List.nodup_nil⟩

theorem Fresh.account (h : Fresh s) (bound : Int) {ks : List String} :
    Account F bound ks [] [] (caching bound s) (caching bound s).dispatcher.pending := by
  have hpending : (caching bound s).dispatcher.pending = [] := h.pending
  have hrecords : (caching bound s).runs.records = [] := h.records
  have hlookups : (caching bound s).runs.lookups = 0 := h.lookups
  have hruns : (caching bound s).orchestrator.runs = [] := h.runs
  rw [hpending]
  refine ⟨nofun, h.auditing bound, ?_, ⟨?_, nofun, nofun⟩, rfl, hlookups, fun _ => ⟨[], .nil, ?_⟩⟩
  · rw [hruns]
    exact List.nil_prefix
  · rw [hrecords]
    exact .nil
  · rw [hlookups]
    exact ⟨by simp [caching, Cache.keys], rfl⟩

/-- The runs that the audits of some steps ask for, each by its key and once. -/
def runsAsked (steps : List Step) (s : Automation) : List String :=
  ((asked steps).filter fun key => ((after steps s).runOf key).isSome).dedup

/-- The keys that belong to no run, as often as the audits of some steps ask for them. -/
def strangersAsked (steps : List Step) (s : Automation) : List String :=
  (asked steps).filter fun key => ((after steps s).runOf key).isNone

/-- Processes are started, jobs are handed out and their audits are written in any order, with a
cache of any bound, and at the end the audits that remain are written. Then there is a record for
each job that has an element and belongs to a run started before it, with that run's identifiers,
and no other record. The records are the same for every bound. The store is asked once for each miss
of the cache, and if all runs that are asked for fit into it, once for each of them and once for
each job without a run. -/
theorem elements_audited (hs : Fresh s) {bound : Int} {steps : List Step}
    (htimely : Timely steps (caching bound s)) :
    (drained steps (caching bound s)).dispatcher.pending = [] ∧
    ((drained steps (caching bound s)).runs.records.map (·.audited)).Perm
      (audited steps (caching bound s)) ∧
    (∀ bound', (drained steps (caching bound' s)).runs.records =
      (drained steps (caching bound s)).runs.records) ∧
    (drained steps (caching bound s)).runs.lookups =
      (drained steps (caching bound s)).dispatcher.cache.misses ∧
    (((runsAsked steps (caching bound s)).length : Int) ≤ bound →
      (drained steps (caching bound s)).runs.lookups =
        (runsAsked steps (caching bound s)).length +
          (strangersAsked steps (caching bound s)).length) := by
  have hstart : Account (after steps (caching bound s)) bound (runsAsked steps (caching bound s))
      [] [] (caching bound s) (caching bound s).dispatcher.pending := hs.account bound
  have hsteps := hstart.after rfl htimely fun k hk hrun =>
    List.mem_dedup.mpr (List.mem_filter.mpr ⟨hk, hrun⟩)
  have hend := (hsteps.erase []).each
  rw [← settle_eq] at hend
  refine ⟨?_, ?_, fun bound' => ?_, hend.misses, fun hroom => ?_⟩
  · rw [drained, settle_eq, each_pending (hsteps.auditing.erase [])]
  · simpa [drained] using hend.progress.perm
  · have hrecords : (plain (drained steps (caching bound' s))).runs.records =
        (plain (drained steps (caching bound s))).runs.records := by
      rw [drained_plain (hs.auditing bound') (hs.auditing bound) rfl steps]
    exact hrecords
  · obtain ⟨done, hkeys, hholds⟩ := hend.looked hroom
    rw [List.filterMap_nil, List.append_nil, List.nil_append] at hkeys
    have hstrangers : done.countP (fun key => !((after steps (caching bound s)).runOf key).isSome) =
        (strangersAsked steps (caching bound s)).length := by
      rw [strangersAsked, ← List.countP_eq_length_filter, hkeys.countP_eq]
      simp only [Option.not_isSome]
    rw [drained, hholds.lookups, hholds.length_eq hend.auditing.cached, hstrangers, runsAsked,
      (hkeys.filter _).dedup.length_eq]

/-- A process can be started, and nothing has happened yet. -/
def deployed : Automation :=
  { clock := Stamp.ofInstant Stamp.epoch
    orchestrator := { definitions :=
      [(.text "d1", ⟨.text "d1", .text "w1", .null, .text "k1"⟩)] }
    dispatcher := { workers := Handling.standardTable.map (·.1.name) } }

/-- A job of a run, whose handler fails. -/
def ownJob : Delivery where
  services := [(.entityStore, [])]
  kind := .createEntity
  runKey := .text "2"
  elementId := .text "task"

/-- A job without a run. -/
def strangeJob : Delivery where
  services := []
  kind := .logActivity
  runKey := .text "x"
  elementId := .text "task"

/-- A run and two jobs, of which the audit of the second is written first. -/
def oneRun : List Step :=
  [.start (.text "d1") (.object []) {}, .deliver ownJob, .deliver strangeJob, .write 1]

theorem elements_audited_oneRun :
    (drained oneRun (caching 1 deployed)).runs.records.map (·.audited) =
      [⟨.text "id-1", .text "d1", .text "task", .text "failed", Stamp.ofInstant Stamp.epoch,
        .text "create-entity"⟩] ∧
    (drained oneRun (caching 1 deployed)).runs.lookups = 2 := by
  have hfresh : Fresh deployed := ⟨⟨rfl, rfl⟩, rfl, rfl, rfl, rfl, rfl, rfl, rfl, rfl, rfl⟩
  have htimely : Timely oneRun (caching 1 deployed) := by
    intro before d later hsteps
    rcases before with _ | ⟨_, _ | ⟨_, _ | ⟨_, _ | ⟨_, before⟩⟩⟩⟩
    · cases hsteps
    · cases hsteps
      exact .inl rfl
    · cases hsteps
      exact .inr rfl
    · cases hsteps
    · cases before <;> cases hsteps
  obtain ⟨-, hrecords, -, -, hlookups⟩ := elements_audited hfresh htimely
  have hone : audited oneRun (caching 1 deployed) =
    [⟨.text "id-1", .text "d1", .text "task", .text "failed", Stamp.ofInstant Stamp.epoch,
        .text "create-entity"⟩] := rfl
  have hruns : runsAsked oneRun (caching 1 deployed) = ["2"] := rfl
  have hstrangers : strangersAsked oneRun (caching 1 deployed) = ["x"] := rfl
  rw [hruns, hstrangers] at hlookups
  rw [hone] at hrecords
  exact ⟨List.perm_singleton.mp hrecords, hlookups (by decide)⟩

end ProcessTriggers.Audit
