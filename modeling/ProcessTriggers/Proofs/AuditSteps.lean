import ProcessTriggers.Proofs.Firing
import ProcessTriggers.Proofs.LinkageCache

/-!
Processes are started, jobs are handed out, and the audits of the jobs are written at any later
time. What one of these steps does to the runs, to the records and to the audits that are noted does
not depend on the cache of linkages.
-/

namespace ProcessTriggers

open Action Automation

/-- What an element's record says, whenever it is written. -/
structure Audited where
  instanceId : Value
  definitionId : Value
  elementId : Value
  status : Value
  startedAt : Stamp
  workerType : Value

def ElementRecord.audited (r : ElementRecord) : Audited :=
  ⟨r.instanceId, r.definitionId, r.elementId, r.status, r.startedAt, r.workerType⟩

/-- The run behind a key. -/
def Automation.runOf (s : Automation) (key : String) : Option StartedRun :=
  s.orchestrator.runs.find? (key == ·.handle.key)

namespace PendingAudit

def runKey (a : PendingAudit) : String := a.job.runKey.shown

/-- The key that an audit asks for: none if the job has no element. -/
def asks (a : PendingAudit) : Option String :=
  if a.job.elementId.truthy then some a.runKey else none

/-- What the record of an audit will say. -/
def due (a : PendingAudit) (s : Automation) : Option Audited :=
  if a.job.elementId.truthy then
    (s.runOf a.runKey).map fun r => {
      instanceId := .text r.handle.id
      definitionId := r.handle.definitionId
      elementId := a.job.elementId
      status := a.status
      startedAt := a.startedAt
      workerType := a.job.type.orElse .null }
  else none

end PendingAudit

namespace Dispatcher.Delivery

/-- The audit that is noted for a delivery. -/
def audit (d : Delivery) (s : Automation) : PendingAudit :=
  ⟨d.job s, .text (Audit.statusOf (d.outcome s)), Stamp.ofInstant s.clock.instant,
    Log.bind s.bound (correlation d.kind (d.job s))⟩

/-- What is to be recorded for a delivery: nothing if it has no element, or belongs to no run that
was started. -/
def audited (d : Delivery) (s : Automation) : Option Audited :=
  if d.elementId.truthy then
    (s.runOf d.runKey.shown).map fun r => {
      instanceId := .text r.handle.id
      definitionId := r.handle.definitionId
      elementId := d.elementId
      status := .text (Audit.statusOf (d.outcome s))
      startedAt := Stamp.ofInstant s.clock.instant
      workerType := .text d.kind.name }
  else none

theorem due_audit (d : Delivery) (s : Automation) : (d.audit s).due s = d.audited s := by
  have htype : (Value.text d.kind.name).orElse .null = .text d.kind.name := by
    cases d.kind <;> rfl
  rw [PendingAudit.due, audited]
  simp only [audit, job, PendingAudit.runKey, htype, Value.shown]

end Dispatcher.Delivery

namespace Audit

open Dispatcher (Delivery Standard)

/-- What can happen: a process is started, a job is handed out, the audit at some place among those
that are noted is written, and time passes. -/
inductive Step
  | start (definitionId vars : Value) (options : StartOptions)
  | deliver (d : Delivery)
  | write (i : Nat)
  | elapse (clock : Stamp)

namespace Step

def take : Step → Automation → Automation
  | .start definitionId vars options, s => (startProcess definitionId vars options s).2
  | .deliver d, s => (Dispatcher.deliver d s).2
  | .write i, s =>
    match s.dispatcher.pending[i]? with
    | none => s
    | some a => (task a { s with dispatcher.pending := s.dispatcher.pending.eraseIdx i }).2
  | .elapse clock, s => { s with clock }

/-- What is to be recorded for a step. -/
def audited : Step → Automation → Option Audited
  | .deliver d, s => d.audited s
  | _, _ => none

/-- The key of the run that the audit of a step asks for. -/
def asks : Step → Option String
  | .deliver d => if d.elementId.truthy then some d.runKey.shown else none
  | _ => none

end Step

/-- The state after some steps. -/
def after (steps : List Step) (s : Automation) : Automation :=
  steps.foldl (fun s step => step.take s) s

/-- The state after some steps, once all audits are written. -/
def drained (steps : List Step) (s : Automation) : Automation := (settle (after steps s)).2

/-- What is to be recorded for some steps. -/
def audited : List Step → Automation → List Audited
  | [], _ => []
  | step :: steps, s => (step.audited s).toList ++ audited steps (step.take s)

/-- The keys that the audits of some steps ask for. -/
def asked (steps : List Step) : List String := steps.filterMap Step.asks

variable {s s' F : Automation} {a : PendingAudit}

/-- The jobs are audited, the runs are linked under keys drawn from the supply, the store answers,
and the cache agrees with it. -/
structure Auditing (s : Automation) : Prop where
  standard : Standard s.dispatcher
  audits : s.dispatcher.audits = true
  links : s.linksRuns = true
  finds : s.broken.lookup .findLinkage = none
  saves : s.broken.lookup .saveElementRecord = none
  linkages : s.runs.linkages = s.orchestrator.runs.map fun r => (r.handle.key, r.linkage)
  drawn : ∀ r ∈ s.orchestrator.runs, ∃ n ≤ s.supply.drawn, r.handle.key = toString n
  cached : Cached s

namespace Auditing

theorem of_core (h : Auditing s) (hcore : s'.core = s.core) : Auditing s' := by
  obtain ⟨logged, metrics, events, statuses, rfl⟩ := eq_of_core hcore
  exact ⟨h.standard, h.audits, h.links, h.finds, h.saves, h.linkages, h.drawn, h.cached⟩

theorem lookup (h : Auditing s) (key : String) :
    s.runs.linkages.lookup key = (s.runOf key).map StartedRun.linkage := by
  rw [h.linkages, runOf]
  induction s.orchestrator.runs with
  | nil => rfl
  | cons r rs ih =>
    rw [List.map_cons, List.lookup_cons, List.find?_cons]
    cases key == r.handle.key with
    | true => rfl
    | false => exact ih

theorem task (h : Auditing s) (a : PendingAudit) : Written a s (task a s).2 :=
  (task_written h.cached h.finds h.saves a).choose_spec.2

theorem each_cons (h : Auditing s) (a : PendingAudit) (todo : List PendingAudit) :
    (each Audit.task (a :: todo) s).2 = (each Audit.task todo (Audit.task a s).2).2 := by
  obtain ⟨r, hr, -⟩ := task_written h.cached h.finds h.saves a
  have hrun : Audit.task a s = (.ok r, (Audit.task a s).2) := Prod.ext hr rfl
  rw [each, bind_ok hrun]

theorem written (h : Auditing s) (hwritten : Written a s s') : Auditing s' := by
  obtain ⟨cache, n, hconsulted, hcore⟩ := hwritten
  have hstandard : Standard { s.dispatcher with cache := cache } :=
    ⟨h.standard.handlings, h.standard.workers⟩
  refine of_core ?_ hcore
  exact ⟨hstandard, h.audits, h.links, h.finds, h.saves, h.linkages, h.drawn,
    hconsulted.reflects h.cached⟩

theorem deliver (h : Auditing s) (d : Delivery) : Auditing (Dispatcher.deliver d s).2 := by
  obtain ⟨s', hrun, hcore⟩ := Dispatcher.deliver_ends h.standard d
  have hstandard : Standard (d.left s).dispatcher := ⟨h.standard.handlings, h.standard.workers⟩
  have hdrawn : ∀ r ∈ s.orchestrator.runs, ∃ n ≤ s.supply.drawn + 1, r.handle.key = toString n := by
    intro r hr
    obtain ⟨n, hn, hkey⟩ := h.drawn r hr
    exact ⟨n, Nat.le_succ_of_le hn, hkey⟩
  rw [hrun]
  refine of_core ?_ hcore
  exact ⟨hstandard, h.audits, h.links, h.finds, h.saves, h.linkages, hdrawn, h.cached⟩

end Auditing

/-- What is left after the start of a process: there may be a new run, which is linked under the key
that was drawn last. -/
def Begun (rs : List StartedRun) (s s' : Automation) : Prop := ∃ orchestrator supply,
  s' = { s with
    orchestrator, supply
    runs := { s.runs with
      linkages := s.runs.linkages ++ rs.map fun r => (r.handle.key, r.linkage) } } ∧
  orchestrator.runs = s.orchestrator.runs ++ rs ∧ s.supply.drawn ≤ supply.drawn ∧
  ∀ r ∈ rs, r.handle.key = toString supply.drawn ∧ s.supply.drawn < supply.drawn

theorem start_begun (h : Auditing s) (definitionId vars : Value) (options : StartOptions) :
    ∃ rs, Begun rs s (startProcess definitionId vars options s).2 := by
  have hstarted := s.orchestrator.startProcess_started s.supply definitionId vars options
  rw [startProcess_eq]
  generalize s.orchestrator.startProcess s.supply definitionId vars options = r at hstarted ⊢
  obtain ⟨outcome, orchestrator, supply⟩ := r
  -- Only a start that succeeds makes a run.
  have hnone (orchestrator : Orchestrator) (supply : Supply)
      (hruns : orchestrator.runs = s.orchestrator.runs) (hsupply : s.supply.drawn ≤ supply.drawn) :
      Begun [] s { s with orchestrator, supply } :=
    ⟨orchestrator, supply, by simp, by simp [hruns], hsupply, nofun⟩
  cases hstarted with
  | hanging _ => exact ⟨[], hnone _ _ rfl (Nat.le_refl _)⟩
  | queued => exact ⟨[], hnone _ _ rfl (Nat.le_refl _)⟩
  | refused _ _ _ h => exact ⟨[], hnone _ _ rfl h⟩
  | @started d es hangs errors found deployed read r hr =>
    have hkey : r.handle.key = toString (s.supply.drawn + 2) := by rw [hr]
    have hnew : s.runs.linkages.filter (·.1 ≠ r.handle.key) = s.runs.linkages := by
      rw [List.filter_eq_self, h.linkages]
      intro e he
      obtain ⟨r', hr', rfl⟩ := List.mem_map.mp he
      obtain ⟨n, hn, hkey'⟩ := h.drawn r' hr'
      rw [decide_eq_true_iff, hkey, hkey']
      intro heq
      have := Supply.toString_injective heq
      omega
    have hlinked : s.linked (.started r) =
        { s.runs with linkages := s.runs.linkages ++ [(r.handle.key, r.linkage)] } := by
      rw [linked, h.links, if_pos rfl, RunStore.register, RunStore.replace, hnew]
    refine ⟨[r], { s.orchestrator with runs := s.orchestrator.runs ++ [r] }, ⟨s.supply.drawn + 2⟩,
      ?_, rfl, Nat.le_add_right _ 2, fun r' hr' => ?_⟩
    · dsimp only
      rw [hlinked]
      rfl
    · rw [List.mem_singleton.mp hr']
      exact ⟨hkey, Nat.lt_add_of_pos_right Nat.two_pos⟩

namespace Auditing

theorem begun {rs : List StartedRun} (h : Auditing s) (hbegun : Begun rs s s') : Auditing s' := by
  obtain ⟨orchestrator, supply, rfl, hruns, hsupply, hnew⟩ := hbegun
  refine ⟨h.standard, h.audits, h.links, h.finds, h.saves, ?_, fun r hr => ?_, fun e he => ?_,
    h.cached.nodup⟩
  · dsimp only
    rw [hruns, List.map_append, h.linkages]
  · dsimp only at hr ⊢
    rw [hruns] at hr
    rcases List.mem_append.mp hr with hr | hr
    · obtain ⟨n, hn, hkey⟩ := h.drawn r hr
      exact ⟨n, Nat.le_trans hn hsupply, hkey⟩
    · exact ⟨supply.drawn, Nat.le_refl _, (hnew r hr).1⟩
  · obtain ⟨key, hkey, hknown⟩ := h.cached.agree e he
    refine ⟨key, hkey, ?_⟩
    dsimp only at hknown ⊢
    rw [List.lookup_append, hknown]
    rfl

/-- What is noted to be written does not matter. -/
theorem erase (h : Auditing s) (pending : List PendingAudit) :
    Auditing { s with dispatcher.pending := pending } :=
  ⟨⟨h.standard.handlings, h.standard.workers⟩, h.audits, h.links, h.finds, h.saves, h.linkages,
    h.drawn, h.cached⟩

theorem take (h : Auditing s) (step : Step) : Auditing (step.take s) := by
  cases step with
  | start definitionId vars options =>
    obtain ⟨rs, hbegun⟩ := start_begun h definitionId vars options
    exact h.begun hbegun
  | deliver d => exact h.deliver d
  | write i =>
    rw [Step.take]
    split
    · exact h
    · exact (h.erase _).written ((h.erase _).task _)
  | elapse clock =>
    exact ⟨h.standard, h.audits, h.links, h.finds, h.saves, h.linkages, h.drawn, h.cached⟩

theorem after (h : Auditing s) (steps : List Step) : Auditing (after steps s) := by
  induction steps generalizing s with
  | nil => exact h
  | cons step steps ih => exact ih (h.take step)

end Auditing

/-! What happens to the runs, the records and the audits that are noted. -/

theorem begun_runs {rs : List StartedRun} (h : Begun rs s s') :
    s'.orchestrator.runs = s.orchestrator.runs ++ rs ∧ s'.runs.records = s.runs.records ∧
      s'.dispatcher = s.dispatcher := by
  obtain ⟨orchestrator, supply, rfl, hruns, -, -⟩ := h
  exact ⟨hruns, rfl, rfl⟩

theorem written_runs (h : Written a s s') : s'.orchestrator = s.orchestrator ∧
    s'.runs.records = s.runs.records ++ (a.record? s).toList ∧
    s'.dispatcher.pending = s.dispatcher.pending := by
  obtain ⟨cache, n, -, hcore⟩ := h
  obtain ⟨logged, metrics, events, statuses, rfl⟩ := eq_of_core hcore
  exact ⟨rfl, rfl, rfl⟩

theorem deliver_runs (h : Auditing s) (d : Delivery) :
    (Dispatcher.deliver d s).2.orchestrator = s.orchestrator ∧
    (Dispatcher.deliver d s).2.runs.records = s.runs.records ∧
    (Dispatcher.deliver d s).2.dispatcher.pending = s.dispatcher.pending ++ [d.audit s] := by
  obtain ⟨s', hrun, hcore⟩ := Dispatcher.deliver_ends h.standard d
  obtain ⟨logged, metrics, events, statuses, rfl⟩ := eq_of_core hcore
  rw [hrun]
  refine ⟨rfl, rfl, ?_⟩
  exact if_pos h.audits

theorem runs_take (h : Auditing s) (step : Step) :
    s.orchestrator.runs <+: (step.take s).orchestrator.runs := by
  cases step with
  | start definitionId vars options =>
    obtain ⟨rs, hbegun⟩ := start_begun h definitionId vars options
    exact ⟨rs, (begun_runs hbegun).1.symm⟩
  | deliver d => simp only [Step.take, (deliver_runs h d).1, List.prefix_refl]
  | write i =>
    rw [Step.take]
    split
    · exact List.prefix_refl _
    · simp only [(written_runs ((h.erase _).task _)).1, List.prefix_refl]
  | elapse clock => exact List.prefix_refl _

theorem runs_after (h : Auditing s) (steps : List Step) :
    s.orchestrator.runs <+: (after steps s).orchestrator.runs := by
  induction steps generalizing s with
  | nil => exact List.prefix_refl _
  | cons step steps ih => exact (runs_take h step).trans (ih (h.take step))

theorem runOf_of_isSome {key : String} (h : s.orchestrator.runs <+: s'.orchestrator.runs)
    (hrun : (s.runOf key).isSome) : s'.runOf key = s.runOf key := by
  obtain ⟨rs, hrs⟩ := h
  obtain ⟨r, hr⟩ := Option.isSome_iff_exists.mp hrun
  rw [runOf, ← hrs, List.find?_append, ← runOf, hr, Option.some_or]

theorem runOf_eq_none {key : String} (h : s.orchestrator.runs <+: s'.orchestrator.runs)
    (hrun : s'.runOf key = none) : s.runOf key = none := by
  rw [runOf, List.find?_eq_none] at hrun ⊢
  exact fun r hr => hrun r (h.subset hr)

theorem runOf_congr (h : s'.orchestrator = s.orchestrator) (key : String) :
    s'.runOf key = s.runOf key := by
  rw [runOf, h, runOf]

theorem due_congr (h : s'.orchestrator = s.orchestrator) (a : PendingAudit) :
    a.due s' = a.due s := by
  rw [PendingAudit.due, PendingAudit.due, runOf_congr h]

/-- The run of an audit is known already or never, so it is found now if it is found later. -/
theorem runOf_eq {key : String} (h : s.orchestrator.runs <+: s'.orchestrator.runs)
    (hF : s'.orchestrator.runs <+: F.orchestrator.runs)
    (htimely : (s.runOf key).isSome ∨ F.runOf key = none) : s'.runOf key = s.runOf key := by
  rcases htimely with hrun | hnone
  · exact runOf_of_isSome h hrun
  · have hnone' := runOf_eq_none hF hnone
    rw [hnone', runOf_eq_none h hnone']

/-- Once written, a record says what was due. -/
theorem audited_record? (h : Auditing s) (haware : a.startedAt.isAware = true) :
    (a.record? s).map (·.audited) = a.due s := by
  have hlookup := h.lookup a.runKey
  rw [PendingAudit.due]
  cases helement : a.job.elementId.truthy with
  | false =>
    rw [PendingAudit.record?_of_falsy helement]
    rfl
  | true =>
    cases hrun : s.runOf a.runKey with
    | none =>
      rw [hrun, Option.map_none] at hlookup
      rw [PendingAudit.record?_of_unknown helement hlookup]
      rfl
    | some r =>
      rw [hrun, Option.map_some] at hlookup
      obtain ⟨ms, hms⟩ : ∃ ms,
          durationMs a.startedAt (Stamp.ofInstant s.clock.instant) = .ok ms := by
        rw [durationMs, haware]
        exact ⟨_, rfl⟩
      rw [PendingAudit.record?_of_known helement hlookup, hms]
      rfl

/-- Writing all audits is writing one after another. -/
theorem settle_eq (s : Automation) : (settle s).2 =
    (each task s.dispatcher.pending { s with dispatcher.pending := [] }).2 := by
  have htask : task = fun a => withBound a.bound (record a.job a.status a.startedAt) := rfl
  rw [settle, bind_get, bind_ok (modify_run _ s), forIn_eq_each, bind_run, htask]
  rcases each _ s.dispatcher.pending _ with ⟨_ | _, _⟩ <;> rfl

theorem each_pending (h : Auditing s) (todo : List PendingAudit) :
    (each task todo s).2.dispatcher.pending = s.dispatcher.pending := by
  induction todo generalizing s with
  | nil => rfl
  | cons a todo ih =>
    rw [h.each_cons, ih (h.written (h.task a)), (written_runs (h.task a)).2.2]

/-! Two runs that differ in their caches only. -/

/-- The state apart from the cache, the number of look-ups and what the core leaves out. -/
def plain (s : Automation) : Automation :=
  { s.core with
    dispatcher := { s.dispatcher with cache := { maxSize := .null } }
    runs := { s.core.runs with lookups := 0 } }

theorem plain_of_core (h : s'.core = s.core) : plain s' = plain s := by
  show plain s'.core = plain s.core
  rw [h]

theorem start_plain (definitionId vars : Value) (options : StartOptions) (s : Automation) :
    plain (startProcess definitionId vars options s).2 =
      plain (startProcess definitionId vars options (plain s)).2 := by
  have horchestrator : (plain s).orchestrator = s.orchestrator := rfl
  have hsupply : (plain s).supply = s.supply := rfl
  rw [startProcess_eq, startProcess_eq, horchestrator, hsupply]
  generalize s.orchestrator.startProcess s.supply definitionId vars options = r
  obtain ⟨outcome, orchestrator, supply⟩ := r
  cases outcome with
  | started r =>
    have hlinks : (plain s).linksRuns = s.linksRuns := rfl
    simp only [linked, hlinks]
    cases s.linksRuns <;> rfl
  | failed e => rfl
  | hanging => rfl

theorem left_plain (d : Delivery) (s : Automation) :
    plain (d.left s) = plain (d.left (plain s)) := by
  have houtcome : d.outcome (plain s) = d.outcome s :=
    (Handlers.run_confined d.kind (d.job s)).outcome rfl
  simp only [Delivery.left, Delivery.report, houtcome]
  rfl

theorem written_plain (h : Written a s s') : plain s' = { plain s with
    runs.records := (plain s).runs.records ++ (a.record? (plain s)).toList } := by
  obtain ⟨cache, n, -, hcore⟩ := h
  exact plain_of_core hcore

variable {t t' : Automation}

theorem written_congr (hs : Written a s s') (ht : Written a t t') (h : plain s = plain t) :
    plain s' = plain t' := by
  rw [written_plain hs, written_plain ht, h]

/-- A step does not depend on the cache. -/
theorem take_plain (hs : Auditing s) (ht : Auditing t) (h : plain s = plain t) (step : Step) :
    plain (step.take s) = plain (step.take t) := by
  cases step with
  | start definitionId vars options =>
    rw [Step.take, Step.take, start_plain, h, ← start_plain]
  | deliver d =>
    obtain ⟨s', hrun, hcore⟩ := Dispatcher.deliver_ends hs.standard d
    obtain ⟨t', hrun', hcore'⟩ := Dispatcher.deliver_ends ht.standard d
    rw [Step.take, Step.take, hrun, hrun', plain_of_core hcore, plain_of_core hcore', left_plain, h,
      ← left_plain]
  | write i =>
    have hpending : t.dispatcher.pending = s.dispatcher.pending :=
      (congrArg (fun s : Automation => s.dispatcher.pending) h).symm
    rw [Step.take, Step.take, ← hpending]
    split
    · exact h
    · refine written_congr ((hs.erase _).task _) ((ht.erase _).task _) ?_
      exact congrArg (fun s : Automation => { s with
        dispatcher.pending := t.dispatcher.pending.eraseIdx i }) h
  | elapse clock => exact congrArg (fun s : Automation => { s with clock }) h

theorem after_plain (hs : Auditing s) (ht : Auditing t) (h : plain s = plain t)
    (steps : List Step) : plain (after steps s) = plain (after steps t) := by
  induction steps generalizing s t with
  | nil => exact h
  | cons step steps ih => exact ih (hs.take step) (ht.take step) (take_plain hs ht h step)

theorem each_plain (hs : Auditing s) (ht : Auditing t) (h : plain s = plain t)
    (todo : List PendingAudit) : plain (each task todo s).2 = plain (each task todo t).2 := by
  induction todo generalizing s t with
  | nil => exact h
  | cons a todo ih =>
    rw [hs.each_cons, ht.each_cons]
    exact ih (hs.written (hs.task a)) (ht.written (ht.task a))
      (written_congr (hs.task a) (ht.task a) h)

/-- Once all audits are written, nothing but the cache and the look-ups can tell two runs apart that
differed in those only. -/
theorem drained_plain (hs : Auditing s) (ht : Auditing t) (h : plain s = plain t)
    (steps : List Step) : plain (drained steps s) = plain (drained steps t) := by
  have hafter := after_plain hs ht h steps
  have hpending : (after steps s).dispatcher.pending = (after steps t).dispatcher.pending :=
    show (plain (after steps s)).dispatcher.pending = _ by rw [hafter]; rfl
  rw [drained, drained, settle_eq, settle_eq, hpending]
  exact each_plain ((hs.after steps).erase []) ((ht.after steps).erase [])
    (congrArg (fun s : Automation => { s with dispatcher.pending := [] }) hafter) _

end Audit
end ProcessTriggers
