import ProcessTriggers.Job.Dispatcher
import ProcessTriggers.Proofs.Actions
import ProcessTriggers.Proofs.Tables

/-!
What the handling of a job comes to. A handler leaves nothing behind but log entries, calls of
services and states of runs, and how it ends depends only on what it sees: the services, the clock
and the runs that are known. Whatever it does, the dispatcher answers with one report.
-/

namespace ProcessTriggers

open Action Automation

/-- What the handler of a job sees. -/
structure Surroundings where
  collaborators : Collaborators
  hasRunStore : Bool
  clock : Stamp
  linkages : List (String × Linkage)
  broken : List (StorageCall × Error)

namespace Automation

variable {s s' : Automation}

def surroundings (s : Automation) : Surroundings :=
  ⟨s.dispatcher.collaborators, s.dispatcher.hasRunStore, s.clock, s.runs.linkages, s.broken⟩

/-- The state apart from the log, the metrics, the calls of services and the states of runs. -/
def core (s : Automation) : Automation :=
  { s with logged := [], metrics := {}, events := [], runs := { s.runs with statuses := [] } }

theorem surroundings_of_core (h : s'.core = s.core) : s'.surroundings = s.surroundings :=
  show s'.core.surroundings = s.core.surroundings from congrArg surroundings h

/-- States with the same core differ in nothing else than what the core leaves out. -/
theorem eq_of_core (h : s'.core = s.core) : ∃ logged metrics events statuses,
    s' = { s with logged, metrics, events, runs := { s.runs with statuses } } :=
  ⟨s'.logged, s'.metrics, s'.events, s'.runs.statuses,
    congrArg (fun t : Automation => { t with
      logged := s'.logged
      metrics := s'.metrics
      events := s'.events
      runs := { t.runs with statuses := s'.runs.statuses } }) h⟩

end Automation

namespace Action

variable {α β : Type}

/-- The outcome depends on nothing but the surroundings, and the core of the state stays as it
is. -/
structure Confined (a : Action α) : Prop where
  outcome {s s' : Automation} : s'.surroundings = s.surroundings → (a s').1 = (a s).1
  state (s : Automation) : (a s).2.core = s.core

theorem confined_pure (x : α) : Confined (pure x : Action α) := ⟨fun _ => rfl, fun _ => rfl⟩

theorem confined_throw (e : Error) : Confined (throw e : Action α) := ⟨fun _ => rfl, fun _ => rfl⟩

theorem confined_ofExcept (r : Except Error α) : Confined (ofExcept r) :=
  ⟨fun _ => rfl, fun _ => rfl⟩

theorem confined_bind {a : Action α} {f : α → Action β} (ha : Confined a)
    (hf : ∀ x, Confined (f x)) : Confined (a >>= f) where
  outcome {s s'} h := by
    have houtcome := ha.outcome h
    have hs := surroundings_of_core (ha.state s)
    have hs' := surroundings_of_core (ha.state s')
    rw [bind_run, bind_run]
    generalize a s = r at houtcome hs ⊢
    generalize a s' = r' at houtcome hs' ⊢
    obtain ⟨r, t⟩ := r
    obtain ⟨r', t'⟩ := r'
    obtain rfl : r' = r := houtcome
    cases r' with
    | error e => rfl
    | ok x => exact (hf x).outcome ((hs'.trans h).trans hs.symm)
  state s := by
    have hs := ha.state s
    rw [bind_run]
    generalize a s = r at hs ⊢
    obtain ⟨_ | x, t⟩ := r
    · exact hs
    · exact ((hf x).state t).trans hs

/-- What is read of the state may be read of the surroundings. -/
theorem confined_getBind {f : Surroundings → Action β} (hf : ∀ v, Confined (f v)) :
    Confined (get >>= fun s => f s.surroundings) where
  outcome {s s'} h := by
    rw [bind_get, bind_get, h]
    exact (hf _).outcome h
  state s := (hf _).state s

theorem confined_ite {c : Prop} [Decidable c] {a b : Action α} (ha : Confined a)
    (hb : Confined b) : Confined (if c then a else b) := by
  by_cases h : c
  · rwa [if_pos h]
  · rwa [if_neg h]

/-- The action succeeds, and what it leaves has the same core as some state. -/
def Ends (a : Action α) (s : Automation) (x : α) (t : Automation) : Prop :=
  ∃ s', a s = (.ok x, s') ∧ s'.core = t.core

theorem Ends.bind {a : Action α} {f : α → Action β} {s t u : Automation} {x : α} {y : β}
    (h : Ends a s x t) (hf : ∀ s', s'.core = t.core → Ends (f x) s' y u) :
    Ends (a >>= f) s y u := by
  obtain ⟨s', hrun, hcore⟩ := h
  obtain ⟨s'', hrun', hcore'⟩ := hf s' hcore
  exact ⟨s'', by rw [bind_ok hrun, hrun'], hcore'⟩

theorem Ends.withBound {bound : Entries} {a : Action α} {s t : Automation} {x : α}
    (hbound : t.bound = s.bound) (h : Ends a { s with bound } x { t with bound }) :
    Ends (withBound bound a) s x t := by
  obtain ⟨s', hrun, hcore⟩ := h
  refine ⟨{ s' with bound := s.bound }, ?_, ?_⟩
  · rw [withBound_run, hrun]
  · rw [← hbound]
    exact congrArg (fun s : Automation => { s with bound := t.bound }) hcore

theorem Ends.binding {fields : Entries} {a : Action α} {s t : Automation} {x : α}
    (hbound : t.bound = s.bound)
    (h : Ends a { s with bound := Log.bind s.bound fields } x
      { t with bound := Log.bind s.bound fields }) : Ends (binding fields a) s x t := by
  rw [Ends, binding_run]
  exact Ends.withBound hbound h

theorem Confined.attempt_ends {a : Action α} (ha : Confined a) (s : Automation) :
    Ends (attempt a) s (a s).1 s := ⟨_, rfl, ha.state s⟩

end Action

namespace Automation

variable {α : Type}

theorem log_confined (c : Channel) (level : Log.Level) (message : String) :
    Confined (log c level message) := ⟨fun _ => rfl, fun _ => rfl⟩

theorem log_ends (c : Channel) (level : Log.Level) (message : String) (s : Automation) :
    Ends (log c level message) s ⟨⟩ s := ⟨_, rfl, rfl⟩

theorem now_confined : Confined now :=
  confined_getBind fun v => confined_pure (Stamp.ofInstant v.clock.instant)

theorem calling_confined (c : StorageCall) {a : Action α} (ha : Confined a) :
    Confined (calling c a) where
  outcome {s s'} h := by
    have hbroken : s'.broken = s.broken := congrArg Surroundings.broken h
    rw [calling, bind_get, bind_get, hbroken]
    cases s.broken.lookup c with
    | some e => rfl
    | none => exact ha.outcome h
  state s := by
    rw [calling, bind_get]
    cases s.broken.lookup c with
    | some e => rfl
    | none => exact ha.state s

theorem updateRunStatus_confined (key : String) (status : RunStatus) :
    Confined (updateRunStatus key status) := by
  refine calling_confined _ ⟨fun {s s'} h => ?_, fun s => ?_⟩
  · have hlinkages : s'.runs.linkages = s.runs.linkages := congrArg Surroundings.linkages h
    rw [bind_get, bind_get, RunStore.updateStatus, RunStore.updateStatus, hlinkages]
    split <;> rfl
  · rw [bind_get, RunStore.updateStatus]
    split <;> rfl

end Automation

namespace Handlers

theorem call_confined (service : Service) (method : String) (arguments : List Value)
    (named : Entries) : Confined (call service method arguments named) where
  outcome h := congrArg (fun v : Surroundings => v.collaborators.answer service method) h
  state _ := rfl

theorem has_confined (service : Service) : Confined (has service) :=
  confined_getBind fun v => confined_pure (v.collaborators.has service)

theorem notAvailable_confined (flag service : String) : Confined (notAvailable flag service) :=
  confined_bind (log_confined _ _ _) fun _ => confined_pure _

theorem input_confined (j : Job) (name : String) : Confined (input j name) := confined_ofExcept _

theorem timeText_confined : Confined timeText :=
  confined_bind now_confined fun _ => confined_pure _

theorem updateEntityStatus_confined (j : Job) : Confined (updateEntityStatus j) := by
  refine confined_bind (input_confined _ _) fun entity => ?_
  refine confined_bind (input_confined _ _) fun status => ?_
  refine confined_bind (has_confined _) fun _ => confined_ite (notAvailable_confined _ _) ?_
  refine confined_ite (confined_pure _) (confined_bind (call_confined _ _ _ _) fun _ => ?_)
  refine confined_bind (log_confined _ _ _) fun _ => ?_
  exact confined_bind timeText_confined fun _ => confined_pure _

theorem setAssignee_confined (j : Job) : Confined (setAssignee j) := by
  refine confined_bind (input_confined _ _) fun entity => ?_
  refine confined_bind (input_confined _ _) fun assignee => ?_
  refine confined_bind (has_confined _) fun _ => confined_ite (notAvailable_confined _ _) ?_
  refine confined_ite (confined_pure _) (confined_bind (call_confined _ _ _ _) fun _ => ?_)
  refine confined_bind (log_confined _ _ _) fun _ => ?_
  exact confined_bind timeText_confined fun _ => confined_pure _

theorem required_confined (j : Job) (name : String) : Confined (required j name) :=
  confined_bind (input_confined _ _) fun _ => confined_ite (confined_pure _) (confined_throw _)

theorem createEntity_confined (j : Job) : Confined (createEntity j) := by
  refine confined_bind (has_confined _) fun _ => confined_ite (notAvailable_confined _ _) ?_
  refine confined_bind (required_confined _ _) fun workspace => ?_
  refine confined_bind (required_confined _ _) fun title => ?_
  refine confined_bind (input_confined _ _) fun status => ?_
  refine confined_bind (input_confined _ _) fun priority => ?_
  refine confined_bind (input_confined _ _) fun data => ?_
  refine confined_bind (input_confined _ _) fun source => ?_
  refine confined_bind (input_confined _ _) fun linkType => ?_
  refine confined_bind (input_confined _ _) fun createdBy => ?_
  refine confined_bind (call_confined _ _ _ _) fun created => ?_
  exact confined_bind (log_confined _ _ _) fun _ => confined_pure _

theorem sendNotification_confined (j : Job) : Confined (sendNotification j) := by
  refine confined_bind (input_confined _ _) fun user => ?_
  refine confined_bind (input_confined _ _) fun message => ?_
  refine confined_bind (has_confined _) fun _ => confined_ite (notAvailable_confined _ _) ?_
  refine confined_ite (confined_pure _) (confined_bind (input_confined _ _) fun entity => ?_)
  refine confined_bind (input_confined _ _) fun workspace => ?_
  exact confined_bind (call_confined _ _ _ _) fun _ => confined_pure _

theorem sendEmail_confined (j : Job) : Confined (sendEmail j) := by
  refine confined_bind (input_confined _ _) fun recipient => ?_
  refine confined_bind (input_confined _ _) fun subject => ?_
  refine confined_bind (input_confined _ _) fun body => ?_
  refine confined_bind (has_confined _) fun _ => confined_ite (confined_pure _) ?_
  exact confined_bind (call_confined _ _ _ _) fun _ => confined_pure _

theorem logActivity_confined (j : Job) : Confined (logActivity j) := by
  refine confined_bind (input_confined _ _) fun workspace => ?_
  refine confined_bind (input_confined _ _) fun action => ?_
  refine confined_bind (input_confined _ _) fun details => ?_
  refine confined_bind (has_confined _) fun _ => confined_ite (notAvailable_confined _ _) ?_
  refine confined_ite (confined_pure _) (confined_bind (input_confined _ _) fun actor => ?_)
  refine confined_bind (confined_ofExcept _) fun es => ?_
  refine confined_bind (input_confined _ _) fun entity => ?_
  exact confined_bind (call_confined _ _ _ _) fun _ => confined_pure _

theorem classifyEntity_confined (j : Job) : Confined (classifyEntity j) := by
  refine confined_bind (input_confined _ _) fun entity => ?_
  refine confined_bind (has_confined _) fun _ => confined_ite ?_ ?_
  · exact confined_bind (log_confined _ _ _) fun _ => confined_pure _
  · refine confined_bind (call_confined _ _ _ _) fun answer => ?_
    refine confined_bind (confined_ofExcept _) fun es => ?_
    exact confined_bind (log_confined _ _ _) fun _ => confined_pure _

theorem processCompleted_confined (j : Job) : Confined (processCompleted j) := by
  have hdone : Confined (pure [(JobKind.processCompleted.flag, .bool true)] : Action Entries) :=
    confined_pure _
  refine confined_getBind (f := fun v => if v.hasRunStore then _ else _) fun v => ?_
  refine confined_ite (confined_bind (updateRunStatus_confined _ _) fun _ => hdone) ?_
  refine confined_bind (has_confined _) fun _ => confined_ite ?_ (notAvailable_confined _ _)
  exact confined_bind (call_confined _ _ _ _) fun _ => hdone

theorem assistance_confined (entity : Value) : Confined (assistance entity) := by
  refine confined_bind (has_confined _) fun _ => confined_ite ?_ (confined_pure _)
  refine confined_bind (call_confined _ _ _ _) fun answer => ?_
  exact confined_bind (confined_ofExcept _) fun es => confined_pure _

theorem suggestAssignee_confined (j : Job) : Confined (suggestAssignee j) := by
  refine confined_bind (input_confined _ _) fun entity => ?_
  refine confined_bind (assistance_confined _) fun es => confined_ite ?_ ?_
  · refine confined_bind (confined_ofExcept _) fun top => ?_
    exact confined_bind (log_confined _ _ _) fun _ => confined_pure _
  · exact confined_bind (log_confined _ _ _) fun _ => confined_pure _

theorem checkDuplicate_confined (j : Job) : Confined (checkDuplicate j) := by
  refine confined_bind (input_confined _ _) fun entity => ?_
  refine confined_bind (assistance_confined _) fun es => ?_
  refine confined_bind (confined_ofExcept _) fun cases => ?_
  refine confined_bind (confined_ofExcept _) fun duplicate => ?_
  cases duplicate with
  | none => exact confined_pure _
  | some duplicate => exact confined_bind (log_confined _ _ _) fun _ => confined_pure _

/-- A handler sees nothing but its surroundings, and leaves the core of the state as it is. -/
theorem run_confined (k : JobKind) (j : Job) : Confined (run k j) := by
  cases k with
  | updateEntityStatus => exact updateEntityStatus_confined j
  | setAssignee => exact setAssignee_confined j
  | createEntity => exact createEntity_confined j
  | sendNotification => exact sendNotification_confined j
  | sendEmail => exact sendEmail_confined j
  | logActivity => exact logActivity_confined j
  | classifyEntity => exact classifyEntity_confined j
  | processCompleted => exact processCompleted_confined j
  | suggestAssignee => exact suggestAssignee_confined j
  | checkDuplicate => exact checkDuplicate_confined j

end Handlers

/-- The report for a job with some attempts left whose handler ended in some way. -/
def Handling.answer (h : Handling) (job : Job) (retries : Int) :
    Except Error Entries → JobReport
  | .ok output => .complete job.key output
  | .error e =>
    match h.mode with
    | .bestEffort => .complete job.key (h.errorOutput (.text e.message))
    | .failCapable => .fail job.key e.message (.int (retries - 1))

/-- The counts after one more job, of a kind with some mode, whose handler ended in some way. -/
def JobCounts.after (c : JobCounts) (mode : JobMode) : Except Error Entries → JobCounts
  | .ok _ => { c with processed := c.processed + 1, completed := c.completed + 1 }
  | .error _ =>
    match mode with
    | .bestEffort => { c with
        processed := c.processed + 1, completed := c.completed + 1, errors := c.errors + 1 }
    | .failCapable => { c with
        processed := c.processed + 1, failed := c.failed + 1, errors := c.errors + 1 }

/-- The status of a job, in its audit, whose handler ended in some way. -/
def Audit.statusOf : Except Error Entries → String
  | .ok _ => "success"
  | .error _ => "failed"

theorem Audit.schedule_run (job : Job) (status : String) (startedAt : Stamp) (s : Automation) :
    schedule job status startedAt s = (.ok ⟨⟩, { s with
      dispatcher.pending :=
        if s.dispatcher.audits then
          s.dispatcher.pending ++ [⟨job, .text status, startedAt, s.bound⟩]
        else s.dispatcher.pending }) := by
  rw [schedule, modify_run]
  split <;> rfl

namespace Dispatcher

/-- The audits that are to be written once a job was handled. -/
def pendingAfter (k : JobKind) (job : Job) (s : Automation) (outcome : Except Error Entries) :
    List PendingAudit :=
  if s.dispatcher.audits then
    s.dispatcher.pending ++ [⟨job, .text (Audit.statusOf outcome),
      Stamp.ofInstant s.clock.instant, Log.bind s.bound (correlation k job)⟩]
  else s.dispatcher.pending

theorem changeCounts_run (f : JobCounts → JobCounts) (s : Automation) :
    changeCounts f s = (.ok ⟨⟩, { s with dispatcher.counts := f s.dispatcher.counts }) := rfl

theorem report_run (r : JobReport) (s : Automation) :
    report true r s =
      (.ok r, { s with dispatcher.reports := s.dispatcher.reports ++ [r] }) := rfl

/-- Whatever the incident service does, it is only called. -/
theorem markIncident_ends (job : Job) (message : String) (s : Automation) :
    Ends (markIncident job message) s ⟨⟩ s := by
  have hcall := (Handlers.call_confined .incidentService "mark_as_incident"
    [.text job.runKey.shown, .text message] []).state s
  rw [Ends, markIncident, bind_ok (attempt_run _ s)]
  cases (Handlers.call .incidentService "mark_as_incident"
    [.text job.runKey.shown, .text message] [] s).1 with
  | ok v => exact ⟨_, rfl, hcall⟩
  | error e => exact ⟨_, rfl, hcall⟩

/-- A failed job is reported with one attempt less, whatever the incident service does. -/
theorem failWithIncidentCheck_ends {job : Job} {n : Int} (hn : job.retries = .int n)
    (message : String) (s : Automation) :
    Ends (failWithIncidentCheck job true message) s (.fail job.key message (.int (n - 1)))
      { s with dispatcher.reports := s.dispatcher.reports ++
          [JobReport.fail job.key message (.int (n - 1))] } := by
  have hdecrement : job.retries.decrement = .ok (.int (n - 1)) := by rw [hn]; rfl
  obtain ⟨exhausted, hexhausted⟩ : ∃ b, (Value.int (n - 1)).isAtMost (.int 0) = .ok b := ⟨_, rfl⟩
  have hhas : Handlers.has .incidentService s =
    (.ok (s.dispatcher.collaborators.has .incidentService), s) := rfl
  rw [Ends, failWithIncidentCheck, bind_ofExcept hdecrement, bind_ofExcept hexhausted,
    bind_ok hhas]
  dsimp only
  split
  · refine (markIncident_ends job message s).bind fun s' hcore => ?_
    obtain ⟨logged, metrics, events, statuses, rfl⟩ := eq_of_core hcore
    exact ⟨_, report_run _ _, rfl⟩
  · exact ⟨_, report_run _ s, rfl⟩

/-- The handling of a job ends in one report, which is as its handler ended. -/
theorem handle_ends {k : JobKind} {job : Job} {s : Automation} {h : Handling} {n : Int}
    (hlookup : s.dispatcher.handlings.lookup k = some h) (hn : job.retries = .int n)
    {outcome : Except Error Entries} (houtcome : (Handlers.run h.handler job s).1 = outcome) :
    Ends (handle k job true) s (h.answer job n outcome) { s with dispatcher := { s.dispatcher with
      pending := pendingAfter k job s outcome
      counts := s.dispatcher.counts.after h.mode outcome
      reports := s.dispatcher.reports ++ [h.answer job n outcome] } } := by
  have hconfined := Handlers.run_confined h.handler job
  rw [Ends, handle, bind_get, hlookup]
  dsimp only
  rw [bind_ok (now_run s), bind_ok (changeCounts_run _ s)]
  refine Ends.binding rfl ((log_ends _ _ _ _).bind fun s₁ hs₁ => ?_)
  refine (hconfined.attempt_ends s₁).bind fun s₂ hs₂ => ?_
  have hseen : s₁.surroundings = s.surroundings := (surroundings_of_core hs₁).trans rfl
  rw [hconfined.outcome hseen, houtcome]
  obtain ⟨logged, metrics, events, statuses, rfl⟩ := eq_of_core (hs₂.trans hs₁)
  cases outcome with
  | ok output =>
    dsimp only
    rw [Ends, bind_ok (Audit.schedule_run _ _ _ _)]
    exact ⟨_, rfl, rfl⟩
  | error e =>
    dsimp only
    rw [Ends, bind_ok (changeCounts_run _ _), bind_ok (Audit.schedule_run _ _ _ _),
      bind_ok (log_run _ _ _ _), reportError]
    simp only [JobCounts.after, Handling.answer]
    cases h.mode with
    | bestEffort => exact ⟨_, rfl, rfl⟩
    | failCapable => exact failWithIncidentCheck_ends hn e.message _

/-- Every kind of job has its standard handling and a worker. -/
structure Standard (d : Dispatcher) : Prop where
  handlings : d.handlings = Handling.standardTable
  workers : d.workers = Handling.standardTable.map (·.1.name)

/-- Registering the workers of the standard table is all that it takes. -/
theorem registerAll_ends {s : Automation} (h : s.dispatcher.handlings = Handling.standardTable) :
    ∃ s', registerAll s = (.ok ⟨⟩, s') ∧ Standard s'.dispatcher :=
  ⟨_, rfl, h, by rw [← h]⟩

theorem standardTable_lookup (k : JobKind) :
    Handling.standardTable.lookup k = some (Handling.standard k) := by
  cases k <;> rfl

theorem Standard.workerKind? {d : Dispatcher} (h : Standard d) (k : JobKind) :
    workerKind? d.workers (.text k.name) = some k := by
  rw [h.workers]
  cases k <;> rfl

/-- A job that the orchestrator hands out, with the services that are there at that time. -/
structure Delivery where
  services : Collaborators
  kind : JobKind
  vars : Entries := []
  runKey : Value := .text ""
  elementId : Value := .null
  retries : Int := 3

namespace Delivery

def order (d : Delivery) : Order where
  type := .text d.kind.name
  vars := .object d.vars
  runKey := d.runKey
  elementId := d.elementId
  retries := .int d.retries

/-- The job that comes to the dispatcher. -/
def job (d : Delivery) (s : Automation) : Job where
  key := .text s.supply.drawId.1
  type := .text d.kind.name
  vars := .object d.vars
  runKey := .text d.runKey.shown
  elementId := d.elementId
  retries := .int d.retries

/-- How the handler of the job ends. -/
def outcome (d : Delivery) (s : Automation) : Except Error Entries :=
  (Handlers.run d.kind (d.job s) { s with dispatcher.collaborators := d.services }).1

/-- The report that the job comes to. -/
def report (d : Delivery) (s : Automation) : JobReport :=
  (Handling.standard d.kind).answer (d.job s) d.retries (d.outcome s)

/-- The state in which the job leaves the program, as far as its core goes. -/
def left (d : Delivery) (s : Automation) : Automation :=
  { s with
    supply := s.supply.drawId.2
    dispatcher := { s.dispatcher with
      collaborators := d.services
      pending := pendingAfter d.kind (d.job s) s (d.outcome s)
      counts := s.dispatcher.counts.after d.kind.mode (d.outcome s)
      reports := s.dispatcher.reports ++ [d.report s] } }

end Delivery

/-- Hands a job out while some services are there. -/
def deliver (d : Delivery) : Action JobReport := do
  change ({ · with collaborators := d.services })
  emit d.order

/-- Jobs of a kind have a worker, and are handled in some way. -/
structure Handles (d : Dispatcher) (k : JobKind) (h : Handling) : Prop where
  handling : d.handlings.lookup k = some h
  worker : workerKind? d.workers (.text k.name) = some k

theorem Standard.handles {d : Dispatcher} (h : Standard d) (k : JobKind) :
    Handles d k (Handling.standard k) :=
  ⟨by rw [h.handlings, standardTable_lookup], h.workerKind? k⟩

/-- A job that is handed out comes to the dispatcher with a key of its own. -/
theorem deliver_run {s : Automation} {h : Handling} {d : Delivery}
    (hhandles : Handles s.dispatcher d.kind h) : deliver d s = handle d.kind (d.job s) true { s with
      supply := s.supply.drawId.2, dispatcher.collaborators := d.services } := by
  obtain ⟨t, ht⟩ : ∃ t, t = { s with dispatcher.collaborators := d.services } := ⟨_, rfl⟩
  have hready : change ({ · with collaborators := d.services }) s = (.ok ⟨⟩, t) := by rw [ht]; rfl
  have htype : d.order.type.asKey = .ok d.order.type := rfl
  have hworker : workerKind? t.dispatcher.workers d.order.type = some d.kind := by
    rw [ht]
    exact hhandles.worker
  have hkey : drawId t = (.ok t.supply.drawId.1, { t with supply := t.supply.drawId.2 }) := rfl
  have hvars : (d.order.vars.orElse (.object [])).toEntries = .ok d.vars := by
    rw [Delivery.order, Value.orElse]
    cases d.vars with
    | nil => rfl
    | cons e es => rfl
  rw [deliver, bind_ok hready, emit, bind_ofExcept htype, bind_get, hworker]
  dsimp only
  rw [bind_ok hkey, bind_ofExcept hvars, ht]
  rfl

/-- A job that is handed out to the standard handlers comes to its report. -/
theorem deliver_ends {s : Automation} (h : Standard s.dispatcher) (d : Delivery) :
    Ends (deliver d) s (d.report s) (d.left s) := by
  have hhandles := h.handles d.kind
  have hretries : (d.job s).retries = .int d.retries := rfl
  rw [Ends, deliver_run hhandles]
  refine handle_ends (s := { s with
    supply := s.supply.drawId.2, dispatcher.collaborators := d.services }) hhandles.handling
    hretries ?_
  exact (Handlers.run_confined _ _).outcome rfl

end Dispatcher
end ProcessTriggers
