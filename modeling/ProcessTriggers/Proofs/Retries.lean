import ProcessTriggers.Proofs.ServiceCalls

/-!
Redelivery of failed jobs. A job of a kind that may fail is handed out again with the attempts that
its last report leaves. While its handler fails, the reports count the attempts down, and the last
one comes with one call of the incident service; once the handler succeeds the job is completed,
and no incident was marked.
-/

namespace ProcessTriggers

open Action Automation

/-- The attempts that the report of a failure leaves. -/
def JobReport.remaining? (r : JobReport) : Option Int :=
  match r.completed, r.retries with
  | false, .int n => some n
  | _, _ => none

/-- The calls of the incident service among some events. -/
def Event.incidents (events : List Event) : List ServiceCall :=
  events.filterMap fun
    | .called c => if c.service = .incidentService then some c else none
    | .noticed .. => none

namespace Dispatcher

/-- One delivery of a job: the job as it came, how its handler ended, what was returned, what was
reported meanwhile, and the calls of the incident service meanwhile. -/
structure Try where
  job : Job
  outcome : Except Error Entries
  result : Except Error JobReport
  reports : List JobReport
  incidents : List ServiceCall

namespace Try

/-- The attempts for which the job is to be handed out again, if there are some. -/
def again? (t : Try) : Option Int :=
  match t.result with
  | .ok r => r.remaining?.filter (0 < ·)
  | .error _ => none

/-- A delivery whose handler failed, so that some attempts are left. -/
def failed (job : Job) (e : Error) (left : Int) (incidents : List ServiceCall) : Try :=
  ⟨job, .error e, .ok (.fail job.key e.message (.int left)),
    [.fail job.key e.message (.int left)], incidents⟩

/-- A delivery whose handler succeeded. -/
def completed (job : Job) (output : Entries) : Try :=
  ⟨job, .ok output, .ok (.complete job.key output), [.complete job.key output], []⟩

theorem again?_failed (job : Job) (e : Error) (left : Int) (incidents : List ServiceCall) :
    (failed job e left incidents).again? = if 0 < left then some left else none := by
  simp [failed, again?, JobReport.remaining?, JobReport.fail, Option.filter]

end Try

variable {s : Automation} {h : Handling}

/-- Hands a job out once. -/
def tryOnce (h : Handling) (d : Delivery) (s : Automation) : Try where
  job := d.job s
  outcome := (Handlers.run h.handler (d.job s) { s with dispatcher.collaborators := d.services }).1
  result := (deliver d s).1
  reports := (deliver d s).2.dispatcher.reports.drop s.dispatcher.reports.length
  incidents := Event.incidents ((deliver d s).2.events.drop s.events.length)

/-- Hands a job out as long as the last report leaves attempts, each time while the next of some
services are there. -/
def redeliver (h : Handling) (d : Delivery) : List Collaborators → Automation → List Try
  | [], _ => []
  | c :: cs, s =>
    let d := { d with services := c }
    tryOnce h d s :: match (tryOnce h d s).again? with
      | some n => redeliver h { d with retries := n } cs (deliver d s).2
      | none => []

/-- A handler does not call the incident service. -/
theorem incidents_of_acted {k : JobKind} {v : Surroundings} {calls : List ServiceCall}
    {outcome : Except Error Entries} (hacted : Acted k v calls outcome) :
    Event.incidents (calls.map .called) = [] := by
  have hcall : ∀ {c : ServiceCall}, k.makes c = true → Event.incidents [.called c] = [] := by
    intro c hmakes
    have hservice : c.service ≠ .incidentService := fun heq => by
      rw [JobKind.makes, decide_eq_true_eq] at hmakes
      exact k.callee_ne_incidentService (by rw [hmakes, heq])
    simp [Event.incidents, hservice]
  cases hacted with
  | undone | unable | stored => rfl
  | refused hmakes | answered hmakes => exact hcall hmakes

theorem incidents_append (es fs : List Event) :
    Event.incidents (es ++ fs) = Event.incidents es ++ Event.incidents fs :=
  List.filterMap_append

/-- What a delivery comes to, by how the handler ended. -/
def Try.due (d : Delivery) (job : Job) : Except Error Entries → Try
  | .ok output => .completed job output
  | .error e => .failed job e (d.retries - 1)
      (if d.retries ≤ 1 then [incidentCall job e.message] else [])

theorem answer_failCapable (hmode : h.mode = .failCapable) (job : Job) (n : Int) (e : Error) :
    h.answer job n (.error e) = .fail job.key e.message (.int (n - 1)) := by
  simp only [Handling.answer, hmode]

/-- A delivery is as its handler ended, and jobs of the kind remain handled in the same way. -/
theorem tryOnce_due {d : Delivery} (hhandles : Handles s.dispatcher d.kind h)
    (hmode : h.mode = .failCapable) (hincident : d.services.has .incidentService = true) :
    tryOnce h d s = .due d (d.job s) (tryOnce h d s).outcome ∧
      Handles (deliver d s).2.dispatcher d.kind h := by
  obtain ⟨t, ht⟩ : ∃ t, t = { s with
    supply := s.supply.drawId.2, dispatcher.collaborators := d.services } := ⟨_, rfl⟩
  obtain ⟨outcome, houtcome⟩ : ∃ outcome, (Handlers.run h.handler (d.job s) t).1 = outcome :=
    ⟨_, rfl⟩
  have hretries : (d.job s).retries = .int d.retries := rfl
  have hlookup : t.dispatcher.handlings.lookup d.kind = some h := by
    rw [ht]
    exact hhandles.handling
  have hsame : (tryOnce h d s).outcome = outcome := by
    rw [← houtcome]
    exact (Handlers.run_confined h.handler (d.job s)).outcome (by rw [ht]; rfl)
  obtain ⟨s', hrun, hcore⟩ := handle_ends hlookup hretries houtcome
  obtain ⟨calls, hacted, -, s'', hrun', hevents, -⟩ := handle_tells hlookup hretries houtcome true
  obtain rfl : s'' = s' := congrArg Prod.snd (hrun'.symm.trans hrun)
  have hdeliver : deliver d s = (.ok (h.answer (d.job s) d.retries outcome), s'') := by
    rw [deliver_run hhandles, ← ht, hrun]
  have hdispatcher := congrArg Automation.dispatcher hcore
  have hreports : s''.dispatcher.reports =
      s.dispatcher.reports ++ [h.answer (d.job s) d.retries outcome] := by
    rw [show s''.dispatcher.reports = _ from congrArg Dispatcher.reports hdispatcher, ht]
    rfl
  have hincidents : Event.incidents (s''.events.drop s.events.length) =
      incidentCalls h (d.job s) d.retries d.services outcome := by
    have hbefore : t.events = s.events := by rw [ht]
    have hservices : t.dispatcher.collaborators = d.services := by rw [ht]
    rw [hevents, hbefore, hservices, List.drop_left, List.map_append, incidents_append,
      incidents_of_acted hacted, List.nil_append]
    cases outcome with
    | ok output => rfl
    | error e =>
      simp only [incidentCalls]
      split <;> rfl
  have hfields : tryOnce h d s = ⟨d.job s, (tryOnce h d s).outcome, (deliver d s).1,
      (deliver d s).2.dispatcher.reports.drop s.dispatcher.reports.length,
      Event.incidents ((deliver d s).2.events.drop s.events.length)⟩ := rfl
  constructor
  · rw [hfields, hsame, hdeliver, hreports, List.drop_left, hincidents]
    cases outcome with
    | ok output => rfl
    | error e =>
      rw [answer_failCapable hmode]
      simp only [Try.due, Try.failed, incidentCalls, hmode, hincident, true_and, and_true]
  · have hhandlings : s''.dispatcher.handlings = s.dispatcher.handlings := by
      rw [show s''.dispatcher.handlings = _ from congrArg Dispatcher.handlings hdispatcher, ht]
      rfl
    have hworkers : s''.dispatcher.workers = s.dispatcher.workers := by
      rw [show s''.dispatcher.workers = _ from congrArg Dispatcher.workers hdispatcher, ht]
      rfl
    rw [hdeliver]
    exact ⟨hhandlings ▸ hhandles.handling, hworkers ▸ hhandles.worker⟩

/-- The call that marks an incident of a run. -/
def runIncident (runKey : Value) (e : Error) : ServiceCall :=
  ⟨.incidentService, "mark_as_incident", [.text runKey.shown, .text e.message], []⟩

/-- How it may go for a job with some attempts: deliveries fail one after another, until one
succeeds or the last attempt failed and an incident is marked. -/
inductive Tried (runKey : Value) : Int → List Try → Prop
  | done {n : Int} (job : Job) (output : Entries) : 1 ≤ n → Tried runKey n [.completed job output]
  | exhausted (job : Job) (e : Error) : Tried runKey 1 [.failed job e 0 [runIncident runKey e]]
  | again {n : Int} (job : Job) (e : Error) {ts : List Try} : 1 < n → Tried runKey (n - 1) ts →
      Tried runKey n (.failed job e (n - 1) [] :: ts)

/-- A job that is handed out with some attempts, and again with those that are left, as long as
services are at hand. -/
theorem redeliver_tried (hmode : h.mode = .failCapable) {services : List Collaborators}
    (hincident : ∀ c ∈ services, c.has .incidentService = true) {d : Delivery}
    (hhandles : Handles s.dispatcher d.kind h) (hbudget : 1 ≤ d.retries)
    (hlong : d.retries ≤ services.length) :
    Tried d.runKey d.retries (redeliver h d services s) := by
  induction services generalizing d s with
  | nil => exact absurd hlong (by simp; omega)
  | cons c cs ih =>
    obtain ⟨hdue, hhandles'⟩ := tryOnce_due (d := { d with services := c }) hhandles hmode
      (hincident c List.mem_cons_self)
    rw [List.length_cons] at hlong
    simp only [redeliver]
    generalize tryOnce h { d with services := c } s = t at hdue ⊢
    rw [hdue]
    cases t.outcome with
    | ok output => exact .done _ _ hbudget
    | error e =>
      simp only [Try.due, Try.again?_failed]
      by_cases hlast : d.retries = 1
      · rw [hlast]
        exact .exhausted _ e
      · have hmore : ¬d.retries ≤ 1 := by omega
        have hleft : 0 < d.retries - 1 := by omega
        rw [if_neg hmore, if_pos hleft]
        refine .again _ e (by omega) ?_
        exact ih (fun c' hc' => hincident c' (List.mem_cons_of_mem c hc'))
          (d := { d with services := c, retries := d.retries - 1 }) hhandles' (by dsimp only; omega)
          (by dsimp only; omega)

section

variable {runKey : Value} {n : Int} {ts : List Try}

theorem Tried.pos (h : Tried runKey n ts) : 1 ≤ n := by
  cases h with
  | done _ _ hpos => exact hpos
  | exhausted => exact Int.le_refl 1
  | again _ _ hmore _ => omega

/-- If the handler failed each time, then all attempts were made, and the last one marked an
incident. -/
theorem Tried.of_failed (h : Tried runKey n ts) (hfailed : ∀ t ∈ ts, ∃ e, t.outcome = .error e) :
    (ts.length : Int) = n ∧ ∀ i < ts.length, ∃ job e, ts[i]? = some (.failed job e (n - 1 - i)
      (if i + 1 = ts.length then [runIncident runKey e] else [])) := by
  induction h with
  | done job output =>
    obtain ⟨e, he⟩ := hfailed _ (List.mem_singleton_self _)
    cases he
  | exhausted job e =>
    refine ⟨rfl, fun i hi => ⟨job, e, ?_⟩⟩
    obtain rfl : i = 0 := Nat.lt_one_iff.mp hi
    rfl
  | @again n job e ts hmore hrest ih =>
    obtain ⟨hlength, htries⟩ := ih fun t ht => hfailed t (List.mem_cons_of_mem _ ht)
    refine ⟨by rw [List.length_cons]; omega, fun i hi => ?_⟩
    cases i with
    | zero =>
      have hpos := hrest.pos
      have hnotLast : ¬0 + 1 = (Try.failed job e (n - 1) [] :: ts).length := by
        rw [List.length_cons]
        omega
      exact ⟨job, e, by rw [if_neg hnotLast]; simp⟩
    | succ i =>
      obtain ⟨job', e', htry⟩ := htries i (by simpa using hi)
      have hleft : n - 1 - (i + 1 : Nat) = n - 1 - 1 - i := by omega
      refine ⟨job', e', ?_⟩
      simp only [List.getElem?_cons_succ, htry, hleft, List.length_cons, Nat.add_right_cancel_iff]

/-- If the handler succeeded at last, the attempts before had failed, and no incident was marked. -/
theorem Tried.of_ok (h : Tried runKey n ts) {k : Nat} {t : Try} (hk : ts[k]? = some t)
    {output : Entries} (hok : t.outcome = .ok output) :
    (k : Int) < n ∧ ts.length = k + 1 ∧ (∃ job, t = .completed job output) ∧
      ∀ i < k, ∃ job e, ts[i]? = some (.failed job e (n - 1 - i) []) := by
  induction h generalizing k with
  | done job output' hpos =>
    cases k with
    | zero =>
      obtain rfl := Option.some.inj hk
      obtain rfl := Except.ok.inj hok
      exact ⟨by omega, rfl, ⟨job, rfl⟩, fun i hi => absurd hi (Nat.not_lt_zero i)⟩
    | succ k => simp at hk
  | exhausted job e =>
    cases k with
    | zero =>
      obtain rfl := Option.some.inj hk
      cases hok
    | succ k => simp at hk
  | @again n job e ts hmore hrest ih =>
    cases k with
    | zero =>
      obtain rfl := Option.some.inj hk
      cases hok
    | succ k =>
      obtain ⟨hlt, hlength, hdone, htries⟩ := ih hk
      refine ⟨by omega, by rw [List.length_cons, hlength], hdone, fun i hi => ?_⟩
      cases i with
      | zero => exact ⟨job, e, by simp⟩
      | succ i =>
        obtain ⟨job', e', htry⟩ := htries i (by omega)
        have hleft : n - 1 - (i + 1 : Nat) = n - 1 - 1 - i := by omega
        exact ⟨job', e', by rw [List.getElem?_cons_succ, htry, hleft]⟩

end

/-- A job of a kind that may fail, handed out with some attempts and again with those that its last
report leaves. If its handler fails each time, as many deliveries fail as there were attempts, and
the last one marks an incident; if the handler succeeds at last, the job is completed then, and no
incident was marked. -/
theorem retries_count_down (hmode : h.mode = .failCapable) {d : Delivery}
    (hhandles : Handles s.dispatcher d.kind h) (hbudget : 1 ≤ d.retries)
    {services : List Collaborators} (hlong : d.retries ≤ services.length)
    (hincident : ∀ c ∈ services, c.has .incidentService = true) :
    let ts := redeliver h d services s
    ((∀ t ∈ ts, ∃ e, t.outcome = .error e) →
      (ts.length : Int) = d.retries ∧ ∀ i < ts.length, ∃ job e,
        ts[i]? = some (.failed job e (d.retries - 1 - i)
          (if i + 1 = ts.length then [runIncident d.runKey e] else []))) ∧
    ∀ (k : Nat) (t : Try) (output : Entries), ts[k]? = some t → t.outcome = .ok output →
      (k : Int) < d.retries ∧ ts.length = k + 1 ∧ (∃ job, t = .completed job output) ∧
        ∀ i < k, ∃ job e, ts[i]? = some (.failed job e (d.retries - 1 - i) []) := by
  intro ts
  have htried := redeliver_tried hmode hincident hhandles hbudget hlong
  exact ⟨htried.of_failed, fun k t output hk hok => htried.of_ok hk hok⟩

/-- An entity without a title that is to be created in two attempts, while the incident service
fails. -/
theorem retries_count_down_untitled :
    let services : Collaborators := [(.entityStore, []),
      (.incidentService, [("mark_as_incident", .raises (PlainError.storage.error "down"))])]
    let d : Delivery := {
      services
      kind := .createEntity
      vars := [("targetWorkspaceId", .text "w1")]
      runKey := .int 7
      retries := 2 }
    let s : Automation := {
      clock := Stamp.ofInstant Stamp.epoch
      dispatcher := { workers := Handling.standardTable.map (·.1.name) } }
    ∃ job job' e e',
      redeliver (Handling.standard .createEntity) d [services, services, services] s =
      [.failed job e 1 [], .failed job' e' 0
        [⟨.incidentService, "mark_as_incident", [.text "7", .text e'.message], []⟩]] := by
  intro services d s
  have hhandles : Handles s.dispatcher d.kind (Handling.standard .createEntity) := ⟨rfl, rfl⟩
  have hincident : ∀ c ∈ [services, services, services], c.has .incidentService = true := by
    intro c hc
    simp only [List.mem_cons, List.not_mem_nil, or_false, or_self] at hc
    rw [hc]
    rfl
  have hcount := retries_count_down (s := s) rfl hhandles (by decide) (by decide) hincident
  obtain ⟨ts, hts⟩ : ∃ ts, ts = redeliver (Handling.standard .createEntity) d
    [services, services, services] s := ⟨_, rfl⟩
  have houtcomes : ts.map (·.outcome) =
      List.replicate 2 (.error (PlainError.jobHandler.error "title is required")) := by
    rw [hts]
    rfl
  rw [← hts] at hcount ⊢
  have hfailed : ∀ t ∈ ts, ∃ e, t.outcome = .error e := fun t ht =>
    ⟨_, List.eq_of_mem_replicate (houtcomes ▸ List.mem_map_of_mem ht)⟩
  obtain ⟨hlength, htries⟩ := hcount.1 hfailed
  have htwo : ts.length = 2 := by simpa using congrArg List.length houtcomes
  obtain ⟨t, t', rfl⟩ := List.length_eq_two.mp htwo
  obtain ⟨job, e, hfirst⟩ := htries 0 Nat.zero_lt_two
  obtain ⟨job', e', hsecond⟩ := htries 1 Nat.one_lt_two
  refine ⟨job, job', e, e', ?_⟩
  rw [Option.some.inj hfirst, Option.some.inj hsecond]
  rfl

end Dispatcher
end ProcessTriggers
