import ProcessTriggers.Proofs.Handling

/-!
One report for each job. Whatever jobs are handed out to the standard handlers, and whatever the
services do meanwhile, each job is reported once, as its kind and its handler demand, and the counts
of the dispatcher are those of the reports.
-/

namespace ProcessTriggers.Dispatcher

open Action

/-- A job that was handed out: how its handler ended, and what was returned for it. -/
structure Handled where
  delivery : Delivery
  key : Value
  outcome : Except Error Entries
  result : Except Error JobReport

namespace Handled

/-- Whether the job was completed with what its kind puts out after an error. -/
def onError (j : Handled) : Bool :=
  decide (j.delivery.kind.mode = .bestEffort) && !j.outcome.isOk

end Handled

variable {s : Automation}

/-- What is left after some jobs were handed out one after another. -/
def after (ds : List Delivery) (s : Automation) : Automation :=
  ds.foldl (fun s d => (deliver d s).2) s

/-- How it went for jobs that were handed out one after another. -/
def handled : List Delivery → Automation → List Handled
  | [], _ => []
  | d :: ds, s =>
    ⟨d, (d.job s).key, d.outcome s, (deliver d s).1⟩ :: handled ds (deliver d s).2

/-- The report is the one that is due for a job, and it is what was returned. -/
structure Reported (j : Handled) (r : JobReport) : Prop where
  jobKey : r.jobKey = j.key
  returned : j.result = .ok r
  completed : j.delivery.kind.mode = .bestEffort → r.completed = true
  failed : j.delivery.kind.mode = .failCapable →
    (r.completed = false ↔ ∃ e, j.outcome = .error e)
  output : ∀ es, j.outcome = .ok es → r = .complete j.key es
  failure : ∀ e, j.delivery.kind.mode = .failCapable → j.outcome = .error e →
    r = .fail j.key e.message (.int (j.delivery.retries - 1))
  errorOutput : ∀ e, j.delivery.kind.mode = .bestEffort → j.outcome = .error e →
    ∃ es, j.delivery.kind.errorOutput? (.text e.message) = some es ∧ r = .complete j.key es

/-- The counts are those of the reports for some jobs. -/
structure Balanced (c : JobCounts) (js : List Handled) (rs : List JobReport) : Prop where
  sum : c.processed = c.completed + c.failed
  processed : c.processed = rs.length
  failed : c.failed = rs.countP (!·.completed)
  errors : c.errors = c.failed + js.countP (·.onError)

/-- The kinds that never fail have an output for the case of an error. -/
theorem standard_errorOutput {k : JobKind} (h : k.mode = .bestEffort) (message : Value) :
    k.errorOutput? message = some ((Handling.standard k).errorOutput message) := by
  cases k with
  | updateEntityStatus | setAssignee | createEntity => cases h
  | _ => rfl

theorem Delivery.report_ok {d : Delivery} {es : Entries} (h : d.outcome s = .ok es) :
    d.report s = .complete (d.job s).key es := by
  rw [report, h, Handling.answer]

theorem Delivery.report_failCapable {d : Delivery} {e : Error} (hmode : d.kind.mode = .failCapable)
    (h : d.outcome s = .error e) :
    d.report s = .fail (d.job s).key e.message (.int (d.retries - 1)) := by
  have hstandard : (Handling.standard d.kind).mode = .failCapable := hmode
  simp only [report, h, Handling.answer, hstandard]

theorem Delivery.report_bestEffort {d : Delivery} {e : Error} (hmode : d.kind.mode = .bestEffort)
    (h : d.outcome s = .error e) : d.report s = .complete (d.job s).key
      ((Handling.standard d.kind).errorOutput (.text e.message)) := by
  have hstandard : (Handling.standard d.kind).mode = .bestEffort := hmode
  simp only [report, h, Handling.answer, hstandard]

/-- The report that a job comes to is the one that is due. -/
theorem reported_report (d : Delivery) (s : Automation) :
    Reported ⟨d, (d.job s).key, d.outcome s, .ok (d.report s)⟩ (d.report s) := by
  cases houtcome : d.outcome s with
  | ok es =>
    rw [d.report_ok houtcome]
    exact ⟨rfl, rfl, fun _ => rfl, fun _ => by simp [JobReport.complete],
      fun _ h => by rw [Except.ok.inj h], nofun, nofun⟩
  | error e =>
    cases hmode : d.kind.mode with
    | failCapable =>
      rw [d.report_failCapable hmode houtcome]
      refine ⟨rfl, rfl, ?_, fun _ => by simp [JobReport.fail], nofun, ?_, ?_⟩
      · exact fun h => by cases hmode.symm.trans h
      · exact fun _ _ h => by rw [Except.error.inj h]
      · exact fun _ h => by cases hmode.symm.trans h
    | bestEffort =>
      rw [d.report_bestEffort hmode houtcome]
      refine ⟨rfl, rfl, fun _ => rfl, ?_, nofun, ?_, fun _ _ h => ⟨_, ?_, rfl⟩⟩
      · exact fun h => by cases hmode.symm.trans h
      · exact fun _ h => by cases hmode.symm.trans h
      · rw [← Except.error.inj h]
        exact standard_errorOutput hmode _

/-- What is counted while jobs are handed out, whatever was counted before. -/
structure Counted (c c' : JobCounts) (js : List Handled) (rs : List JobReport) : Prop where
  processed : c'.processed = c.processed + rs.length
  completed : c'.completed = c.completed + rs.countP (·.completed)
  failed : c'.failed = c.failed + rs.countP (!·.completed)
  errors : c'.errors = c.errors + rs.countP (!·.completed) + js.countP (·.onError)

theorem Counted.balanced {c : JobCounts} {js : List Handled} {rs : List JobReport}
    (h : Counted {} c js rs) : Balanced c js rs := by
  obtain ⟨hprocessed, hcompleted, hfailed, herrors⟩ := h
  have hlength := List.length_eq_countP_add_countP (·.completed) (l := rs)
  simp only [Nat.zero_add] at hprocessed hcompleted hfailed herrors
  constructor <;> simp_all

/-- A job is counted as it is reported. -/
theorem Counted.deliver {c : JobCounts} {js : List Handled} {rs : List JobReport} {d : Delivery}
    (h : Counted (s.dispatcher.counts.after d.kind.mode (d.outcome s)) c js rs) :
    Counted s.dispatcher.counts c (⟨d, (d.job s).key, d.outcome s, .ok (d.report s)⟩ :: js)
      (d.report s :: rs) := by
  obtain ⟨hprocessed, hcompleted, hfailed, herrors⟩ := h
  cases houtcome : d.outcome s with
  | ok es =>
    have hreport : (d.report s).completed = true := by rw [d.report_ok houtcome]; rfl
    have honError (result : Except Error JobReport) :
        Handled.onError ⟨d, (d.job s).key, .ok es, result⟩ = false := Bool.and_false _
    simp only [houtcome, JobCounts.after] at hprocessed hcompleted hfailed herrors
    constructor <;> simp [hreport, honError] <;> omega
  | error e =>
    cases hmode : d.kind.mode with
    | failCapable =>
      have hreport : (d.report s).completed = false := by
        rw [d.report_failCapable hmode houtcome]; rfl
      have honError (result : Except Error JobReport) :
          Handled.onError ⟨d, (d.job s).key, .error e, result⟩ = false := by
        simp [Handled.onError, hmode]
      simp only [houtcome, hmode, JobCounts.after] at hprocessed hcompleted hfailed herrors
      constructor <;> simp [hreport, honError] <;> omega
    | bestEffort =>
      have hreport : (d.report s).completed = true := by
        rw [d.report_bestEffort hmode houtcome]; rfl
      have honError (result : Except Error JobReport) :
          Handled.onError ⟨d, (d.job s).key, .error e, result⟩ = true := by
        simp [Handled.onError, hmode, Except.isOk, Except.toBool]
      simp only [houtcome, hmode, JobCounts.after] at hprocessed hcompleted hfailed herrors
      constructor <;> simp [hreport, honError] <;> omega

theorem deliver_after (h : Standard s.dispatcher) (d : Delivery) :
    (deliver d s).1 = .ok (d.report s) ∧
      (deliver d s).2.dispatcher = (d.left s).dispatcher ∧
      (deliver d s).2.supply = s.supply.drawId.2 := by
  obtain ⟨s', hrun, hcore⟩ := deliver_ends h d
  have hdispatcher : s'.core.dispatcher = (d.left s).core.dispatcher := by rw [hcore]
  have hsupply : s'.core.supply = (d.left s).core.supply := by rw [hcore]
  rw [hrun]
  exact ⟨rfl, hdispatcher, hsupply⟩

theorem Standard.deliver (h : Standard s.dispatcher) (d : Delivery) :
    Standard (deliver d s).2.dispatcher := by
  rw [(deliver_after h d).2.1]
  exact ⟨h.handlings, h.workers⟩

/-- The jobs are reported in order, and every part of the way the counts are those of the reports
so far. -/
theorem handled_reported (hs : Standard s.dispatcher) (ds : List Delivery) : ∃ rs,
    List.Forall₂ Reported (handled ds s) rs ∧ ∀ n,
      (after (ds.take n) s).dispatcher.reports = s.dispatcher.reports ++ rs.take n ∧
      Counted s.dispatcher.counts (after (ds.take n) s).dispatcher.counts
        ((handled ds s).take n) (rs.take n) := by
  induction ds generalizing s with
  | nil =>
    refine ⟨[], .nil, fun n => ⟨?_, ?_⟩⟩
    · simp [after]
    · constructor <;> simp [after, handled]
  | cons d ds ih =>
    obtain ⟨hresult, hdispatcher, -⟩ := deliver_after hs d
    obtain ⟨rs, hreported, hinitial⟩ := ih (hs.deliver d)
    refine ⟨d.report s :: rs, .cons ?_ hreported, fun n => ?_⟩
    · rw [hresult]
      exact reported_report d s
    · cases n with
      | zero =>
        refine ⟨by simp [after], ?_⟩
        constructor <;> simp [after]
      | succ n =>
        obtain ⟨hreports, hcounted⟩ := hinitial n
        rw [hdispatcher] at hreports hcounted
        refine ⟨hreports.trans (List.append_assoc ..), ?_⟩
        rw [handled, hresult]
        exact hcounted.deliver

/-- The keys of the jobs are the next identifiers of the supply. -/
theorem handled_keys (hs : Standard s.dispatcher) (ds : List Delivery) :
    (handled ds s).map (·.key) =
      (List.range' (s.supply.drawn + 1) ds.length).map fun n => .text (Supply.idText n) := by
  induction ds generalizing s with
  | nil => rfl
  | cons d ds ih =>
    rw [handled, List.map_cons, ih (hs.deliver d), (deliver_after hs d).2.2, List.length_cons,
      List.range'_succ, List.map_cons]
    rfl

theorem handled_keys_nodup (hs : Standard s.dispatcher) (ds : List Delivery) :
    ((handled ds s).map (·.key)).Nodup := by
  rw [handled_keys hs]
  exact List.Nodup.map (fun m n h => Supply.idText_injective (Value.text.inj h)) List.nodup_range'

theorem jobKeys_of_reported {js : List Handled} {rs : List JobReport}
    (h : List.Forall₂ Reported js rs) : rs.map (·.jobKey) = js.map (·.key) := by
  induction h with
  | nil => rfl
  | cons h _ ih => rw [List.map_cons, List.map_cons, h.jobKey, ih]

/-- Jobs that are handed out to the standard handlers, by a dispatcher that counted nothing yet, are
reported once each, in order and as they are due. Every part of the way the reports so far are the
only ones, and the counts are theirs. -/
theorem jobs_reported_once (hs : Standard s.dispatcher) (hfresh : s.dispatcher.counts = {})
    (ds : List Delivery) : ∃ rs,
    List.Forall₂ Reported (handled ds s) rs ∧ (rs.map (·.jobKey)).Nodup ∧ ∀ n,
      (after (ds.take n) s).dispatcher.reports = s.dispatcher.reports ++ rs.take n ∧
      Balanced (after (ds.take n) s).dispatcher.counts ((handled ds s).take n) (rs.take n) := by
  obtain ⟨rs, hreported, hinitial⟩ := handled_reported hs ds
  refine ⟨rs, hreported, ?_, fun n => ⟨(hinitial n).1, ?_⟩⟩
  · rw [jobKeys_of_reported hreported]
    exact handled_keys_nodup hs ds
  · have hcounted := (hinitial n).2
    rw [hfresh] at hcounted
    exact hcounted.balanced

/-- A dispatcher with all workers, which has handled nothing yet. -/
def staffed : Automation :=
  { clock := Stamp.ofInstant Stamp.epoch
    dispatcher := { workers := Handling.standardTable.map (·.1.name) } }

/-- An entity without a title that is to be created on the last attempt, while the incident service
fails, and a mail that the sender fails to send. -/
def twoJobs : List Delivery := [
  { services := [(.entityStore, []),
      (.incidentService, [("mark_as_incident", .raises (PlainError.storage.error "down"))])]
    kind := .createEntity
    vars := [("targetWorkspaceId", .text "w1")]
    retries := 1 },
  { services := [(.emailSender, [("send", .raises (PlainError.storage.error "refused"))])]
    kind := .sendEmail
    vars := [("to", .text "a@b.c"), ("subject", .text "s")] }]

theorem jobs_reported_once_twoJobs :
    (after twoJobs staffed).dispatcher.reports =
      [.fail (.text "id-1") "title is required" (.int 0),
        .complete (.text "id-2") [("emailSent", .bool false), ("error", .text "refused")]] ∧
    Balanced (after twoJobs staffed).dispatcher.counts (handled twoJobs staffed)
      (after twoJobs staffed).dispatcher.reports := by
  obtain ⟨rs, hreported, -, hinitial⟩ := jobs_reported_once (s := staffed) ⟨rfl, rfl⟩ rfl twoJobs
  obtain ⟨hreports, hbalanced⟩ := hinitial 2
  obtain ⟨r₁, rs, h₁, hsecond, rfl⟩ := List.forall₂_cons_left_iff.mp hreported
  obtain ⟨r₂, rs, h₂, hnone, rfl⟩ := List.forall₂_cons_left_iff.mp hsecond
  obtain rfl := List.forall₂_nil_left_iff.mp hnone
  have hfailure := h₁.failure (PlainError.jobHandler.error "title is required") rfl rfl
  obtain ⟨es, hes, herror⟩ := h₂.errorOutput (PlainError.storage.error "refused") rfl rfl
  obtain rfl := Option.some.inj hes
  have htwo : (after twoJobs staffed).dispatcher.reports = [r₁, r₂] := hreports
  rw [htwo]
  exact ⟨by rw [hfailure, herror]; rfl, hbalanced⟩

end ProcessTriggers.Dispatcher
