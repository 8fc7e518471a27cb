import ProcessTriggers.Proofs.Handling

/-!
The calls that a job comes to. A handler makes at most one call, of the one method that its kind
has, and after that call it only answers. The dispatcher adds the call that marks an incident, when
a job failed on its last attempt.
-/

namespace ProcessTriggers

open Action Automation

namespace JobKind

/-- The service that jobs of a kind act on, and its method. -/
def callee : JobKind → Service × String
  | .updateEntityStatus => (.entityStore, "update_status")
  | .setAssignee => (.entityStore, "update_assignee")
  | .createEntity => (.entityStore, "create")
  | .sendNotification => (.notifier, "notify")
  | .sendEmail => (.emailSender, "send")
  | .logActivity => (.auditLog, "log")
  | .classifyEntity => (.classifier, "classify_and_save")
  | .processCompleted => (.runStorage, "update_run_status")
  | .suggestAssignee | .checkDuplicate => (.assistant, "get_assistance")

/-- Whether jobs of a kind have an effect, and do not only ask for something. -/
def isEffectful : JobKind → Bool
  | .suggestAssignee | .checkDuplicate => false
  | _ => true

/-- Whether a call is the one that jobs of a kind make. -/
def makes (k : JobKind) (c : ServiceCall) : Bool := k.callee = (c.service, c.method)

/-- Whether an answer says that there was an effect. Only a mail may be refused by an answer. -/
def succeeds : JobKind → Value → Bool
  | .sendEmail, v => v.truthy
  | _, _ => true

/-- Answers of the declared type, as far as it matters: a classification is an object or null. -/
def Declared (k : JobKind) (v : Value) : Prop :=
  k = .classifyEntity → v = .null ∨ ∃ es, v = .object es

theorem callee_ne_incidentService (k : JobKind) : k.callee.1 ≠ .incidentService := by
  cases k <;> decide

end JobKind

/-- What a handler of a kind comes to, by what it sees: its calls, and how it ends. -/
inductive Acted (k : JobKind) (v : Surroundings) : List ServiceCall → Except Error Entries → Prop
  /-- There was nothing to call, and the output says that nothing was done. -/
  | undone {es : Entries} : es.get? k.flag = some (.bool false) → Acted k v [] (.ok es)
  | unable (e : Error) : Acted k v [] (.error e)
  | refused {c : ServiceCall} {e : Error} : k.makes c = true →
      v.collaborators.answer c.service c.method = .error e → Acted k v [c] (.error e)
  | answered {c : ServiceCall} {x : Value} {r : Except Error Entries} : k.makes c = true →
      v.collaborators.answer c.service c.method = .ok x →
      (k.isEffectful = true → k.Declared x →
        ∃ es, r = .ok es ∧ es.get? k.flag = some (.bool (k.succeeds x))) → Acted k v [c] r
  /-- The store of runs was asked instead of a service. -/
  | stored (r : Except Error Entries) : k = .processCompleted → v.hasRunStore = true →
      Acted k v [] r

namespace Handlers

variable {α : Type} {k : JobKind}

/-- The action makes no call, and what a handler sees stays as it is. -/
structure Silent (a : Action α) : Prop where
  events (s : Automation) : (a s).2.events = s.events
  runs (s : Automation) : (a s).2.runs = s.runs
  surroundings (s : Automation) : (a s).2.surroundings = s.surroundings

theorem silent_pure (x : α) : Silent (pure x : Action α) :=
  ⟨fun _ => rfl, fun _ => rfl, fun _ => rfl⟩

theorem silent_throw (e : Error) : Silent (throw e : Action α) :=
  ⟨fun _ => rfl, fun _ => rfl, fun _ => rfl⟩

theorem silent_ofExcept (r : Except Error α) : Silent (Action.ofExcept r) :=
  ⟨fun _ => rfl, fun _ => rfl, fun _ => rfl⟩

theorem silent_has (service : Service) : Silent (has service) :=
  ⟨fun _ => rfl, fun _ => rfl, fun _ => rfl⟩

theorem silent_log (c : Channel) (level : Log.Level) (message : String) :
    Silent (log c level message) := ⟨fun _ => rfl, fun _ => rfl, fun _ => rfl⟩

theorem silent_now : Silent now := ⟨fun _ => rfl, fun _ => rfl, fun _ => rfl⟩

theorem silent_timeText : Silent timeText := ⟨fun _ => rfl, fun _ => rfl, fun _ => rfl⟩

theorem silent_bind {β : Type} {a : Action α} {f : α → Action β} (ha : Silent a)
    (hf : ∀ x, Silent (f x)) : Silent (a >>= f) := by
  constructor
  all_goals
    intro s
    have hevents := ha.events s
    have hruns := ha.runs s
    have hsurroundings := ha.surroundings s
    rw [bind_run]
    generalize a s = r at hevents hruns hsurroundings ⊢
    obtain ⟨e | x, t⟩ := r
  · exact hevents
  · exact ((hf x).events t).trans hevents
  · exact hruns
  · exact ((hf x).runs t).trans hruns
  · exact hsurroundings
  · exact ((hf x).surroundings t).trans hsurroundings

theorem silent_ite {c : Prop} [Decidable c] {a b : Action α} (ha : Silent a) (hb : Silent b) :
    Silent (if c then a else b) := by
  by_cases h : c
  · rwa [if_pos h]
  · rwa [if_neg h]

theorem silent_required (j : Job) (name : String) : Silent (required j name) :=
  silent_bind (silent_ofExcept _) fun _ => silent_ite (silent_pure _) (silent_throw _)

/-- Whether a job of a kind has its effect in the store of runs. -/
def Stores (k : JobKind) (s : Automation) : Prop :=
  k = .processCompleted ∧ s.dispatcher.hasRunStore = true

instance (k : JobKind) (s : Automation) : Decidable (Stores k s) :=
  inferInstanceAs (Decidable (_ ∧ _))

/-- However it goes for an action, its calls are those of a kind, and it ends as they did. -/
def Acts (k : JobKind) (a : Action Entries) : Prop :=
  ∀ s, ¬Stores k s → ∃ calls, (a s).2.events = s.events ++ calls.map .called ∧
    (a s).2.runs = s.runs ∧ Acted k s.surroundings calls (a s).1

theorem acts_bind {a : Action α} {f : α → Action Entries} (ha : Silent a)
    (hf : ∀ x, Acts k (f x)) : Acts k (a >>= f) := by
  intro s hstores
  have hevents := ha.events s
  have hruns := ha.runs s
  have hsurroundings := ha.surroundings s
  rw [bind_run]
  generalize a s = r at hevents hruns hsurroundings ⊢
  obtain ⟨e | x, t⟩ := r
  · exact ⟨[], hevents.trans (List.append_nil _).symm, hruns, .unable e⟩
  · have hstore : t.dispatcher.hasRunStore = s.dispatcher.hasRunStore :=
      congrArg Surroundings.hasRunStore hsurroundings
    obtain ⟨calls, hcalls, hkept, hacted⟩ := hf x t (by rwa [Stores, hstore])
    exact ⟨calls, hcalls.trans (congrArg (· ++ _) hevents), hkept.trans hruns,
      hsurroundings ▸ hacted⟩

theorem acts_ite {c : Prop} [Decidable c] {a b : Action Entries} (ha : Acts k a)
    (hb : Acts k b) : Acts k (if c then a else b) := by
  by_cases h : c
  · rwa [if_pos h]
  · rwa [if_neg h]

theorem acts_undone {es : Entries} (h : es.get? k.flag = some (.bool false)) :
    Acts k (pure es : Action Entries) :=
  fun _ _ => ⟨[], (List.append_nil _).symm, rfl, .undone h⟩

theorem acts_notDone (reason : String) :
    Acts k (pure (notDone k.flag reason) : Action Entries) :=
  acts_undone (by simp [notDone, Entries.get?])

theorem acts_notAvailable (service : String) : Acts k (notAvailable k.flag service) :=
  acts_bind (silent_log _ _ _) fun _ => acts_notDone _

/-- What is done after a method has answered: no more calls, and an output that tells the truth. -/
structure Follows (k : JobKind) (x : Value) (a : Action Entries) : Prop where
  silent : Silent a
  output (s : Automation) : k.isEffectful = true → k.Declared x →
    ∃ es, (a s).1 = .ok es ∧ es.get? k.flag = some (.bool (k.succeeds x))

theorem acts_call {arguments : List Value} {named : Entries} {f : Value → Action Entries}
    (hf : ∀ x, Follows k x (f x)) :
    Acts k (call k.callee.1 k.callee.2 arguments named >>= f) := by
  intro s _
  have hmakes : k.makes ⟨k.callee.1, k.callee.2, arguments, named⟩ = true := by
    simp [JobKind.makes]
  refine ⟨[⟨k.callee.1, k.callee.2, arguments, named⟩], ?_⟩
  obtain ⟨t, ht⟩ : ∃ t, t = { s with
    events := s.events ++ [Event.called ⟨k.callee.1, k.callee.2, arguments, named⟩] } := ⟨_, rfl⟩
  have hcall : call k.callee.1 k.callee.2 arguments named s =
      (s.dispatcher.collaborators.answer k.callee.1 k.callee.2, t) := by
    rw [ht]
    rfl
  cases hanswer : s.dispatcher.collaborators.answer k.callee.1 k.callee.2 with
  | error e =>
    rw [hanswer] at hcall
    rw [bind_error hcall, ht]
    exact ⟨rfl, rfl, .refused hmakes hanswer⟩
  | ok x =>
    rw [hanswer] at hcall
    have hafter := hf x
    rw [bind_ok hcall]
    exact ⟨(hafter.silent.events t).trans (by rw [ht]; rfl),
      (hafter.silent.runs t).trans (by rw [ht]),
      .answered hmakes hanswer (hafter.output t)⟩

theorem updateEntityStatus_acts (j : Job) : Acts .updateEntityStatus (updateEntityStatus j) := by
  refine acts_bind (silent_ofExcept _) fun entity => ?_
  refine acts_bind (silent_ofExcept _) fun status => ?_
  refine acts_bind (silent_has _) fun _ => acts_ite (acts_notAvailable _) ?_
  refine acts_ite (acts_notDone _) (acts_call fun x => ⟨?_, fun _ _ _ => ⟨_, rfl, rfl⟩⟩)
  exact silent_bind (silent_log _ _ _) fun _ => silent_bind silent_timeText fun _ => silent_pure _

theorem setAssignee_acts (j : Job) : Acts .setAssignee (setAssignee j) := by
  refine acts_bind (silent_ofExcept _) fun entity => ?_
  refine acts_bind (silent_ofExcept _) fun assignee => ?_
  refine acts_bind (silent_has _) fun _ => acts_ite (acts_notAvailable _) ?_
  refine acts_ite (acts_notDone _) (acts_call fun x => ⟨?_, fun _ _ _ => ⟨_, rfl, rfl⟩⟩)
  exact silent_bind (silent_log _ _ _) fun _ => silent_bind silent_timeText fun _ => silent_pure _

theorem createEntity_acts (j : Job) : Acts .createEntity (createEntity j) := by
  refine acts_bind (silent_has _) fun _ => acts_ite (acts_notAvailable _) ?_
  refine acts_bind (silent_required _ _) fun workspace => ?_
  refine acts_bind (silent_required _ _) fun title => ?_
  refine acts_bind (silent_ofExcept _) fun status => ?_
  refine acts_bind (silent_ofExcept _) fun priority => ?_
  refine acts_bind (silent_ofExcept _) fun data => ?_
  refine acts_bind (silent_ofExcept _) fun source => ?_
  refine acts_bind (silent_ofExcept _) fun linkType => ?_
  refine acts_bind (silent_ofExcept _) fun createdBy => ?_
  refine acts_call fun x => ⟨?_, fun _ _ _ => ⟨_, rfl, rfl⟩⟩
  exact silent_bind (silent_log _ _ _) fun _ => silent_pure _

theorem sendNotification_acts (j : Job) : Acts .sendNotification (sendNotification j) := by
  refine acts_bind (silent_ofExcept _) fun user => ?_
  refine acts_bind (silent_ofExcept _) fun message => ?_
  refine acts_bind (silent_has _) fun _ => acts_ite (acts_notAvailable _) ?_
  refine acts_ite (acts_notDone _) (acts_bind (silent_ofExcept _) fun entity => ?_)
  refine acts_bind (silent_ofExcept _) fun workspace => ?_
  exact acts_call fun x => ⟨silent_pure _, fun _ _ _ => ⟨_, rfl, rfl⟩⟩

theorem sendEmail_acts (j : Job) : Acts .sendEmail (sendEmail j) := by
  refine acts_bind (silent_ofExcept _) fun recipient => ?_
  refine acts_bind (silent_ofExcept _) fun subject => ?_
  refine acts_bind (silent_ofExcept _) fun body => ?_
  refine acts_bind (silent_has _) fun _ => acts_ite (acts_notDone _) ?_
  exact acts_call fun x => ⟨silent_pure _, fun _ _ _ => ⟨_, rfl, rfl⟩⟩

theorem logActivity_acts (j : Job) : Acts .logActivity (logActivity j) := by
  refine acts_bind (silent_ofExcept _) fun workspace => ?_
  refine acts_bind (silent_ofExcept _) fun action => ?_
  refine acts_bind (silent_ofExcept _) fun details => ?_
  refine acts_bind (silent_has _) fun _ => acts_ite (acts_notAvailable _) ?_
  refine acts_ite (acts_notDone _) (acts_bind (silent_ofExcept _) fun actor => ?_)
  refine acts_bind (silent_ofExcept _) fun es => ?_
  refine acts_bind (silent_ofExcept _) fun entity => ?_
  exact acts_call fun x => ⟨silent_pure _, fun _ _ _ => ⟨_, rfl, rfl⟩⟩

theorem classifyEntity_acts (j : Job) : Acts .classifyEntity (classifyEntity j) := by
  refine acts_bind (silent_ofExcept _) fun entity => ?_
  refine acts_bind (silent_has _) fun _ => acts_ite ?_ ?_
  · exact acts_bind (silent_log _ _ _) fun _ => acts_notDone _
  · refine acts_call fun x => ⟨?_, fun s _ hdeclared => ?_⟩
    · refine silent_bind (silent_ofExcept _) fun es => ?_
      exact silent_bind (silent_log _ _ _) fun _ => silent_pure _
    · rcases hdeclared rfl with rfl | ⟨es, rfl⟩
      · exact ⟨_, rfl, rfl⟩
      · cases es <;> exact ⟨_, rfl, rfl⟩

theorem updateRunStatus_run (key : String) (status : RunStatus) (s : Automation) :
    updateRunStatus key status s = match s.broken.lookup .updateRunStatus with
      | some e => (.error e, s)
      | none => match s.runs.updateStatus key status with
        | .ok runs => (.ok ⟨⟩, { s with runs })
        | .error e => (.error e, s) := by
  rw [updateRunStatus, calling, bind_get]
  cases s.broken.lookup .updateRunStatus with
  | some e => rfl
  | none =>
    dsimp only
    rw [bind_get, bind_run, ofExcept_run]
    cases s.runs.updateStatus key status <;> rfl

theorem updateRunStatus_events (key : String) (status : RunStatus) (s : Automation) :
    (updateRunStatus key status s).2.events = s.events := by
  rw [updateRunStatus_run]
  split
  · rfl
  · split <;> rfl

/-- The store of runs answers by what it holds, and by whether it is broken. -/
theorem updateRunStatus_congr {s t : Automation} (hbroken : t.broken = s.broken)
    (hruns : t.runs = s.runs) (key : String) (status : RunStatus) :
    (updateRunStatus key status t).2.runs = (updateRunStatus key status s).2.runs := by
  rw [updateRunStatus_run, updateRunStatus_run, hbroken, hruns]
  split
  · exact hruns
  · split
    · rfl
    · exact hruns

theorem processCompleted_acts (j : Job) : Acts .processCompleted (processCompleted j) := by
  intro s hstores
  rw [processCompleted, bind_get, if_neg fun hstore => hstores ⟨rfl, hstore⟩]
  refine acts_bind (silent_has _) (fun _ => acts_ite ?_ (acts_notAvailable _)) s hstores
  exact acts_call fun x => ⟨silent_pure _, fun _ _ _ => ⟨_, rfl, rfl⟩⟩

/-- What is made of the help of the assistant, if it is asked for help. -/
theorem acts_assistance (hcallee : k.callee = (.assistant, "get_assistance"))
    (heffect : k.isEffectful = false) {entity : Value} {g : Option Entries → Action Entries}
    (hnone : Acts k (g none)) (hsome : ∀ es, Silent (g (some es))) :
    Acts k (assistance entity >>= g) := by
  have hassistance : assistance entity >>= g = has .assistant >>= fun b =>
      if b && entity.truthy then
        call k.callee.1 k.callee.2 [entity] [] >>= fun x =>
          Action.ofExcept ((x.orElse (.object [])).entries "get") >>= fun es => g (some es)
      else g none := by
    rw [hcallee, assistance]
    simp only [bind_assoc]
    refine congrArg _ (funext fun b => ?_)
    split <;> simp
  rw [hassistance]
  refine acts_bind (silent_has _) fun b => acts_ite (acts_call fun x => ?_) hnone
  exact ⟨silent_bind (silent_ofExcept _) hsome, fun _ h => by rw [heffect] at h; cases h⟩

theorem suggestAssignee_acts (j : Job) : Acts .suggestAssignee (suggestAssignee j) := by
  refine acts_bind (silent_ofExcept _) fun entity => acts_assistance rfl rfl ?_ fun es => ?_
  · exact acts_bind (silent_log _ _ _) fun _ => acts_undone rfl
  · refine silent_ite (silent_bind (silent_ofExcept _) fun top => ?_) ?_
    · exact silent_bind (silent_log _ _ _) fun _ => silent_pure _
    · exact silent_bind (silent_log _ _ _) fun _ => silent_pure _

theorem checkDuplicate_acts (j : Job) : Acts .checkDuplicate (checkDuplicate j) := by
  refine acts_bind (silent_ofExcept _) fun entity => acts_assistance rfl rfl ?_ fun es => ?_
  · have hnone : JobKind.noDuplicate.get? JobKind.checkDuplicate.flag = some (.bool false) := rfl
    exact fun s _ => ⟨[], (List.append_nil s.events).symm, rfl, .undone hnone⟩
  · refine silent_bind (silent_ofExcept _) fun cases => silent_bind (silent_ofExcept _) fun d => ?_
    cases d with
    | none => exact silent_pure _
    | some d => exact silent_bind (silent_log _ _ _) fun _ => silent_pure _

/-- A handler makes at most one call, of the method of its kind, and tells the truth about it. -/
theorem run_acts (k : JobKind) (j : Job) : Acts k (run k j) := by
  cases k with
  | updateEntityStatus => exact updateEntityStatus_acts j
  | setAssignee => exact setAssignee_acts j
  | createEntity => exact createEntity_acts j
  | sendNotification => exact sendNotification_acts j
  | sendEmail => exact sendEmail_acts j
  | logActivity => exact logActivity_acts j
  | classifyEntity => exact classifyEntity_acts j
  | processCompleted => exact processCompleted_acts j
  | suggestAssignee => exact suggestAssignee_acts j
  | checkDuplicate => exact checkDuplicate_acts j

/-- With a store of runs, the job of a completed process comes to what the store makes of it. -/
theorem run_stores {s : Automation} (h : Stores k s) (j : Job) :
    (run k j s).1 = (updateRunStatus j.runKey.shown .completed s).1.map
        (fun _ => [(k.flag, .bool true)]) ∧
      (run k j s).2.runs = (updateRunStatus j.runKey.shown .completed s).2.runs ∧
      (run k j s).2.events = s.events := by
  obtain ⟨rfl, hstore⟩ := h
  have hevents := updateRunStatus_events j.runKey.shown .completed s
  rw [run, processCompleted, bind_get, if_pos hstore, bind_run]
  generalize updateRunStatus j.runKey.shown .completed s = r at hevents ⊢
  obtain ⟨e | x, t⟩ := r <;> exact ⟨rfl, rfl, hevents⟩

end Handlers

theorem isAtMost_int (m n : Int) : (Value.int m).isAtMost (.int n) = .ok (decide (m ≤ n)) := by
  have horder : Value.order "<=" (.int m) (.int n) = .ok (some (compare m n)) := rfl
  rw [Value.isAtMost, horder]
  cases h : compare m n with
  | lt => rw [decide_eq_true (Int.compare_ne_gt.mp (by rw [h]; decide))]; rfl
  | eq => rw [decide_eq_true (Int.compare_ne_gt.mp (by rw [h]; decide))]; rfl
  | gt => rw [decide_eq_false (Int.not_le.mpr (Int.compare_eq_gt.mp h))]; rfl

namespace Dispatcher

open Handlers (Silent)

/-- The action succeeds with some calls, leaves the store of runs in some state, and changes nothing
that a handler sees. -/
def Says {α : Type} (a : Action α) (s : Automation) (x : α) (calls : List ServiceCall)
    (runs : RunStore) : Prop :=
  ∃ s', a s = (.ok x, s') ∧ s'.events = s.events ++ calls.map .called ∧ s'.runs = runs ∧
    s'.surroundings = s.surroundings

section

variable {α β : Type} {s : Automation} {x : α} {cs ds : List ServiceCall} {runs : RunStore}

theorem says_silent {a : Action α} (ha : Silent a) (hx : (a s).1 = .ok x) : Says a s x [] s.runs :=
  ⟨(a s).2, Prod.ext hx rfl, (ha.events s).trans (List.append_nil _).symm, ha.runs s,
    ha.surroundings s⟩

theorem Says.bind {a : Action α} {f : α → Action β} {y : β} {runs' : RunStore}
    (h : Says a s x cs runs) (hf : ∀ s', s'.runs = runs → s'.surroundings = s.surroundings →
      Says (f x) s' y ds runs') : Says (a >>= f) s y (cs ++ ds) runs' := by
  obtain ⟨s₁, hrun, hevents, hruns, hsurroundings⟩ := h
  obtain ⟨s₂, hrun', hevents', hruns', hsurroundings'⟩ := hf s₁ hruns hsurroundings
  refine ⟨s₂, by rw [bind_ok hrun, hrun'], ?_, hruns', hsurroundings'.trans hsurroundings⟩
  rw [hevents', hevents, List.map_append, List.append_assoc]

theorem says_bind_silent {a : Action α} {f : α → Action β} {y : β} (ha : Silent a)
    (hx : (a s).1 = .ok x)
    (hf : ∀ s', s'.surroundings = s.surroundings → Says (f x) s' y ds s'.runs) :
    Says (a >>= f) s y ds s.runs := by
  refine (says_silent ha hx).bind fun s' hruns hsurroundings => ?_
  rw [← hruns]
  exact hf s' hsurroundings

theorem Says.after {a : Action α} {f : α → Action β} {y : β} (ha : Silent a)
    (hx : (a s).1 = .ok x) (h : Says (f x) (a s).2 y cs runs) : Says (a >>= f) s y cs runs := by
  obtain ⟨s₁, hrun, hevents, hruns, hsurroundings⟩ := h
  have hfirst : a s = (.ok x, (a s).2) := Prod.ext hx rfl
  exact ⟨s₁, by rw [bind_ok hfirst, hrun], hevents.trans (by rw [ha.events]), hruns,
    hsurroundings.trans (ha.surroundings s)⟩

theorem Says.binding {fields : Entries} {a : Action α}
    (h : Says a { s with bound := Log.bind s.bound fields } x cs runs) :
    Says (binding fields a) s x cs runs := by
  obtain ⟨s₁, hrun, hevents, hruns, hsurroundings⟩ := h
  refine ⟨{ s₁ with bound := s.bound }, ?_, hevents, hruns, hsurroundings⟩
  rw [binding_run, withBound_run, hrun]

end

/-- The call that marks an incident of the run of a job. -/
def incidentCall (job : Job) (message : String) : ServiceCall :=
  ⟨.incidentService, "mark_as_incident", [.text job.runKey.shown, .text message], []⟩

/-- The calls that the dispatcher adds for a job with some attempts left whose handler ended in
some way. -/
def incidentCalls (h : Handling) (job : Job) (retries : Int) (c : Collaborators) :
    Except Error Entries → List ServiceCall
  | .ok _ => []
  | .error e =>
    if h.mode = .failCapable ∧ retries ≤ 1 ∧ c.has .incidentService = true then
      [incidentCall job e.message]
    else []

theorem silent_changeCounts (f : JobCounts → JobCounts) : Silent (changeCounts f) :=
  ⟨fun _ => rfl, fun _ => rfl, fun _ => rfl⟩

theorem silent_countOutcome (k : JobKind) (outcome : String) : Silent (countOutcome k outcome) :=
  ⟨fun _ => rfl, fun _ => rfl, fun _ => rfl⟩

theorem silent_schedule (job : Job) (status : String) (startedAt : Stamp) :
    Silent (Audit.schedule job status startedAt) := by
  refine ⟨fun s => ?_, fun s => ?_, fun s => ?_⟩ <;> rw [Audit.schedule_run]
  rfl

theorem report_tells (reports : Bool) (r : JobReport) (s : Automation) :
    Says (report reports r) s r [] s.runs := by
  cases reports <;> exact says_silent ⟨fun _ => rfl, fun _ => rfl, fun _ => rfl⟩ rfl

/-- Whatever the incident service does, it is called once. -/
theorem markIncident_tells (job : Job) (message : String) (s : Automation) :
    Says (markIncident job message) s ⟨⟩ [incidentCall job message] s.runs := by
  rw [Says, markIncident, bind_ok (attempt_run _ s)]
  cases (Handlers.call .incidentService "mark_as_incident"
    [.text job.runKey.shown, .text message] [] s).1 with
  | ok v => exact ⟨_, rfl, rfl, rfl, rfl⟩
  | error e => exact ⟨_, rfl, rfl, rfl, rfl⟩

theorem failWithIncidentCheck_tells {h : Handling} (hmode : h.mode = .failCapable) {job : Job}
    {n : Int} (hn : job.retries = .int n) (reports : Bool) (e : Error) (s : Automation) :
    Says (failWithIncidentCheck job reports e.message) s (.fail job.key e.message (.int (n - 1)))
      (incidentCalls h job n s.dispatcher.collaborators (.error e)) s.runs := by
  have hdecrement : job.retries.decrement = .ok (.int (n - 1)) := by rw [hn]; rfl
  have hexhausted : (Value.int (n - 1)).isAtMost (.int 0) = .ok (decide (n ≤ 1)) := by
    rw [isAtMost_int]
    exact congrArg Except.ok (decide_eq_decide.mpr (by omega))
  have hhas : Handlers.has .incidentService s =
    (.ok (s.dispatcher.collaborators.has .incidentService), s) := rfl
  rw [Says, failWithIncidentCheck, bind_ofExcept hdecrement, bind_ofExcept hexhausted,
    bind_ok hhas]
  simp only [incidentCalls, hmode, true_and, Bool.and_eq_true, decide_eq_true_eq]
  split
  · refine (markIncident_tells job e.message s).bind fun s₁ hruns _ => ?_
    rw [← hruns]
    exact report_tells reports _ s₁
  · exact report_tells reports _ s

/-- What a handler comes to when its errors are caught. -/
theorem attempt_tells (k : JobKind) (job : Job) (s : Automation) :
    ∃ calls, Acted k s.surroundings calls (Handlers.run k job s).1 ∧
      (Handlers.Stores k s → calls = []) ∧
      Says (attempt (Handlers.run k job)) s (Handlers.run k job s).1 calls
        (if Handlers.Stores k s then (updateRunStatus job.runKey.shown .completed s).2.runs
          else s.runs) := by
  have hsurroundings := surroundings_of_core ((Handlers.run_confined k job).state s)
  by_cases hstores : Handlers.Stores k s
  · obtain ⟨-, hruns, hevents⟩ := Handlers.run_stores hstores job
    exact ⟨[], .stored _ hstores.1 hstores.2, fun _ => rfl, _, attempt_run _ _,
      hevents.trans (List.append_nil _).symm, by rwa [if_pos hstores], hsurroundings⟩
  · obtain ⟨calls, hevents, hruns, hacted⟩ := Handlers.run_acts k job s hstores
    exact ⟨calls, hacted, fun h => absurd h hstores, _, attempt_run _ _, hevents,
      by rwa [if_neg hstores], hsurroundings⟩

/-- What is left to do once a handler ended: one report, and the call that marks an incident if the
last attempt failed. -/
theorem reportError_tells {k : JobKind} {job : Job} {h : Handling} {n : Int}
    (hn : job.retries = .int n) (reports : Bool) (e : Error) (s : Automation) :
    Says (reportError k h job reports e.message) s (h.answer job n (.error e))
      (incidentCalls h job n s.dispatcher.collaborators (.error e)) s.runs := by
  rw [reportError]
  cases hmode : h.mode with
  | bestEffort =>
    simp only [incidentCalls, Handling.answer, hmode, reduceCtorEq, false_and, if_false]
    refine says_bind_silent (silent_changeCounts _) rfl fun s₁ _ => ?_
    exact says_bind_silent (silent_countOutcome _ _) rfl fun s₂ _ => report_tells reports _ s₂
  | failCapable =>
    simp only [Handling.answer, hmode]
    refine says_bind_silent (silent_changeCounts _) rfl fun s₁ hs₁ => ?_
    refine says_bind_silent (silent_countOutcome _ _) rfl fun s₂ hs₂ => ?_
    have hcollaborators : s₂.dispatcher.collaborators = s.dispatcher.collaborators :=
      congrArg Surroundings.collaborators (hs₂.trans hs₁)
    rw [← hcollaborators]
    exact failWithIncidentCheck_tells hmode hn reports e s₂

/-- The calls that the handling of a job comes to: those of its handler, and the one that marks an
incident if the last attempt failed. -/
theorem handle_tells {k : JobKind} {job : Job} {s : Automation} {h : Handling} {n : Int}
    (hlookup : s.dispatcher.handlings.lookup k = some h) (hn : job.retries = .int n)
    {outcome : Except Error Entries} (houtcome : (Handlers.run h.handler job s).1 = outcome)
    (reports : Bool) : ∃ calls, Acted h.handler s.surroundings calls outcome ∧
      (Handlers.Stores h.handler s → calls = []) ∧
      Says (handle k job reports) s (h.answer job n outcome)
        (calls ++ incidentCalls h job n s.dispatcher.collaborators outcome)
        (if Handlers.Stores h.handler s then
          (updateRunStatus job.runKey.shown .completed s).2.runs else s.runs) := by
  -- The state in which the handler is run.
  obtain ⟨s₁, hs₁⟩ : ∃ s₁, s₁ = (log .dispatcher Log.info
      ("Handling job " ++ job.key.shown ++ " of type " ++ k.name)
      { (changeCounts (fun c => { c with processed := c.processed + 1 }) s).2 with
        bound := Log.bind s.bound (correlation k job) }).2 := ⟨_, rfl⟩
  have hsurroundings : s₁.surroundings = s.surroundings := by rw [hs₁]; rfl
  have hsame : (Handlers.run h.handler job s₁).1 = outcome :=
    ((Handlers.run_confined h.handler job).outcome hsurroundings).trans houtcome
  obtain ⟨calls, hacted, hnone, hattempt⟩ := attempt_tells h.handler job s₁
  have hstores : Handlers.Stores h.handler s₁ ↔ Handlers.Stores h.handler s := by rw [hs₁]; rfl
  rw [hsame, hsurroundings] at hacted
  have hruns : (if Handlers.Stores h.handler s₁ then
      (updateRunStatus job.runKey.shown .completed s₁).2.runs else s₁.runs) =
      if Handlers.Stores h.handler s then
        (updateRunStatus job.runKey.shown .completed s).2.runs else s.runs := by
    have hupdate := Handlers.updateRunStatus_congr (s := s) (t := s₁) (by rw [hs₁]; rfl)
      (by rw [hs₁]; rfl) job.runKey.shown .completed
    rw [hupdate, hs₁]
    rfl
  rw [hsame, hruns] at hattempt
  refine ⟨calls, hacted, fun h => hnone (hstores.mpr h), ?_⟩
  subst hs₁
  rw [Says, handle, bind_get, hlookup]
  refine Says.after Handlers.silent_now rfl (Says.after (silent_changeCounts _) rfl
    (Says.binding (Says.after (Handlers.silent_log _ _ _) rfl ?_)))
  refine hattempt.bind fun s₂ hruns₂ hs₂ => ?_
  have hcollaborators : s₂.dispatcher.collaborators = s.dispatcher.collaborators :=
    congrArg Surroundings.collaborators (hs₂.trans hsurroundings)
  rw [← hcollaborators, ← hruns₂]
  have hschedule : ∀ status startedAt (s : Automation),
      (Audit.schedule job status startedAt s).1 = .ok ⟨⟩ := fun _ _ _ => by rw [Audit.schedule_run]
  cases outcome with
  | ok output =>
    refine says_bind_silent (silent_schedule _ _ _) (hschedule _ _ _) fun s₃ _ => ?_
    refine says_bind_silent (silent_changeCounts _) rfl fun s₄ _ => ?_
    exact says_bind_silent (silent_countOutcome _ _) rfl fun s₅ _ => report_tells reports _ s₅
  | error e =>
    refine says_bind_silent (silent_changeCounts _) rfl fun s₃ hs₃ => ?_
    refine says_bind_silent (silent_schedule _ _ _) (hschedule _ _ _) fun s₄ hs₄ => ?_
    refine says_bind_silent (Handlers.silent_log _ _ _) rfl fun s₅ hs₅ => ?_
    have hsame' : s₅.dispatcher.collaborators = s₂.dispatcher.collaborators :=
      congrArg Surroundings.collaborators (hs₅.trans (hs₄.trans hs₃))
    rw [← hsame']
    exact reportError_tells hn reports e s₅

end Dispatcher
end ProcessTriggers
