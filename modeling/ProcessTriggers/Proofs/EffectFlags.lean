import ProcessTriggers.Proofs.ServiceCalls

/-!
The flags of effects. Whatever the variables of a job are and whatever the services do, the effect
is sought at most once, and the flag that is reported is true exactly if it was sought and had.
-/

namespace ProcessTriggers.Dispatcher

open Action Automation
open Handlers (Stores)

/-- The answers that a job of a kind got where it sought its effect: from the store of runs, or from
the method of its kind, as often as that was called. -/
def effectAnswers (k : JobKind) (job : Job) (s : Automation) (calls : List ServiceCall) :
    List (Except Error Value) :=
  (if Stores k s then [(updateRunStatus job.runKey.shown .completed s).1.map fun _ => .null]
    else []) ++
  (calls.filter k.makes).map fun c => s.dispatcher.collaborators.answer c.service c.method

/-- The report tells the truth about an effect that was sought with some answers. -/
structure Truthful (k : JobKind) (answers : List (Except Error Value)) (r : JobReport) : Prop where
  once : answers.length ≤ 1
  told : r.completed = true → ∃ b, r.vars.get? k.flag = some (.bool b)
  had : r.completed = true ∧ r.vars.get? k.flag = some (.bool true) ↔
    ∃ x, .ok x ∈ answers ∧ k.succeeds x = true
  notHad : r.completed = false ∨ r.vars.get? k.flag = some (.bool false) →
    ∀ a ∈ answers, (∃ e, a = .error e) ∨ ∃ x, a = .ok x ∧ k.succeeds x = false

variable {k : JobKind} {job : Job} {n : Int}

/-- A report tells the truth if its flag, or else its failure, says whether some answer was that
there is an effect. -/
theorem truthful_of_flag {answers : List (Except Error Value)} {r : JobReport} (b : Bool)
    (hflag : r.completed = true ∧ r.vars.get? k.flag = some (.bool b) ∨
      r.completed = false ∧ b = false)
    (hone : answers.length ≤ 1) (hb : b = true ↔ ∃ x, .ok x ∈ answers ∧ k.succeeds x = true) :
    Truthful k answers r where
  once := hone
  told hcompleted := by
    rcases hflag with ⟨-, hflag⟩ | ⟨hfailed, -⟩
    · exact ⟨b, hflag⟩
    · rw [hcompleted] at hfailed
      cases hfailed
  had := by
    rw [← hb]
    rcases hflag with ⟨hcompleted, hflag⟩ | ⟨hfailed, hfalse⟩
    · rw [hcompleted, hflag]
      simp
    · rw [hfailed, hfalse]
      simp
  notHad h a ha := by
    have hfalse : b = false := by
      rcases hflag with ⟨hcompleted, hflag⟩ | ⟨-, hfalse⟩
      · rw [hcompleted, hflag] at h
        simpa using h
      · exact hfalse
    cases a with
    | error e => exact .inl ⟨e, rfl⟩
    | ok x =>
      refine .inr ⟨x, rfl, Bool.eq_false_iff.mpr fun hx => ?_⟩
      rw [hb.mpr ⟨x, ha, hx⟩] at hfalse
      cases hfalse

theorem standard_errorFlag (heffect : k.isEffectful = true) (hmode : k.mode = .bestEffort)
    (message : Value) :
    ((Handling.standard k).errorOutput message).get? k.flag = some (.bool false) := by
  cases k with
  | suggestAssignee | checkDuplicate => cases heffect
  | updateEntityStatus | setAssignee | createEntity => cases hmode
  | _ => rfl

/-- After an error a kind with an effect is reported as without it, or as failed. -/
theorem answer_error_flag (heffect : k.isEffectful = true) (job : Job) (n : Int) (e : Error) :
    let r := (Handling.standard k).answer job n (.error e)
    r.completed = true ∧ r.vars.get? k.flag = some (.bool false) ∨ r.completed = false := by
  have hstandard : (Handling.standard k).mode = k.mode := rfl
  cases hmode : k.mode with
  | bestEffort =>
    simp only [Handling.answer, hstandard, hmode]
    exact .inl ⟨rfl, standard_errorFlag heffect hmode _⟩
  | failCapable =>
    simp only [Handling.answer, hstandard, hmode]
    exact .inr rfl

/-- What is reported about an effect that no answer said was had. -/
theorem truthful_of_error (heffect : k.isEffectful = true) (e : Error)
    {answers : List (Except Error Value)} (hone : answers.length ≤ 1)
    (hnot : ∀ x, .ok x ∉ answers) :
    Truthful k answers ((Handling.standard k).answer job n (.error e)) := by
  refine truthful_of_flag false ?_ hone ⟨nofun, fun ⟨x, hx, _⟩ => absurd hx (hnot x)⟩
  exact (answer_error_flag heffect job n e).imp id fun hfailed => ⟨hfailed, rfl⟩

/-- The call that marks an incident seeks no effect. -/
theorem filter_incidentCalls (h : Handling) (job : Job) (n : Int) (c : Collaborators)
    (outcome : Except Error Entries) :
    (incidentCalls h job n c outcome).filter k.makes = [] := by
  have hmakes : ∀ message, k.makes (incidentCall job message) = false := fun message => by
    cases k <;> rfl
  cases outcome with
  | ok es => rfl
  | error e =>
    simp only [incidentCalls]
    split
    · simp [hmakes]
    · rfl

/-- What a handler comes to is reported truthfully. -/
theorem truthful_of_acted {s : Automation} (heffect : k.isEffectful = true)
    (hstores : ¬Stores k s)
    (hdeclared : ∀ x, s.dispatcher.collaborators.answer k.callee.1 k.callee.2 = .ok x →
      k.Declared x) {calls : List ServiceCall} {outcome : Except Error Entries}
    (hacted : Acted k s.surroundings calls outcome) :
    Truthful k ((calls.filter k.makes).map fun c =>
        s.dispatcher.collaborators.answer c.service c.method)
      ((Handling.standard k).answer job n outcome) := by
  have hcallee : ∀ {c : ServiceCall}, k.makes c = true →
      k.callee.1 = c.service ∧ k.callee.2 = c.method := fun h => by
    rw [JobKind.makes, decide_eq_true_eq] at h
    exact ⟨congrArg Prod.fst h, congrArg Prod.snd h⟩
  cases hacted with
  | undone hflag =>
    exact truthful_of_flag false (.inl ⟨rfl, hflag⟩) (Nat.zero_le _) (by simp)
  | unable e => exact truthful_of_error heffect e (Nat.zero_le _) (by simp)
  | refused hmakes hanswer =>
    have hanswer' : s.dispatcher.collaborators.answer _ _ = _ := hanswer
    rw [List.filter_cons_of_pos hmakes, List.filter_nil, List.map_singleton, hanswer']
    exact truthful_of_error heffect _ Nat.le.refl (by simp)
  | @answered c x r hmakes hanswer houtput =>
    have hanswer' : s.dispatcher.collaborators.answer c.service c.method = .ok x := hanswer
    obtain ⟨hservice, hmethod⟩ := hcallee hmakes
    obtain ⟨es, rfl, hflag⟩ := houtput heffect (hdeclared x (by rw [hservice, hmethod, hanswer']))
    rw [List.filter_cons_of_pos hmakes, List.filter_nil, List.map_singleton, hanswer']
    exact truthful_of_flag (k.succeeds x) (.inl ⟨rfl, hflag⟩) Nat.le.refl (by simp)
  | stored r hkind hstore => exact absurd ⟨hkind, hstore⟩ hstores

/-- What the store of runs makes of a completed process is reported truthfully. -/
theorem truthful_of_stores {s : Automation} (hstores : Stores k s) (job : Job) :
    Truthful k [(updateRunStatus job.runKey.shown .completed s).1.map fun _ => .null]
      ((Handling.standard k).answer job n (Handlers.run k job s).1) := by
  obtain ⟨houtcome, -, -⟩ := Handlers.run_stores hstores job
  obtain ⟨rfl, -⟩ := hstores
  rw [houtcome]
  cases (updateRunStatus job.runKey.shown .completed s).1 with
  | error e => exact truthful_of_error rfl e Nat.le.refl (by simp [Except.map])
  | ok x =>
    exact truthful_of_flag true (.inl ⟨rfl, rfl⟩) Nat.le.refl
      (by simp [Except.map, JobKind.succeeds])

/-- Handling a job with an effect, whatever its variables are and whatever the services do: the
effect is sought at most once, and what is reported about it is true. -/
theorem flags_tell_truth (heffect : k.isEffectful = true) {s : Automation}
    (hlookup : s.dispatcher.handlings.lookup k = some (Handling.standard k))
    (hdeclared : ∀ x, s.dispatcher.collaborators.answer k.callee.1 k.callee.2 = .ok x →
      k.Declared x) (hn : job.retries = .int n) (reports : Bool) :
    ∃ r s' calls, handle k job reports s = (.ok r, s') ∧
      s'.events = s.events ++ calls.map .called ∧
      s'.runs = (if Stores k s then (updateRunStatus job.runKey.shown .completed s).2.runs
        else s.runs) ∧
      Truthful k (effectAnswers k job s calls) r := by
  obtain ⟨calls, hacted, hnone, s', hrun, hevents, hruns, -⟩ := handle_tells hlookup hn rfl reports
  refine ⟨_, s', _, hrun, hevents, hruns, ?_⟩
  rw [effectAnswers, List.filter_append, filter_incidentCalls, List.append_nil]
  by_cases hstores : Stores k s
  · rw [if_pos hstores, hnone hstores, List.filter_nil, List.map_nil, List.append_nil]
    exact truthful_of_stores hstores job
  · rw [if_neg hstores, List.nil_append]
    exact truthful_of_acted heffect hstores hdeclared hacted

/-- A mail that the sender refuses by its answer: it was sought to be sent once, and is reported as
not sent. -/
theorem flags_tell_truth_refusedMail :
    let job : Job := {
      key := .text "j1"
      type := .text "send-email"
      vars := .object [("to", .text "a@b.c"), ("subject", .list [.int 1])] }
    let s : Automation := {
      clock := Stamp.ofInstant Stamp.epoch
      dispatcher := { collaborators := [(.emailSender, [("send", .returns (.bool false))])] } }
    ∃ r s' calls, handle .sendEmail job true s = (.ok r, s') ∧ s'.events = calls.map .called ∧
      calls.length = 1 ∧ r.vars.get? "emailSent" = some (.bool false) ∧
      Truthful .sendEmail (effectAnswers .sendEmail job s calls) r := by
  intro job s
  have hdeclared : ∀ x, s.dispatcher.collaborators.answer .emailSender "send" = .ok x →
      JobKind.sendEmail.Declared x := fun _ _ => nofun
  have hretries : job.retries = .int 3 := rfl
  obtain ⟨r, s', calls, hrun, hevents, -, htruth⟩ :=
    flags_tell_truth (k := .sendEmail) (s := s) rfl rfl hdeclared hretries true
  have hreport : r = .complete (.text "j1") [("emailSent", .bool false)] :=
    (Except.ok.inj (congrArg Prod.fst hrun)).symm
  have hlength : s'.events.length = 1 := congrArg (fun p => p.2.events.length) hrun.symm
  rw [hevents, List.length_append, List.length_map] at hlength
  exact ⟨r, s', calls, hrun, hevents, by simpa [s] using hlength, hreport ▸ rfl, htruth⟩

end ProcessTriggers.Dispatcher
