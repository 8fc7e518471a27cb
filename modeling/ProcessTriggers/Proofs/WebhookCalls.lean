import ProcessTriggers.Proofs.WellFormed

/-!
What a webhook call can make fire. The call authenticates against the trigger that it is addressed
to, and with that for all webhook triggers of the workspace: their own secrets are not asked for. A
call that does not authenticate changes nothing.
-/

namespace ProcessTriggers

open Action Automation

namespace Webhook

/-- A trigger that a call can make fire. -/
structure Admits (s : Automation) (id body signature plainSecret : Value) (a t : Trigger) : Prop
    extends Authenticated s id body signature plainSecret a where
  /-- The trigger is an active webhook trigger of the same workspace. -/
  selected : ∃ found, s.triggers.find { workspaceId := Registry.given a.workspaceId
                                        type := some .webhook
                                        isActive := some (.bool true) } = .ok found ∧ t ∈ found
  matched : Condition.holds t.conditions (eventContext a id body) = .ok true

/-- Whatever a webhook call writes or starts comes of a trigger that matches it, and of a call that
authenticates against the trigger it is addressed to. -/
theorem handle_admits (s : Automation) (id body signature plainSecret : Value) :
    let s' := (handle id body signature plainSecret s).2
    s.executions.Extends (fun e => ∃ a t, Admits s id body signature plainSecret a t ∧
      e.triggerId = t.id) s'.executions ∧
    ∃ added, s'.orchestrator.runs = s.orchestrator.runs ++ added ∧ ∀ r ∈ added,
      ∃ a t, Admits s id body signature plainSecret a t ∧ r.handle.definitionId = t.definitionId ∧
        Variables.ofMappings t.variableMappings (eventContext a id body) = .ok r.vars := by
  have hfired : Fired (fun e => ∃ a t, Admits s id body signature plainSecret a t ∧
      e.triggerId = t.id) (fun r => ∃ a t, Admits s id body signature plainSecret a t ∧
        r.handle.definitionId = t.definitionId ∧
        Variables.ofMappings t.variableMappings (eventContext a id body) = .ok r.vars) s
      (handle id body signature plainSecret s).2 := by
    obtain ⟨e, s', hrun, hquiet⟩ | ⟨a, s₁, hauthenticated, hquiet, hrun⟩ :=
      handle_cases id body signature plainSecret s
    · rw [hrun]
      exact .ofQuiet hquiet
    · rw [hrun]
      refine .trans (.ofQuiet hquiet)
        (Engine.evaluate_frame (F := firedFrame _ _) fun found t hfound ht => ?_)
      rw [hquiet.triggers] at hfound
      have hadmits : Condition.holds t.conditions (eventContext a id body) = .ok true →
          Admits s id body signature plainSecret a t := fun hmatched =>
        { hauthenticated with selected := ⟨found, hfound, ht⟩, matched := hmatched }
      exact Engine.evaluateOne_fires
        (fun hmatched e he => ⟨a, t, hadmits hmatched, he⟩)
        fun hmatched r hid hvars => ⟨a, t, hadmits hmatched, hid, hvars⟩
  obtain ⟨added, hruns, hadded, _⟩ := hfired.runs
  exact ⟨hfired.executions, added, hruns, hadded⟩

/-- A program with two webhook triggers in one workspace, of which only the second has a secret. -/
def openAndProtected : Automation :=
  ({ clock := Stamp.ofInstant Stamp.epoch
     config := { startTimeout := .int 30 } } : Automation).after
    [.deploy ⟨.text "d1", .text "w1", .null, .text "k1"⟩,
      .create [("workspace_id", .text "w1"), ("process_definition_id", .text "d1"),
        ("trigger_type", .text "webhook"),
        ("conditions", .object [("priority", .text "high")])] .null,
      .create [("workspace_id", .text "w1"), ("process_definition_id", .text "d1"),
        ("trigger_type", .text "webhook"),
        ("conditions", .object [("secret", .text "s3cret")])] .null]

theorem handle_fires_unauthenticated : Reachable openAndProtected ∧ ∃ t e run s',
    openAndProtected.executions = .memory [] ∧
    openAndProtected.triggers.get (.text "id-2") = .ok (some t) ∧
    t.conditions.get "secret" = .ok (.text "s3cret") ∧
    verify (.text "s3cret") (.object []) .null .null = .error Rejection.nothingGiven.error ∧
    handle (.text "id-1") (.object []) .null .null openAndProtected = (.ok [e], s') ∧
    s'.executions = .memory [e] ∧ e.triggerId = t.id ∧ s'.orchestrator.runs = [run] :=
  ⟨⟨_, _, by constructor <;> rfl, rfl⟩, _, _, _, _, rfl, rfl, rfl, rfl, rfl, rfl, rfl, rfl⟩

/-- A call that must be turned away: it is addressed to no trigger, to one of another type, or to
one whose secret, of whatever kind, it does not know. -/
inductive Refused (s : Automation) (id body signature plainSecret : Value) : Prop
  | unknown (addressed : s.triggers.get id = .ok none)
  | otherType {t : Trigger} (addressed : s.triggers.get id = .ok (some t))
    (type : t.type.is .webhook = false)
  | unverified {t : Trigger} {secret : Value} (addressed : s.triggers.get id = .ok (some t))
    (configured : t.conditions.get "secret" = .ok secret)
    (rejected : verify secret body signature plainSecret ≠ .ok ⟨⟩)

theorem Refused.not_authenticated {s : Automation} {id body signature plainSecret : Value}
    (h : Refused s id body signature plainSecret) (a : Trigger) :
    ¬Authenticated s id body signature plainSecret a := by
  intro ha
  obtain ⟨secret, hsecret, hverified⟩ := ha.verified
  have hfound := ha.addressed
  cases h with
  | unknown addressed =>
    rw [addressed] at hfound
    simp at hfound
  | otherType addressed type =>
    obtain rfl : _ = a := by simpa [addressed] using hfound
    exact Bool.false_ne_true (type.symm.trans ha.webhook)
  | unverified addressed configured rejected =>
    obtain rfl : _ = a := by simpa [addressed] using hfound
    obtain rfl : _ = secret := by simpa [configured] using hsecret
    exact rejected hverified

/-- A call that must be turned away ends in an error and leaves stores, runs and timers as they
are. Whatever a call changes, it changes after it authenticated against a webhook trigger; and one
that authenticates is evaluated, if its trigger can be loaded. -/
theorem handle_fails_closed (s : Automation) (id body signature plainSecret : Value) :
    (Refused s id body signature plainSecret →
      (∃ e, (handle id body signature plainSecret s).1 = .error e) ∧
        Quiet s (handle id body signature plainSecret s).2) ∧
    (¬Quiet s (handle id body signature plainSecret s).2 →
      ∃ a, Authenticated s id body signature plainSecret a) ∧
    ∀ a, Authenticated s id body signature plainSecret a → s.broken.lookup .get = none →
      ∃ s₁, Quiet s s₁ ∧ handle id body signature plainSecret s =
        Engine.evaluate .webhook (eventContext a id body) a.workspaceId s₁ := by
  refine ⟨fun hrefused => ?_, fun hchanged => ?_, fun a ha hloads => ha.handle_run hloads⟩
  · obtain ⟨e, s', hrun, hquiet⟩ | ⟨a, _, ha, _, _⟩ :=
      handle_cases id body signature plainSecret s
    · rw [hrun]
      exact ⟨⟨e, rfl⟩, hquiet⟩
    · exact absurd ha (hrefused.not_authenticated a)
  · obtain ⟨e, s', hrun, hquiet⟩ | ⟨a, _, ha, _, _⟩ :=
      handle_cases id body signature plainSecret s
    · rw [hrun] at hchanged
      exact absurd hquiet hchanged
    · exact ⟨a, ha⟩

theorem handle_fails_closed_protected :
    Refused openAndProtected (.text "id-2") (.object []) .null (.text "guess") ∧
      (∃ e, (handle (.text "id-2") (.object []) .null (.text "guess") openAndProtected).1 =
        .error e) ∧
      Quiet openAndProtected
        (handle (.text "id-2") (.object []) .null (.text "guess") openAndProtected).2 := by
  have hrejected : verify (.text "s3cret") (.object []) .null (.text "guess") ≠ .ok ⟨⟩ := nofun
  have hrefused : Refused openAndProtected (.text "id-2") (.object []) .null (.text "guess") :=
    .unverified rfl rfl hrejected
  exact ⟨hrefused, (handle_fails_closed _ _ _ _ _).1 hrefused⟩

end Webhook
end ProcessTriggers
