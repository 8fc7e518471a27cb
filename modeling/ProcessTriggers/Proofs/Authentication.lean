import ProcessTriggers.Proofs.Registry
import ProcessTriggers.Webhook.Receiver

/-!
How a webhook call is received: it authenticates against the trigger that it is addressed to, and
then what it stands for is evaluated, or nothing happens.
-/

namespace ProcessTriggers

open Action Automation

namespace Webhook

/-- A webhook trigger to which a call is addressed, and against whose secret it authenticates. -/
structure Authenticated (s : Automation) (id body signature plainSecret : Value) (a : Trigger) :
    Prop where
  addressed : s.triggers.get id = .ok (some a)
  webhook : a.type.is .webhook = true
  verified : ∃ secret, a.conditions.get "secret" = .ok secret ∧
    verify secret body signature plainSecret = .ok ⟨⟩

/-- A call is turned away, or what it stands for is evaluated in the workspace of the trigger it is
addressed to. -/
theorem handle_cases (id body signature plainSecret : Value) (s : Automation) :
    (∃ e s', handle id body signature plainSecret s = (.error e, s') ∧ Quiet s s') ∨
      ∃ a s₁, Authenticated s id body signature plainSecret a ∧ Quiet s s₁ ∧
        handle id body signature plainSecret s =
          Engine.evaluate .webhook (eventContext a id body) a.workspaceId s₁ := by
  rw [handle]
  obtain ⟨e, s₁, hfind, hquiet⟩ | ⟨a, s₁, hfind, hget, hquiet⟩ := Registry.findOne_cases id s
  · exact .inl ⟨e, s₁, bind_error hfind, hquiet⟩
  · rw [bind_ok hfind]
    dsimp only
    by_cases hwebhook : a.type.is .webhook = true
    · rw [if_neg (by simp [hwebhook])]
      cases hsecret : a.conditions.get "secret" with
      | error e => exact .inl ⟨e, s₁, bind_ofExcept_error rfl _ s₁, hquiet⟩
      | ok secret =>
        rw [bind_ofExcept rfl]
        cases hverify : verify secret body signature plainSecret with
        | ok _ => exact .inr ⟨a, s₁, ⟨hget, hwebhook, secret, hsecret, hverify⟩, hquiet, rfl⟩
        | error e =>
          dsimp only
          by_cases hunauthorized : e.isUnauthorized = true
          · obtain ⟨s₂, hlogged, hquiet'⟩ := log_quiet .webhook Log.warning
              ("Rejected webhook call for trigger " ++ id.shown ++ ": " ++ e.message) s₁
            rw [if_pos hunauthorized, bind_ok hlogged]
            exact .inl ⟨e, s₂, rfl, hquiet.trans hquiet'⟩
          · rw [if_neg hunauthorized]
            exact .inl ⟨e, s₁, rfl, hquiet⟩
    · rw [if_pos (by simp [hwebhook])]
      exact .inl ⟨_, s₁, bind_error (throw_run _ s₁), hquiet⟩

/-- A call that authenticates is evaluated, if its trigger can be loaded. -/
theorem Authenticated.handle_run {s : Automation} {id body signature plainSecret : Value}
    {a : Trigger} (h : Authenticated s id body signature plainSecret a)
    (hloads : s.broken.lookup .get = none) : ∃ s₁, Quiet s s₁ ∧
      handle id body signature plainSecret s =
        Engine.evaluate .webhook (eventContext a id body) a.workspaceId s₁ := by
  obtain ⟨s₁, hget, hquiet⟩ := reaching_answers .get .triggers (do
    Action.ofExcept ((← get).triggers.get id)) hloads
  rw [bind_get, hquiet.triggers, h.addressed] at hget
  have hfind : Registry.findOne id s = (.ok a, s₁) := bind_ok hget
  obtain ⟨secret, hsecret, hverify⟩ := h.verified
  refine ⟨s₁, hquiet, ?_⟩
  rw [handle, bind_ok hfind, h.webhook]
  dsimp only
  rw [if_neg (by simp), bind_ofExcept hsecret, hverify]

theorem handle_fires (id body signature plainSecret : Value) :
    Keeps anyFired (handle id body signature plainSecret) := by
  intro s
  obtain ⟨e, s', hrun, hquiet⟩ | ⟨a, s₁, _, hquiet, hrun⟩ :=
    handle_cases id body signature plainSecret s
  · rw [hrun]
    exact .ofQuiet hquiet
  · rw [hrun]
    exact .trans (.ofQuiet hquiet) (Engine.evaluate_keeps _ _ _ s₁)

end Webhook
end ProcessTriggers
