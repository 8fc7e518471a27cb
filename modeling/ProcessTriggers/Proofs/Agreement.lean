import ProcessTriggers.Proofs.Silence

/-!
Two runs side by side. Where two states are coupled, two actions agree if they end in the same error
or in related results, and leave coupled states.
-/

namespace ProcessTriggers

open Automation

/-- A relation between the states of two runs that does not look at logs, audits and counts. -/
structure Coupling where
  holds : Automation → Automation → Prop
  quiet {s₁ s₂ s₁' s₂' : Automation} : Quiet s₁ s₁' → Quiet s₂ s₂' → holds s₁ s₂ → holds s₁' s₂'

namespace Action

variable {α α' β β' : Type} {Q : α → α' → Prop} {R : β → β' → Prop} {C : Coupling}

/-- Two outcomes are the same error, or related results. -/
inductive Outcomes (Q : α → α' → Prop) : Except Error α → Except Error α' → Prop
  | error (e : Error) : Outcomes Q (.error e) (.error e)
  | ok {x : α} {y : α'} (h : Q x y) : Outcomes Q (.ok x) (.ok y)

theorem Outcomes.eq {x y : Except Error α} (h : Outcomes Eq x y) : x = y := by
  cases h with
  | error e => rfl
  | ok h => rw [h]

theorem Outcomes.refl {Q : α → α → Prop} (hQ : ∀ x, Q x x) (r : Except Error α) :
    Outcomes Q r r := by
  cases r with
  | error e => exact .error e
  | ok x => exact .ok (hQ x)

/-- Two actions agree: coupled states lead to related outcomes and coupled states. -/
def Agrees (C : Coupling) (Q : α → α' → Prop) (a : Action α) (b : Action α') : Prop :=
  ∀ s₁ s₂, C.holds s₁ s₂ → Outcomes Q (a s₁).1 (b s₂).1 ∧ C.holds (a s₁).2 (b s₂).2

theorem agrees_pure {x : α} {y : α'} (h : Q x y) : Agrees C Q (pure x) (pure y) :=
  fun _ _ hs => ⟨.ok h, hs⟩

theorem agrees_throw (e : Error) : Agrees C Q (throw e) (throw e) :=
  fun _ _ hs => ⟨.error e, hs⟩

theorem agrees_ofExcept {r : Except Error α} {r' : Except Error α'} (h : Outcomes Q r r') :
    Agrees C Q (ofExcept r) (ofExcept r') :=
  fun _ _ hs => ⟨h, hs⟩

theorem agrees_same (r : Except Error α) : Agrees C Eq (ofExcept r) (ofExcept r) :=
  agrees_ofExcept (.refl (fun _ => rfl) r)

theorem agrees_bind {a : Action α} {a' : Action α'} {f : α → Action β} {f' : α' → Action β'}
    (ha : Agrees C Q a a') (hf : ∀ x y, Q x y → Agrees C R (f x) (f' y)) :
    Agrees C R (a >>= f) (a' >>= f') := by
  intro s₁ s₂ hs
  obtain ⟨houtcomes, hleft⟩ := ha s₁ s₂ hs
  rw [bind_run, bind_run]
  -- Only if both succeed something is left to do.
  generalize a s₁ = r₁ at houtcomes hleft ⊢
  generalize a' s₂ = r₂ at houtcomes hleft ⊢
  obtain ⟨r₁, s₁'⟩ := r₁
  obtain ⟨r₂, s₂'⟩ := r₂
  cases houtcomes with
  | error e => exact ⟨.error e, hleft⟩
  | ok h => exact hf _ _ h s₁' s₂' hleft

/-- The same result goes on in both runs. -/
theorem agrees_bindEq {a a' : Action α} {f : α → Action β} {f' : α → Action β'}
    (ha : Agrees C Eq a a') (hf : ∀ x, Agrees C R (f x) (f' x)) :
    Agrees C R (a >>= f) (a' >>= f') :=
  agrees_bind ha fun x _ h => h ▸ hf x

theorem agrees_getBind {f : Automation → Action β} {f' : Automation → Action β'}
    (h : ∀ s₁ s₂, C.holds s₁ s₂ →
      Outcomes R (f s₁ s₁).1 (f' s₂ s₂).1 ∧ C.holds (f s₁ s₁).2 (f' s₂ s₂).2) :
    Agrees C R (get >>= f) (get >>= f') := by
  intro s₁ s₂ hs
  rw [bind_get, bind_get]
  exact h s₁ s₂ hs

theorem agrees_attempt {a : Action α} {a' : Action α'} (ha : Agrees C Q a a') :
    Agrees C (Outcomes Q) (attempt a) (attempt a') := by
  intro s₁ s₂ hs
  obtain ⟨houtcomes, hleft⟩ := ha s₁ s₂ hs
  exact ⟨.ok houtcomes, hleft⟩

theorem agrees_ite {c : Prop} [Decidable c] {a b : Action α} {a' b' : Action α'}
    (ha : Agrees C Q a a') (hb : Agrees C Q b b') :
    Agrees C Q (if c then a else b) (if c then a' else b') := by
  by_cases h : c
  · rwa [if_pos h, if_pos h]
  · rwa [if_neg h, if_neg h]

/-- What is quiet agrees with what is quiet. -/
theorem agrees_ofQuiet {a : Action α} {a' : Action α'} {x : α} {y : α'}
    (ha : ∀ s, ∃ s', a s = (.ok x, s') ∧ Quiet s s')
    (ha' : ∀ s, ∃ s', a' s = (.ok y, s') ∧ Quiet s s') (h : Q x y) : Agrees C Q a a' := by
  intro s₁ s₂ hs
  obtain ⟨s₁', hrun₁, hquiet₁⟩ := ha s₁
  obtain ⟨s₂', hrun₂, hquiet₂⟩ := ha' s₂
  rw [hrun₁, hrun₂]
  exact ⟨.ok h, C.quiet hquiet₁ hquiet₂ hs⟩

theorem agrees_withBound (bound bound' : Entries) {a : Action α} {a' : Action α'}
    (ha : Agrees C Q a a') : Agrees C Q (withBound bound a) (withBound bound' a') := by
  intro s₁ s₂ hs
  have hquiet (s : Automation) (b : Entries) : Quiet s { s with bound := b } := by
    constructor <;> rfl
  obtain ⟨houtcomes, hleft⟩ := ha _ _ (C.quiet (hquiet s₁ bound) (hquiet s₂ bound') hs)
  exact ⟨houtcomes, C.quiet (hquiet _ _) (hquiet _ _) hleft⟩

theorem agrees_binding (fields fields' : Entries) {a : Action α} {a' : Action α'}
    (ha : Agrees C Q a a') : Agrees C Q (binding fields a) (binding fields' a') := by
  intro s₁ s₂ hs
  rw [binding_run, binding_run]
  exact agrees_withBound _ _ ha s₁ s₂ hs

end Action

namespace Automation

open Action

variable {C : Coupling}

theorem log_agrees (c : Channel) (level : Log.Level) (message : String) :
    Agrees C Eq (log c level message) (log c level message) :=
  agrees_ofQuiet (log_quiet c level message) (log_quiet c level message) rfl

theorem count_agrees (sample : Sample) : Agrees C Eq (count sample) (count sample) :=
  have hrun (s : Automation) : ∃ s', count sample s = (.ok ⟨⟩, s') ∧ Quiet s s' :=
    ⟨_, rfl, by constructor <;> rfl⟩
  agrees_ofQuiet hrun hrun rfl

theorem settle_agrees : Agrees C Eq Audit.settle Audit.settle :=
  agrees_ofQuiet Audit.settle_run Audit.settle_run rfl

end Automation
end ProcessTriggers
