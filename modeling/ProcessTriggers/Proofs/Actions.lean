import Mathlib.Data.List.Forall2
import ProcessTriggers.Automation.Storage

/-!
Running actions. A frame is a relation between the state before and the state after an action that
does not look at logs, audits and counts; an action keeps a frame if each of its steps does.
-/

namespace ProcessTriggers

/-- A result that depends on another one is there only if that one is. -/
theorem exists_of_bind_eq_ok {ε α β : Type} {x : Except ε α} {f : α → Except ε β} {b : β}
    (h : x >>= f = .ok b) : ∃ a, x = .ok a ∧ f a = .ok b := by
  cases x with
  | error e => cases h
  | ok a => exact ⟨a, rfl, h⟩

/-- A function that may fail succeeds on a list exactly if it does on every item. -/
theorem mapM_eq_ok_iff {ε α β : Type} {f : α → Except ε β} {xs : List α} {ys : List β} :
    xs.mapM f = .ok ys ↔ List.Forall₂ (fun x y => f x = .ok y) xs ys := by
  constructor
  · intro h
    induction xs generalizing ys with
    | nil =>
      cases h
      exact .nil
    | cons x xs ih =>
      rw [List.mapM_cons] at h
      obtain ⟨y, hy, h⟩ := exists_of_bind_eq_ok h
      obtain ⟨ys', hys', h⟩ := exists_of_bind_eq_ok h
      cases h
      exact .cons hy (ih hys')
  · intro h
    induction h with
    | nil => rfl
    | @cons x y xs ys hxy _ ih =>
      rw [List.mapM_cons, hxy, ih]
      rfl

namespace Action

variable {α β : Type}

@[simp]
theorem pure_run (x : α) (s : Automation) : (pure x : Action α) s = (.ok x, s) := rfl

@[simp]
theorem get_run (s : Automation) : (get : Action Automation) s = (.ok s, s) := rfl

@[simp]
theorem set_run (s s' : Automation) : (set s' : Action PUnit) s = (.ok ⟨⟩, s') := rfl

@[simp]
theorem modify_run (f : Automation → Automation) (s : Automation) :
    (modify f : Action PUnit) s = (.ok ⟨⟩, f s) := rfl

@[simp]
theorem throw_run (e : Error) (s : Automation) : (throw e : Action α) s = (.error e, s) := rfl

@[simp]
theorem ofExcept_run (r : Except Error α) (s : Automation) : ofExcept r s = (r, s) := rfl

theorem bind_run (a : Action α) (f : α → Action β) (s : Automation) :
    (a >>= f) s = match a s with
      | (.ok x, s') => f x s'
      | (.error e, s') => (.error e, s') := by
  show (ExceptT.bindCont f (a s).1) (a s).2 = _
  rcases a s with ⟨_ | _, _⟩ <;> rfl

theorem bind_ok {a : Action α} {f : α → Action β} {s s' : Automation} {x : α}
    (h : a s = (.ok x, s')) : (a >>= f) s = f x s' := by
  rw [bind_run, h]

theorem bind_error {a : Action α} {f : α → Action β} {s s' : Automation} {e : Error}
    (h : a s = (.error e, s')) : (a >>= f) s = (.error e, s') := by
  rw [bind_run, h]

/-- What is made of the result of an action does not matter to the state that it leaves. -/
theorem map_run (a : Action α) (f : α → β) (s : Automation) :
    ((do return f (← a)) s : Except Error β × Automation) = ((a s).1.map f, (a s).2) := by
  rw [bind_run]
  rcases a s with ⟨_ | _, _⟩ <;> rfl

/-- What an action returns does not matter to what it leaves. -/
theorem discard_run (a : Action α) (s : Automation) :
    ((do let _ ← a : Action Unit) s).2 = (a s).2 := by
  rw [bind_run]
  rcases a s with ⟨_ | _, _⟩ <;> rfl

theorem bind_get (f : Automation → Action β) (s : Automation) : (get >>= f) s = f s s :=
  bind_ok (get_run s)

theorem bind_ofExcept {r : Except Error α} {x : α} (h : r = .ok x) (f : α → Action β)
    (s : Automation) : (ofExcept r >>= f) s = f x s := by
  rw [h]
  exact bind_ok (ofExcept_run (.ok x) s)

theorem bind_ofExcept_error {r : Except Error α} {e : Error} (h : r = .error e)
    (f : α → Action β) (s : Automation) : (ofExcept r >>= f) s = (.error e, s) := by
  rw [h]
  exact bind_error (ofExcept_run (.error e) s)

@[simp]
theorem attempt_run (a : Action α) (s : Automation) : attempt a s = (.ok (a s).1, (a s).2) := rfl

theorem withBound_run (bound : Entries) (a : Action α) (s : Automation) :
    withBound bound a s =
      ((a { s with bound }).1, { (a { s with bound }).2 with bound := s.bound }) := rfl

theorem binding_run (fields : Entries) (a : Action α) (s : Automation) :
    binding fields a s = withBound (Log.bind s.bound fields) a s := by
  rw [binding, bind_ok (get_run s)]

/-- Carries an action out for one item after another. -/
def each (f : α → Action β) : List α → Action Unit
  | [] => pure ()
  | x :: xs => do
    let _ ← f x
    each f xs

/-- A loop whose body carries the action out, and goes on. -/
theorem forIn_eq_each_of {f : α → PUnit → Action (ForInStep PUnit)} {g : α → Action β}
    (h : ∀ x, f x ⟨⟩ = do
      let _ ← g x
      pure (ForInStep.yield PUnit.unit)) (xs : List α) : forIn xs PUnit.unit f = each g xs := by
  induction xs with
  | nil => rfl
  | cons x xs ih =>
    funext s
    rw [List.forIn_cons, each, h, bind_run, bind_run, bind_run]
    rcases g x s with ⟨_ | _, s'⟩
    · rfl
    · exact congrFun ih s'

theorem forIn_eq_each (f : α → Action β) (xs : List α) :
    (forIn xs PUnit.unit fun x _ => do
      let _ ← f x
      pure (ForInStep.yield PUnit.unit)) = each f xs :=
  forIn_eq_each_of (fun _ => rfl) xs

theorem each_succeeds {f : α → Action β} (hf : ∀ x s, ∃ y s', f x s = (.ok y, s')) (xs : List α)
    (s : Automation) : ∃ s', each f xs s = (.ok ⟨⟩, s') := by
  induction xs generalizing s with
  | nil => exact ⟨s, rfl⟩
  | cons x xs ih =>
    obtain ⟨y, s₁, h₁⟩ := hf x s
    obtain ⟨s₂, h₂⟩ := ih s₁
    exact ⟨s₂, by rw [each, bind_ok h₁]; exact h₂⟩

end Action

namespace Automation

open Action

/-- Nothing changed but what the log, the audits, the counts and the jobs are concerned with. -/
structure Quiet (s s' : Automation) : Prop where
  config : s'.config = s.config
  clock : s'.clock = s.clock
  supply : s'.supply = s.supply
  triggers : s'.triggers = s.triggers
  executions : s'.executions = s.executions
  broken : s'.broken = s.broken
  orchestrator : s'.orchestrator = s.orchestrator
  linksRuns : s'.linksRuns = s.linksRuns
  listener : s'.listener = s.listener
  scheduler : s'.scheduler = s.scheduler
  gauge : s'.metrics.timers = s.metrics.timers

namespace Quiet

theorem refl (s : Automation) : Quiet s s := by
  constructor <;> rfl

theorem trans {s s' s'' : Automation} (h : Quiet s s') (h' : Quiet s' s'') : Quiet s s'' where
  config := h'.config.trans h.config
  clock := h'.clock.trans h.clock
  supply := h'.supply.trans h.supply
  triggers := h'.triggers.trans h.triggers
  executions := h'.executions.trans h.executions
  broken := h'.broken.trans h.broken
  orchestrator := h'.orchestrator.trans h.orchestrator
  linksRuns := h'.linksRuns.trans h.linksRuns
  listener := h'.listener.trans h.listener
  scheduler := h'.scheduler.trans h.scheduler
  gauge := h'.gauge.trans h.gauge

theorem withTriggers {s s' : Automation} (h : Quiet s s') (store : TriggerStore) :
    Quiet { s with triggers := store } { s' with triggers := store } :=
  { h with triggers := rfl }

theorem withExecutions {s s' : Automation} (h : Quiet s s') (store : ExecutionStore) :
    Quiet { s with executions := store } { s' with executions := store } :=
  { h with executions := rfl }

end Quiet

@[simp]
theorem log_run (c : Channel) (level : Log.Level) (message : String) (s : Automation) :
    log c level message s = (.ok ⟨⟩, { s with
      logged := s.logged ++
        [({ level, logger := c.name, message } : Log.Record).entry s.bound] }) := rfl

theorem log_quiet (c : Channel) (level : Log.Level) (message : String) (s : Automation) :
    ∃ s', log c level message s = (.ok ⟨⟩, s') ∧ Quiet s s' :=
  ⟨_, rfl, by constructor <;> rfl⟩

theorem count_run (sample : Sample) (s : Automation) :
    count sample s = (.ok ⟨⟩, { s with metrics := s.metrics.increment sample }) := rfl

@[simp]
theorem now_run (s : Automation) : now s = (.ok (Stamp.ofInstant s.clock.instant), s) := rfl

end Automation

/-- A relation between the state before and the state after that is kept by whatever is quiet. -/
structure Frame where
  holds : Automation → Automation → Prop
  quiet {s s' : Automation} : Automation.Quiet s s' → holds s s'
  trans {s s' s'' : Automation} : holds s s' → holds s' s'' → holds s s''

theorem Frame.refl (F : Frame) (s : Automation) : F.holds s s := F.quiet (.refl s)

/-- The frame of what does not break an invariant. -/
def Frame.ofInvariant (I : Automation → Prop)
    (hI : ∀ {s s'}, Automation.Quiet s s' → I s → I s') : Frame where
  holds s s' := I s → I s'
  quiet := hI
  trans h h' := h' ∘ h

/-- The frame of the actions that change nothing of importance. -/
def quietFrame : Frame where
  holds := Automation.Quiet
  quiet := id
  trans := Automation.Quiet.trans

namespace Action

/-- However the action ends, the state before and the state after are in the frame. -/
def Keeps {α : Type} (F : Frame) (a : Action α) : Prop := ∀ s, F.holds s (a s).2

variable {α β : Type} {F : Frame}

theorem keeps_pure (x : α) : Keeps F (pure x : Action α) := F.refl

theorem keeps_get : Keeps F (get : Action Automation) := F.refl

theorem keeps_throw (e : Error) : Keeps F (throw e : Action α) := F.refl

theorem keeps_ofExcept (r : Except Error α) : Keeps F (ofExcept r) := F.refl

theorem keeps_modify {f : Automation → Automation} (h : ∀ s, F.holds s (f s)) :
    Keeps F (modify f : Action PUnit) := h

/-- What is kept so far remains kept by an action that keeps the frame. -/
theorem holds_bind {a : Action α} {f : α → Action β} {s : Automation} (ha : F.holds s (a s).2)
    (hf : ∀ x, Keeps F (f x)) : F.holds s ((a >>= f) s).2 := by
  rw [bind_run]
  generalize a s = r at ha
  obtain ⟨_ | x, s'⟩ := r
  · exact ha
  · exact F.trans ha (hf x s')

theorem keeps_bind {a : Action α} {f : α → Action β} (ha : Keeps F a)
    (hf : ∀ x, Keeps F (f x)) : Keeps F (a >>= f) := fun s => holds_bind (ha s) hf

/-- Whatever the action returns is in `Q`. -/
def Yields (Q : α → Prop) (a : Action α) : Prop := ∀ s s' x, a s = (.ok x, s') → Q x

theorem ofExcept_yields (r : Except Error α) : Yields (fun x => r = .ok x) (ofExcept r) := by
  intro s s' x h
  exact congrArg Prod.fst h

/-- An action yields what its last step yields, which may depend on what the step before yields. -/
theorem yields_bindYields {P : α → Prop} {Q : β → Prop} {a : Action α} {f : α → Action β}
    (ha : Yields P a) (hf : ∀ x, P x → Yields Q (f x)) : Yields Q (a >>= f) := by
  intro s s' y h
  rw [bind_run] at h
  cases hrun : a s with
  | mk r s₁ =>
    rw [hrun] at h
    cases r with
    | error e => cases h
    | ok x => exact hf x (ha s s₁ x hrun) s₁ s' y h

theorem yields_bind {Q : β → Prop} {a : Action α} {f : α → Action β} (hf : ∀ x, Yields Q (f x)) :
    Yields Q (a >>= f) :=
  yields_bindYields (P := fun _ => True) (fun _ _ _ _ => trivial) fun x _ => hf x

theorem yields_pure {Q : α → Prop} {x : α} (h : Q x) : Yields Q (pure x : Action α) := by
  intro s s' y hy
  obtain rfl := Except.ok.inj (congrArg Prod.fst hy)
  exact h

theorem yields_ite {Q : α → Prop} {c : Prop} [Decidable c] {a b : Action α} (ha : Yields Q a)
    (hb : Yields Q b) : Yields Q (if c then a else b) := by
  by_cases h : c
  · rwa [if_pos h]
  · rwa [if_neg h]

theorem yields_binding {Q : α → Prop} {a : Action α} (fields : Entries) (ha : Yields Q a) :
    Yields Q (binding fields a) := by
  intro s s' x h
  rw [binding_run, withBound_run] at h
  have hresult : (a { s with bound := Log.bind s.bound fields }).1 = .ok x := congrArg Prod.fst h
  exact ha _ _ x (Prod.ext hresult rfl)

theorem keeps_bindYields {Q : α → Prop} {a : Action α} {f : α → Action β} (ha : Keeps F a)
    (hQ : Yields Q a) (hf : ∀ x, Q x → Keeps F (f x)) : Keeps F (a >>= f) := by
  intro s
  have h := ha s
  rw [bind_run]
  cases hrun : a s with
  | mk r s' =>
    rw [hrun] at h
    cases r with
    | error e => exact h
    | ok x => exact F.trans h (hf x (hQ s s' x hrun) s')

/-- What is done with the state that was read can be looked at in that very state. -/
theorem keeps_getBind {f : Automation → Action β} (h : ∀ s, F.holds s (f s s).2) :
    Keeps F (get >>= f) := by
  intro s
  rw [bind_ok (get_run s)]
  exact h s

theorem keeps_attempt {a : Action α} (ha : Keeps F a) : Keeps F (attempt a) := ha

theorem keeps_withBound {a : Action α} (bound : Entries) (ha : Keeps F a) :
    Keeps F (withBound bound a) := by
  intro s
  have hbefore : F.holds s { s with bound } := F.quiet (by constructor <;> rfl)
  have hafter : F.holds (a { s with bound }).2 { (a { s with bound }).2 with bound := s.bound } :=
    F.quiet (by constructor <;> rfl)
  exact F.trans hbefore (F.trans (ha _) hafter)

theorem keeps_binding {a : Action α} (fields : Entries) (ha : Keeps F a) :
    Keeps F (binding fields a) :=
  keeps_bind keeps_get fun _ => keeps_withBound _ ha

theorem keeps_ite {c : Prop} [Decidable c] {a b : Action α} (ha : Keeps F a) (hb : Keeps F b) :
    Keeps F (if c then a else b) := by
  by_cases h : c
  · rwa [if_pos h]
  · rwa [if_neg h]

theorem keeps_forIn {xs : List β} {init : α} {f : β → α → Action (ForInStep α)}
    (hf : ∀ x ∈ xs, ∀ acc, Keeps F (f x acc)) : Keeps F (forIn xs init f) := by
  induction xs generalizing init with
  | nil => exact keeps_pure init
  | cons x xs ih =>
    rw [List.forIn_cons]
    refine keeps_bind (hf x List.mem_cons_self init) fun r => ?_
    cases r with
    | done acc => exact keeps_pure acc
    | yield acc => exact ih fun x' hx' => hf x' (List.mem_cons_of_mem x hx')

end Action
end ProcessTriggers
