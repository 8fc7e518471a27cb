import ProcessTriggers.Condition.Basic
import ProcessTriggers.Proofs.Entries

/-!
Conditions as a conjunction. Each known field is a clause, which looks at nothing but the value
under its own key, and conditions hold if all clauses do. So conditions without a common key can be
put together in any order, and entries under other keys can be left out.
-/

namespace ProcessTriggers

namespace Condition

/-- What one field of the conditions asks of a context, given the value under its key, if there is
one. -/
structure Clause where
  key : String
  check : Option Value → Value → Except Error Bool

namespace Clause

/-- What the clause says to conditions and a context. -/
def holds (es : Entries) (context : Value) (c : Clause) : Except Error Bool :=
  c.check (es.get? c.key) context

def equality (field : String × String) : Clause where
  key := field.1
  check
    | none, _ => .ok true
    | some v, context => do
      return (((← context.entries "get").get? field.2).getD .missing).equal v

def entityType : Clause where
  key := "entityTypes"
  check stored context := do
    let listed := Value.ofOption stored
    if listed.truthy then listed.contains (← context.get "entityType") else return true

def assignee : Clause where
  key := "onlyWhenAssigned"
  check stored context := do
    if (Value.ofOption stored).truthy then return (← context.get "newAssigneeId").truthy
    else return true

/-- An expression that cannot be evaluated does not hold. -/
def expression : Clause where
  key := "customExpression"
  check stored context :=
    if (Value.ofOption stored).truthy then
      .ok ((Expression.evaluate (Value.ofOption stored) context).toOption.getD false)
    else .ok true

end Clause

/-- The clauses, in the order in which they are looked at. -/
def clauses : List Clause :=
  equalityFields.map .equality ++ [.entityType, .assignee, .expression]

/-- The clauses before the last, which evaluates an expression. -/
def fieldClauses : List Clause := equalityFields.map .equality ++ [.entityType, .assignee]

/-- The keys that conditions are looked up under. -/
def fieldNames : List String :=
  ["fromStatus", "toStatus", "priority", "category", "entityTypes", "onlyWhenAssigned",
    "customExpression"]

theorem keys_clauses : clauses.map (·.key) = fieldNames := rfl

/-- A field that is not there asks for nothing. -/
theorem check_none {c : Clause} (hc : c ∈ clauses) (context : Value) :
    c.check none context = .ok true := by
  simp only [clauses, equalityFields, List.map_cons, List.map_nil, List.cons_append,
    List.nil_append, List.mem_cons, List.not_mem_nil, or_false] at hc
  rcases hc with rfl | rfl | rfl | rfl | rfl | rfl | rfl <;> rfl

/-! Checks in turn. -/

variable {α : Type} {a b c : α → Except Error Bool} {xs : List α}

/-- Makes checks one after another, up to the first that does not hold. -/
def inTurn (check : α → Except Error Bool) : List α → Except Error Bool
  | [] => .ok true
  | x :: xs => do if ← check x then inTurn check xs else return false

theorem inTurn_append (check : α → Except Error Bool) (xs ys : List α) :
    inTurn check (xs ++ ys) =
      (do if ← inTurn check xs then inTurn check ys else return false) := by
  induction xs with
  | nil => rfl
  | cons x xs ih =>
    rw [List.cons_append, inTurn, inTurn, ih]
    rcases check x with _ | _ | _ <;> rfl

theorem inTurn_eq_true_iff : inTurn a xs = .ok true ↔ ∀ x ∈ xs, a x = .ok true := by
  induction xs with
  | nil => simp [inTurn]
  | cons x xs ih =>
    rw [inTurn, List.forall_mem_cons, ← ih]
    rcases a x with _ | _ | _ <;> simp [bind, Except.bind, pure, Except.pure]

theorem inTurn_congr (h : ∀ x ∈ xs, a x = b x) : inTurn a xs = inTurn b xs := by
  induction xs with
  | nil => rfl
  | cons x xs ih =>
    rw [inTurn, inTurn, h x List.mem_cons_self, ih fun y hy => h y (List.mem_cons_of_mem x hy)]

/-- Where each check is that of one side, and holds on the other, the outcome is the conjunction. -/
theorem inTurn_and (h : ∀ x ∈ xs, a x = .ok true ∧ c x = b x ∨ b x = .ok true ∧ c x = a x)
    {p q : Bool} (ha : inTurn a xs = .ok p) (hb : inTurn b xs = .ok q) :
    inTurn c xs = .ok (p && q) := by
  induction xs with
  | nil =>
    cases ha
    cases hb
    rfl
  | cons x xs ih =>
    have hrest := ih fun y hy => h y (List.mem_cons_of_mem x hy)
    rw [inTurn] at ha hb ⊢
    rcases h x List.mem_cons_self with ⟨hx, hc⟩ | ⟨hx, hc⟩
    · rw [hx] at ha
      rw [hc]
      rcases hbx : b x with e | _ | _
      · rw [hbx] at hb
        cases hb
      · rw [hbx] at hb
        cases hb
        exact congrArg Except.ok (Bool.and_false p).symm
      · rw [hbx] at hb
        exact hrest ha hb
    · rw [hx] at hb
      rw [hc]
      rcases hax : a x with e | _ | _
      · rw [hax] at ha
        cases ha
      · rw [hax] at ha
        cases ha
        rfl
      · rw [hax] at ha
        exact hrest ha hb

/-! Conditions as clauses. -/

theorem equalityHolds_eq (es : Entries) (context : Value) (field : String × String) :
    equalityHolds (.object es) context field = (Clause.equality field).holds es context := by
  have hcontains : (Value.object es).contains (.text field.1) =
      .ok (es.get? field.1).isSome := rfl
  cases hget : es.get? field.1 with
  | none =>
    rw [hget] at hcontains
    simp only [equalityHolds, hcontains, Clause.holds, Clause.equality, hget]
    rfl
  | some v =>
    have hrequire : (Value.object es).require field.1 = .ok v := by rw [Value.require, hget]
    rw [hget] at hcontains
    simp only [equalityHolds, hcontains, hrequire, Clause.holds, Clause.equality, hget]
    rfl

theorem allHold_eq (es : Entries) (context : Value) (fields : List (String × String)) :
    allHold (equalityHolds (.object es) context) fields =
      inTurn (Clause.holds es context) (fields.map Clause.equality) := by
  induction fields with
  | nil => rfl
  | cons f fs ih => rw [allHold, List.map_cons, inTurn, equalityHolds_eq, ih]

theorem expressionOutcome_eq (es : Entries) (context : Value) :
    (expressionOutcome (.object es) context).map (·.holds) =
      Clause.expression.holds es context := by
  have hget : (Value.object es).get "customExpression" =
      .ok (Value.ofOption (es.get? "customExpression")) := rfl
  rw [expressionOutcome, hget, Clause.holds, Clause.expression]
  dsimp only [bind, Except.bind]
  cases (Value.ofOption (es.get? "customExpression")).truthy with
  | false => rfl
  | true =>
    cases Expression.evaluate (Value.ofOption (es.get? "customExpression")) context <;> rfl

/-- The expression is looked at if the fields hold. -/
theorem outcome_object (es : Entries) (context : Value) : outcome (.object es) context =
    (do
      if ← inTurn (Clause.holds es context) fieldClauses then
        expressionOutcome (.object es) context
      else return ⟨false, none⟩) := by
  cases es with
  | nil =>
    have htrue : inTurn (Clause.holds [] context) fieldClauses = .ok true :=
      inTurn_eq_true_iff.mpr fun c hc => check_none (List.mem_append_left [.expression] hc) context
    rw [htrue]
    rfl
  | cons e es =>
    have htruthy : (Value.object (e :: es)).truthy = true := rfl
    have hentity : entityTypeHolds (.object (e :: es)) context =
        Clause.entityType.holds (e :: es) context := rfl
    have hassignee : assigneeHolds (.object (e :: es)) context =
        Clause.assignee.holds (e :: es) context := rfl
    rw [outcome, htruthy, allHold_eq, fieldClauses, inTurn_append]
    simp only [inTurn, hentity, hassignee]
    rcases inTurn (Clause.holds (e :: es) context) (equalityFields.map .equality) with _ | _ | _
    · rfl
    · rfl
    · rcases Clause.entityType.holds (e :: es) context with _ | _ | _
      · rfl
      · rfl
      · rcases Clause.assignee.holds (e :: es) context with _ | _ | _ <;> rfl

/-- Conditions hold if their clauses do. -/
theorem holds_object (es : Entries) (context : Value) :
    holds (.object es) context = inTurn (Clause.holds es context) clauses := by
  have hclauses : clauses = fieldClauses ++ [.expression] := rfl
  rw [holds, outcome_object, hclauses, inTurn_append]
  simp only [inTurn, ← expressionOutcome_eq]
  rcases inTurn (Clause.holds es context) fieldClauses with _ | _ | _
  · rfl
  · rfl
  · rcases expressionOutcome (.object es) context with _ | ⟨_ | _, _⟩ <;> rfl

/-- Conditions that were put together hold if both parts do. -/
theorem holds_of_perm {es fs gs : Entries} (hkeys : gs.keys.Nodup) (h : gs.Perm (es ++ fs))
    {context : Value} {p q : Bool} (hes : holds (.object es) context = .ok p)
    (hfs : holds (.object fs) context = .ok q) : holds (.object gs) context = .ok (p && q) := by
  rw [holds_object] at hes hfs ⊢
  refine inTurn_and (fun c hc => ?_) hes hfs
  rcases Entries.get?_of_perm hkeys h c.key with ⟨hnone, hget⟩ | ⟨hnone, hget⟩
  · refine .inl ⟨?_, congrArg (c.check · context) hget⟩
    exact (congrArg (c.check · context) hnone).trans (check_none hc context)
  · refine .inr ⟨?_, congrArg (c.check · context) hget⟩
    exact (congrArg (c.check · context) hnone).trans (check_none hc context)

/-- What a part of the conditions asks for is asked for by the whole, also where the rest cannot be
checked. -/
theorem holds_part_of_perm {es fs gs : Entries} (hkeys : gs.keys.Nodup) (h : gs.Perm (es ++ fs))
    {context : Value} (hgs : holds (.object gs) context = .ok true) :
    holds (.object es) context = .ok true := by
  rw [holds_object, inTurn_eq_true_iff] at hgs ⊢
  intro c hc
  rcases Entries.get?_of_perm hkeys h c.key with ⟨hnone, -⟩ | ⟨-, hget⟩
  · exact (congrArg (c.check · context) hnone).trans (check_none hc context)
  · exact (congrArg (c.check · context) hget).symm.trans (hgs c hc)

/-- Entries under keys that no clause looks at can be left out. -/
theorem holds_filter {keep : String → Bool} (h : ∀ key ∈ fieldNames, keep key = true)
    (es : Entries) (context : Value) :
    holds (.object (es.filter fun e => keep e.1)) context = holds (.object es) context := by
  rw [holds_object, holds_object]
  refine inTurn_congr fun c hc => ?_
  have hkey : c.key ∈ fieldNames := keys_clauses ▸ List.mem_map_of_mem hc
  exact congrArg (c.check · context) (Entries.get?_filter (h c.key hkey) es)

/-- Conditions are a conjunction of what their fields ask for, with the empty ones as its unit. -/
theorem holds_conjunction (context : Value) :
    holds (.object []) context = .ok true ∧
    (∀ es fs gs : Entries, gs.keys.Nodup → gs.Perm (es ++ fs) →
      (∀ p q, holds (.object es) context = .ok p → holds (.object fs) context = .ok q →
        holds (.object gs) context = .ok (p && q)) ∧
      (holds (.object es) context = .ok false → holds (.object gs) context ≠ .ok true)) ∧
    ∀ (es : Entries) (keep : String → Bool), (∀ key ∈ fieldNames, keep key = true) →
      holds (.object (es.filter fun e => keep e.1)) context = holds (.object es) context := by
  refine ⟨rfl, fun es fs gs hkeys h => ⟨fun p q => holds_of_perm hkeys h, ?_⟩, ?_⟩
  · intro hfalse htrue
    rw [holds_part_of_perm hkeys h htrue] at hfalse
    cases hfalse
  · exact fun es keep h => holds_filter h es context

/-- A status that agrees, put together with a priority that does not. -/
theorem holds_conjunction_low_priority :
    let status : Entries := [("toStatus", .text "open"), ("expression", .text "0 9 * * *")]
    let urgent : Entries := [("customExpression", .text "$.priority == \"high\"")]
    let both : Entries :=
      [("expression", .text "0 9 * * *"), ("customExpression", .text "$.priority == \"high\""),
        ("toStatus", .text "open")]
    let context : Value := .object [("newStatus", .text "open"), ("priority", .text "low")]
    holds (.object status) context = .ok true ∧
    holds (.object urgent) context = .ok false ∧
    holds (.object both) context = .ok false ∧
    holds (.object (both.filter fun e => fieldNames.contains e.1)) context = .ok false := by
  intro status urgent both context
  have of_toOption : ∀ {x : Except Error Bool} {p : Bool}, x.toOption = some p → x = .ok p := by
    rintro (_ | _) p h
    · cases h
    · exact congrArg Except.ok (Option.some.inj h)
  have hstatus : holds (.object status) context = .ok true := of_toOption (by decide +kernel)
  have hurgent : holds (.object urgent) context = .ok false := of_toOption (by decide +kernel)
  obtain ⟨-, hunion, hfilter⟩ := holds_conjunction context
  have hperm : both.Perm (status ++ urgent) := List.perm_append_singleton _ [_, _]
  have hboth := (hunion status urgent both (by decide) hperm).1 true false hstatus hurgent
  refine ⟨hstatus, hurgent, hboth, ?_⟩
  exact (hfilter both (fun key => fieldNames.contains key) (by decide)).trans hboth

end Condition
end ProcessTriggers
