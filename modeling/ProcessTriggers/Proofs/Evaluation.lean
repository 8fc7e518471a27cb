import ProcessTriggers.Proofs.Comparisons
import ProcessTriggers.Proofs.Conditions
import ProcessTriggers.Proofs.Overflow

/-!
Where the evaluation of an expression has no value. Only an ordering can lack one, and only where an
operand becomes no number.
-/

namespace ProcessTriggers

namespace Comparison

/-- An operator that orders numbers. -/
def IsOrdering (op : Comparison) : Prop := op ≠ .eq ∧ op ≠ .ne

/-- An ordering is made of two numbers, if both operands become numbers. -/
theorem apply_cases {op : Comparison} (hop : op.IsOrdering) (left : Value) (right : String) :
    ((Operand.Overflows left ∨ Operand.Overflows (.text right)) ∧
      op.apply left right = .error .numberTooLarge) ∨
    (¬ (Operand.Overflows left ∨ Operand.Overflows (.text right)) ∧
      ∃ x y, Operand.number left = .ok x ∧ Operand.number (.text right) = .ok y ∧
        op.apply left right = .ok (op.ofNumbers x y)) := by
  have happly : op.apply left right = (do
      let x ← Operand.number left
      let y ← Operand.number (.text right)
      return op.ofNumbers x y) := by
    cases op with
    | eq => exact absurd rfl hop.1
    | ne => exact absurd rfl hop.2
    | _ => rfl
  rw [happly]
  rcases Operand.number_cases left with ⟨hleft, hx⟩ | ⟨hleft, x, hx⟩
  · exact .inl ⟨.inl hleft, by rw [hx]; rfl⟩
  rcases Operand.number_cases (.text right) with ⟨hright, hy⟩ | ⟨hright, y, hy⟩
  · exact .inl ⟨.inr hright, by rw [hx, hy]; rfl⟩
  · exact .inr ⟨not_or.mpr ⟨hleft, hright⟩, x, y, hx, hy, by rw [hx, hy]; rfl⟩

end Comparison

namespace Expression

/-- An expression that orders numbers, one of which overflows. -/
def Overflows (s : String) (context : Value) : Prop :=
  ∃ op left right, Reads s.toList op left right ∧ op.IsOrdering ∧
    (Operand.Overflows (Value.resolve (.text (String.ofList left)) context) ∨
      Operand.Overflows (.text (String.ofList right)))

/-- An expression has a value unless it overflows. -/
theorem evaluate_cases (s : String) (context : Value) :
    (Overflows s context ∧ evaluate (.text s) context = .error .numberTooLarge) ∨
      (¬ Overflows s context ∧ ∃ b, evaluate (.text s) context = .ok b) := by
  have hfails : Overflows s context → evaluate (.text s) context = .error .numberTooLarge := by
    rintro ⟨op, left, right, hreads, hop, hover⟩
    rw [evaluate_of_reads hreads context]
    rcases Comparison.apply_cases hop _ _ with ⟨-, herror⟩ | ⟨hnot, -⟩
    · exact herror
    · exact absurd hover hnot
  by_cases hover : Overflows s context
  · exact .inl ⟨hover, hfails hover⟩
  refine .inr ⟨hover, ?_⟩
  by_cases hoccurs : ∃ op ∈ Comparison.all, op.symbol <:+: s.toList
  · obtain ⟨op, left, right, hreads⟩ := exists_reads hoccurs
    rw [evaluate_of_reads hreads context]
    by_cases hop : op.IsOrdering
    · rcases Comparison.apply_cases hop _ _ with ⟨hover', -⟩ | ⟨-, x, y, -, -, hok⟩
      · exact absurd ⟨op, left, right, hreads, hop, hover'⟩ hover
      · exact ⟨_, hok⟩
    · cases op with
      | eq => exact ⟨_, rfl⟩
      | ne => exact ⟨_, rfl⟩
      | _ => exact absurd ⟨nofun, nofun⟩ hop
  · exact ⟨false, evaluate_of_none (fun op hop h => hoccurs ⟨op, hop, h⟩) context⟩

end Expression

namespace Condition

theorem expressionOutcome_unevaluated_iff (es : Entries) (context : Value) (s : String) :
    expressionOutcome (.object es) context = .ok ⟨false, some (.text s)⟩ ↔
      es.get? "customExpression" = some (.text s) ∧ s ≠ "" ∧ Expression.Overflows s context := by
  have hget : (Value.object es).get "customExpression" =
      .ok (Value.ofOption (es.get? "customExpression")) := rfl
  have htext : Value.ofOption (es.get? "customExpression") = .text s ↔
      es.get? "customExpression" = some (.text s) := by
    cases es.get? "customExpression" <;> simp [Value.ofOption]
  rw [expressionOutcome, hget, ← htext]
  generalize Value.ofOption (es.get? "customExpression") = v
  dsimp only [bind, Except.bind, pure, Except.pure]
  constructor
  · intro h
    split_ifs at h with htruthy
    · cases h
    · cases heval : Expression.evaluate v context with
      | ok b =>
        rw [heval] at h
        cases h
      | error e =>
        rw [heval] at h
        cases h
        refine ⟨rfl, ?_, ?_⟩
        · rintro rfl
          exact htruthy rfl
        · rcases Expression.evaluate_cases s context with ⟨hover, -⟩ | ⟨-, b, hok⟩
          · exact hover
          · cases heval.symm.trans hok
  · rintro ⟨rfl, hne, hover⟩
    have htruthy : (!(Value.text s).truthy) = false := by simp [Value.truthy, hne]
    rcases Expression.evaluate_cases s context with ⟨-, herror⟩ | ⟨hnot, -⟩
    · rw [htruthy, herror]
      rfl
    · exact absurd hover hnot

/-- The conditions but for their expression. -/
def withoutExpression (es : Entries) : Entries := es.filter fun e => e.1 != "customExpression"

theorem holds_withoutExpression_iff (es : Entries) (context : Value) :
    holds (.object (withoutExpression es)) context = .ok true ↔
      inTurn (Clause.holds es context) fieldClauses = .ok true := by
  have hfield : ∀ c ∈ fieldClauses, (c.key != "customExpression") = true := by
    have hkeys : ∀ key ∈ fieldClauses.map (·.key), (key != "customExpression") = true := by decide
    exact fun c hc => hkeys c.key (List.mem_map_of_mem hc)
  have hnone : (withoutExpression es).get? "customExpression" = none := by
    refine Entries.get?_eq_none_of_not_mem fun hmem => ?_
    obtain ⟨e, he, heq⟩ := List.mem_map.mp hmem
    have hkept := (List.mem_filter.mp he).2
    rw [heq] at hkept
    exact absurd hkept (by decide)
  have hsame : ∀ c ∈ fieldClauses,
      c.holds (withoutExpression es) context = c.holds es context := fun c hc =>
    congrArg (c.check · context)
      (@Entries.get?_filter (· != "customExpression") c.key (hfield c hc) es)
  have hexpression : Clause.expression.holds (withoutExpression es) context = .ok true := by
    rw [Clause.holds, show Clause.expression.key = "customExpression" from rfl, hnone]
    rfl
  have hclauses : clauses = fieldClauses ++ [.expression] := rfl
  rw [holds_object, inTurn_eq_true_iff, inTurn_eq_true_iff, hclauses, List.forall_mem_append]
  refine ⟨fun h c hc => hsame c hc ▸ h.1 c hc, fun h => ⟨fun c hc => hsame c hc ▸ h c hc, ?_⟩⟩
  exact List.forall_mem_singleton.mpr hexpression

/-- The expression of some conditions is found to have no value exactly if all else holds and it
overflows. -/
theorem outcome_unevaluated_iff (es : Entries) (context : Value) (s : String) :
    outcome (.object es) context = .ok ⟨false, some (.text s)⟩ ↔
      es.get? "customExpression" = some (.text s) ∧ s ≠ "" ∧
        holds (.object (withoutExpression es)) context = .ok true ∧
        Expression.Overflows s context := by
  have hlast := expressionOutcome_unevaluated_iff es context s
  rw [outcome_object, holds_withoutExpression_iff]
  rcases inTurn (Clause.holds es context) fieldClauses with e | _ | _
  · refine iff_of_false (fun h => nomatch h) fun h => nomatch h.2.2.1
  · refine iff_of_false (fun h => nomatch h) fun h => nomatch h.2.2.1
  · refine hlast.trans ?_
    simp

end Condition

namespace Expression

/-- Evaluating an expression ends with a boolean, unless it orders numbers and an integer that is to
be one of them lies beyond the doubles; then, and only then, it ends with an error. A value that is
no number is no reason for that: an ordering with such a value is false. So the conditions of a
trigger find no value of their expression exactly if all else in them holds and the expression
overflows. -/
theorem evaluate_total (s : String) (context : Value) :
    ((∃ b, evaluate (.text s) context = .ok b) ↔ ¬ Overflows s context) ∧
    (∀ e, evaluate (.text s) context = .error e ↔ e = .numberTooLarge ∧ Overflows s context) ∧
    (∀ op left right, Reads s.toList op left right → op.IsOrdering → ¬ Overflows s context →
      ∃ x y, Operand.number (Value.resolve (.text (String.ofList left)) context) = .ok x ∧
        Operand.number (.text (String.ofList right)) = .ok y ∧
        evaluate (.text s) context = .ok (op.ofNumbers x y) ∧
        (x = .nan ∨ y = .nan → op.ofNumbers x y = false)) ∧
    ∀ es : Entries, Condition.outcome (.object es) context = .ok ⟨false, some (.text s)⟩ ↔
      es.get? "customExpression" = some (.text s) ∧ s ≠ "" ∧
        Condition.holds (.object (Condition.withoutExpression es)) context = .ok true ∧
        Overflows s context := by
  refine ⟨?_, fun e => ?_, fun op left right hreads hop hnot => ?_,
    fun es => Condition.outcome_unevaluated_iff es context s⟩
  · rcases evaluate_cases s context with ⟨hover, herror⟩ | ⟨hnot, hok⟩
    · exact iff_of_false (fun ⟨b, hok⟩ => nomatch herror.symm.trans hok) (not_not_intro hover)
    · exact iff_of_true hok hnot
  · rcases evaluate_cases s context with ⟨hover, herror⟩ | ⟨hnot, b, hok⟩
    · rw [herror]
      exact ⟨fun h => ⟨(Except.error.inj h).symm, hover⟩, fun h => congrArg Except.error h.1.symm⟩
    · rw [hok]
      exact iff_of_false (fun h => nomatch h) fun h => hnot h.2
  · rcases Comparison.apply_cases hop (Value.resolve (.text (String.ofList left)) context)
      (String.ofList right) with ⟨hover, -⟩ | ⟨-, x, y, hx, hy, happly⟩
    · exact absurd ⟨op, left, right, hreads, hop, hover⟩ hnot
    · refine ⟨x, y, hx, hy, (evaluate_of_reads hreads context).trans happly, fun hnan => ?_⟩
      exact Except.ok.inj (happly.symm.trans (Comparison.apply_of_nan hop hx hy hnan))

/-- A context with an integer beyond the doubles. -/
def hugeContext : Value := .object [("n", .int (10 ^ 400 : Nat))]

/-- An integer beyond the doubles is not below one, but the comparison ends with an error. -/
theorem evaluate_total_huge :
    evaluate (.text "$.n < 1") hugeContext = .error .numberTooLarge ∧
      Condition.outcome (.object [("customExpression", .text "$.n < 1")]) hugeContext =
        .ok ⟨false, some (.text "$.n < 1")⟩ := by
  obtain ⟨-, herror, -, hconditions⟩ := evaluate_total "$.n < 1" hugeContext
  have hblank : ∀ c ∈ [' '], Text.isBlank c = true := List.all_eq_true.mp rfl
  have hreads : Reads "$.n < 1".toList .lt "$.n".toList "1".toList :=
    reads_plain .lt (l := "$.n".toList) (r := "1".toList) (by decide) (by decide) hblank hblank
  have hresolve : Value.resolve (.text (String.ofList "$.n".toList)) hugeContext =
      .int (10 ^ 400 : Nat) := by
    rfl
  have hover : Overflows "$.n < 1" hugeContext := by
    refine ⟨.lt, _, _, hreads, ⟨nofun, nofun⟩, .inl ⟨(10 ^ 400 : Nat), ?_, by decide +kernel⟩⟩
    rw [hresolve]
    exact .int _
  exact ⟨(herror _).mpr ⟨rfl, hover⟩, (hconditions _).mpr ⟨rfl, by decide, rfl, hover⟩⟩

end Expression

end ProcessTriggers
