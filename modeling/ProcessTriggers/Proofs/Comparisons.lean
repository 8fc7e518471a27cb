import Mathlib.Data.List.Infix
import Mathlib.Data.List.TakeWhile
import ProcessTriggers.Condition.Expression

/-!
The grammar of comparisons. An expression is read by the first operator of the list that occurs in
it, at its first occurrence; so a comparison whose operands are free of the characters of operators
is read as it is written.
-/

namespace ProcessTriggers

namespace Text

variable {sep cs l r l' r' : List Char}

/-- A text is cut at the first occurrence of a separator. -/
structure CutsAt (sep cs l r : List Char) : Prop where
  eq : cs = l ++ sep ++ r
  first : ∀ l' r', cs = l' ++ sep ++ r' → l.length ≤ l'.length

/-- The part of a text up to the first occurrence of a separator, or all of it without one. -/
def Until (sep cs part : List Char) : Prop :=
  (∃ rest, CutsAt sep cs part rest) ∨ ¬ sep <:+: cs ∧ part = cs

theorem CutsAt.isInfix (h : CutsAt sep cs l r) : sep <:+: cs := ⟨l, r, h.eq.symm⟩

/-- There is one way only to cut a text. -/
theorem CutsAt.unique (h : CutsAt sep cs l r) (h' : CutsAt sep cs l' r') : l = l' ∧ r = r' := by
  have hlength : l.length = l'.length :=
    Nat.le_antisymm (h.first l' r' h'.eq) (h'.first l r h.eq)
  have heq : l ++ (sep ++ r) = l' ++ (sep ++ r') := by
    rw [← List.append_assoc, ← List.append_assoc, ← h.eq, h'.eq]
  obtain ⟨hl, hrest⟩ := List.append_inj heq hlength
  exact ⟨hl, List.append_cancel_left hrest⟩

theorem isInfix_cons_iff {c : Char} (h : ¬ sep.isPrefixOf (c :: cs) = true) :
    sep <:+: c :: cs ↔ sep <:+: cs := by
  rw [List.infix_cons_iff, or_iff_right (mt List.isPrefixOf_iff_prefix.mpr h)]

/-- A separator that a text does not begin with is sought in the rest. -/
theorem CutsAt.cons {c : Char} (h : CutsAt sep cs l r)
    (hfirst : ¬ sep.isPrefixOf (c :: cs) = true) : CutsAt sep (c :: cs) (c :: l) r := by
  refine ⟨congrArg (c :: ·) h.eq, fun l' r' heq => ?_⟩
  cases l' with
  | nil => exact absurd (List.isPrefixOf_iff_prefix.mpr ⟨r', heq.symm⟩) hfirst
  | cons d l' => exact Nat.succ_le_succ (h.first l' r' (List.cons.inj heq).2)

theorem cutAt?_spec (sep cs : List Char) : (cutAt? sep cs = none ∧ ¬ sep <:+: cs) ∨
    ∃ l r, cutAt? sep cs = some (l, r) ∧ CutsAt sep cs l r := by
  induction cs with
  | nil =>
    cases sep with
    | nil => exact .inr ⟨[], [], rfl, rfl, fun _ _ _ => Nat.zero_le _⟩
    | cons d sep => exact .inl ⟨rfl, fun h => List.cons_ne_nil d sep (List.eq_nil_of_infix_nil h)⟩
  | cons c cs ih =>
    rw [cutAt?]
    by_cases hfirst : sep.isPrefixOf (c :: cs) = true
    · obtain ⟨r, hr⟩ := List.isPrefixOf_iff_prefix.mp hfirst
      rw [if_pos hfirst]
      exact .inr ⟨[], _, rfl, by rw [← hr]; simp, fun _ _ _ => Nat.zero_le _⟩
    · rw [if_neg hfirst]
      rcases ih with ⟨hnone, hnot⟩ | ⟨l, r, hsome, hcuts⟩
      · exact .inl ⟨by rw [hnone]; rfl, mt (isInfix_cons_iff hfirst).mp hnot⟩
      · exact .inr ⟨c :: l, r, by rw [hsome]; rfl, hcuts.cons hfirst⟩

theorem cutAt?_eq_some_iff : cutAt? sep cs = some (l, r) ↔ CutsAt sep cs l r := by
  rcases cutAt?_spec sep cs with ⟨hnone, hnot⟩ | ⟨l', r', hsome, hcuts⟩
  · rw [hnone]
    exact iff_of_false (fun h => Option.some_ne_none _ h.symm) fun h => hnot h.isInfix
  · rw [hsome]
    constructor
    · intro h
      cases h
      exact hcuts
    · intro h
      obtain ⟨rfl, rfl⟩ := h.unique hcuts
      rfl

theorem cutAt?_eq_none_iff : cutAt? sep cs = none ↔ ¬ sep <:+: cs := by
  rcases cutAt?_spec sep cs with ⟨hnone, hnot⟩ | ⟨l', r', hsome, hcuts⟩
  · exact iff_of_true hnone hnot
  · rw [hsome]
    exact iff_of_false (Option.some_ne_none _) (not_not_intro hcuts.isInfix)

theorem until_iff {part : List Char} :
    Until sep cs part ↔ (cutAt? sep cs).elim cs (·.1) = part := by
  rcases cutAt?_spec sep cs with ⟨hnone, hnot⟩ | ⟨l', r', hsome, hcuts⟩
  · rw [hnone]
    constructor
    · rintro (⟨rest, h⟩ | ⟨-, rfl⟩)
      · exact absurd h.isInfix hnot
      · rfl
    · exact fun h => .inr ⟨hnot, h.symm⟩
  · rw [hsome]
    constructor
    · rintro (⟨rest, h⟩ | ⟨hnot, -⟩)
      · exact (h.unique hcuts).1.symm
      · exact absurd hcuts.isInfix hnot
    · rintro rfl
      exact .inl ⟨r', hcuts⟩

/-! White space around a text. -/

theorem trim_blank_append (cs : List Char) {ws : List Char} (h : ∀ c ∈ ws, isBlank c = true) :
    trim (ws ++ cs) = trim cs := by
  rw [trim, trimBy, List.dropWhile_append_of_pos h]
  rfl

theorem trim_append_blank (cs : List Char) {ws : List Char} (h : ∀ c ∈ ws, isBlank c = true) :
    trim (cs ++ ws) = trim cs := by
  have hrest : ws.dropWhile isBlank = [] := List.dropWhile_eq_nil_iff.mpr h
  have hreverse : ∀ c ∈ ws.reverse, isBlank c = true := fun c hc => h c (List.mem_reverse.mp hc)
  rw [trim, trimBy, List.dropWhile_append, hrest]
  cases hcs : cs.dropWhile isBlank with
  | nil => simp [trim, trimBy, hcs]
  | cons c rest =>
    rw [trim, trimBy, hcs]
    simp only [List.isEmpty_cons, Bool.false_eq_true, if_false, List.reverse_append]
    rw [List.dropWhile_append_of_pos hreverse]

end Text

namespace Comparison

/-- The characters that operators are made of. -/
def isOperatorChar (c : Char) : Bool := c == '=' || c == '!' || c == '<' || c == '>'

/-- A text that has no character of an operator. -/
def Plain (cs : List Char) : Prop := ∀ c ∈ cs, isOperatorChar c = false

instance (cs : List Char) : Decidable (Plain cs) := List.decidableBAll _ cs

theorem Plain.append {cs ds : List Char} (hcs : Plain cs) (hds : Plain ds) : Plain (cs ++ ds) :=
  fun c hc => (List.mem_append.mp hc).elim (hcs c) (hds c)

theorem isOperatorChar_of_mem_symbol (op : Comparison) :
    ∀ c ∈ op.symbol, isOperatorChar c = true := by
  cases op <;> exact List.all_eq_true.mp rfl

theorem plain_of_blank {ws : List Char} (h : ∀ c ∈ ws, Text.isBlank c = true) : Plain ws := by
  intro c hc
  rw [Bool.eq_false_iff]
  intro hop
  have hblank := h c hc
  simp only [isOperatorChar, Bool.or_eq_true, beq_iff_eq] at hop
  rcases hop with ((rfl | rfl) | rfl) | rfl <;> exact absurd hblank (by decide)

variable {l r : List Char}

/-- Of a plain comparison nothing is left but the operator when other characters are left out. -/
theorem filter_plain (op : Comparison) (hl : Plain l) (hr : Plain r) :
    (l ++ op.symbol ++ r).filter isOperatorChar = op.symbol := by
  have hplain : ∀ {cs}, Plain cs → cs.filter isOperatorChar = [] := fun h =>
    List.filter_eq_nil_iff.mpr fun c hc => Bool.eq_false_iff.mp (h c hc)
  rw [List.filter_append, List.filter_append, hplain hl, hplain hr, List.append_nil,
    List.nil_append, List.filter_eq_self.mpr op.isOperatorChar_of_mem_symbol]

/-- An operator that occurs in a plain comparison occurs in its operator. -/
theorem isInfix_of_plain {op op' : Comparison} (hl : Plain l) (hr : Plain r)
    (h : op'.symbol <:+: l ++ op.symbol ++ r) : op'.symbol <:+: op.symbol := by
  have hfilter := h.filter isOperatorChar
  rwa [filter_plain op hl hr, List.filter_eq_self.mpr op'.isOperatorChar_of_mem_symbol] at hfilter

theorem not_isInfix_of_plain (op : Comparison) (hr : Plain r) : ¬ op.symbol <:+: r := by
  intro h
  have hplain : Plain op.symbol := fun c hc => hr c (h.subset hc)
  cases op <;> exact absurd hplain (by decide)

/-- A plain comparison is cut at its operator. -/
theorem cutsAt_plain (op : Comparison) (hl : Plain l) :
    Text.CutsAt op.symbol (l ++ op.symbol ++ r) l r := by
  refine ⟨rfl, fun l' r' heq => Nat.not_lt.mp fun hlt => ?_⟩
  rw [List.append_assoc, List.append_assoc] at heq
  rcases List.append_eq_append_iff.mp heq with ⟨bs, hl', -⟩ | ⟨bs, hl', hbs⟩
  · rw [hl', List.length_append] at hlt
    omega
  · -- The operator would begin with a character of the left operand.
    cases bs with
    | nil =>
      rw [hl', List.append_nil] at hlt
      exact Nat.lt_irrefl _ hlt
    | cons c bs =>
      have hop : isOperatorChar c = true := by
        cases op <;> exact (List.cons.inj hbs).1 ▸ rfl
      have hplain := hl c (hl' ▸ List.mem_append_right l' List.mem_cons_self)
      exact Bool.false_ne_true (hplain.symm.trans hop)

/-- No operator that comes earlier in the list occurs in a later one. -/
theorem not_isInfix_of_earlier {op op' : Comparison} {before after : List Comparison}
    (horder : all = before ++ op :: after) (h : op' ∈ before) : ¬ op'.symbol <:+: op.symbol := by
  have hpairs : all.Pairwise fun op' op => ¬ op'.symbol <:+: op.symbol := by decide
  rw [horder, List.pairwise_append] at hpairs
  exact hpairs.2.2 op' h op List.mem_cons_self

theorem mem_all (op : Comparison) : op ∈ all := by
  cases op <;> decide

/-- What is not equal is unequal, and the other way around. -/
theorem apply_eq_iff_apply_ne (left : Value) (right : String) (b : Bool) :
    eq.apply left right = .ok b ↔ ne.apply left right = .ok !b := by
  rw [apply, apply, Except.ok.injEq, Except.ok.injEq, bne, Bool.not_inj_iff]

/-- Nothing that is no number is above, below or at another number. -/
theorem apply_of_nan {op : Comparison} (hne : op ≠ eq ∧ op ≠ ne) {left : Value} {right : String}
    {x y : Double} (hx : Operand.number left = .ok x) (hy : Operand.ofText right = .ok y)
    (hnan : x = .nan ∨ y = .nan) : op.apply left right = .ok false := by
  have hnone : x.compare? y = none := by
    rcases hnan with rfl | rfl
    · exact Double.compare?_nan_left y
    · exact Double.compare?_nan_right x
  cases op with
  | eq => exact absurd rfl hne.1
  | ne => exact absurd rfl hne.2
  | _ => simp only [apply, hx, hy, bind, Except.bind, pure, Except.pure, ofNumbers, hnone]

end Comparison

namespace Expression

open Comparison (Plain)

/-- A literal without the quotes in it. -/
def unquoted (cs : List Char) : List Char := cs.filter (!isQuote ·)

/-- How an expression is read. The operator is the first of the list that occurs in it, the left
operand is what stands before its first occurrence, and the right operand what follows, up to the
next occurrence or the end. -/
inductive Reads (cs : List Char) (op : Comparison) : List Char → List Char → Prop
  | mk {before after : List Comparison} {l tail part : List Char}
    (order : Comparison.all = before ++ op :: after)
    (absent : ∀ op' ∈ before, ¬ op'.symbol <:+: cs) (cut : Text.CutsAt op.symbol cs l tail)
    (next : Text.Until op.symbol tail part) : Reads cs op (Text.trim l) (unquoted (Text.trim part))

variable {s : String} {op : Comparison} {left right : List Char}

theorem operands?_eq_none_iff (op : Comparison) (cs : List Char) :
    operands? op cs = none ↔ ¬ op.symbol <:+: cs := by
  rw [operands?, Option.map_eq_none_iff, Text.cutAt?_eq_none_iff]

theorem operands?_of_cut {cs l tail part : List Char} (hcut : Text.CutsAt op.symbol cs l tail)
    (hnext : Text.Until op.symbol tail part) :
    operands? op cs = some (Text.trim l, Text.trim part) := by
  rw [operands?, Text.cutAt?_eq_some_iff.mpr hcut, Option.map_some, ← Text.until_iff.mp hnext]

/-- Without an operator an expression is false. -/
theorem evaluate_of_none (h : ∀ op ∈ Comparison.all, ¬ op.symbol <:+: s.toList) (context : Value) :
    evaluate (.text s) context = .ok false := by
  have hnone : split? s.toList = none := by
    refine List.findSome?_eq_none_iff.mpr fun op hop => ?_
    rw [(operands?_eq_none_iff op s.toList).mpr (h op hop)]
    rfl
  rw [evaluate, evaluateText, hnone]

/-- An expression in which an operator occurs is read in some way. -/
theorem exists_reads {cs : List Char} (h : ∃ op ∈ Comparison.all, op.symbol <:+: cs) :
    ∃ op left right, Reads cs op left right := by
  obtain ⟨op', hop', hoccurs⟩ := h
  cases hsplit : split? cs with
  | none =>
    have hnone := List.findSome?_eq_none_iff.mp hsplit op' hop'
    rw [Option.map_eq_none_iff, operands?_eq_none_iff] at hnone
    exact absurd hoccurs hnone
  | some read =>
    obtain ⟨before, op, after, horder, hsome, habsent⟩ := List.findSome?_eq_some_iff.mp hsplit
    have hcut : op.symbol <:+: cs := by
      by_contra hnot
      rw [(operands?_eq_none_iff op cs).mpr hnot] at hsome
      cases hsome
    rcases Text.cutAt?_spec op.symbol cs with ⟨-, hnot⟩ | ⟨l, tail, -, hcuts⟩
    · exact absurd hcut hnot
    · refine ⟨op, _, _, .mk horder (fun op' hop' => ?_) hcuts (Text.until_iff.mpr rfl)⟩
      have hnone := habsent op' hop'
      rwa [Option.map_eq_none_iff, operands?_eq_none_iff] at hnone

/-- The operator that an expression is read by is applied to its operands. -/
theorem evaluate_of_reads (h : Reads s.toList op left right) (context : Value) :
    evaluate (.text s) context =
      op.apply (Value.resolve (.text (String.ofList left)) context) (String.ofList right) := by
  cases h with
  | @mk before after l tail part order absent cut next =>
    have hsplit : split? s.toList = some (op, Text.trim l, Text.trim part) := by
      refine List.findSome?_eq_some_iff.mpr ⟨before, op, after, order, ?_, fun op' hop' => ?_⟩
      · rw [operands?_of_cut cut next]
        rfl
      · rw [(operands?_eq_none_iff op' _).mpr (absent op' hop')]
        rfl
    rw [evaluate, evaluateText, hsplit]
    rfl

/-- A plain comparison is read as it is written. -/
theorem reads_plain (op : Comparison) {l w w' r : List Char} (hl : Plain l) (hr : Plain r)
    (hw : ∀ c ∈ w, Text.isBlank c = true) (hw' : ∀ c ∈ w', Text.isBlank c = true) :
    Reads (l ++ w ++ op.symbol ++ w' ++ r) op (Text.trim l) (unquoted (Text.trim r)) := by
  have hleft : Plain (l ++ w) := hl.append (Comparison.plain_of_blank hw)
  have hright : Plain (w' ++ r) := (Comparison.plain_of_blank hw').append hr
  obtain ⟨before, after, horder⟩ := List.append_of_mem op.mem_all
  rw [List.append_assoc _ w', ← Text.trim_append_blank l hw, ← Text.trim_blank_append r hw']
  refine .mk horder (fun op' hop' hoccurs => ?_) (op.cutsAt_plain hleft)
    (.inr ⟨op.not_isInfix_of_plain hright, rfl⟩)
  exact Comparison.not_isInfix_of_earlier horder hop'
    (Comparison.isInfix_of_plain hleft hright hoccurs)

end Expression
end ProcessTriggers
