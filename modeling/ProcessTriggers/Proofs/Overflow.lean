import Mathlib.Data.Rat.Floor
import Mathlib.Tactic.Linarith
import Mathlib.Tactic.Positivity
import ProcessTriggers.Condition.Operand

/-!
Values that become no number. A value is turned into a double by way of an integer if it is one, or
if it is a text that writes one after the mark of a base; and where that integer lies beyond the
doubles, it is an error.
-/

namespace ProcessTriggers

/-- What is below an even number is rounded to it from the half before it on. -/
theorem roundHalfEven_eq_iff {q : Rat} {n : Int} (heven : n % 2 = 0) (hlt : q < n) :
    roundHalfEven q = n ↔ (n : Rat) - 1 / 2 ≤ q := by
  have hle : (q.floor : Rat) ≤ q := Int.floor_le q
  have hge : q < q.floor + 1 := Int.lt_floor_add_one q
  have hbelow : q.floor + 1 ≤ n := by
    have : (q.floor : Rat) < n := hle.trans_lt hlt
    exact_mod_cast this
  obtain heq | hless := hbelow.eq_or_lt
  · have hcast : (n : Rat) = q.floor + 1 := by rw [← heq]; push_cast; rfl
    have hodd : q.floor % 2 ≠ 0 := by omega
    have hne : q.floor ≠ n := by omega
    simp only [roundHalfEven, if_neg hodd, heq]
    split_ifs with hunder hover
    · exact iff_of_false hne fun h => by linarith
    · exact iff_of_true rfl (by linarith)
    · exact iff_of_true rfl (by linarith)
  · have hcast : (q.floor : Rat) + 2 ≤ n := by
      have : q.floor + 2 ≤ n := by omega
      exact_mod_cast this
    refine iff_of_false (fun h => ?_) fun h => by linarith
    simp only [roundHalfEven] at h
    split_ifs at h <;> omega

namespace Double

/-- The magnitude from which integers round to no finite double: the largest double and half a unit
of its last place. -/
def limit : Nat := 2 ^ 1024 - 2 ^ 970

theorem limit_le_iff {m : Nat} : limit ≤ m ↔ 2 ^ (54 + 970) ≤ m + 2 ^ 970 := by
  rw [limit, show 1024 = 54 + 970 from rfl, Nat.sub_le_iff_le_add]

theorem exponentFor_natCast {m : Nat} (hm : m ≠ 0) :
    exponentFor (m : Rat) = (Nat.log2 m : Int) - 52 := by
  have hle : ¬ (m : Rat) < 2 ^ ((Nat.log2 m : Int) - (0 : Nat) - 52 + 52) := by
    have hexp : (Nat.log2 m : Int) - (0 : Nat) - 52 + 52 = (Nat.log2 m : Nat) := by omega
    rw [hexp, zpow_natCast, not_lt]
    exact_mod_cast Nat.log2_self_le hm
  have hone : Nat.log2 1 = 0 := by decide
  have hnum : ((m : Rat).num).toNat = m := rfl
  have hden : (m : Rat).den = 1 := rfl
  simp only [exponentFor, hnum, hden, hone, if_neg hle, minExponent]
  omega

/-- A mantissa fills up from half a unit below its end on. -/
theorem mantissa_full_iff {m j : Nat} (hm : m ≠ 0) (hlog : Nat.log2 m = 53 + j) :
    (roundHalfEven ((m : Rat) / 2 ^ ((j : Int) + 1))).toNat = Nat.pow 2 53 ↔
      2 ^ (54 + j) ≤ m + 2 ^ j := by
  have hexponent : (2 : Rat) ^ ((j : Int) + 1) = 2 ^ (j + 1) := by
    exact_mod_cast zpow_natCast (2 : Rat) (j + 1)
  have hpos : (0 : Rat) < 2 ^ j := by positivity
  have hunit : (2 : Rat) ^ (j + 1) = 2 * 2 ^ j := pow_succ' 2 j
  have hend : (2 : Rat) ^ (54 + j) = ((2 ^ 53 : Int) : Rat) * (2 * 2 ^ j) := by
    rw [pow_add]
    push_cast
    ring
  have hlt : (m : Rat) / 2 ^ (j + 1) < ((2 ^ 53 : Int) : Rat) := by
    have hhigh : m < 2 ^ (54 + j) := (Nat.log2_lt hm).mp (by omega)
    rw [div_lt_iff₀ (by positivity), hunit, ← hend]
    exact_mod_cast hhigh
  have hfull : (roundHalfEven ((m : Rat) / 2 ^ (j + 1))).toNat = Nat.pow 2 53 ↔
      roundHalfEven ((m : Rat) / 2 ^ (j + 1)) = 2 ^ 53 := by
    have : Nat.pow 2 53 = 2 ^ 53 := rfl
    omega
  rw [hexponent, hfull, roundHalfEven_eq_iff (by norm_num) hlt, le_div_iff₀ (by positivity),
    hunit, sub_mul, ← hend, ← Nat.cast_le (α := Rat), Nat.cast_add, Nat.cast_pow, Nat.cast_pow]
  push_cast
  constructor <;> intro h <;> linarith

/-- What is large enough to overflow has the greatest exponent or a greater one. -/
theorem large_iff {m j : Nat} (hm : m ≠ 0) : 2 ^ (54 + j) ≤ m + 2 ^ j ↔
    53 + j < Nat.log2 m ∨ Nat.log2 m = 53 + j ∧ 2 ^ (54 + j) ≤ m + 2 ^ j := by
  constructor
  · intro h
    by_contra hnot
    have hless : Nat.log2 m < 53 + j := by omega
    have hhigh : m < 2 ^ (53 + j) := (Nat.log2_lt hm).mp hless
    have hgap : 2 ^ j ≤ 2 ^ (53 + j) := Nat.pow_le_pow_right (by decide) (by omega)
    have hdouble : 2 ^ (54 + j) = 2 ^ (53 + j) + 2 ^ (53 + j) := by
      rw [← Nat.two_mul, ← Nat.pow_succ']
      congr 1
      omega
    omega
  · rintro (h | ⟨-, h⟩)
    · have hlow := (Nat.le_log2 hm).mp (show 54 + j ≤ Nat.log2 m by omega)
      exact Nat.le_trans hlow (Nat.le_add_right m _)
    · exact h

theorem isInfinite_ofMagnitude {q : Rat} (hq : q ≠ 0) (negative : Bool) :
    (ofMagnitude negative q).isInfinite = true ↔ maxExponent < exponentFor q ∨
      exponentFor q = maxExponent ∧
        (roundHalfEven (q / 2 ^ maxExponent)).toNat = Nat.pow 2 53 := by
  have hof : ∀ (c : Prop) [Decidable c] (m : Nat) (e : Int),
      (if c then infinite negative else finite negative m e).isInfinite = true ↔ c := by
    intro c _ m e
    split_ifs with h
    · exact iff_of_true rfl h
    · exact iff_of_false Bool.false_ne_true h
  simp only [ofMagnitude, if_neg hq, hof]
  split_ifs with hfull <;> grind

/-- An integer rounds to an infinite double from the limit on. -/
theorem isInfinite_ofMagnitude_iff (negative : Bool) (m : Nat) :
    (ofMagnitude negative (m : Rat)).isInfinite = true ↔ limit ≤ m := by
  rw [limit_le_iff]
  by_cases hm : m = 0
  · subst hm
    have hfinite : (ofMagnitude negative ((0 : Nat) : Rat)).isInfinite = false := rfl
    have hgap (j : Nat) : ¬ 2 ^ (54 + j) ≤ 0 + 2 ^ j := by
      rw [Nat.zero_add, Nat.not_le]
      exact Nat.pow_lt_pow_right Nat.one_lt_two (by omega)
    rw [hfinite]
    exact iff_of_false Bool.false_ne_true (hgap 970)
  rw [isInfinite_ofMagnitude (Nat.cast_ne_zero.mpr hm), large_iff hm, exponentFor_natCast hm,
    maxExponent]
  have hmore : 971 < (Nat.log2 m : Int) - 52 ↔ 53 + 970 < Nat.log2 m := by omega
  have hlast : (Nat.log2 m : Int) - 52 = 971 ↔ Nat.log2 m = 53 + 970 := by omega
  rw [hmore, hlast]
  refine or_congr_right (and_congr_right fun hlog => ?_)
  exact mantissa_full_iff hm hlog

/-- An integer rounds to an infinite double from the limit on. -/
theorem isInfinite_ofInt_iff (n : Int) : (ofInt n).isInfinite = true ↔ limit ≤ n.natAbs := by
  have hcast : ((n.natAbs : Nat) : Rat) = |(n : Rat)| := by rw [Nat.cast_natAbs, Int.cast_abs]
  rw [ofInt, ofRat]
  split_ifs with hneg
  · rw [← abs_of_neg hneg, ← hcast, isInfinite_ofMagnitude_iff]
  · rw [← abs_of_nonneg (not_lt.mp hneg), ← hcast, isInfinite_ofMagnitude_iff]

end Double

namespace Numeral

/-- The signs, with whether they are a minus. None is needed. -/
def signs : List (List Char × Bool) := [([], false), (['+'], false), (['-'], true)]

/-- A text that writes an integer in a base: maybe a sign, maybe the mark of the base, and digits
of it. -/
inductive WritesIn (base : Nat) (letter : Char) (cs : List Char) : Int → Prop
  | mk {sign mark ds : List Char} {negative : Bool} {n : Nat} (signed : (sign, negative) ∈ signs)
    (marked : mark ∈ [[], ['0', letter], ['0', letter.toUpper]])
    (eq : normalize cs = sign ++ (mark ++ ds)) (digits : natOf? base ds = some n) :
    WritesIn base letter cs (if negative then -n else n)

theorem digit_of_natOf? {base n : Nat} {ds : List Char} (h : natOf? base ds = some n) :
    ds ≠ [] ∧ ∀ d ∈ ds, (digitIn? base d).isSome = true := by
  have hfold : ∀ (ds : List Char) (acc : Option Nat),
      (ds.foldl (fun acc c => do return (← acc) * base + (← digitIn? base c)) acc).isSome = true →
        acc.isSome = true ∧ ∀ d ∈ ds, (digitIn? base d).isSome = true := by
    intro ds
    induction ds with
    | nil => exact fun acc h => ⟨h, fun _ hd => nomatch hd⟩
    | cons d ds ih =>
      intro acc h
      obtain ⟨hsome, hds⟩ := ih _ h
      cases acc with
      | none => cases hsome
      | some a =>
        dsimp only at hsome
        cases hd : digitIn? base d with
        | none =>
          rw [hd] at hsome
          cases hsome
        | some v => exact ⟨rfl, List.forall_mem_cons.mpr ⟨by rw [hd]; rfl, hds⟩⟩
  rw [natOf?] at h
  split at h
  · cases h
  · next hne => exact ⟨by simpa using hne, (hfold ds (some 0) (by rw [h]; rfl)).2⟩

theorem underscore_not_mem_normalize {cs : List Char} (h : '_' ∉ cs) : '_' ∉ normalize cs := by
  intro hmem
  obtain ⟨c, hc, heq⟩ := List.mem_map.mp hmem
  have hcs : c ∈ cs := by
    have htrim := List.mem_reverse.mp hc
    exact (List.dropWhile_suffix _).subset
      (List.mem_reverse.mp ((List.dropWhile_suffix _).subset htrim))
  cases hdigit : Text.digitValue? c with
  | none =>
    rw [hdigit] at heq
    exact h (heq ▸ hcs)
  | some v =>
    rw [hdigit] at heq
    have hplain : ∀ v < 10, Text.digitChar v ≠ '_' := by decide
    exact hplain v (Text.digitValue?_lt hdigit) heq

theorem joinGroups?_of_not_mem (isDigit : Char → Bool) {cs : List Char} (h : '_' ∉ cs) :
    joinGroups? isDigit cs = some cs := by
  fun_induction joinGroups? isDigit cs <;> simp_all

theorem takeSign_cases (cs : List Char) :
    ∃ sign, (sign, (takeSign cs).1) ∈ signs ∧ cs = sign ++ (takeSign cs).2 := by
  fun_cases takeSign cs with
  | case1 r => exact ⟨['-'], .tail _ (.tail _ (.head _)), rfl⟩
  | case2 r => exact ⟨['+'], .tail _ (.head _), rfl⟩
  | case3 => exact ⟨[], .head _, rfl⟩

theorem dropBaseMark_cases (letter : Char) {cs : List Char} (h : '_' ∉ cs) :
    ∃ mark ∈ [[], ['0', letter], ['0', letter.toUpper]], cs = mark ++ dropBaseMark letter cs := by
  fun_cases dropBaseMark letter cs with
  | case1 c r hc => simp at h
  | case2 c hc r hr =>
    rcases Bool.or_eq_true_iff.mp hc with hc | hc
    · exact ⟨['0', letter], .tail _ (.head _), by rw [eq_of_beq hc]; rfl⟩
    · exact ⟨['0', letter.toUpper], .tail _ (.tail _ (.head _)), by rw [eq_of_beq hc]; rfl⟩
  | case3 c r hc => exact ⟨[], .head _, rfl⟩
  | case4 => exact ⟨[], .head _, rfl⟩

/-- Without underscores an integer in a base is what its digits write, with its sign. -/
theorem intIn?_eq {base : Nat} {letter : Char} {cs : List Char} (h : '_' ∉ cs) :
    intIn? base letter cs = (natOf? base (dropBaseMark letter (takeSign (normalize cs)).2)).map
      fun n : Nat => if (takeSign (normalize cs)).1 then -(n : Int) else n := by
  have hnormal := underscore_not_mem_normalize h
  obtain ⟨sign, -, hbody⟩ := takeSign_cases (normalize cs)
  have hrest : '_' ∉ (takeSign (normalize cs)).2 := fun hmem =>
    hnormal (hbody ▸ List.mem_append_right sign hmem)
  obtain ⟨mark, -, hdigits⟩ := dropBaseMark_cases letter hrest
  have hplain : '_' ∉ dropBaseMark letter (takeSign (normalize cs)).2 := fun hmem =>
    hrest (hdigits ▸ List.mem_append_right mark hmem)
  simp only [intIn?, joinGroups?_of_not_mem _ hplain, Option.bind_eq_bind, Option.bind_some]
  cases natOf? base (dropBaseMark letter (takeSign (normalize cs)).2) <;> rfl

theorem writesIn_of_intIn? {base : Nat} {letter : Char} {cs : List Char} {n : Int}
    (hplain : '_' ∉ cs) (h : intIn? base letter cs = some n) : WritesIn base letter cs n := by
  obtain ⟨sign, hsign, hbody⟩ := takeSign_cases (normalize cs)
  have hrest : '_' ∉ (takeSign (normalize cs)).2 := fun hmem =>
    underscore_not_mem_normalize hplain (hbody ▸ List.mem_append_right sign hmem)
  obtain ⟨mark, hmark, hdigits⟩ := dropBaseMark_cases letter hrest
  rw [intIn?_eq hplain] at h
  obtain ⟨m, hm, rfl⟩ := Option.map_eq_some_iff.mp h
  exact .mk hsign hmark (hbody.trans (congrArg (sign ++ ·) hdigits)) hm

/-- The bases that have a mark, with its letter. -/
def markedBases : List (Nat × Char) := [(16, 'x'), (8, 'o'), (2, 'b')]

theorem takeSign_append {sign body : List Char} {negative : Bool} (h : (sign, negative) ∈ signs)
    (hbody : ∀ c ∈ body.head?, c ≠ '-' ∧ c ≠ '+') : takeSign (sign ++ body) = (negative, body) := by
  simp only [signs, List.mem_cons, Prod.mk.injEq, List.not_mem_nil, or_false] at h
  rcases h with ⟨rfl, rfl⟩ | ⟨rfl, rfl⟩ | ⟨rfl, rfl⟩
  · rw [List.nil_append]
    fun_cases takeSign body with
    | case1 r => exact absurd rfl (hbody '-' rfl).1
    | case2 r => exact absurd rfl (hbody '+' rfl).2
    | case3 => rfl
  · rfl
  · rfl

/-- The letter of a base is none of its digits. -/
theorem letter_no_digit {base : Nat} {letter : Char} (h : (base, letter) ∈ markedBases) :
    digitIn? base letter = none ∧ digitIn? base letter.toUpper = none := by
  revert h
  simp only [markedBases, List.mem_cons, Prod.mk.injEq, List.not_mem_nil, or_false]
  rintro (⟨rfl, rfl⟩ | ⟨rfl, rfl⟩ | ⟨rfl, rfl⟩) <;> decide

theorem dropBaseMark_digits {base : Nat} {letter : Char} {ds : List Char}
    (hbase : (base, letter) ∈ markedBases) (hds : ∀ d ∈ ds, (digitIn? base d).isSome = true) :
    dropBaseMark letter ds = ds := by
  have hother : ∀ {c}, (c == letter || c == letter.toUpper) = true → digitIn? base c = none := by
    intro c hc
    rcases Bool.or_eq_true_iff.mp hc with hc | hc
    · exact eq_of_beq hc ▸ (letter_no_digit hbase).1
    · exact eq_of_beq hc ▸ (letter_no_digit hbase).2
  fun_cases dropBaseMark letter ds with
  | case1 c hc r => simp [hother hc] at hds
  | case2 c hc r hr => simp [hother hc] at hds
  | case3 => rfl
  | case4 => rfl

theorem dropBaseMark_append {base : Nat} {letter : Char} {mark ds : List Char}
    (hbase : (base, letter) ∈ markedBases) (hds : ∀ d ∈ ds, (digitIn? base d).isSome = true)
    (hmark : mark ∈ [[], ['0', letter], ['0', letter.toUpper]]) :
    dropBaseMark letter (mark ++ ds) = ds := by
  have hdrop : ∀ c, (c == letter || c == letter.toUpper) = true →
      dropBaseMark letter ('0' :: c :: ds) = ds := by
    intro c hc
    rw [dropBaseMark, if_pos hc]
    rintro r rfl
    exact absurd (hds '_' List.mem_cons_self) Bool.false_ne_true
  simp only [List.mem_cons, List.not_mem_nil, or_false] at hmark
  rcases hmark with rfl | rfl | rfl
  · exact dropBaseMark_digits hbase hds
  · exact hdrop letter (by simp)
  · exact hdrop letter.toUpper (by simp)

theorem intIn?_of_writesIn {base : Nat} {letter : Char} {cs : List Char} {n : Int}
    (hbase : (base, letter) ∈ markedBases) (hplain : '_' ∉ cs) (h : WritesIn base letter cs n) :
    intIn? base letter cs = some n := by
  cases h with
  | @mk sign mark ds negative m signed marked eq digits =>
    obtain ⟨hne, hds⟩ := digit_of_natOf? digits
    have hhead : ∀ c ∈ (mark ++ ds).head?, c ≠ '-' ∧ c ≠ '+' := by
      simp only [List.mem_cons, List.not_mem_nil, or_false] at marked
      rcases marked with rfl | rfl | rfl
      · intro c hc
        have hdigit := hds c (List.mem_of_mem_head? hc)
        constructor <;> (rintro rfl; exact absurd hdigit Bool.false_ne_true)
      · rintro c ⟨⟩
        decide
      · rintro c ⟨⟩
        decide
    rw [intIn?_eq hplain, eq, takeSign_append signed hhead, dropBaseMark_append hbase hds marked,
      digits]
    rfl

end Numeral

namespace Operand

open Numeral (WritesIn markedBases)

/-- A text that writes an integer after the mark of a base, with white space around it. -/
inductive Writes (s : String) : Int → Prop
  | mk {base : Nat} {letter c : Char} {rest : List Char} {n : Int}
    (based : (base, letter) ∈ markedBases) (marked : c.toLower = letter)
    (eq : Text.trim s.toList = '0' :: c :: rest) (allowed : isExcluded ('0' :: c :: rest) = false)
    (written : WritesIn base letter rest n) : Writes s n

theorem baseMark?_cases (cs : List Char) : baseMark? cs = none ∨ ∃ base letter c rest,
    cs = '0' :: c :: rest ∧ c.toLower = letter ∧ (base, letter) ∈ markedBases ∧
      baseMark? cs = some (base, letter, rest) := by
  unfold baseMark?
  split
  · next c r =>
    split
    · next h => exact .inr ⟨16, 'x', c, r, rfl, h, by decide, rfl⟩
    · next h => exact .inr ⟨8, 'o', c, r, rfl, h, by decide, rfl⟩
    · next h => exact .inr ⟨2, 'b', c, r, rfl, h, by decide, rfl⟩
    · exact .inl rfl
  · exact .inl rfl

theorem underscore_not_mem {c d : Char} {cs : List Char} (h : isExcluded (c :: d :: cs) = false) :
    '_' ∉ cs := by
  intro hmem
  simp [isExcluded, hmem] at h

theorem ofText_of_writes {s : String} {n : Int} (h : Writes s n) : ofText s = ofInt n := by
  cases h with
  | @mk base letter c rest n based marked eq allowed written =>
    have hplain := underscore_not_mem allowed
    have hmark : baseMark? ('0' :: c :: rest) = some (base, letter, rest) := by
      simp only [markedBases, List.mem_cons, Prod.mk.injEq, List.not_mem_nil, or_false] at based
      rcases based with ⟨rfl, rfl⟩ | ⟨rfl, rfl⟩ | ⟨rfl, rfl⟩ <;> simp only [baseMark?, marked]
    have hint := Numeral.intIn?_of_writesIn based hplain written
    simp only [ofText, eq, allowed, hmark, hint]
    simp

theorem writes_of_error {s : String} {e : Error} (h : ofText s = .error e) :
    ∃ n, Writes s n ∧ ofInt n = .error e := by
  simp only [ofText] at h
  split_ifs at h with _ _ _ hallowed
  rcases baseMark?_cases (Text.trim s.toList) with
    hnone | ⟨base, letter, c, rest, heq, hc, hbase, hmark⟩
  · rw [hnone] at h
    cases h
  · cases hint : Numeral.intIn? base letter rest with
    | none =>
      simp only [hmark, hint] at h
      cases h
    | some n =>
      simp only [hmark, hint] at h
      rw [heq, Bool.not_eq_true] at hallowed
      have hplain := underscore_not_mem hallowed
      exact ⟨n, .mk hbase hc heq hallowed (Numeral.writesIn_of_intIn? hplain hint), h⟩

/-- The integer by way of which a value becomes a number: itself, the one that a text writes after
the mark of a base, or the one that the text of the only item of a list writes so. -/
inductive ByInteger : Value → Int → Prop
  | int (n : Int) : ByInteger (.int n) n
  | text {s : String} {n : Int} (h : Writes s n) : ByInteger (.text s) n
  | item {x : Value} {n : Int} (h : Writes (display x) n) : ByInteger (.list [x]) n

/-- A value that is no number because the integer by way of which it would become one rounds to no
finite double. -/
def Overflows (v : Value) : Prop := ∃ n, ByInteger v n ∧ Double.limit ≤ n.natAbs

theorem ofInt_cases (n : Int) : (Double.limit ≤ n.natAbs ∧ ofInt n = .error .numberTooLarge) ∨
    (¬ Double.limit ≤ n.natAbs ∧ ofInt n = .ok (Double.ofInt n)) := by
  rw [← Double.isInfinite_ofInt_iff, ofInt]
  split_ifs with h
  · exact .inl ⟨h, rfl⟩
  · exact .inr ⟨h, rfl⟩

theorem number_of_byInteger {v : Value} {n : Int} (h : ByInteger v n) : number v = ofInt n := by
  cases h with
  | int => rfl
  | text h => exact ofText_of_writes h
  | item h => exact ofText_of_writes h

theorem byInteger_of_error {v : Value} {e : Error} (h : number v = .error e) :
    ∃ n, ByInteger v n ∧ ofInt n = .error e := by
  unfold number at h
  split at h
  case h_3 n => exact ⟨n, .int n, h⟩
  case h_5 s =>
    obtain ⟨n, hn, hofInt⟩ := writes_of_error h
    exact ⟨n, .text hn, hofInt⟩
  case h_7 x =>
    obtain ⟨n, hn, hofInt⟩ := writes_of_error h
    exact ⟨n, .item hn, hofInt⟩
  all_goals cases h

/-- A value becomes a number unless it overflows. -/
theorem number_cases (v : Value) : (Overflows v ∧ number v = .error .numberTooLarge) ∨
    (¬ Overflows v ∧ ∃ x, number v = .ok x) := by
  cases h : number v with
  | error e =>
    obtain ⟨n, hn, hofInt⟩ := byInteger_of_error h
    rcases ofInt_cases n with ⟨hlimit, herror⟩ | ⟨-, hok⟩
    · exact .inl ⟨⟨n, hn, hlimit⟩, hofInt.symm.trans herror⟩
    · cases hofInt.symm.trans hok
  | ok x =>
    refine .inr ⟨fun ⟨n, hn, hlimit⟩ => ?_, x, rfl⟩
    rw [number_of_byInteger hn] at h
    rcases ofInt_cases n with ⟨-, herror⟩ | ⟨hnot, -⟩
    · cases herror.symm.trans h
    · exact hnot hlimit

end Operand

end ProcessTriggers
