import Mathlib.Data.List.TakeWhile
import Mathlib.Data.Nat.Digits.Defs
import ProcessTriggers.Double.Numeral
import ProcessTriggers.Proofs.Calendar
import ProcessTriggers.Text.Quoted
import ProcessTriggers.Time.Iso

/-!
Digits. What was written in decimal or hexadecimal digits is read back, and decimal digits of one
length are ordered as the numbers that they write.
-/

namespace ProcessTriggers

/-- Texts that begin with parts of one length are ordered by these parts first. -/
theorem compare_append {as bs : List Nat} (h : as.length = bs.length) (cs ds : List Nat) :
    compare (as ++ cs) (bs ++ ds) = (compare as bs).then (compare cs ds) := by
  induction as generalizing bs with
  | nil =>
    cases List.length_eq_zero_iff.mp h.symm
    rfl
  | cons a as ih =>
    cases bs with
    | nil => cases h
    | cons b bs =>
      have hlength : as.length = bs.length := by simpa using h
      simp only [List.compare_eq_compareLex, List.cons_append, List.compareLex_cons_cons] at ih ⊢
      rw [ih hlength, Ordering.then_assoc]

/-- A run of characters ends where the next one is no part of it. -/
theorem span_run {p : Char → Bool} {run rest : List Char} (hrun : ∀ c ∈ run, p c = true)
    (hrest : ∀ c ∈ rest.head?, p c = false) :
    (run ++ rest).takeWhile p = run ∧ (run ++ rest).dropWhile p = rest := by
  rw [List.takeWhile_append_of_pos hrun, List.dropWhile_append_of_pos hrun]
  cases rest with
  | nil => exact ⟨List.append_nil run, rfl⟩
  | cons c rest =>
    have hc : ¬ p c = true := by rw [hrest c rfl]; exact Bool.false_ne_true
    rw [List.takeWhile_cons_of_neg hc, List.dropWhile_cons_of_neg hc, List.append_nil]
    exact ⟨rfl, rfl⟩

namespace Numeral

/-- The number that decimal digits write. -/
def decimal (ds : List Char) : Nat := Nat.ofDigitChars 10 ds 0

theorem isDigit_iff {c : Char} : c.isDigit = true ↔ 48 ≤ c.toNat ∧ c.toNat ≤ 57 := by
  rw [Char.isDigit, Bool.and_eq_true, decide_eq_true_eq, decide_eq_true_eq]
  exact Iff.rfl

theorem decimal_from (ds : List Char) (n : Nat) :
    Nat.ofDigitChars 10 ds n = 10 ^ ds.length * n + decimal ds := by
  induction ds generalizing n with
  | nil => simp [decimal]
  | cons d ds ih =>
    rw [decimal, Nat.ofDigitChars_cons, Nat.ofDigitChars_cons, ih, ih (10 * 0 + _),
      List.length_cons, Nat.pow_succ]
    ring

theorem decimal_cons (d : Char) (ds : List Char) :
    decimal (d :: ds) = 10 ^ ds.length * (d.toNat - 48) + decimal ds := by
  rw [decimal, Nat.ofDigitChars_cons, decimal_from, Nat.mul_zero, Nat.zero_add]
  rfl

theorem decimal_lt {ds : List Char} (h : ∀ d ∈ ds, d.isDigit = true) :
    decimal ds < 10 ^ ds.length := by
  induction ds with
  | nil => exact Nat.one_pos
  | cons d ds ih =>
    have hd := isDigit_iff.mp (h d List.mem_cons_self)
    have hds := ih fun e he => h e (List.mem_cons_of_mem d he)
    have hlead : 10 ^ ds.length * (d.toNat - 48) ≤ 10 ^ ds.length * 9 :=
      Nat.mul_le_mul_left _ (by omega)
    rw [decimal_cons, List.length_cons, Nat.pow_succ]
    omega

theorem decimal_toDigits (n : Nat) : decimal (Nat.toDigits 10 n) = n :=
  Nat.ofDigitChars_ten_toDigits

/-- Digits of one length are ordered as the numbers that they write. -/
theorem compare_digits {ds es : List Char} (hlength : ds.length = es.length)
    (hds : ∀ d ∈ ds, d.isDigit = true) (hes : ∀ e ∈ es, e.isDigit = true) :
    compare (ds.map Char.toNat) (es.map Char.toNat) = compare (decimal ds) (decimal es) := by
  induction ds generalizing es with
  | nil =>
    cases List.length_eq_zero_iff.mp hlength.symm
    rfl
  | cons d ds ih =>
    cases es with
    | nil => cases hlength
    | cons e es =>
      have htails : ds.length = es.length := by simpa using hlength
      have hds' := fun c hc => hds c (List.mem_cons_of_mem d hc)
      have hes' := fun c hc => hes c (List.mem_cons_of_mem e hc)
      have hd := isDigit_iff.mp (hds d List.mem_cons_self)
      have he := isDigit_iff.mp (hes e List.mem_cons_self)
      have hdsLt := decimal_lt hds'
      have hesLt := decimal_lt hes'
      rw [← htails] at hesLt
      -- A greater first digit outweighs all that follows.
      have houtweigh : ∀ {a b m : Nat}, a < b → m < 10 ^ ds.length →
          10 ^ ds.length * a + m < 10 ^ ds.length * b := by
        intro a b m hab hm
        have hle : 10 ^ ds.length * (a + 1) ≤ 10 ^ ds.length * b := Nat.mul_le_mul_left _ hab
        rw [Nat.mul_succ] at hle
        omega
      have hrec := ih htails hds' hes'
      simp only [List.compare_eq_compareLex, List.map_cons, List.compareLex_cons_cons] at hrec ⊢
      rw [hrec, decimal_cons, decimal_cons, ← htails]
      refine (compare_eq_then (fun h => ?_) (fun h => ?_) (fun h => ?_)).symm
      · have := houtweigh (a := d.toNat - 48) (b := e.toNat - 48) (by omega) hdsLt
        omega
      · have := houtweigh (a := e.toNat - 48) (b := d.toNat - 48) (by omega) hesLt
        omega
      · rw [h, compare_add_left]

theorem digitIn?_of_isDigit {c : Char} (h : c.isDigit = true) :
    digitIn? 10 c = some (c.toNat - 48) := by
  obtain ⟨hle, hge⟩ := isDigit_iff.mp h
  have hrange : '0' ≤ c ∧ c ≤ '9' := ⟨hle, hge⟩
  rw [digitIn?, if_pos hrange]
  have hlt : c.toNat - 48 < 10 := by omega
  exact Option.filter_some_pos (decide_eq_true hlt)

/-- Decimal digits are read as the number that they write. -/
theorem natOf?_eq_decimal {ds : List Char} (hne : ds ≠ []) (h : ∀ d ∈ ds, d.isDigit = true) :
    natOf? 10 ds = some (decimal ds) := by
  have hread : ∀ (ds : List Char) (n : Nat), (∀ d ∈ ds, d.isDigit = true) →
      ds.foldl (fun acc c => do return (← acc) * 10 + (← digitIn? 10 c)) (some n) =
        some (Nat.ofDigitChars 10 ds n) := by
    intro ds
    induction ds with
    | nil => exact fun n _ => rfl
    | cons d ds ih =>
      intro n hds
      have hd := digitIn?_of_isDigit (hds d List.mem_cons_self)
      rw [List.foldl_cons, Nat.ofDigitChars_cons, Nat.mul_comm]
      simp only [hd]
      exact ih _ fun e he => hds e (List.mem_cons_of_mem d he)
  rw [natOf?, if_neg (by simpa using hne)]
  exact hread ds 0 h

theorem isDigit_of_mem_toDigits {n : Nat} : ∀ d ∈ Nat.toDigits 10 n, d.isDigit = true :=
  fun _ => Nat.isDigit_of_mem_toDigits (by decide) (by decide)

theorem natOf?_toDigits (n : Nat) : natOf? 10 (Nat.toDigits 10 n) = some n := by
  rw [natOf?_eq_decimal Nat.toDigits_ne_nil isDigit_of_mem_toDigits, decimal_toDigits]

/-- Only zero is written with a zero in front. -/
theorem toDigits_head (n : Nat) : ∃ d ds, Nat.toDigits 10 n = d :: ds ∧ (d = '0' → ds = []) := by
  induction n using Nat.strong_induction_on with
  | _ n ih =>
    rw [Nat.toDigits_eq_if (by decide)]
    split
    · exact ⟨n.digitChar, [], rfl, fun _ => rfl⟩
    · next hn =>
      obtain ⟨d, ds, hds, hzero⟩ := ih (n / 10) (by omega)
      refine ⟨d, ds ++ [(n % 10).digitChar], by rw [hds, List.cons_append], fun hd => ?_⟩
      have hnil := hzero hd
      have hvalue := decimal_toDigits (n / 10)
      rw [hds, hnil, hd] at hvalue
      have hsmall : n / 10 = 0 := hvalue.symm
      omega

end Numeral

namespace Text

theorem digitIn?_hexDigit {n : Nat} (h : n < 16) : Numeral.digitIn? 16 (hexDigit n) = some n := by
  revert n
  decide

/-- A number of four hexadecimal digits is read back. -/
theorem natOf?_hexDigits {n : Nat} (h : n < 0x10000) :
    Numeral.natOf? 16 (hexDigits 4 n) = some n := by
  have hdigit := fun m : Nat => digitIn?_hexDigit (Nat.mod_lt m (by decide : 0 < 16))
  simp only [Numeral.natOf?, hexDigits, List.nil_append, List.cons_append, List.isEmpty_cons,
    Bool.false_eq_true, if_false, List.foldl_cons, List.foldl_nil, hdigit, Option.pure_def,
    Option.bind_eq_bind, Option.bind_some, Option.some.injEq]
  omega

end Text

namespace Stamp

theorem toList_padded (width n : Nat) : (padded width n).toList =
    List.replicate (width - (Nat.toDigits 10 n).length) '0' ++ Nat.toDigits 10 n := by
  rw [padded, String.toList_append, String.toList_ofList, ← Nat.toList_repr, String.length_toList]
  rfl

theorem length_padded {width n : Nat} (hwidth : 0 < width) (hn : n < 10 ^ width) :
    (padded width n).toList.length = width := by
  have hle := (Nat.length_toDigits_le_iff (b := 10) (by decide) hwidth).mpr hn
  rw [toList_padded, List.length_append, List.length_replicate]
  omega

theorem isDigit_of_mem_padded {width n : Nat} :
    ∀ d ∈ (padded width n).toList, d.isDigit = true := by
  intro d hd
  rw [toList_padded, List.mem_append] at hd
  rcases hd with hd | hd
  · rw [List.eq_of_mem_replicate hd]
    rfl
  · exact Numeral.isDigit_of_mem_toDigits d hd

theorem decimal_padded (width n : Nat) : Numeral.decimal (padded width n).toList = n := by
  rw [toList_padded, Numeral.decimal, Nat.ofDigitChars_append, Nat.ofDigitChars_replicate_zero,
    Nat.mul_zero]
  exact Numeral.decimal_toDigits n

theorem compare_padded {width m n : Nat} (hwidth : 0 < width) (hm : m < 10 ^ width)
    (hn : n < 10 ^ width) : compare ((padded width m).toList.map Char.toNat)
      ((padded width n).toList.map Char.toNat) = compare m n := by
  rw [Numeral.compare_digits ((length_padded hwidth hm).trans (length_padded hwidth hn).symm)
    isDigit_of_mem_padded isDigit_of_mem_padded, decimal_padded, decimal_padded]

/-- Digits of a fixed number are read back. -/
theorem takeDigits?_padded {width n : Nat} (hwidth : 0 < width) (hn : n < 10 ^ width)
    (cs : List Char) : takeDigits? width ((padded width n).toList ++ cs) = some (n, cs) := by
  have hlength := length_padded hwidth hn
  have hvalue := decimal_padded width n
  have hall : (padded width n).toList.all Char.isDigit = true :=
    List.all_eq_true.mpr isDigit_of_mem_padded
  rw [Numeral.decimal, Nat.ofDigitChars_eq_foldl] at hvalue
  simp only [Nat.mul_comm 10] at hvalue
  rw [takeDigits?, List.take_left' hlength, List.drop_left' hlength]
  simp only [hlength, hall, and_self, if_true]
  exact congrArg (fun v => some (v, cs)) hvalue

end Stamp
end ProcessTriggers
