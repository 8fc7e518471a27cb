import Mathlib.Data.Bool.AllAny
import Mathlib.Data.List.TakeWhile
import ProcessTriggers.Proofs.Digits
import ProcessTriggers.Proofs.Overflow

/-!
Decimal literals. A text is read as a literal just if the grammar of decimal literals has it: digits
with a point somewhere or without one, and maybe an exponent.
-/

namespace ProcessTriggers

namespace Numeral

variable {base : Nat} {c : Char} {cs ds fs rest : List Char}

/-! The grammar. -/

/-- The digits of a base up to sixteen, letters in either case. -/
def digitsOf (base : Nat) : List Char :=
  "0123456789abcdef".toList.take base ++ "ABCDEF".toList.take (base - 10)

/-- The bases in which numerals are written. -/
def bases : List Nat := [2, 8, 10, 16]

/-- Digits of a base, at least one. -/
def Digits (base : Nat) (ds : List Char) : Prop := ds ≠ [] ∧ ∀ d ∈ ds, d ∈ digitsOf base

/-- A text of a kind after a sign or without one. -/
inductive Signed (p : List Char → Prop) : List Char → Prop
  | unsigned {cs : List Char} (h : p cs) : Signed p cs
  | plus {cs : List Char} (h : p cs) : Signed p ('+' :: cs)
  | minus {cs : List Char} (h : p cs) : Signed p ('-' :: cs)

/-- Digits, maybe with a point before them, among them or after them. -/
inductive Mantissa : List Char → Prop
  | whole {ds : List Char} (h : Digits 10 ds) : Mantissa ds
  | pointed {ds fs : List Char} (h : Digits 10 (ds ++ fs)) : Mantissa (ds ++ '.' :: fs)

/-- An exponent, or nothing. -/
inductive Scale : List Char → Prop
  | none : Scale []
  | power {e : Char} {es : List Char} (he : e = 'e' ∨ e = 'E') (h : Signed (Digits 10) es) :
    Scale (e :: es)

/-- An unsigned decimal literal. -/
inductive Decimal : List Char → Prop
  | mk {ms es : List Char} (hm : Mantissa ms) (he : Scale es) : Decimal (ms ++ es)

/-- Signs are the only characters that a signed text adds. -/
theorem Signed.forall_mem {p : List Char → Prop} {q : Char → Prop} {cs : List Char}
    (h : Signed p cs) (hp : ∀ {cs}, p cs → ∀ c ∈ cs, q c) (hplus : q '+') (hminus : q '-') :
    ∀ c ∈ cs, q c := by
  cases h with
  | unsigned h => exact hp h
  | plus h => exact List.forall_mem_cons.mpr ⟨hplus, hp h⟩
  | minus h => exact List.forall_mem_cons.mpr ⟨hminus, hp h⟩

/-- What holds of the digits of each base is checked along the lists of them. -/
theorem forall_digits {P : Char → Prop} [DecidablePred P]
    (h : (bases.all fun base => (digitsOf base).all fun d => P d) = true) (hbase : base ∈ bases) :
    ∀ d ∈ digitsOf base, P d :=
  List.all_iff_forall_prop.mp (List.all_eq_true.mp h base hbase)

theorem digit_not_sign : ∀ d ∈ digitsOf 10, d ≠ '-' ∧ d ≠ '+' :=
  forall_digits (by decide) (by decide)

theorem Mantissa.exists_head {ms : List Char} (h : Mantissa ms) :
    ∃ d r, ms = d :: r ∧ d ≠ '-' ∧ d ≠ '+' := by
  cases h with
  | whole h =>
    obtain ⟨d, r, rfl⟩ := List.exists_cons_of_ne_nil h.1
    exact ⟨d, r, rfl, digit_not_sign d (h.2 d List.mem_cons_self)⟩
  | @pointed ds fs h =>
    cases ds with
    | nil => exact ⟨'.', fs, rfl, by decide⟩
    | cons d r => exact ⟨d, r ++ '.' :: fs, rfl, digit_not_sign d (h.2 d List.mem_cons_self)⟩

theorem Decimal.head_not_sign (h : Decimal cs) : ∀ c ∈ cs.head?, c ≠ '-' ∧ c ≠ '+' := by
  obtain ⟨hm, -⟩ := h
  obtain ⟨d, r, rfl, hd⟩ := hm.exists_head
  rintro c ⟨⟩
  exact hd

/-! Digits. -/

theorem mem_digitsOf_iff (hbase : base ∈ bases) :
    c ∈ digitsOf base ↔ (digitIn? base c).isSome = true := by
  have htable : ∀ base ∈ bases, ∀ n < 0x67,
      Char.ofNat n ∈ digitsOf base ↔ (digitIn? base (Char.ofNat n)).isSome = true := by
    decide +kernel
  have hlow : ∀ d ∈ digitsOf base, d.toNat < 0x67 := forall_digits (by decide) hbase
  by_cases hc : c.toNat < 0x67
  · have hchar := htable base hbase c.toNat hc
    rwa [Char.ofNat_toNat] at hchar
  · have hafter : ∀ {a b : Char}, b.toNat < 0x67 → ¬(a ≤ c ∧ c ≤ b) := fun hb h =>
      hc (Nat.lt_of_le_of_lt h.2 hb)
    have hnone : digitIn? base c = none := by
      rw [digitIn?, if_neg (hafter (by decide)), if_neg (hafter (by decide)),
        if_neg (hafter (by decide))]
      rfl
    rw [hnone]
    exact iff_of_false (fun h => hc (hlow c h)) Bool.false_ne_true

theorem isDigit_iff_mem : c.isDigit = true ↔ c ∈ digitsOf 10 := by
  have hplain : ∀ d ∈ digitsOf 10, d.isDigit = true := List.all_eq_true.mp rfl
  refine ⟨fun h => ?_, hplain c⟩
  rw [mem_digitsOf_iff (by decide), digitIn?_of_isDigit h]
  rfl

theorem natOf?_isSome_iff (hbase : base ∈ bases) :
    (natOf? base ds).isSome = true ↔ Digits base ds := by
  constructor
  · intro h
    obtain ⟨n, hn⟩ := Option.isSome_iff_exists.mp h
    obtain ⟨hne, hds⟩ := digit_of_natOf? hn
    exact ⟨hne, fun d hd => (mem_digitsOf_iff hbase).mpr (hds d hd)⟩
  · rintro ⟨hne, hds⟩
    have hfold : ∀ (ds : List Char) (n : Nat), (∀ d ∈ ds, d ∈ digitsOf base) →
        (ds.foldl (fun acc c => do return (← acc) * base + (← digitIn? base c))
          (some n)).isSome = true := by
      intro ds
      induction ds with
      | nil => exact fun _ _ => rfl
      | cons d ds ih =>
        intro n h
        obtain ⟨hd, hds⟩ := List.forall_mem_cons.mp h
        obtain ⟨v, hv⟩ := Option.isSome_iff_exists.mp ((mem_digitsOf_iff hbase).mp hd)
        rw [List.foldl_cons, hv]
        exact ih (n * base + v) hds
    rw [natOf?, if_neg (by simpa using hne)]
    exact hfold ds 0 hds

/-! Signs and exponents. -/

theorem signed_iff {p : List Char → Prop}
    (hp : ∀ {cs}, p cs → ∀ c ∈ cs.head?, c ≠ '-' ∧ c ≠ '+') :
    Signed p cs ↔ p (takeSign cs).2 := by
  constructor
  · intro h
    cases h with
    | unsigned h =>
      have hsign : takeSign cs = (false, cs) := takeSign_append (.head _) (hp h)
      rwa [hsign]
    | plus h => exact h
    | minus h => exact h
  · intro h
    obtain ⟨sign, hsign, hcs⟩ := takeSign_cases cs
    rw [hcs]
    simp only [signs, List.mem_cons, Prod.mk.injEq, List.not_mem_nil, or_false] at hsign
    rcases hsign with ⟨rfl, -⟩ | ⟨rfl, -⟩ | ⟨rfl, -⟩
    · exact .unsigned h
    · exact .plus h
    · exact .minus h

theorem exponent?_isSome_iff : (exponent? cs).isSome = true ↔ Signed (Digits 10) cs := by
  have hsome : (exponent? cs).isSome = (natOf? 10 (takeSign cs).2).isSome := by
    simp only [exponent?]
    cases natOf? 10 (takeSign cs).2 <;> rfl
  rw [hsome, natOf?_isSome_iff (by decide), signed_iff]
  exact fun {_} h d hd => digit_not_sign d (h.2 d (List.mem_of_mem_head? hd))

/-- The power of ten that an exponent gives; one without an exponent. -/
def scale? : List Char → Option Int
  | [] => some 0
  | c :: r => if c == 'e' || c == 'E' then exponent? r else none

theorem scale?_isSome_iff : (scale? cs).isSome = true ↔ Scale cs := by
  cases cs with
  | nil => exact iff_of_true rfl .none
  | cons e es =>
    rw [scale?]
    split
    · next he =>
      have he : e = 'e' ∨ e = 'E' := by simpa using he
      rw [exponent?_isSome_iff]
      refine ⟨.power he, fun h => ?_⟩
      cases h with
      | power _ h => exact h
    · next he =>
      refine iff_of_false Bool.false_ne_true fun h => he ?_
      cases h with
      | power he _ => simpa using he

/-! Literals. -/

theorem exists_run (p : Char → Bool) (cs : List Char) :
    ∃ ds rest, cs = ds ++ rest ∧ (∀ d ∈ ds, p d = true) ∧ ∀ c ∈ rest.head?, p c = false := by
  refine ⟨cs.takeWhile p, cs.dropWhile p, List.takeWhile_append_dropWhile.symm,
    fun d hd => List.mem_takeWhile_imp hd, fun c hc => ?_⟩
  have hhead := List.head?_dropWhile_not p cs
  rw [Option.mem_def.mp hc] at hhead
  exact hhead

/-- The literal of digits, as many of them after the point as there are places, and an exponent. -/
def scaled? (digits : List Char) (places : Nat) (rest : List Char) : Option Literal := do
  guard !digits.isEmpty
  let e ← scale? rest
  return ⟨digits, e - places⟩

theorem scaled?_isSome_iff {places : Nat} : (scaled? ds places rest).isSome = true ↔
    ds ≠ [] ∧ Scale rest := by
  rw [← scale?_isSome_iff, scaled?]
  cases ds <;> cases scale? rest <;> simp [guard]

theorem literal?_whole (hds : ∀ d ∈ ds, d.isDigit = true)
    (hrest : ∀ c ∈ rest.head?, c.isDigit = false ∧ c ≠ '.') :
    literal? (ds ++ rest) = scaled? ds 0 rest := by
  obtain ⟨htake, hdrop⟩ := span_run hds fun c hc => (hrest c hc).1
  rw [literal?, htake, hdrop]
  split
  next hpair =>
    split at hpair
    · exact absurd rfl (hrest '.' rfl).2
    · cases hpair
      rw [List.append_nil, List.length_nil, scaled?]
      cases rest with
      | nil => rfl
      | cons c r =>
        simp only [scale?]
        split <;> rfl

theorem literal?_pointed (hds : ∀ d ∈ ds, d.isDigit = true) (hfs : ∀ f ∈ fs, f.isDigit = true)
    (hrest : ∀ c ∈ rest.head?, c.isDigit = false) :
    literal? (ds ++ '.' :: (fs ++ rest)) = scaled? (ds ++ fs) fs.length rest := by
  have hpoint : ∀ c ∈ ('.' :: (fs ++ rest)).head?, c.isDigit = false := by
    rintro c ⟨⟩
    rfl
  obtain ⟨htake, hdrop⟩ := span_run hds hpoint
  obtain ⟨htakeFraction, hdropFraction⟩ := span_run hfs hrest
  rw [literal?, htake, hdrop]
  simp only [htakeFraction, hdropFraction, scaled?]
  cases rest with
  | nil => rfl
  | cons c r =>
    simp only [scale?]
    split <;> rfl

theorem literal?_isSome_iff : (literal? cs).isSome = true ↔ Decimal cs := by
  have hdigits : ∀ {ds}, Digits 10 ds ↔ ds ≠ [] ∧ ∀ d ∈ ds, d.isDigit = true := fun {ds} =>
    and_congr_right fun _ => forall₂_congr fun _ _ => isDigit_iff_mem.symm
  constructor
  · intro h
    obtain ⟨ds, rest, rfl, hds, hrest⟩ := exists_run Char.isDigit cs
    by_cases hpoint : ∃ r, rest = '.' :: r
    · obtain ⟨r, rfl⟩ := hpoint
      obtain ⟨fs, es, rfl, hfs, hes⟩ := exists_run Char.isDigit r
      rw [literal?_pointed hds hfs hes, scaled?_isSome_iff] at h
      have hall : ∀ d ∈ ds ++ fs, d.isDigit = true := List.forall_mem_append.mpr ⟨hds, hfs⟩
      have hsplit : ds ++ '.' :: (fs ++ es) = ds ++ '.' :: fs ++ es := by simp
      rw [hsplit]
      exact ⟨.pointed (hdigits.mpr ⟨h.1, hall⟩), h.2⟩
    · have hother : ∀ c ∈ rest.head?, c.isDigit = false ∧ c ≠ '.' := by
        intro c hc
        refine ⟨hrest c hc, ?_⟩
        rintro rfl
        exact hpoint (List.head?_eq_some_iff.mp hc)
      rw [literal?_whole hds hother, scaled?_isSome_iff] at h
      exact ⟨.whole (hdigits.mpr ⟨h.1, hds⟩), h.2⟩
  · rintro @⟨ms, es, hm, he⟩
    have hhead : ∀ c ∈ es.head?, c.isDigit = false ∧ c ≠ '.' := by
      cases he with
      | none => exact fun _ hc => nomatch hc
      | power he _ =>
        rintro c ⟨⟩
        rcases he with rfl | rfl <;> decide
    cases hm with
    | whole h =>
      obtain ⟨hne, hds⟩ := hdigits.mp h
      rw [literal?_whole hds hhead, scaled?_isSome_iff]
      exact ⟨hne, he⟩
    | @pointed ds fs h =>
      obtain ⟨hne, hall⟩ := hdigits.mp h
      obtain ⟨hds, hfs⟩ := List.forall_mem_append.mp hall
      have hsplit : ds ++ '.' :: fs ++ es = ds ++ '.' :: (fs ++ es) := by simp
      rw [hsplit, literal?_pointed hds hfs fun c hc => (hhead c hc).1, scaled?_isSome_iff]
      exact ⟨hne, he⟩

end Numeral
end ProcessTriggers
