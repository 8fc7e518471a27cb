import ProcessTriggers.Text.Lowercase

/-!
Letter case. A text without characters after `f` is the small form of those texts alone that differ
from it in the case of ASCII letters, since the small form of every other capital comes later.
-/

namespace ProcessTriggers.Text

/-- The code point of `f`, the last of the hexadecimal digits. -/
def lastDigit : Nat := 0x66

/-- Whether a text has neither capitals of ASCII nor characters after `f`, as hexadecimal digits
have none. -/
def Small (cs : List Char) : Prop := ∀ c ∈ cs, c.toNat ≤ lastDigit ∧ c.toLower = c

/-- Whether two texts differ at most in the case of ASCII letters. -/
def SameButCase (s t : String) : Prop := s.toList.map Char.toLower = t.toList.map Char.toLower

instance (s t : String) : Decidable (SameButCase s t) :=
  inferInstanceAs (Decidable (s.toList.map Char.toLower = t.toList.map Char.toLower))

theorem toNat_charOfNat {n : Nat} (h : n.isValidChar) : (Char.ofNat n).toNat = n := by
  rw [Char.ofNat, dif_pos h]
  rfl

theorem toLower_capital {c : Char} (h : 0x41 ≤ c.toNat ∧ c.toNat ≤ 0x5a) :
    c.toLower = Char.ofNat (c.toNat + 32) := by
  have hletter : c.val ≥ 'A'.val ∧ c.val ≤ 'Z'.val := h
  have hlower : c.toLower.val = c.val + ('a'.val - 'A'.val) :=
    congrArg Char.val (dif_pos hletter : c.toLower = _)
  have hsum : c.toLower.toNat = (c.toNat + 32) % 2 ^ 32 :=
    (congrArg UInt32.toNat hlower).trans (UInt32.toNat_add ..)
  apply Char.toNat_inj.mp
  rw [hsum, toNat_charOfNat (.inl (by omega))]
  exact Nat.mod_eq_of_lt (by omega)

theorem toLower_other {c : Char} (h : ¬(0x41 ≤ c.toNat ∧ c.toNat ≤ 0x5a)) : c.toLower = c :=
  dif_neg h

/-! Capitals. -/

/-- The run of the capitals of ASCII. -/
def asciiCapitals : CapitalRun := ⟨0x41, 0x5a, 1, 32⟩

theorem asciiCapitals_mem : asciiCapitals ∈ capitalRuns := .head _

/-- Outside ASCII the small forms of capitals come after the hexadecimal digits. -/
theorem later_of_mem_capitalRuns : ∀ r ∈ capitalRuns,
    (r.first = asciiCapitals.first ∧ r.last = asciiCapitals.last ∧ r.shift = asciiCapitals.shift) ∨
      lastDigit < r.first ∧ lastDigit < r.first + r.shift ∧
        (r.last + r.shift < 0xd800 ∨
          0xdfff < r.first + r.shift ∧ r.last + r.shift < 0x110000) := by
  decide +kernel

theorem CapitalRun.contains_iff {r : CapitalRun} {n : Nat} :
    r.contains n = true ↔ r.first ≤ n ∧ n ≤ r.last ∧ (n - r.first) % r.step = 0 := by
  simp [CapitalRun.contains, and_assoc]

/-- The small form of a character is that of ASCII, unless the character comes after the
hexadecimal digits and its small form begins with one that does too. -/
theorem lowerChar_cases (c : Char) : lowerChar c = [c.toLower] ∨
    lastDigit < c.toNat ∧ c.toLower = c ∧ ∃ d ds, lowerChar c = d :: ds ∧ lastDigit < d.toNat := by
  unfold lowerChar
  split
  · next hdotted =>
    exact .inr ⟨by rw [hdotted]; decide, toLower_other (by omega), 'i', _, rfl, by decide⟩
  cases hrun : capitalRuns.find? (·.contains c.toNat) with
  | none =>
    have hother := List.find?_eq_none.mp hrun _ asciiCapitals_mem
    rw [CapitalRun.contains_iff] at hother
    refine .inl (congrArg (fun d => [d]) (toLower_other fun hascii => hother ?_).symm)
    exact ⟨hascii.1, hascii.2, Nat.mod_one _⟩
  | some r =>
    have hcontains : r.contains c.toNat = true :=
      List.find?_some (p := fun r : CapitalRun => r.contains c.toNat) hrun
    obtain ⟨hfirst, hlast, -⟩ := CapitalRun.contains_iff.mp hcontains
    rcases later_of_mem_capitalRuns r (List.mem_of_find?_eq_some hrun) with
      ⟨hf, hl, hshift⟩ | ⟨hafter, hlater, hvalid⟩
    · rw [hf] at hfirst
      rw [hl] at hlast
      have hcode : (c.toNat + r.shift).toNat = c.toNat + 32 := by rw [hshift]; rfl
      exact .inl (by rw [toLower_capital ⟨hfirst, hlast⟩, ← hcode])
    · have hchar : (c.toNat + r.shift).toNat.isValidChar := by
        rcases hvalid with hvalid | hvalid
        · exact .inl (by omega)
        · exact .inr (by omega)
      have hcode : lastDigit < (c.toNat + r.shift).toNat := by omega
      have hcapital : 0x66 < c.toNat := Nat.lt_of_lt_of_le hafter hfirst
      exact .inr ⟨hcapital, toLower_other (by omega), _, [], rfl, by rwa [toNat_charOfNat hchar]⟩

/-! Texts. -/

/-- The small form of a text is one of ASCII alone where it is made of characters up to `f`. -/
theorem lowerAfter_eq_iff {ds : List Char} (h : ∀ d ∈ ds, d.toNat ≤ lastDigit)
    (before cs : List Char) : lowerAfter before cs = ds ↔ cs.map Char.toLower = ds := by
  induction cs generalizing before ds with
  | nil => exact Iff.rfl
  | cons c cs ih =>
    rw [lowerAfter, List.map_cons]
    obtain ⟨piece, hpiece⟩ :
        ∃ piece, piece = if c = 'Σ' then [lowerSigma before cs] else lowerChar c := ⟨_, rfl⟩
    have hcases : piece = [c.toLower] ∨ lastDigit < c.toNat ∧ c.toLower = c ∧
        ∃ d r, piece = d :: r ∧ lastDigit < d.toNat := by
      rw [hpiece]
      split
      · next hsigma =>
        refine .inr ⟨by rw [hsigma]; decide, by rw [hsigma]; rfl, _, [], rfl, ?_⟩
        rw [lowerSigma]
        split <;> decide
      · exact lowerChar_cases c
    rw [← hpiece]
    rcases hcases with hsame | ⟨hlate, hlower, d, r, hd, hdlate⟩
    · rw [hsame, List.singleton_append]
      cases ds with
      | nil => simp
      | cons e es =>
        have hes := ih (fun x hx => h x (List.mem_cons_of_mem e hx)) (c :: before)
        rw [List.cons.injEq, List.cons.injEq, hes]
    · -- Both forms begin with a character that comes too late.
      rw [hd, hlower]
      cases ds with
      | nil => simp
      | cons e es =>
        have he := h e List.mem_cons_self
        have hne : ∀ {x : Char}, lastDigit < x.toNat → x ≠ e := by
          rintro x hx rfl
          omega
        rw [List.cons_append, List.cons.injEq, List.cons.injEq]
        exact ⟨fun heq => absurd heq.1 (hne hdlate), fun heq => absurd heq.1 (hne hlate)⟩

/-- A text of small letters up to `f` and of characters before them is the small form of the texts
that differ from it in the case of ASCII letters, and of no other. -/
theorem lower_eq_iff {ds : List Char} (h : Small ds) (s : String) :
    lower s = String.ofList ds ↔ SameButCase s (String.ofList ds) := by
  have hsmall : ds.map Char.toLower = ds :=
    (List.map_congr_left fun d hd => (h d hd).2).trans (List.map_id' _)
  rw [SameButCase, String.toList_ofList, hsmall, lower, String.ofList_inj]
  exact lowerAfter_eq_iff (fun d hd => (h d hd).1) [] s.toList

end ProcessTriggers.Text
