import Mathlib.Data.Nat.Init
import Mathlib.Order.Compare
import ProcessTriggers.Time.Stamp

/-!
The calendar. Every day has one date, and dates are in the order of their days.
-/

namespace ProcessTriggers

/-- Numbers that are made of a leading part and a rest are ordered by the leading part first. -/
theorem compare_eq_then {a b m n r s : Nat} (hlt : a < b → m < n) (hgt : b < a → n < m)
    (heq : a = b → compare m n = compare r s) : compare m n = (compare a b).then (compare r s) := by
  rcases Nat.lt_trichotomy a b with h | h | h
  · rw [Nat.compare_eq_lt.mpr h, Nat.compare_eq_lt.mpr (hlt h)]
    rfl
  · rw [Nat.compare_eq_eq.mpr h]
    exact heq h
  · rw [Nat.compare_eq_gt.mpr h, Nat.compare_eq_gt.mpr (hgt h)]
    rfl

theorem compare_add_left (k r s : Nat) : compare (k + r) (k + s) = compare r s := by
  rcases Nat.lt_trichotomy r s with h | h | h
  · rw [Nat.compare_eq_lt.mpr h, Nat.compare_eq_lt.mpr (by omega)]
  · rw [Nat.compare_eq_eq.mpr h, Nat.compare_eq_eq.mpr (by omega)]
  · rw [Nat.compare_eq_gt.mpr h, Nat.compare_eq_gt.mpr (by omega)]

/-- The quotient counts before the remainder. -/
theorem compare_divMod (k m n : Nat) :
    compare m n = (compare (m / k) (n / k)).then (compare (m % k) (n % k)) := by
  refine compare_eq_then (fun h => ?_) (fun h => ?_) (fun h => ?_)
  · exact Nat.lt_of_div_lt_div h
  · exact Nat.lt_of_div_lt_div h
  · rw [← compare_add_left (k * (m / k)) (m % k), Nat.div_add_mod, h, Nat.div_add_mod]

namespace Date

def daysInYear (y : Nat) : Nat := if isLeapYear y then 366 else 365

theorem daysBeforeYear_succ {y : Nat} (hy : 1 ≤ y) :
    daysBeforeYear (y + 1) = daysBeforeYear y + daysInYear y := by
  obtain ⟨p, rfl⟩ := Nat.exists_eq_add_of_le' hy
  have hleap : isLeapYear (p + 1) = true ↔ 4 ∣ p + 1 ∧ (¬100 ∣ p + 1 ∨ 400 ∣ p + 1) := by
    simp [isLeapYear, Nat.dvd_iff_mod_eq_zero]
  have hfour : 400 ∣ p + 1 → 100 ∣ p + 1 := fun h => Nat.dvd_trans (by decide) h
  have hundred : 100 ∣ p + 1 → 4 ∣ p + 1 := fun h => Nat.dvd_trans (by decide) h
  have hle : p / 100 ≤ p / 4 := Nat.div_le_div_left (by decide) (by decide)
  simp only [daysBeforeYear, daysInYear, Nat.add_sub_cancel, Nat.succ_div, hleap]
  clear hleap
  generalize p / 4 = fours, p / 100 = hundreds at hle ⊢
  by_cases h400 : 400 ∣ p + 1
  · have h100 := hfour h400
    simp only [h400, h100, hundred h100, if_true, not_true, or_true, and_self]
    omega
  · by_cases h100 : 100 ∣ p + 1
    · simp only [h400, h100, hundred h100, if_true, if_false, not_true, or_self, and_false]
      omega
    · by_cases h4 : 4 ∣ p + 1
      · simp only [h400, h100, h4, if_true, if_false, not_false_eq_true, true_or, and_self]
        omega
      · simp only [h400, h100, h4, if_false, false_and]
        omega

theorem daysBeforeYear_le {y z : Nat} (hy : 1 ≤ y) (h : y < z) :
    daysBeforeYear y + daysInYear y ≤ daysBeforeYear z := by
  induction z, h using Nat.le_induction with
  | base => exact Nat.le_of_eq (daysBeforeYear_succ hy).symm
  | succ z hz ih =>
    rw [daysBeforeYear_succ (Nat.le_trans hy (Nat.le_of_lt hz))]
    exact Nat.le_trans ih (Nat.le_add_right _ _)

/-- The days before a year, by the periods that have passed. -/
theorem daysBeforeYear_periods {a c q y : Nat} (hc : c ≤ 3) (hq : q ≤ 24) (hy : y ≤ 3) :
    daysBeforeYear (a * 400 + c * 100 + q * 4 + y + 1) =
      a * 146097 + c * 36524 + q * 1461 + y * 365 := by
  simp only [daysBeforeYear]
  omega

theorem yearOf_pos (n : Nat) : 1 ≤ yearOf n := Nat.le_add_left 1 _

/-- A century of a period has one day more only where it is the last one. -/
theorem century_spec {m c r : Nat} (hm : m < 146097) (hc : c = min (m / 36524) 3)
    (hr : r = m - c * 36524) : c ≤ 3 ∧ m = c * 36524 + r ∧ r ≤ 36524 ∧ (r = 36524 → c = 3) := by
  omega

/-- A year of a period of four has one day more only where it is the last one. -/
theorem fourYears_spec {r q d y : Nat} (hr : r ≤ 36524) (hq : q = r / 1461) (hd : d = r % 1461)
    (hy : y = min (d / 365) 3) : q ≤ 24 ∧ r = q * 1461 + d ∧ y ≤ 3 ∧ y * 365 ≤ d ∧
      d ≤ y * 365 + 365 ∧ (d = y * 365 + 365 → y = 3) := by
  omega

/-- A day lies in its year. -/
theorem yearOf_spec (n : Nat) : daysBeforeYear (yearOf n) ≤ n ∧
    n < daysBeforeYear (yearOf n) + daysInYear (yearOf n) := by
  obtain ⟨a, ha⟩ : ∃ a, a = n / 146097 := ⟨_, rfl⟩
  obtain ⟨c, hc⟩ : ∃ c, c = min (n % 146097 / 36524) 3 := ⟨_, rfl⟩
  obtain ⟨r, hr⟩ : ∃ r, r = n % 146097 - c * 36524 := ⟨_, rfl⟩
  obtain ⟨q, hq⟩ : ∃ q, q = r / 1461 := ⟨_, rfl⟩
  obtain ⟨d, hd⟩ : ∃ d, d = r % 1461 := ⟨_, rfl⟩
  obtain ⟨y, hy⟩ : ∃ y, y = min (d / 365) 3 := ⟨_, rfl⟩
  have hyear : yearOf n = a * 400 + c * 100 + q * 4 + y + 1 := by
    rw [yearOf, ha, hq, hy, hd, hr, hc]
  obtain ⟨hc3, hm, hr', hcentury⟩ := century_spec (Nat.mod_lt n (by decide)) hc hr
  obtain ⟨hq24, hr, hy3, hle, hge, hlast⟩ := fourYears_spec hr' hq hd hy
  have hn : n = a * 146097 + c * 36524 + r := by
    rw [Nat.add_assoc, ← hm, ha, Nat.mul_comm]
    exact (Nat.div_add_mod n 146097).symm
  have hbefore := daysBeforeYear_periods (a := a) hc3 hq24 hy3
  rw [← hyear] at hbefore
  clear hm ha hc hq hd hy
  refine ⟨by omega, ?_⟩
  rw [hbefore, daysInYear]
  split
  · omega
  · next hleap =>
    -- The day that is left over after four whole years is the last one of a leap year.
    have hshort : d ≠ y * 365 + 365 := by
      intro hday
      apply hleap
      have hthree : y = 3 := hlast hday
      have hfour : yearOf n % 4 = 0 := by omega
      have hhundred : yearOf n % 100 ≠ 0 ∨ yearOf n % 400 = 0 := by
        rcases Nat.lt_or_eq_of_le hq24 with hlt | heq
        · exact .inl (by omega)
        · have hc : c = 3 := hcentury (by omega)
          exact .inr (by omega)
      simpa [isLeapYear, hfour] using hhundred
    omega

theorem daysBeforeMonth_succ (y : Nat) {m : Nat} (hm : 1 ≤ m) :
    daysBeforeMonth y (m + 1) = daysBeforeMonth y m + daysInMonth y m := by
  obtain ⟨k, rfl⟩ := Nat.exists_eq_add_of_le' hm
  rw [daysBeforeMonth, daysBeforeMonth, Nat.add_sub_cancel, Nat.add_sub_cancel, List.range_succ,
    List.foldl_append]
  rfl

theorem daysBeforeMonth_mono (y : Nat) {m k : Nat} (hm : 1 ≤ m) (h : m ≤ k) :
    daysBeforeMonth y m ≤ daysBeforeMonth y k := by
  induction k, h using Nat.le_induction with
  | base => exact Nat.le_refl _
  | succ k hk ih =>
    rw [daysBeforeMonth_succ y (Nat.le_trans hm hk)]
    exact Nat.le_trans ih (Nat.le_add_right _ _)

theorem daysBeforeMonth_thirteen (y : Nat) : daysBeforeMonth y 13 = daysInYear y := by
  cases h : isLeapYear y <;>
    simp [daysBeforeMonth, daysInYear, daysInMonth, List.range_succ, h]

/-- A day lies in its month, if there are enough months to look at. -/
theorem monthFrom_spec (y : Nat) {k m n : Nat} (hm : 1 ≤ m)
    (hn : daysBeforeMonth y m + n < daysBeforeMonth y (m + k + 1)) :
    m ≤ (monthFrom y k m n).1 ∧ (monthFrom y k m n).1 ≤ m + k ∧
      (monthFrom y k m n).2 < daysInMonth y (monthFrom y k m n).1 ∧
      daysBeforeMonth y (monthFrom y k m n).1 + (monthFrom y k m n).2 =
        daysBeforeMonth y m + n := by
  induction k generalizing m n with
  | zero =>
    rw [Nat.add_zero, daysBeforeMonth_succ y hm] at hn
    rw [monthFrom]
    exact ⟨Nat.le_refl _, Nat.le_refl _, (Nat.add_lt_add_iff_left).mp hn, rfl⟩
  | succ k ih =>
    rw [monthFrom]
    have hsucc := daysBeforeMonth_succ y hm
    split
    · next hlt => exact ⟨Nat.le_refl _, Nat.le_add_right _ _, hlt, rfl⟩
    · next hge =>
      have hnext : daysBeforeMonth y (m + 1) + (n - daysInMonth y m) =
          daysBeforeMonth y m + n := by omega
      have hlater : m + 1 + k + 1 = m + (k + 1) + 1 := by omega
      obtain ⟨hle, hge, hday, heq⟩ := ih (m := m + 1) (n := n - daysInMonth y m) (by omega)
        (by rw [hnext, hlater]; exact hn)
      exact ⟨by omega, by omega, hday, heq.trans hnext⟩

/-- The days of a calendar date are those that its month has. -/
structure Exists (d : Date) : Prop where
  year : 1 ≤ d.year
  month : 1 ≤ d.month ∧ d.month ≤ 12
  day : 1 ≤ d.day ∧ d.day ≤ daysInMonth d.year d.month

theorem ofDayNumber_eq {n y m d : Nat} (hy : yearOf n = y)
    (h : monthFrom y 11 1 (n - daysBeforeYear y) = (m, d)) : ofDayNumber n = ⟨y, m, d + 1⟩ := by
  rw [ofDayNumber, hy, h]

theorem year_ofDayNumber (n : Nat) : (ofDayNumber n).year = yearOf n := by
  generalize hy : yearOf n = y
  obtain ⟨⟨m, d⟩, h⟩ : ∃ p, monthFrom y 11 1 (n - daysBeforeYear y) = p := ⟨_, rfl⟩
  rw [ofDayNumber_eq hy h]

theorem ofDayNumber_spec (n : Nat) : (ofDayNumber n).Exists ∧ (ofDayNumber n).dayNumber = n := by
  obtain ⟨hle, hlt⟩ := yearOf_spec n
  have hfirst : daysBeforeMonth (yearOf n) 1 = 0 := rfl
  have hinYear : daysBeforeMonth (yearOf n) 1 + (n - daysBeforeYear (yearOf n)) <
      daysBeforeMonth (yearOf n) (1 + 11 + 1) := by
    rw [daysBeforeMonth_thirteen]
    omega
  have hmonths := monthFrom_spec (yearOf n) (Nat.le_refl 1) hinYear
  -- The pair is named, so that no months are counted off from here on.
  generalize hp : monthFrom (yearOf n) 11 1 (n - daysBeforeYear (yearOf n)) = p at hmonths
  obtain ⟨m, d⟩ := p
  obtain ⟨hmonth, hmonth', hday, heq⟩ := hmonths
  rw [ofDayNumber_eq rfl hp]
  refine ⟨⟨yearOf_pos n, ⟨hmonth, hmonth'⟩, ⟨Nat.le_add_left 1 _, hday⟩⟩, ?_⟩
  simp only [dayNumber] at heq ⊢
  omega

theorem dayOfYear_lt {d : Date} (h : d.Exists) :
    daysBeforeMonth d.year d.month + d.day ≤ daysInYear d.year := by
  have hsucc := daysBeforeMonth_succ d.year h.month.1
  have hmono := daysBeforeMonth_mono d.year (m := d.month + 1) (k := 13) (by omega)
    (by have := h.month.2; omega)
  rw [daysBeforeMonth_thirteen] at hmono
  have hday := h.day.2
  omega

/-- Dates are ordered by year, month and day. -/
theorem compare_dayNumber {d e : Date} (hd : d.Exists) (he : e.Exists) :
    compare d.dayNumber e.dayNumber =
      ((compare d.year e.year).then (compare d.month e.month)).then (compare d.day e.day) := by
  have hdOfYear := dayOfYear_lt hd
  have heOfYear := dayOfYear_lt he
  have hdDay := hd.day
  have heDay := he.day
  rw [Ordering.then_assoc]
  have hinYear : d.year = e.year → compare d.dayNumber e.dayNumber =
      (compare d.month e.month).then (compare d.day e.day) := by
    intro hyear
    simp only [dayNumber]
    rw [hyear] at hdDay ⊢
    refine compare_eq_then (fun h => ?_) (fun h => ?_) (fun h => ?_)
    · have hsucc := daysBeforeMonth_succ e.year hd.month.1
      have hmono := daysBeforeMonth_mono e.year (m := d.month + 1) (by omega) h
      omega
    · have hsucc := daysBeforeMonth_succ e.year he.month.1
      have hmono := daysBeforeMonth_mono e.year (m := e.month + 1) (by omega) h
      omega
    · rw [h, Nat.add_sub_assoc heDay.1, Nat.add_sub_assoc hdDay.1, compare_add_left,
        ← compare_add_left 1, Nat.add_sub_cancel' hdDay.1, Nat.add_sub_cancel' heDay.1]
  rcases Nat.lt_trichotomy d.year e.year with h | h | h
  · have hlt : d.dayNumber < e.dayNumber := by
      have := daysBeforeYear_le hd.year h
      simp only [dayNumber]
      omega
    rw [Nat.compare_eq_lt.mpr h, Nat.compare_eq_lt.mpr hlt]
    rfl
  · rw [Nat.compare_eq_eq.mpr h]
    exact hinYear h
  · have hgt : e.dayNumber < d.dayNumber := by
      have := daysBeforeYear_le he.year h
      simp only [dayNumber]
      omega
    rw [Nat.compare_eq_gt.mpr h, Nat.compare_eq_gt.mpr hgt]
    rfl

/-- The days before the end of the years with four digits have a date with such a year. -/
theorem isValid_ofDayNumber {n : Nat} (hn : n < 3652059) : (ofDayNumber n).IsValid := by
  obtain ⟨hexists, _⟩ := ofDayNumber_spec n
  have hyear : (ofDayNumber n).year ≤ maxYear := by
    rw [year_ofDayNumber]
    by_contra hlate
    have hle := (yearOf_spec n).1
    have hmono := daysBeforeYear_le (y := maxYear) (z := yearOf n) (by decide) (by omega)
    have hlast : daysBeforeYear maxYear + daysInYear maxYear = 3652059 := by decide
    omega
  exact ⟨hexists.year, hyear, hexists.month.1, hexists.month.2, hexists.day.1, hexists.day.2⟩

end Date
end ProcessTriggers
