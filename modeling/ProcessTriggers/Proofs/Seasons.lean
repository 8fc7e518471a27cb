import ProcessTriggers.Proofs.Calendar
import ProcessTriggers.Time.Zone

/-!
Daylight time lasts for one season of a year, and so does the rest of the year. The clocks are
therefore never set ahead again soon after they were set back, and of the instants of a reading
that lies ahead one lies ahead as well.
-/

namespace ProcessTriggers

namespace ClockChange

open Date

/-- A change of the clocks far from the ends of a year, about midnight. -/
structure Seasonal (c : ClockChange) : Prop where
  month : 2 ≤ c.month ∧ c.month ≤ 11
  time : -Stamp.day ≤ c.time ∧ c.time ≤ Stamp.day

instance (c : ClockChange) : Decidable c.Seasonal :=
  decidable_of_iff ((2 ≤ c.month ∧ c.month ≤ 11) ∧ -Stamp.day ≤ c.time ∧ c.time ≤ Stamp.day)
    ⟨fun h => ⟨h.1, h.2⟩, fun h => ⟨h.1, h.2⟩⟩

/-- The first instant of a year. -/
def yearStart (y : Nat) : Int := daysBeforeYear y * Stamp.day

theorem daysInMonth_bounds (y m : Nat) : 28 ≤ daysInMonth y m ∧ daysInMonth y m ≤ 31 := by
  unfold daysInMonth
  split
  · split <;> decide
  all_goals decide

/-- A Sunday of a month lies in the 31 days from the first of the month on. -/
theorem dayNumber_bounds (y m : Nat) (sunday : Sunday) :
    daysBeforeYear y + daysBeforeMonth y m ≤ dayNumber y m sunday ∧
      dayNumber y m sunday ≤ daysBeforeYear y + daysBeforeMonth y m + 30 := by
  have hlength := daysInMonth_bounds y m
  have hmod : ∀ n, (7 - weekday n) % 7 < 7 := fun n => Nat.mod_lt _ (by decide)
  have hweekday : ∀ n, weekday n < 7 := fun n => Nat.mod_lt _ (by decide)
  have hfirst : (Date.mk y m 1).dayNumber = daysBeforeYear y + daysBeforeMonth y m := rfl
  have hlast : (Date.mk y m (daysInMonth y m)).dayNumber =
      daysBeforeYear y + daysBeforeMonth y m + daysInMonth y m - 1 := rfl
  cases sunday with
  | first =>
    have h := hmod (Date.mk y m 1).dayNumber
    simp only [dayNumber]
    omega
  | second =>
    have h := hmod (Date.mk y m 1).dayNumber
    simp only [dayNumber]
    omega
  | last =>
    have h := hweekday (Date.mk y m (daysInMonth y m)).dayNumber
    simp only [dayNumber]
    omega

/-- A month that is not the first or the last is that many days away from both ends of its year. -/
theorem daysBeforeMonth_bounds (y : Nat) {m : Nat} (hm : 2 ≤ m) (hm' : m ≤ 11) :
    31 ≤ daysBeforeMonth y m ∧ daysBeforeMonth y m + 59 ≤ daysInYear y := by
  have hjanuary : daysBeforeMonth y 2 = 31 := rfl
  have hdecember : daysBeforeMonth y 13 = daysBeforeMonth y 12 + 31 :=
    daysBeforeMonth_succ y (by decide)
  have hsucc := daysBeforeMonth_succ y (Nat.le_trans (by decide) hm)
  have hlength := daysInMonth_bounds y m
  have hfrom := daysBeforeMonth_mono y (by decide) hm
  have hto := daysBeforeMonth_mono y (m := m + 1) (k := 12) (by omega) (by omega)
  rw [← daysBeforeMonth_thirteen]
  omega

variable {c c' : ClockChange} {y : Nat}

theorem instant_eq (c : ClockChange) (y : Nat) :
    dayNumber y c.month c.sunday * 86400000000 + c.time = c.instant y := rfl

/-- A change is more than a day away from both ends of its year. -/
theorem Seasonal.within (h : c.Seasonal) (hy : 1 ≤ y) :
    yearStart y + Stamp.day < c.instant y ∧ Stamp.day + c.instant y < yearStart (y + 1) := by
  have hday : Stamp.day = 86400000000 := rfl
  have hinstant := c.instant_eq y
  have hsunday := dayNumber_bounds y c.month c.sunday
  have hmonth := daysBeforeMonth_bounds y h.month.1 h.month.2
  have hnext := daysBeforeYear_succ hy
  have htime := h.time
  simp only [yearStart, hnext, hday] at htime ⊢
  generalize c.instant y = t at hinstant ⊢
  omega

/-- Changes that are months apart are more than a day apart. -/
theorem Seasonal.apart (h : c.Seasonal) (h' : c'.Seasonal) (hmonths : c.month + 2 ≤ c'.month) :
    Stamp.day + c.instant y < c'.instant y := by
  have hday : Stamp.day = 86400000000 := rfl
  have hsunday := dayNumber_bounds y c.month c.sunday
  have hsunday' := dayNumber_bounds y c'.month c'.sunday
  have hfirst := daysBeforeMonth_succ y (m := c.month) (by have := h.month; omega)
  have hsecond : daysBeforeMonth y (c.month + 2) =
      daysBeforeMonth y (c.month + 1) + daysInMonth y (c.month + 1) :=
    daysBeforeMonth_succ y (by omega)
  have hlength := daysInMonth_bounds y c.month
  have hlength' := daysInMonth_bounds y (c.month + 1)
  have hmono := daysBeforeMonth_mono y (m := c.month + 2) (by omega) hmonths
  have hinstant := c.instant_eq y
  have hinstant' := c'.instant_eq y
  have htime := h.time
  have htime' := h'.time
  rw [hday] at htime htime' ⊢
  generalize c.instant y = t, c'.instant y = t' at hinstant hinstant' ⊢
  omega

end ClockChange

namespace Daylight

open Stamp ClockChange

/-- Daylight time that begins and ends far from the ends of a year, and is a small step ahead. -/
structure Seasonal (d : Daylight) : Prop where
  start : d.start.Seasonal
  stop : d.stop.Seasonal
  months : d.start.month + 2 ≤ d.stop.month ∨ d.stop.month + 2 ≤ d.start.month
  saving : 0 ≤ d.saving ∧ d.saving ≤ Stamp.day

instance (d : Daylight) : Decidable d.Seasonal :=
  decidable_of_iff (d.start.Seasonal ∧ d.stop.Seasonal ∧
      (d.start.month + 2 ≤ d.stop.month ∨ d.stop.month + 2 ≤ d.start.month) ∧
      0 ≤ d.saving ∧ d.saving ≤ Stamp.day)
    ⟨fun h => ⟨h.1, h.2.1, h.2.2.1, h.2.2.2⟩, fun h => ⟨h.start, h.stop, h.months, h.saving⟩⟩

/-- The year of an instant in universal time. -/
def yearAt (t : Instant) : Nat := (Stamp.ofInstant t).date.year

theorem yearAt_eq (t : Int) : yearAt t = Date.yearOf (t / 86400000000).toNat := by
  have hdiv : t.fdiv Stamp.day = t / 86400000000 := Int.fdiv_eq_ediv_of_nonneg t (by decide)
  rw [yearAt, Stamp.date, Date.year_ofDayNumber, ← hdiv]
  rfl

theorem yearAt_pos (t : Instant) : 1 ≤ yearAt t := yearAt_eq t ▸ Date.yearOf_pos _

theorem yearAt_spec (t : Int) :
    t < yearStart (yearAt t + 1) ∧ (0 ≤ t → yearStart (yearAt t) ≤ t) := by
  have hday : Stamp.day = 86400000000 := rfl
  obtain ⟨n, hn⟩ : ∃ n, n = (t / 86400000000).toNat := ⟨_, rfl⟩
  have hspec := Date.yearOf_spec n
  have hnext := Date.daysBeforeYear_succ (Date.yearOf_pos n)
  rw [yearAt_eq, ← hn]
  simp only [yearStart, hnext, hday]
  push_cast
  omega

theorem yearStart_le {y z : Nat} (hy : 1 ≤ y) (h : y < z) : yearStart (y + 1) ≤ yearStart z := by
  have hday : Stamp.day = 86400000000 := rfl
  have hle := Date.daysBeforeYear_le hy h
  have hnext := Date.daysBeforeYear_succ hy
  simp only [yearStart, hnext, hday]
  omega

theorem yearAt_mono {t t' : Int} (h : t ≤ t') : yearAt t ≤ yearAt t' := by
  by_contra hlt
  have hpos := yearAt_pos t'
  have hstart := yearStart_le hpos (Nat.lt_of_not_le hlt)
  obtain ⟨hend, -⟩ := yearAt_spec t'
  by_cases hzero : 0 ≤ t
  · have hbegin := (yearAt_spec t).2 hzero
    omega
  · -- Whatever comes before the first year counts to it.
    have hfirst : yearAt t = 1 := by
      have hdays : (t / 86400000000).toNat = 0 := by omega
      rw [yearAt_eq, hdays]
      rfl
    omega

/-- North of the equator daylight time is one stretch of a year. -/
theorem isDaylight_north {d : Daylight} {t : Int}
    (h : d.start.instant (yearAt t) ≤ d.stop.instant (yearAt t)) : Zone.isDaylight d t = true ↔
      ¬ t < d.start.instant (yearAt t) ∧ t < d.stop.instant (yearAt t) := by
  rw [Zone.isDaylight]
  simp only [yearAt] at h ⊢
  rw [if_pos h, Bool.and_eq_true, decide_eq_true_eq, decide_eq_true_eq, Int.not_lt]

/-- South of the equator it is all but one stretch of a year. -/
theorem isDaylight_south {d : Daylight} {t : Int}
    (h : ¬ d.start.instant (yearAt t) ≤ d.stop.instant (yearAt t)) : Zone.isDaylight d t = true ↔
      t < d.stop.instant (yearAt t) ∨ ¬ t < d.start.instant (yearAt t) := by
  rw [Zone.isDaylight]
  simp only [yearAt] at h ⊢
  rw [if_neg h, Bool.or_eq_true, decide_eq_true_eq, decide_eq_true_eq, Int.not_lt]

/-- Between two instants of daylight time that are at most a day apart there is daylight time. -/
theorem Seasonal.between {d : Daylight} (hd : d.Seasonal) {s t u : Int} (hst : s ≤ t) (htu : t ≤ u)
    (ht : 0 ≤ t) (hshort : u ≤ s + Stamp.day) (hs : Zone.isDaylight d s = true)
    (hu : Zone.isDaylight d u = true) : Zone.isDaylight d t = true := by
  have hstart := fun r : Int => hd.start.within (yearAt_pos r)
  have hstop := fun r : Int => hd.stop.within (yearAt_pos r)
  have hs' := (yearAt_spec s).1
  have ht' := (yearAt_spec t).2 ht
  have hu' := (yearAt_spec u).2 (Int.le_trans ht htu)
  -- Two of the instants are in the same year, or in years that follow each other.
  have hyears : ∀ {r r' : Int}, r ≤ r' →
      yearAt r = yearAt r' ∨ yearStart (yearAt r + 1) ≤ yearStart (yearAt r') := fun h =>
    (Nat.eq_or_lt_of_le (yearAt_mono h)).imp id (yearStart_le (yearAt_pos _))
  rcases hd.months with hnorth | hsouth
  · have hapart := fun r : Int => hd.start.apart hd.stop (y := yearAt r) hnorth
    have hle : ∀ r : Int, d.start.instant (yearAt r) ≤ d.stop.instant (yearAt r) := fun r =>
      Int.le_of_lt (Int.lt_of_le_of_lt (Int.le_add_of_nonneg_left (by decide)) (hapart r))
    rw [isDaylight_north (hle _)] at hs hu ⊢
    have h1 := hstop s
    have h2 := hstart u
    rcases hyears hst with h12 | h12 <;> rcases hyears htu with h23 | h23
    · rw [h12, h23] at hs
      rw [h23]
      omega
    · rw [h12] at hs h1
      omega
    · rw [h23]
      omega
    · omega
  · have hapart := fun r : Int => hd.stop.apart hd.start (y := yearAt r) hsouth
    have hnot : ∀ r : Int, ¬ d.start.instant (yearAt r) ≤ d.stop.instant (yearAt r) := fun r =>
      Int.not_le.mpr (Int.lt_of_le_of_lt (Int.le_add_of_nonneg_left (by decide)) (hapart r))
    rw [isDaylight_south (hnot _)] at hs hu ⊢
    have h1 := hstart t
    have h2 := hstop t
    have h3 := hapart t
    rcases hyears hst with h12 | h12 <;> rcases hyears htu with h23 | h23
    · rw [h12] at hs
      rw [← h23] at hu
      omega
    · omega
    · omega
    · omega

end Daylight

namespace Zone

/-- The daylight time of every known zone is seasonal. -/
theorem seasonal_of_mem : ∀ z ∈ all, ∀ d ∈ z.daylight, d.Seasonal := by decide

/-- Of the instants of a reading that is ahead of the clocks one is ahead as well. -/
theorem exists_later {z : Zone} (hz : z ∈ all) {now wall t : Int} (hnow : 0 ≤ now)
    (hahead : (z.stampAt now).wall < wall) (ht : t ∈ z.instantsOf wall) :
    ∃ u ∈ z.instantsOf wall, now < u := by
  by_cases hlater : now < t
  · exact ⟨t, ht, hlater⟩
  have hreading : now + z.offsetAt now < wall := hahead
  rw [instantsOf, List.mem_filter, beq_iff_eq] at ht
  have hshown : wall = t + z.offsetAt t := ht.2.symm
  cases hdaylight : z.daylight with
  | none =>
    rw [offsetAt, hdaylight] at hreading hshown
    dsimp only at hreading hshown
    omega
  | some d =>
    have hd := seasonal_of_mem z hz d hdaylight
    have hsaving := hd.saving
    rw [offsetAt, hdaylight] at hreading hshown
    dsimp only at hreading hshown
    -- The clocks were set back between the two instants, so they show the reading once more.
    have hbefore : isDaylight d t = true := by
      by_contra hnot
      rw [if_neg hnot] at hshown
      split at hreading <;> omega
    have hafter : isDaylight d now ≠ true := by
      intro hdark
      rw [if_pos hbefore] at hshown
      rw [if_pos hdark] at hreading
      omega
    rw [if_pos hbefore] at hshown
    rw [if_neg hafter] at hreading
    have hagain : isDaylight d (wall - z.standard) ≠ true := by
      intro hdark
      exact hafter (hd.between (by omega) (by omega) hnow (by omega) hbefore hdark)
    refine ⟨wall - z.standard, ?_, by omega⟩
    rw [instantsOf, hdaylight, List.mem_filter, beq_iff_eq, offsetAt, hdaylight]
    dsimp only
    rw [if_neg hagain]
    refine ⟨?_, Int.sub_add_cancel wall z.standard⟩
    exact List.mem_map_of_mem (List.mem_cons_of_mem _ List.mem_cons_self)

end Zone
end ProcessTriggers
