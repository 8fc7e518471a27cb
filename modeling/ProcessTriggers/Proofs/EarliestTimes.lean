import ProcessTriggers.CommandLine.Run
import ProcessTriggers.Proofs.FireTimes

/-!
In universal time the next time that an expression fires is the earliest one after an instant that
its fields select. The search goes over stretches of seconds, one after another: a day is left out
as a whole if its date does not match, and so is an hour or a minute.
-/

namespace ProcessTriggers.Cron

section

variable {p q : Nat → Prop} {low mid high m n : Nat} {r r' : Option Nat}

/-- A number is the first one from `low` on that has a property. -/
structure IsFirst (p : Nat → Prop) (low n : Nat) : Prop where
  le : low ≤ n
  holds : p n
  least : ∀ u, low ≤ u → u < n → ¬ p u

/-- The outcome of a search for the first number of a stretch that has a property. -/
inductive Finds (p : Nat → Prop) (low high : Nat) : Option Nat → Prop
  | some {n : Nat} (first : IsFirst p low n) (lt : n < high) : Finds p low high (some n)
  | none (nothing : ∀ u, low ≤ u → u < high → ¬ p u) : Finds p low high none

theorem IsFirst.or_left (h : IsFirst p low m) (hq : ∀ u, low ≤ u → u < m → ¬ q u) :
    IsFirst (fun u => p u ∨ q u) low m :=
  ⟨h.le, .inl h.holds, fun u hlow hlt => not_or.mpr ⟨h.least u hlow hlt, hq u hlow hlt⟩⟩

theorem IsFirst.congr (h : IsFirst p low n) (hpq : ∀ u, q u ↔ p u) : IsFirst q low n :=
  ⟨h.le, (hpq n).mpr h.holds, fun u hlow hlt hu => h.least u hlow hlt ((hpq u).mp hu)⟩

/-- What comes first with one of two properties is the smaller of what comes first with each. -/
theorem IsFirst.or (hm : IsFirst p low m) (hn : IsFirst q low n) :
    IsFirst (fun u => p u ∨ q u) low (if n < m then n else m) := by
  split
  · next hlt =>
    exact (hn.or_left fun u hlow hu => hm.least u hlow (Nat.lt_trans hu hlt)).congr
      fun _ => or_comm
  · next hge =>
    exact hm.or_left fun u hlow hu => hn.least u hlow (Nat.lt_of_lt_of_le hu (Nat.not_lt.mp hge))

/-- A stretch is searched in two parts. -/
theorem Finds.or (h : Finds p low mid r) (h' : Finds p mid high r') (hlow : low ≤ mid)
    (hhigh : mid ≤ high) : Finds p low high (r.or r') := by
  cases h with
  | some first lt => exact .some first (Nat.lt_of_lt_of_le lt hhigh)
  | none nothing =>
    have hbefore : ∀ u, low ≤ u → ¬ mid ≤ u → ¬ p u := fun u hu hmid =>
      nothing u hu (Nat.not_le.mp hmid)
    cases h' with
    | some first lt =>
      refine .some ⟨Nat.le_trans hlow first.le, first.holds, fun u hu hlt => ?_⟩ lt
      by_cases hmid : mid ≤ u
      · exact first.least u hmid hlt
      · exact hbefore u hu hmid
    | none nothing' =>
      refine .none fun u hu hlt => ?_
      by_cases hmid : mid ≤ u
      · exact nothing' u hmid hlt
      · exact hbefore u hu hmid

/-- A stretch of `k` blocks, each of the same length, is searched block by block. -/
theorem finds_blocks (length : Nat) {k : Nat} {f : Nat → Option Nat}
    (h : ∀ i < k, ∀ b, b = low + i * length → Finds p b (b + length) (f i)) :
    Finds p low (low + k * length) ((List.range k).findSome? f) := by
  induction k with
  | zero => exact .none fun u hlow hhigh => by omega
  | succ k ih =>
    have hlast := h k (Nat.lt_succ_self k) _ rfl
    have hrest := ih fun i hi => h i (Nat.lt_succ_of_lt hi)
    rw [List.range_succ, List.findSome?_append, Nat.succ_mul, ← Nat.add_assoc]
    have hsingle : [k].findSome? f = f k := by
      rw [List.findSome?_cons]
      cases f k <;> rfl
    rw [hsingle]
    exact hrest.or hlast (Nat.le_add_right _ _) (Nat.le_add_right _ _)

/-- A stretch that cannot hold what is sought is left out. -/
theorem Finds.guard {c : Prop} [Decidable c] (h : c → Finds p low high r)
    (hc : ∀ u, low ≤ u → u < high → p u → c) : Finds p low high (if c then r else .none) := by
  split
  · next hin => exact h hin
  · next hout => exact .none fun u hlow hhigh hu => hout (hc u hlow hhigh hu)

theorem finds_single {c : Prop} [Decidable c] (hc : c ↔ p n) :
    Finds p n (n + 1) (if c then some n else .none) := by
  refine .guard (fun hin => ?_) fun u hlow hhigh hu => ?_
  · exact .some ⟨Nat.le_refl n, hc.mp hin, fun u hlow hlt => absurd hlow (Nat.not_le.mpr hlt)⟩
      (Nat.lt_succ_self n)
  · exact hc.mpr (Nat.le_antisymm (Nat.le_of_lt_succ hhigh) hlow ▸ hu)

end

namespace Schedule

variable {s : Schedule}

/-- Whether a time of day, in seconds, matches in its fields. -/
def matchesTimeOfDay (s : Schedule) (t : Nat) : Bool :=
  s.matchesTime (t / 3600 % 24) (t / 60 % 60) (t % 60)

theorem matchesTimeOfDay_eq (s : Schedule) {h m sec : Nat} (hh : h < 24) (hm : m < 60)
    (hsec : sec < 60) : s.matchesTimeOfDay ((h * 60 + m) * 60 + sec) = s.matchesTime h m sec := by
  have hhour : ((h * 60 + m) * 60 + sec) / 3600 % 24 = h := by omega
  have hminute : ((h * 60 + m) * 60 + sec) / 60 % 60 = m := by omega
  have hsecond : ((h * 60 + m) * 60 + sec) % 60 = sec := by omega
  rw [matchesTimeOfDay, hhour, hminute, hsecond]

theorem firstTime?_finds (s : Schedule) (start : Nat) :
    Finds (fun t => start ≤ t ∧ s.matchesTimeOfDay t = true) 0 86400 (s.firstTime? start) := by
  refine finds_blocks (k := 24) 3600 fun h hh b hb => .guard (fun hhour => ?_)
    fun u hlow hhigh hu => ?_
  · refine finds_blocks (k := 60) 60 fun m hm b' hb' => .guard (fun hminute => ?_)
      fun u hlow' hhigh' hu => ?_
    · refine finds_blocks (k := 60) 1 fun sec hsec b'' hb'' => ?_
      obtain rfl : b'' = (h * 60 + m) * 60 + sec := by omega
      refine finds_single ?_
      rw [s.matchesTimeOfDay_eq hh hm hsec, matchesTime]
      simp only [Bool.and_eq_true, decide_eq_true_eq] at hhour hminute ⊢
      tauto
    · have hminute : u / 60 % 60 = m := by omega
      have hmatches := hu.2
      simp only [matchesTimeOfDay, matchesTime, Bool.and_eq_true, hminute] at hmatches
      simp only [Bool.and_eq_true, decide_eq_true_eq]
      exact ⟨hmatches.1.2, by omega⟩
  · have hhour : u / 3600 % 24 = h := by omega
    have hmatches := hu.2
    simp only [matchesTimeOfDay, matchesTime, Bool.and_eq_true, hhour] at hmatches
    simp only [Bool.and_eq_true, decide_eq_true_eq]
    exact ⟨hmatches.1.1, by omega⟩

/-- What is found of a day, from a second of it on. -/
theorem day_finds (s : Schedule) (n start : Nat) :
    Finds (s.matchesSecond · = true) (n * 86400 + start) ((n + 1) * 86400)
      ((if s.matchesDay n then s.firstTime? start else none).map (n * 86400 + ·)) := by
  have hday : ∀ {u}, n * 86400 ≤ u → u < (n + 1) * 86400 →
      s.matchesSecond u = (s.matchesDay n && s.matchesTimeOfDay (u - n * 86400)) := by
    intro u hlow hhigh
    have hn : u / 86400 = n := by omega
    have hhour : (u - n * 86400) / 3600 % 24 = u / 3600 % 24 := by omega
    have hminute : (u - n * 86400) / 60 % 60 = u / 60 % 60 := by omega
    have hsecond : (u - n * 86400) % 60 = u % 60 := by omega
    rw [matchesSecond, matchesTimeOfDay, hn, hhour, hminute, hsecond]
  cases hmatches : s.matchesDay n with
  | false =>
    rw [if_neg Bool.false_ne_true, Option.map_none]
    refine .none fun u hlow hhigh hu => ?_
    have hfrom : n * 86400 ≤ u := Nat.le_trans (Nat.le_add_right _ _) hlow
    rw [hday hfrom hhigh, hmatches] at hu
    cases hu
  | true =>
    simp only [hmatches, Bool.true_and] at hday
    rw [if_pos rfl]
    have hfind := s.firstTime?_finds start
    generalize s.firstTime? start = r at hfind ⊢
    cases hfind with
    | none nothing =>
      refine .none fun u hlow hhigh hu => ?_
      have hfrom : n * 86400 ≤ u := Nat.le_trans (Nat.le_add_right _ _) hlow
      have hstart : start ≤ u - n * 86400 := by omega
      have hend : u - n * 86400 < 86400 := by omega
      rw [hday hfrom hhigh] at hu
      exact nothing (u - n * 86400) (Nat.zero_le _) hend ⟨hstart, hu⟩
    | @some t first lt =>
      have hlater : n * 86400 + t < (n + 1) * 86400 := by omega
      rw [Option.map_some]
      refine .some ⟨Nat.add_le_add_left first.holds.1 _, ?_, fun u hlow hlt hu => ?_⟩ hlater
      · rw [hday (Nat.le_add_right _ _) hlater, Nat.add_sub_cancel_left]
        exact first.holds.2
      · have hfrom : n * 86400 ≤ u := Nat.le_trans (Nat.le_add_right _ _) hlow
        have hstart : start ≤ u - n * 86400 := by omega
        have hbefore : u - n * 86400 < t := by omega
        rw [hday hfrom (Nat.lt_trans hlt hlater)] at hu
        exact first.least (u - n * 86400) (Nat.zero_le _) hbefore ⟨hstart, hu⟩

theorem firstSecond?_finds (s : Schedule) (k n : Nat) :
    Finds (s.matchesSecond · = true) (n * 86400) ((n + k) * 86400) (s.firstSecond? k n) := by
  induction k generalizing n with
  | zero => exact .none fun u hlow hhigh => by omega
  | succ k ih =>
    have hrest := ih (n + 1)
    have hhere := s.day_finds n 0
    rw [Nat.add_zero] at hhere
    have hboth := hhere.or hrest (Nat.mul_le_mul_right 86400 (Nat.le_succ n))
      (Nat.mul_le_mul_right 86400 (Nat.le_add_right (n + 1) k))
    rw [Nat.add_right_comm] at hboth
    rw [firstSecond?]
    generalize (if s.matchesDay n then s.firstTime? 0 else none) = here at hboth ⊢
    cases here with
    | none => exact hboth
    | some t => exact hboth

/-- The end of the stretch that is searched from a second on: that of the last year looked at. -/
def searchEnd (start : Nat) : Nat :=
  let n := start / 86400
  let year := (Date.ofDayNumber n).year
  let last := Date.daysBeforeYear (min (year + horizon) Date.maxYear + 1)
  (n + 1 + (last - (n + 1))) * 86400

theorem searchFrom_finds (s : Schedule) (start : Nat) :
    Finds (s.matchesSecond · = true) start (searchEnd start) (s.searchFrom start).toOption := by
  have hhere := s.day_finds (start / 86400) (start % 86400)
  have hlow : start / 86400 * 86400 + start % 86400 = start := by omega
  rw [hlow] at hhere
  have hmid : start ≤ (start / 86400 + 1) * 86400 := by omega
  rw [searchFrom, searchEnd]
  dsimp only
  generalize Date.daysBeforeYear (min ((Date.ofDayNumber (start / 86400)).year + horizon)
    Date.maxYear + 1) - (start / 86400 + 1) = k
  have hrest := s.firstSecond?_finds k (start / 86400 + 1)
  have hhigh : (start / 86400 + 1) * 86400 ≤ (start / 86400 + 1 + k) * 86400 := by omega
  have hboth := hhere.or hrest hmid hhigh
  generalize (if s.matchesDay (start / 86400) then s.firstTime? (start % 86400) else none) =
    here at hboth ⊢
  generalize s.firstSecond? k (start / 86400 + 1) = later at hboth ⊢
  cases here with
  | none => cases later <;> exact hboth
  | some t => exact hboth

/-! Readings of the wall clock. The search begins with the next whole minute or second, and nothing
before that is left out. -/

/-- A schedule that is looked at minute by minute selects the first second of each. -/
def WholeMinutes (s : Schedule) : Prop := s.bySecond = false → s.second = [.value 0 .any]

theorem firstTick_le (hs : s.WholeMinutes) {wall : Int} {u : Nat}
    (hlater : wall < u * Stamp.second) (hu : s.matchesTimeOfDay u = true) :
    s.firstTick wall ≤ u := by
  have hsecond : wall.fdiv Stamp.second = wall / 1000000 :=
    Int.fdiv_eq_ediv_of_nonneg wall (by decide)
  have hminute : wall.fdiv Stamp.minute = wall / 60000000 :=
    Int.fdiv_eq_ediv_of_nonneg wall (by decide)
  have hunit : Stamp.second = 1000000 := rfl
  rw [firstTick, hsecond, hminute]
  rw [hunit] at hlater
  cases hby : s.bySecond with
  | true =>
    rw [if_pos rfl]
    omega
  | false =>
    have hselects : selects s.second (u % 60) = true := by
      simp only [matchesTimeOfDay, matchesTime, Bool.and_eq_true] at hu
      exact hu.2
    rw [hs hby] at hselects
    have hwhole : u % 60 = 0 := by simpa [selects] using hselects
    rw [if_neg Bool.false_ne_true]
    omega

/-- The next reading that is found is the first one that matches, of those that are looked at. -/
theorem nextWall_first {wall next : Int} (h : s.nextWall wall = .ok next) :
    ∃ n : Nat, next = n * Stamp.second ∧ n < searchEnd (s.firstTick wall) ∧
      IsFirst (s.matchesSecond · = true) (s.firstTick wall) n := by
  have hfinds := s.searchFrom_finds (s.firstTick wall)
  rw [nextWall] at h
  dsimp only at h
  split at h
  · cases h
  · obtain ⟨n, hn, h⟩ := exists_of_bind_eq_ok h
    rw [hn] at hfinds
    cases hfinds with
    | some first lt => exact ⟨n, (Except.ok.inj h).symm, lt, first⟩

theorem nextWall_none {wall : Int} (h : s.nextWall wall = .error .noDate) :
    ∀ u, s.firstTick wall ≤ u → u < searchEnd (s.firstTick wall) → ¬ s.matchesSecond u = true := by
  have hfinds := s.searchFrom_finds (s.firstTick wall)
  rw [nextWall] at h
  dsimp only at h
  split at h
  · cases h
  · cases hsearch : s.searchFrom (s.firstTick wall) with
    | ok n =>
      rw [hsearch] at h
      cases h
    | error f =>
      rw [hsearch] at hfinds
      cases hfinds with
      | none nothing => exact nothing

theorem second_lt_iff {m n : Nat} :
    (m * Stamp.second : Int) < n * Stamp.second ↔ m < n := by
  rw [Stamp.second]
  omega

/-! Universal time. No reading is skipped or repeated there. -/

theorem place_utc {now wall : Int} (hahead : now < wall) :
    place Zone.utc now wall = ⟨Stamp.ofInstant wall, false⟩ := by
  have hinstants : Zone.utc.instantsOf wall = [wall] := by
    simp [Zone.instantsOf, Zone.offsetAt, Zone.utc]
  have hfind : (Zone.utc.instantsOf wall).find? (now < ·) = some wall := by
    rw [hinstants, List.find?_cons]
    simp only [hahead, decide_true]
  rw [place]
  simp only [hfind, Option.orElse_some, Option.map_some, Int.sub_self]
  rfl

theorem nextIn_utc (s : Schedule) (now : Instant) :
    s.nextIn Zone.utc (Stamp.ofInstant now) = (s.nextWall now).map Stamp.ofInstant := by
  have hreading : (Stamp.ofInstant now).wall = now := rfl
  have hinstant : (Stamp.ofInstant now).instant = now := Int.sub_zero now
  rw [nextIn, hreading, hinstant]
  cases hwall : s.nextWall now with
  | error f => rfl
  | ok wall =>
    have hskipped : ¬ ((⟨Stamp.ofInstant wall, false⟩ : Placed).shifted = true ∧
        ((Stamp.ofInstant wall).instant ≤ now ∨ s.hour.contains .star = true)) :=
      fun h => Bool.false_ne_true h.1
    have hsteady : (Stamp.ofInstant wall).offset.getD 0 = (Stamp.ofInstant now).offset.getD 0 := rfl
    rw [ok_bind, place_utc (lt_nextWall hwall)]
    dsimp only
    rw [if_neg hskipped, ok_bind, if_pos hsteady]
    rfl

/-! The times at which a schedule is due. -/

/-- Whether the fields other than day and weekday select a second. -/
def matchesApart (s : Schedule) (t : Nat) : Bool :=
  let d := Date.ofDayNumber (t / 86400)
  selects s.year d.year && selects s.month d.month && s.matchesTimeOfDay t

/-- Whether the day of a second is selected: by one of its two fields if they are alternatives, or
else by both. -/
def matchesDate (s : Schedule) (t : Nat) : Bool :=
  let day := selectsDay s.day (Date.ofDayNumber (t / 86400))
  let weekday := selectsWeekday s.weekday (Date.ofDayNumber (t / 86400)) (Date.weekday (t / 86400))
  if s.hasAlternatives then day || weekday else day && weekday

/-- Whether a restriction of weekdays to occurrences in the month holds of the day of a second. -/
def meetsRestriction (s : Schedule) (t : Nat) : Bool :=
  !s.isRestricted ||
    selectsWeekday s.weekday (Date.ofDayNumber (t / 86400)) (Date.weekday (t / 86400))

/-- Whether the fields of a schedule select a second. -/
def fieldsMatch (s : Schedule) (t : Nat) : Bool := s.matchesApart t && s.matchesDate t

/-- Whether a schedule is due at a second: its fields select it, and the restriction holds also
where the day of the month is selected without it. -/
def isDue (s : Schedule) (t : Nat) : Bool := s.fieldsMatch t && s.meetsRestriction t

/-- A schedule fires at an instant if that is a whole second at which it is due. -/
def FiresAt (s : Schedule) (t : Instant) : Prop :=
  ∃ n : Nat, t = n * Stamp.second ∧ s.isDue n = true

theorem matchesTimeOfDay_of_isDue {t : Nat} (h : s.isDue t = true) :
    s.matchesTimeOfDay t = true := by
  simp only [isDue, fieldsMatch, matchesApart, Bool.and_eq_true] at h
  exact h.1.1.2

theorem matchesSecond_iff (s : Schedule) (t : Nat) : s.matchesSecond t = true ↔
    s.matchesApart t = true ∧ selectsDay s.day (Date.ofDayNumber (t / 86400)) = true ∧
      selectsWeekday s.weekday (Date.ofDayNumber (t / 86400)) (Date.weekday (t / 86400)) =
        true := by
  simp only [matchesSecond, matchesDay, matchesApart, matchesTimeOfDay, Bool.and_eq_true]
  tauto

theorem restricted_restricted (es : List Entry) : restricted (restricted es) = restricted es := by
  rw [restricted, restricted, List.filter_filter]
  simp

/-- With the weekday left free, what is left of its field is the restriction. -/
theorem selectsWeekday_anyWeekday (s : Schedule) (d : Date) (weekday : Nat) :
    selectsWeekday s.anyWeekday.weekday d weekday =
      (!s.isRestricted || selectsWeekday s.weekday d weekday) := by
  have hkept : restricted (.star :: restricted s.weekday) = restricted s.weekday :=
    restricted_restricted s.weekday
  rw [selectsWeekday, anyWeekday, hkept, selectsWeekday, isRestricted]
  cases (restricted s.weekday).isEmpty with
  | true => rfl
  | false => rfl

/-- Of two alternatives one selects a second at which the schedule is due. -/
theorem isDue_iff_of_alternatives (h : s.hasAlternatives = true) (t : Nat) : s.isDue t = true ↔
    s.anyWeekday.matchesSecond t = true ∨ s.anyDay.matchesSecond t = true := by
  rw [matchesSecond_iff, matchesSecond_iff, selectsWeekday_anyWeekday]
  have hany : selectsDay s.anyDay.day (Date.ofDayNumber (t / 86400)) = true := rfl
  have hday : s.anyWeekday.day = s.day := rfl
  have hweekday : s.anyDay.weekday = s.weekday := rfl
  have hapart : s.anyWeekday.matchesApart t = s.matchesApart t := rfl
  have hapart' : s.anyDay.matchesApart t = s.matchesApart t := rfl
  rw [hany, hday, hweekday, hapart, hapart', isDue, fieldsMatch, matchesDate, meetsRestriction,
    if_pos h]
  simp only [Bool.and_eq_true, Bool.or_eq_true]
  tauto

/-- Otherwise each field selects it. -/
theorem isDue_iff_of_no_alternatives (h : s.hasAlternatives = false) (t : Nat) :
    s.isDue t = true ↔ s.matchesSecond t = true := by
  rw [matchesSecond_iff, isDue, fieldsMatch, matchesDate, meetsRestriction, h,
    if_neg Bool.false_ne_true]
  simp only [Bool.and_eq_true, Bool.or_eq_true]
  tauto

theorem nextIn_utc_first {now : Instant} {r : Stamp}
    (h : s.nextIn Zone.utc (Stamp.ofInstant now) = .ok r) :
    ∃ n : Nat, r = Stamp.ofInstant (n * Stamp.second) ∧ n < searchEnd (s.firstTick now) ∧
      IsFirst (s.matchesSecond · = true) (s.firstTick now) n := by
  rw [nextIn_utc] at h
  cases hwall : s.nextWall now with
  | error f =>
    rw [hwall] at h
    cases h
  | ok wall =>
    rw [hwall] at h
    obtain ⟨n, rfl, hlt, hfirst⟩ := nextWall_first hwall
    exact ⟨n, (Except.ok.inj h).symm, hlt, hfirst⟩

theorem nextIn_utc_none {now : Instant}
    (h : s.nextIn Zone.utc (Stamp.ofInstant now) = .error .noDate) :
    ∀ u, s.firstTick now ≤ u → u < searchEnd (s.firstTick now) → ¬ s.matchesSecond u = true := by
  rw [nextIn_utc] at h
  cases hwall : s.nextWall now with
  | error f =>
    rw [hwall] at h
    cases h
    exact nextWall_none hwall
  | ok wall =>
    rw [hwall] at h
    cases h

/-- The next time in universal time is the first second at which the schedule is due. -/
theorem nextStamp_utc_first {now : Instant} {r : Stamp}
    (h : s.nextStamp Zone.utc (Stamp.ofInstant now) = .ok r) :
    ∃ n : Nat, r = Stamp.ofInstant (n * Stamp.second) ∧
      IsFirst (s.isDue · = true) (s.firstTick now) n := by
  rw [nextStamp] at h
  split at h
  · next halt =>
    obtain ⟨n, hr, -, hfirst⟩ := nextIn_utc_first h
    exact ⟨n, hr, hfirst.congr (isDue_iff_of_no_alternatives (by simpa using halt))⟩
  · next halt =>
    -- The search of either alternative begins and ends where that of the other does.
    have hdue := isDue_iff_of_alternatives (s := s) (by simpa using halt)
    split at h
    · next hday =>
      split at h
      · cases h
      · obtain ⟨n, hr, hlt, hfirst⟩ := nextIn_utc_first h
        refine ⟨n, hr, (hfirst.or_left fun u hlow hu => ?_).congr fun u => (hdue u).trans or_comm⟩
        exact nextIn_utc_none hday u hlow (Nat.lt_trans hu hlt)
    · cases h
    · next byDay hday hweekday =>
      obtain ⟨n, hr, hlt, hfirst⟩ := nextIn_utc_first hday
      refine ⟨n, (Except.ok.inj h).symm.trans hr, (hfirst.or_left fun u hlow hu => ?_).congr hdue⟩
      exact nextIn_utc_none hweekday u hlow (Nat.lt_trans hu hlt)
    · cases h
    · next byDay byWeekday hday hweekday =>
      obtain ⟨m, rfl, -, hm⟩ := nextIn_utc_first hday
      obtain ⟨n, rfl, -, hn⟩ := nextIn_utc_first hweekday
      refine ⟨_, ?_, (hm.or hn).congr hdue⟩
      have hwall : (Stamp.ofInstant (n * Stamp.second)).wall <
          (Stamp.ofInstant (m * Stamp.second)).wall ↔ n < m := second_lt_iff
      rw [← Except.ok.inj h]
      by_cases hlt : n < m
      · rw [if_pos hlt, if_pos (hwall.mpr hlt)]
      · rw [if_neg hlt, if_neg (mt hwall.mp hlt)]

/-- What comes next in universal time is the earliest instant of those that come later. -/
theorem next_utc_earliest (hs : s.WholeMinutes) {after t : Instant}
    (h : s.next Zone.utc after = .ok t) :
    (Stamp.ofInstant t).InRange ∧ s.FiresAt t ∧ ∀ u, after < u → u < t → ¬ s.FiresAt u := by
  have hstamp : Zone.utc.stampAt after = Stamp.ofInstant after := by
    simp [Zone.stampAt, Zone.offsetAt, Zone.utc, Stamp.ofInstant]
  rw [next, hstamp] at h
  dsimp only at h
  split at h
  · cases h
  · obtain ⟨r, hr, h⟩ := exists_of_bind_eq_ok h
    obtain ⟨n, rfl, hfirst⟩ := nextStamp_utc_first hr
    split at h
    · cases h
    · next hrange =>
      have ht : n * Stamp.second = t :=
        (Int.sub_zero _).symm.trans (Except.ok.inj h)
      have hinstant : (Stamp.ofInstant (n * Stamp.second)).instant = n * Stamp.second :=
        Int.sub_zero _
      rw [hinstant, ht] at hrange
      refine ⟨not_not.mp hrange, ⟨n, ht.symm, hfirst.holds⟩, ?_⟩
      rintro u hlow hhigh ⟨k, rfl, hk⟩
      rw [← ht] at hhigh
      exact hfirst.least k (firstTick_le hs hlow (matchesTimeOfDay_of_isDue hk))
        (second_lt_iff.mp hhigh) hk

/-! What is read of an expression. -/

/-- The fields that are read are those that are written. -/
theorem keys_of_mapM {f : FieldKind → List Char → Except Fault (List Entry)}
    {cols : List (FieldKind × List Char)} {written : List (FieldKind × List Entry)}
    (h : (cols.mapM fun (k, s) => do return (k, ← f k s)) = .ok written) :
    written.map (·.1) = cols.map (·.1) := by
  induction cols generalizing written with
  | nil =>
    cases h
    rfl
  | cons col cols ih =>
    rw [List.mapM_cons] at h
    obtain ⟨first, hfirst, h⟩ := exists_of_bind_eq_ok h
    obtain ⟨rest, hrest, h⟩ := exists_of_bind_eq_ok h
    obtain ⟨es, -, hfirst⟩ := exists_of_bind_eq_ok hfirst
    cases h
    cases hfirst
    rw [List.map_cons, List.map_cons, ih hrest]

/-- An expression without a field for seconds is looked at minute by minute. -/
theorem wholeMinutes_of_ofColumns {cols : List (List Char)} (h : ofColumns cols = .ok s) :
    s.WholeMinutes := by
  intro hby
  rw [ofColumns] at h
  dsimp only at h
  split at h
  · cases h
  · next hlength =>
    obtain ⟨written, hwritten, h⟩ := exists_of_bind_eq_ok h
    have hkeys := keys_of_mapM hwritten
    generalize weekdaysMix _ _ = mixed at h
    cases mixed with
    | true => cases h
    | false =>
      have hs := Except.ok.inj h
      rw [← hs] at hby ⊢
      have hfive : cols.length = 5 := by
        have hle : ¬ 5 < cols.length := of_decide_eq_false hby
        omega
      rw [List.zip_eq_zip_take_min, hfive, List.map_fst_zip (by simp [hfive])] at hkeys
      have hunwritten : written.lookup .second = none := by
        refine List.lookup_eq_none_iff.mpr fun p hp => ?_
        have hmem : p.1 ∈ FieldKind.all.take (min FieldKind.all.length 5) :=
          hkeys ▸ List.mem_map_of_mem hp
        have hothers : ∀ k ∈ FieldKind.all.take (min FieldKind.all.length 5),
            (FieldKind.second != k) = true := by decide
        exact hothers p.1 hmem
      simp only [hunwritten]

theorem wholeMinutes_of_ofText {text : String} (h : ofText text = .ok s) : s.WholeMinutes :=
  wholeMinutes_of_ofColumns h

end Schedule

/-- An expression that is accepted is a text, and its fields can be read. -/
theorem validate_reads {expression zone : Value} {z : Zone} (h : validate expression zone = .ok z) :
    ∃ text s, expression = .text text ∧ Schedule.ofText text = .ok s ∧ readZone zone = .ok z := by
  rw [validate] at h
  split at h
  · cases h
  · obtain ⟨text, htext, h⟩ := exists_of_bind_eq_ok h
    have hexpression : expression = .text text := by
      cases expression with
      | text s => exact congrArg Value.text (Except.ok.inj htext)
      | _ => cases htext
    split at h
    · next s hs => exact ⟨text, s, hexpression, hs, h⟩
    · cases h

theorem nextFire_eq_ok {text : String} {s : Schedule} (hs : Schedule.ofText text = .ok s)
    {z : Zone} {after t : Instant} :
    nextFire (.text text) z after = .ok t ↔ s.next z after = .ok t := by
  have hread : readExpression (.text text) = .ok text := rfl
  cases hnext : s.next z after with
  | error f => simp [nextFire, hread, hs, hnext, bind, Except.bind, Except.mapError]
  | ok t' => simp [nextFire, hread, hs, hnext, bind, Except.bind, Except.mapError]

/-- An instant is the earliest one after another that has a property. -/
structure IsEarliest (p : Instant → Prop) (after t : Instant) : Prop where
  later : after < t
  holds : p t
  least : ∀ u, after < u → u < t → ¬ p u

/-- Going on from each instant to the earliest one that comes after it passes over none. -/
theorem fireTimes_of_earliest {p : Instant → Prop} {expression : Value} {z : Zone}
    (h : ∀ after t, nextFire expression z after = .ok t → IsEarliest p after t) {count : Nat}
    {after : Instant} {ts : List Instant}
    (hts : CommandLine.fireTimes expression z count after = .ok ts) :
    ts.length = count ∧ ts.Pairwise (· < ·) ∧
      ∀ t, t ∈ ts ↔ p t ∧ after < t ∧ ∃ last ∈ ts, t ≤ last := by
  induction count generalizing after ts with
  | zero =>
    obtain rfl : [] = ts := Except.ok.inj hts
    simp
  | succ count ih =>
    obtain ⟨first, hfirst, hts⟩ := exists_of_bind_eq_ok hts
    obtain ⟨rest, hrest, hts⟩ := exists_of_bind_eq_ok hts
    obtain rfl : first :: rest = ts := Except.ok.inj hts
    have hearliest := h after first hfirst
    obtain ⟨hlength, hsorted, hmem⟩ := ih hrest
    have hfollow : ∀ t ∈ rest, first < t := fun t ht => ((hmem t).mp ht).2.1
    refine ⟨congrArg (· + 1) hlength, List.pairwise_cons.mpr ⟨hfollow, hsorted⟩,
      fun t => ⟨fun ht => ?_, ?_⟩⟩
    · rcases List.mem_cons.mp ht with rfl | hlater
      · exact ⟨hearliest.holds, hearliest.later, t, ht, Int.le_refl t⟩
      · obtain ⟨hp, hfrom, -⟩ := (hmem t).mp hlater
        exact ⟨hp, Int.lt_trans hearliest.later hfrom, t, ht, Int.le_refl t⟩
    · rintro ⟨hp, hfrom, last, hlast, hle⟩
      rcases Int.lt_trichotomy t first with hlt | rfl | hgt
      · exact absurd hp (hearliest.least t hfrom hlt)
      · exact List.mem_cons_self
      · refine List.mem_cons_of_mem _ ((hmem t).mpr ⟨hp, hgt, last, ?_, hle⟩)
        rcases List.mem_cons.mp hlast with rfl | hlater
        · exact absurd hgt (Int.not_lt.mpr hle)
        · exact hlater

/-- In universal time the next time of an accepted expression is the earliest instant after a given
one at which its schedule fires, whichever offset that one is written with. So the times that
follow each other are all those at which it fires, each of them once and in rising order. -/
theorem nextFire_earliest {expression : Value} {z : Zone}
    (h : validate expression (.text "UTC") = .ok z) :
    z = Zone.utc ∧ ∃ text s, expression = .text text ∧ Schedule.ofText text = .ok s ∧
      (∀ (after : Stamp) (t : Instant), nextFire expression z after.instant = .ok t →
        IsEarliest s.FiresAt after.instant t ∧ (Stamp.ofInstant t).InRange ∧
        ∀ after' : Stamp, after'.instant = after.instant →
          nextFire expression z after'.instant = .ok t) ∧
      ∀ (after : Stamp) (count : Nat) (ts : List Instant),
        CommandLine.fireTimes expression z count after.instant = .ok ts →
        ts.length = count ∧ ts.Pairwise (· < ·) ∧
        ∀ t, t ∈ ts ↔ s.FiresAt t ∧ after.instant < t ∧ ∃ last ∈ ts, t ≤ last := by
  obtain ⟨text, s, rfl, hs, hzone⟩ := validate_reads h
  have hutc : readZone (.text "UTC") = .ok Zone.utc := rfl
  obtain rfl : Zone.utc = z := Except.ok.inj (hutc.symm.trans hzone)
  have hearliest : ∀ after t, nextFire (.text text) Zone.utc after = .ok t →
      IsEarliest s.FiresAt after t ∧ (Stamp.ofInstant t).InRange := by
    intro after t hnext
    obtain ⟨hrange, hfires, hleast⟩ :=
      Schedule.next_utc_earliest (Schedule.wholeMinutes_of_ofText hs) ((nextFire_eq_ok hs).mp hnext)
    exact ⟨⟨lt_nextFire List.mem_cons_self hnext, hfires, hleast⟩, hrange⟩
  refine ⟨rfl, text, s, rfl, hs, fun after t hnext => ?_, fun after count ts hts => ?_⟩
  · obtain ⟨hfirst, hrange⟩ := hearliest after.instant t hnext
    exact ⟨hfirst, hrange, fun after' hsame => hsame.symm ▸ hnext⟩
  · exact fireTimes_of_earliest (fun after t hnext => (hearliest after t hnext).1) hts

theorem nextFire_earliest_leapDay :
    ∃ s, Schedule.ofText "0 0 29 2 *" = .ok s ∧
      IsEarliest s.FiresAt
        (Stamp.mk (Stamp.wallOf ⟨2023, 3, 1⟩ 5 30 0 0)
          (some (5 * Stamp.hour + 30 * Stamp.minute))).instant
        (Stamp.wallOf ⟨2024, 2, 29⟩ 0 0 0 0) := by
  have hvalid : validate (.text "0 0 29 2 *") (.text "UTC") = .ok Zone.utc :=
    eq_ok_of_toOption (by decide +kernel)
  obtain ⟨-, text, s, htext, hs, hnext, -⟩ := nextFire_earliest hvalid
  cases htext
  exact ⟨s, hs, (hnext _ _ (eq_ok_of_toOption (by decide +kernel))).1⟩

/-- On the second Tuesday of January the fields of an expression match, as they do on the day
before, which the day of the month alone selects. The next time is the later one of the two. -/
theorem nextFire_passes_over_selected_day :
    let expression := "0 0 8-14 * 2#2"
    validate (.text expression) (.text "UTC") = .ok Zone.utc ∧
      nextFire (.text expression) Zone.utc (Stamp.wallOf ⟨2024, 1, 1⟩ 0 0 0 0) =
        .ok (Stamp.wallOf ⟨2024, 1, 9⟩ 0 0 0 0) ∧
      ∃ s, Schedule.ofText expression = .ok s ∧ s.hasAlternatives = true ∧
        ∃ n : Nat, n * Stamp.second = Stamp.wallOf ⟨2024, 1, 8⟩ 0 0 0 0 ∧
          s.fieldsMatch n = true := by
  intro expression
  refine ⟨eq_ok_of_toOption (by decide +kernel), eq_ok_of_toOption (by decide +kernel), ?_⟩
  have hmatch : (Schedule.ofText expression).toOption.any (fun s =>
      s.hasAlternatives && s.fieldsMatch ((Date.mk 2024 1 8).dayNumber * 86400)) = true := by
    decide +kernel
  obtain ⟨s, hs, hmatch⟩ := (Option.any_eq_true _ _).mp hmatch
  obtain ⟨halternatives, hmatch⟩ := (Bool.and_eq_true _ _).mp hmatch
  exact ⟨s, eq_ok_of_toOption hs, halternatives, _, by decide +kernel, hmatch⟩

end ProcessTriggers.Cron
