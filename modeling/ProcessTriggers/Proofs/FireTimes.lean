import ProcessTriggers.Proofs.Seasons
import ProcessTriggers.Proofs.Timers

/-!
A schedule fires strictly after the instant after which its next time is sought, on the clocks of
any known zone.
-/

namespace ProcessTriggers.Cron

theorem ite_bind {ε α β : Type} {p : Prop} [Decidable p] (x y : Except ε α)
    (f : α → Except ε β) : (if p then x >>= f else y >>= f) = (if p then x else y) >>= f := by
  split <;> rfl

theorem ok_bind {ε α β : Type} (a : α) (f : α → Except ε β) : (.ok a >>= f) = f a := rfl

theorem eq_ok_of_toOption {ε α : Type} {x : Except ε α} {a : α} (h : x.toOption = some a) :
    x = .ok a := by
  cases x with
  | error e => cases h
  | ok b => exact congrArg Except.ok (Option.some.inj h)

namespace Schedule

variable {s : Schedule}

/-! Readings of the wall clock. -/

theorem le_firstTime {start t : Nat} (h : s.firstTime? start = some t) : start ≤ t := by
  obtain ⟨hour, -, h⟩ := List.exists_of_findSome?_eq_some h
  split at h
  · obtain ⟨minute, -, h⟩ := List.exists_of_findSome?_eq_some h
    dsimp only at h
    split at h
    · obtain ⟨second, -, h⟩ := List.exists_of_findSome?_eq_some h
      split at h
      · next hselected =>
        rw [Bool.and_eq_true, decide_eq_true_eq] at hselected
        exact Option.some.inj h ▸ hselected.2
      · cases h
    · cases h
  · cases h

theorem le_firstSecond {k n t : Nat} (h : s.firstSecond? k n = some t) : n * 86400 ≤ t := by
  induction k generalizing n with
  | zero => cases h
  | succ k ih =>
    rw [firstSecond?] at h
    split at h
    · have hhere := Option.some.inj h
      omega
    · exact Nat.le_trans (Nat.mul_le_mul_right 86400 (Nat.le_succ n)) (ih h)

theorem le_searchFrom {start t : Nat} (h : s.searchFrom start = .ok t) : start ≤ t := by
  rw [searchFrom] at h
  split at h
  · next time hhere =>
    have htime : start % 86400 ≤ time := by
      split at hhere
      · exact le_firstTime hhere
      · cases hhere
    have ht := Except.ok.inj h
    omega
  · dsimp only at h
    split at h
    · next time hsearch =>
      have htime := le_firstSecond hsearch
      have ht := Except.ok.inj h
      omega
    · cases h

/-- The search begins after the present reading. -/
theorem lt_firstTick (s : Schedule) (wall : Int) : wall < s.firstTick wall * Stamp.second := by
  have hsecond : wall.fdiv Stamp.second = wall / 1000000 :=
    Int.fdiv_eq_ediv_of_nonneg wall (by decide)
  have hminute : wall.fdiv Stamp.minute = wall / 60000000 :=
    Int.fdiv_eq_ediv_of_nonneg wall (by decide)
  have hunit : Stamp.second = 1000000 := rfl
  rw [firstTick, hsecond, hminute, hunit]
  split <;> omega

theorem lt_nextWall {wall next : Int} (h : s.nextWall wall = .ok next) : wall < next := by
  have hunit : Stamp.second = 1000000 := rfl
  have hstart := s.lt_firstTick wall
  rw [nextWall] at h
  dsimp only at h
  split at h
  · cases h
  · obtain ⟨t, ht, h⟩ := exists_of_bind_eq_ok h
    have hle := le_searchFrom ht
    have hnext := Except.ok.inj h
    rw [hunit] at hstart hnext
    omega

end Schedule

/-! Instants. -/

section

variable {z : Zone} {now : Int}

/-- A reading that is ahead of the clocks is placed ahead of the present, unless it is skipped. -/
theorem lt_place (hz : z ∈ Zone.all) (hnow : 0 ≤ now) {wall : Int}
    (hahead : (z.stampAt now).wall < wall) (hshown : (place z now wall).shifted = false) :
    now < (place z now wall).stamp.instant := by
  rw [place] at hshown ⊢
  dsimp only at hshown ⊢
  cases hfind : (z.instantsOf wall).find? (now < ·) with
  | some t =>
    have hlater : (now < ·) t := by simpa using List.find?_some hfind
    have hinstant : (⟨wall, some (wall - t)⟩ : Stamp).instant = t := Int.sub_sub_self wall t
    simp only [Option.orElse_some, Option.map_some, hinstant]
    exact hlater
  | none =>
    cases hlast : (z.instantsOf wall).getLast? with
    | none =>
      simp only [hfind, hlast, Option.orElse_none, Option.map_none] at hshown
      cases hshown
    | some t =>
      obtain ⟨u, hu, hlater⟩ := Zone.exists_later hz hnow hahead (List.mem_of_getLast? hlast)
      exact absurd (decide_eq_true hlater) (List.find?_eq_none.mp hfind u hu)

namespace Schedule

variable {s : Schedule} {r : Stamp}

theorem lt_leaveGap (hz : z ∈ Zone.all) (hnow : 0 ≤ now) {k : Nat} {wall : Int}
    (hahead : (z.stampAt now).wall ≤ wall) (h : s.leaveGap z now k wall = .ok r) :
    now < r.instant := by
  induction k generalizing wall with
  | zero => cases h
  | succ k ih =>
    obtain ⟨next, hnext, h⟩ := exists_of_bind_eq_ok h
    have hlater := Int.lt_of_le_of_lt hahead (lt_nextWall hnext)
    dsimp only at h
    split at h
    · exact ih (Int.le_of_lt hlater) h
    · next hshown =>
      rw [← Except.ok.inj h]
      exact lt_place hz hnow hlater (Bool.eq_false_iff.mpr hshown)

theorem lt_nextIn (hz : z ∈ Zone.all) (hnow : 0 ≤ now)
    (h : s.nextIn z (z.stampAt now) = .ok r) : now < r.instant := by
  have hinstant : (z.stampAt now).instant = now := Int.add_sub_cancel now (z.offsetAt now)
  obtain ⟨wall, hwall, h⟩ := exists_of_bind_eq_ok h
  dsimp only at h
  rw [hinstant, ite_bind] at h
  obtain ⟨first, hfirst, h⟩ := exists_of_bind_eq_ok h
  have hahead := lt_nextWall hwall
  have hlater : now < first.instant := by
    split at hfirst
    · exact lt_leaveGap hz hnow (Int.le_of_lt hahead) hfirst
    · next hstays =>
      rw [← Except.ok.inj hfirst]
      cases hshown : (place z now wall).shifted with
      | false => exact lt_place hz hnow hahead hshown
      | true =>
        rw [hshown] at hstays
        exact Int.not_le.mp fun hle => hstays ⟨rfl, .inl hle⟩
  split at h
  · exact Except.ok.inj h ▸ hlater
  · obtain ⟨wall', -, h⟩ := exists_of_bind_eq_ok h
    split at h
    · exact Except.ok.inj h ▸ hlater
    · next hplaced =>
      -- The second search counts only if it leads past the present as well.
      have hsecond := Int.not_le.mp fun hle => hplaced (.inr hle)
      rw [← Except.ok.inj h]
      split
      · exact hsecond
      · exact hlater

theorem lt_nextStamp (hz : z ∈ Zone.all) (hnow : 0 ≤ now)
    (h : s.nextStamp z (z.stampAt now) = .ok r) : now < r.instant := by
  rw [nextStamp] at h
  split at h
  · exact lt_nextIn hz hnow h
  · split at h
    · next byWeekday _ =>
      split at h
      · cases h
      · exact lt_nextIn hz hnow h
    · cases h
    · next hday _ => exact Except.ok.inj h ▸ lt_nextIn hz hnow hday
    · cases h
    · next hday hweekday =>
      rw [← Except.ok.inj h]
      split
      · exact lt_nextIn hz hnow hweekday
      · exact lt_nextIn hz hnow hday

theorem lt_next (hz : z ∈ Zone.all) {t : Instant} (h : s.next z now = .ok t) : now < t := by
  rw [next] at h
  dsimp only at h
  split at h
  · cases h
  · next hrange =>
    have hnow : 0 ≤ now := by
      by_contra hneg
      exact hrange (.inr fun hin => hneg hin.1)
    obtain ⟨r, hr, h⟩ := exists_of_bind_eq_ok h
    have hlater := lt_nextStamp hz hnow hr
    split at h
    · cases h
    · exact Except.ok.inj h ▸ hlater

end Schedule
end

/-- The next time that an expression fires after an instant is later than the instant. -/
theorem lt_nextFire {expression : Value} {z : Zone} (hz : z ∈ Zone.all) {after t : Instant}
    (h : nextFire expression z after = .ok t) : after < t := by
  obtain ⟨text, -, h⟩ := exists_of_bind_eq_ok h
  cases hread : Schedule.ofText text with
  | error f => simp [hread, bind, Except.bind, Except.mapError] at h
  | ok s =>
    cases hnext : s.next z after with
    | error f => simp [hread, hnext, bind, Except.bind, Except.mapError] at h
    | ok t' =>
      have ht : t' = t := by simpa [hread, hnext, bind, Except.bind, Except.mapError] using h
      exact ht ▸ Schedule.lt_next hz hnext

/-- A zone that is read is one of those that are known. -/
theorem mem_all_of_readZone {v : Value} {z : Zone} (h : readZone v = .ok z) : z ∈ Zone.all := by
  cases v with
  | text key =>
    cases hfound : Zone.ofKey? key with
    | some z' =>
      have hlookup : Zone.lookup key = .zone z' := by rw [Zone.lookup, hfound]
      simp only [readZone, hlookup, Except.ok.injEq] at h
      exact h ▸ List.mem_of_find?_eq_some hfound
    | none =>
      rw [readZone, Zone.lookup, hfound] at h
      dsimp only at h
      split at h
      · next hzone =>
        split at hzone
        · cases hzone
        · split at hzone <;> cases hzone
      all_goals cases h
  | _ => cases h

theorem validate_zone {expression zone : Value} {z : Zone} (h : validate expression zone = .ok z) :
    z ∈ Zone.all := by
  rw [validate] at h
  split at h
  · cases h
  · obtain ⟨text, -, h⟩ := exists_of_bind_eq_ok h
    split at h
    · exact mem_all_of_readZone h
    · cases h

end ProcessTriggers.Cron
