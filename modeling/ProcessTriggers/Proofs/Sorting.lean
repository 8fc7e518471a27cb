import Mathlib.Data.List.Chain
import ProcessTriggers.Proofs.Actions
import ProcessTriggers.Value.Sorting

/-!
Sorting by keys that do have an order among them. Where every key has a rank and is less than
another exactly if its rank is, sorting succeeds, loses and invents nothing, and puts the ranks in
order.
-/

namespace ProcessTriggers.Value

/-- The keys of the items in `P` are ordered as their ranks are. -/
def RankedOn {α : Type} (key : α → Value) (rank : α → Int) (P : α → Prop) : Prop :=
  ∀ x y, P x → P y → isLess (key x) (key y) = .ok (decide (rank x < rank y))

section

variable {α : Type} {key : α → Value} {rank : α → Int} {P : α → Prop}

/-- The ranks do not fall. -/
def Rising (rank : α → Int) (xs : List α) : Prop := xs.Pairwise fun x y => rank x ≤ rank y

/-- The ranks do not rise. -/
def Falling (rank : α → Int) (xs : List α) : Prop := xs.Pairwise fun x y => rank y ≤ rank x

theorem placeOf_spec (h : RankedOn key rank P) {x : α} (hx : P x) {xs : List α}
    (hxs : ∀ y ∈ xs, P y) (hrising : Rising rank xs) :
    ∀ n low high, high ≤ xs.length → low ≤ high → high - low < n →
      (∀ i (hi : i < xs.length), i < low → rank xs[i] ≤ rank x) →
      (∀ i (hi : i < xs.length), high ≤ i → rank x < rank xs[i]) →
      ∃ p, placeOf key (key x) xs n low high = .ok p ∧ p ≤ xs.length ∧
        (∀ i (hi : i < xs.length), i < p → rank xs[i] ≤ rank x) ∧
        (∀ i (hi : i < xs.length), p ≤ i → rank x < rank xs[i]) := by
  intro n
  -- Everything before `low` is not greater than the pivot, everything from `high` on is.
  induction n with
  | zero => intro low high _ _ hn; omega
  | succ n ih =>
    intro low high hhigh hle hn hlow habove
    by_cases hdone : high ≤ low
    · have heq : low = high := Nat.le_antisymm hle hdone
      refine ⟨low, ?_, by omega, hlow, fun i hi hp => habove i hi (by omega)⟩
      rw [placeOf, if_pos hdone]
    · have hm : low + (high - low) / 2 < xs.length := by omega
      have hP := hxs _ (List.getElem_mem hm)
      rw [Rising, List.pairwise_iff_getElem] at hrising
      simp only [placeOf, if_neg hdone, List.getElem?_eq_getElem hm, h x _ hx hP, bind, Except.bind]
      by_cases hlt : rank x < rank xs[low + (high - low) / 2]
      · obtain ⟨p, hp⟩ := ih low (low + (high - low) / 2) (by omega) (by omega) (by omega) hlow
          (fun i hi hmi => by
            rcases Nat.eq_or_lt_of_le hmi with rfl | hmi
            · exact hlt
            · exact Int.lt_of_lt_of_le hlt (hrising _ _ hm hi hmi))
        exact ⟨p, by simpa only [hlt, decide_true, if_true] using hp.1, hp.2⟩
      · obtain ⟨p, hp⟩ := ih (low + (high - low) / 2 + 1) high hhigh (by omega) (by omega)
          (fun i hi him => by
            rcases Nat.eq_or_lt_of_le (Nat.lt_succ_iff.mp him) with rfl | him
            · exact Int.not_lt.mp hlt
            · exact Int.le_trans (hrising _ _ hi hm him) (Int.not_lt.mp hlt))
          habove
        exact ⟨p, by simpa only [hlt, decide_false, Bool.false_eq_true, if_false] using hp.1, hp.2⟩

theorem insertSorted_spec (h : RankedOn key rank P) {x : α} (hx : P x) {xs : List α}
    (hxs : ∀ y ∈ xs, P y) (hrising : Rising rank xs) :
    ∃ ys, insertSorted key xs x = .ok ys ∧ ys.Perm (x :: xs) ∧ Rising rank ys := by
  -- At first nothing is known of the list, and one step more is allowed than it has items.
  obtain ⟨p, hp, hlen, hbefore, hbehind⟩ := placeOf_spec h hx hxs hrising (xs.length + 1) 0
    xs.length (Nat.le_refl _) (Nat.zero_le _) (by omega)
    (fun i _ hi => absurd hi (Nat.not_lt_zero i))
    (fun i hi hle => absurd hi (Nat.not_lt.mpr hle))
  refine ⟨xs.take p ++ x :: xs.drop p, ?_, ?_, ?_⟩
  · simp only [insertSorted, hp]
    rfl
  · have hperm : (xs.take p ++ x :: xs.drop p).Perm (x :: (xs.take p ++ xs.drop p)) :=
      List.perm_middle
    rwa [List.take_append_drop] at hperm
  · have hsplit : Rising rank (xs.take p ++ xs.drop p) := by rwa [List.take_append_drop]
    rw [Rising, List.pairwise_append] at hsplit
    obtain ⟨htake, hdrop, hcross⟩ := hsplit
    have hle : ∀ a ∈ xs.take p, rank a ≤ rank x := by
      intro a ha
      obtain ⟨i, hi, rfl⟩ := List.mem_take_iff_getElem.mp ha
      exact hbefore i (by omega) (by omega)
    have hge : ∀ b ∈ xs.drop p, rank x ≤ rank b := by
      intro b hb
      obtain ⟨i, hi, rfl⟩ := List.mem_drop_iff_getElem.mp hb
      exact Int.le_of_lt (hbehind _ (by omega) (by omega))
    refine List.pairwise_append.mpr ⟨htake, List.pairwise_cons.mpr ⟨hge, hdrop⟩, ?_⟩
    intro a ha b hb
    rcases List.mem_cons.mp hb with rfl | hb
    · exact hle a ha
    · exact hcross a ha b hb

/-- The items that continue a run are in order, each after the one before it. -/
theorem runLength_spec (h : RankedOn key rank P) (falling : Bool) :
    ∀ {a : α} {xs : List α}, P a → (∀ y ∈ xs, P y) →
      ∃ n, runLength key falling (key a) xs = .ok n ∧
        (a :: xs.take n).IsChain fun x y => decide (rank y < rank x) = falling := by
  intro a xs
  -- The induction is on what follows `a`, the last item that is known to belong to the run.
  induction xs generalizing a with
  | nil => exact fun _ _ => ⟨0, rfl, List.isChain_singleton a⟩
  | cons x xs ih =>
    intro ha hxs
    have hx := hxs x List.mem_cons_self
    by_cases hgo : decide (rank x < rank a) = falling
    · obtain ⟨n, hn, hchain⟩ := ih hx fun y hy => hxs y (List.mem_cons_of_mem x hy)
      refine ⟨1 + n, ?_, ?_⟩
      · have hbeq : (decide (rank x < rank a) == falling) = true := beq_iff_eq.mpr hgo
        simp only [runLength, h x a hx ha, hn, bind, Except.bind, hbeq, if_true, pure, Except.pure]
      · rw [Nat.add_comm, List.take_succ_cons]
        exact List.isChain_cons_cons.mpr ⟨hgo, hchain⟩
    · refine ⟨0, ?_, List.isChain_singleton a⟩
      have hbeq : (decide (rank x < rank a) == falling) = false := beq_eq_false_iff_ne.mpr hgo
      simp only [runLength, h x a hx ha, bind, Except.bind, hbeq, pure, Except.pure]
      rfl

theorem rising_of_isChain {xs : List α}
    (h : xs.IsChain fun x y => decide (rank y < rank x) = false) : Rising rank xs := by
  have hchain : xs.IsChain fun x y => rank x ≤ rank y :=
    h.imp fun x y hxy => Int.not_lt.mp (of_decide_eq_false hxy)
  have : IsTrans α fun x y => rank x ≤ rank y := ⟨fun _ _ _ hxy hyz => Int.le_trans hxy hyz⟩
  exact hchain.pairwise

theorem falling_of_isChain {xs : List α}
    (h : xs.IsChain fun x y => decide (rank y < rank x) = true) : Falling rank xs := by
  have hchain : xs.IsChain fun x y => rank y ≤ rank x :=
    h.imp fun x y hxy => Int.le_of_lt (of_decide_eq_true hxy)
  have : IsTrans α fun x y => rank y ≤ rank x := ⟨fun _ _ _ hxy hyz => Int.le_trans hyz hxy⟩
  exact hchain.pairwise

theorem firstRun_spec (h : RankedOn key rank P) {xs : List α} (hxs : ∀ y ∈ xs, P y) :
    ∃ run rest, firstRun key xs = .ok (run, rest) ∧ (run ++ rest).Perm xs ∧ Rising rank run := by
  match xs with
  | [] => exact ⟨[], [], rfl, List.Perm.refl _, List.Pairwise.nil⟩
  | [x] => exact ⟨[x], [], rfl, List.Perm.refl _, List.pairwise_singleton _ x⟩
  | x :: y :: zs =>
    have hx := hxs x List.mem_cons_self
    have hy := hxs y (List.mem_cons_of_mem x List.mem_cons_self)
    obtain ⟨n, hn, hchain⟩ := runLength_spec h (decide (rank y < rank x)) hy
      fun z hz => hxs z (List.mem_cons_of_mem x (List.mem_cons_of_mem y hz))
    have hrun : (x :: y :: zs.take n).IsChain
        fun u v => decide (rank v < rank u) = decide (rank y < rank x) :=
      List.isChain_cons_cons.mpr ⟨rfl, hchain⟩
    have htake : (x :: y :: zs).take (2 + n) = x :: y :: zs.take n := by
      rw [Nat.add_comm, List.take_succ_cons, List.take_succ_cons]
    have hall : ((x :: y :: zs).take (2 + n) ++ (x :: y :: zs).drop (2 + n)).Perm
        (x :: y :: zs) := by rw [List.take_append_drop]
    -- A run that falls is reversed, so that it rises as well.
    by_cases hfall : rank y < rank x
    · refine ⟨((x :: y :: zs).take (2 + n)).reverse, (x :: y :: zs).drop (2 + n), ?_, ?_, ?_⟩
      · simp only [hfall, decide_true] at hn
        simp only [firstRun, h y x hy hx, hn, bind, Except.bind, pure, Except.pure, hfall,
          decide_true, if_true]
      · exact ((List.reverse_perm _).append_right _).trans hall
      · rw [htake, Rising, List.pairwise_reverse]
        simp only [hfall, decide_true] at hrun
        exact falling_of_isChain hrun
    · refine ⟨(x :: y :: zs).take (2 + n), (x :: y :: zs).drop (2 + n), ?_, hall, ?_⟩
      · simp only [hfall, decide_false] at hn
        simp only [firstRun, h y x hy hx, hn, bind, Except.bind, pure, Except.pure, hfall,
          decide_false]
        rfl
      · rw [htake]
        simp only [hfall, decide_false] at hrun
        exact rising_of_isChain hrun

theorem foldlM_insertSorted_spec (h : RankedOn key rank P) :
    ∀ {rest run : List α}, (∀ y ∈ run ++ rest, P y) → Rising rank run →
      ∃ ys, rest.foldlM (insertSorted key) run = .ok ys ∧ ys.Perm (run ++ rest) ∧
        Rising rank ys := by
  intro rest
  -- The induction is on what is still to be inserted; what rises grows with each item.
  induction rest with
  | nil =>
    intro run _ hrun
    exact ⟨run, rfl, by rw [List.append_nil], hrun⟩
  | cons x rest ih =>
    intro run hP hrun
    have hx := hP x (List.mem_append_right run List.mem_cons_self)
    obtain ⟨run', hins, hperm, hrun'⟩ := insertSorted_spec h hx
      (fun y hy => hP y (List.mem_append_left _ hy)) hrun
    have hmid : (run' ++ rest).Perm (run ++ x :: rest) :=
      (hperm.append_right rest).trans List.perm_middle.symm
    obtain ⟨ys, hys, hyperm, hrising⟩ := ih (fun y hy => hP y (hmid.subset hy)) hrun'
    refine ⟨ys, ?_, hyperm.trans hmid, hrising⟩
    rw [List.foldlM_cons, hins]
    exact hys

theorem sortBy_spec (h : RankedOn key rank P) {xs : List α} (hxs : ∀ y ∈ xs, P y) :
    ∃ ys, sortBy key xs = .ok ys ∧ ys.Perm xs ∧ Rising rank ys := by
  obtain ⟨run, rest, hfirst, hperm, hrun⟩ := firstRun_spec h hxs
  obtain ⟨ys, hys, hyperm, hrising⟩ :=
    foldlM_insertSorted_spec h (fun y hy => hxs y (hperm.subset hy)) hrun
  refine ⟨ys, ?_, hyperm.trans hperm, hrising⟩
  rw [sortBy, hfirst]
  exact hys

theorem sortNewestFirst_spec (h : RankedOn key rank P) {xs : List α} (hxs : ∀ y ∈ xs, P y) :
    ∃ ys, sortNewestFirst key xs = .ok ys ∧ ys.Perm xs ∧ Falling rank ys := by
  obtain ⟨ys, hys, hperm, hrising⟩ := sortBy_spec h
    fun y (hy : y ∈ xs.reverse) => hxs y (List.mem_reverse.mp hy)
  refine ⟨ys.reverse, ?_, ?_, ?_⟩
  · rw [sortNewestFirst, hys]
    rfl
  · exact (List.reverse_perm ys).trans (hperm.trans (List.reverse_perm xs))
  · rw [Falling, List.pairwise_reverse]
    exact hrising

end

/-! Whatever the keys are, sorting loses and invents nothing if it succeeds. -/

section

variable {α : Type} {key : α → Value} {xs ys : List α}

theorem firstRun_perm {run rest : List α} (h : firstRun key xs = .ok (run, rest)) :
    (run ++ rest).Perm xs := by
  match xs with
  | [] =>
    cases h
    exact .refl _
  | [x] =>
    cases h
    exact .refl _
  | x :: y :: zs =>
    obtain ⟨falling, _, h⟩ := exists_of_bind_eq_ok h
    obtain ⟨n, _, h⟩ := exists_of_bind_eq_ok h
    have hall := List.Perm.of_eq (List.take_append_drop (2 + n) (x :: y :: zs))
    cases falling with
    | true =>
      cases h
      exact ((List.reverse_perm _).append_right _).trans hall
    | false =>
      cases h
      exact hall

theorem insertSorted_perm {x : α} (h : insertSorted key xs x = .ok ys) : ys.Perm (x :: xs) := by
  obtain ⟨place, _, h⟩ := exists_of_bind_eq_ok h
  cases h
  exact List.perm_middle.trans ((List.Perm.of_eq (List.take_append_drop place xs)).cons x)

theorem foldlM_insertSorted_perm {rest run : List α}
    (h : rest.foldlM (insertSorted key) run = .ok ys) : ys.Perm (run ++ rest) := by
  induction rest generalizing run with
  | nil =>
    cases h
    rw [List.append_nil]
  | cons x rest ih =>
    rw [List.foldlM_cons] at h
    obtain ⟨run', hinsert, h⟩ := exists_of_bind_eq_ok h
    exact (ih h).trans (((insertSorted_perm hinsert).append_right rest).trans
      List.perm_middle.symm)

theorem sortBy_perm (h : sortBy key xs = .ok ys) : ys.Perm xs := by
  obtain ⟨⟨run, rest⟩, hfirst, h⟩ := exists_of_bind_eq_ok h
  exact (foldlM_insertSorted_perm h).trans (firstRun_perm hfirst)

theorem sortNewestFirst_perm (h : sortNewestFirst key xs = .ok ys) : ys.Perm xs := by
  obtain ⟨sorted, hsorted, h⟩ := exists_of_bind_eq_ok h
  cases h
  exact (List.reverse_perm sorted).trans ((sortBy_perm hsorted).trans (List.reverse_perm xs))

end

/-- Stamps with an offset are ordered as their instants are. -/
theorem isLess_stamp {s t : Stamp} (hs : s.isAware = true) (ht : t.isAware = true) :
    isLess (.stamp s) (.stamp t) = .ok (decide (s.instant < t.instant)) := by
  have haware : s.isAware = t.isAware := hs.trans ht.symm
  simp only [isLess, order, compareStamps, if_pos haware, Except.map, bind, Except.bind, pure,
    Except.pure]
  congr 1
  rw [Bool.eq_iff_iff, beq_iff_eq, Option.some_inj, decide_eq_true_eq]
  exact Int.compare_eq_lt

/-- The instant that a value stands for. -/
def instant (v : Value) : Instant :=
  match v with
  | .stamp s => s.instant
  | _ => 0

theorem rankedOn_stamps {α : Type} (key : α → Value) : RankedOn key (fun x => instant (key x))
    fun x => ∃ s, key x = .stamp s ∧ s.isAware = true := by
  rintro x y ⟨s, hs, haware⟩ ⟨s', hs', haware'⟩
  simp only [hs, hs', instant]
  exact isLess_stamp haware haware'

end ProcessTriggers.Value
