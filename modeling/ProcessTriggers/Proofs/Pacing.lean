import ProcessTriggers.Proofs.Slots

/-!
The pace of a timer. From one time that it serves to the next it takes one turn after another, and
between them the others may do what they like, with the clock and the stores too, so long as they
leave its task alone. Each time is the next one of its schedule after the time that was served and
after the reading of the clock, and its task ends in one of its turns only if its timer is dropped,
or if the search for the next time runs past the calendar.
-/

namespace ProcessTriggers

open Action Automation Scheduler

/-! The turns of one task. -/

namespace Scheduler

/-- The timers are kept under the identifiers of their triggers, in known zones, and no task is that
of two of them or has two things to do. -/
structure Tidy (z : Scheduler) : Prop where
  texts : Keyed.Texts z.timers
  own : ∀ e ∈ z.timers, e.2.triggerId = e.1
  zones : ∀ e ∈ z.timers, e.2.zone ∈ Zone.all
  owners : z.owners.Nodup
  pending : z.pending.Nodup

/-- A task has something to do, and its timer is in place. -/
def Live (n : Nat) (z : Scheduler) : Prop := n ∈ z.pending ∧ ∃ t, timerOf z n = some t

/-- No step of a task that is due has an attempt in hand. -/
def Rested (n : Nat) (z : Scheduler) : Prop := ∀ d ∈ z.due, d.task = n → d.stage.attempt? = none

variable {z : Scheduler} {n : Nat} {t : Timer}

theorem mem_of_timerOf (ht : timerOf z n = some t) : ∃ key, (key, t) ∈ z.timers ∧ t.task = n := by
  obtain ⟨key, hmem⟩ := Keyed.mem_items.mp (List.mem_of_find?_eq_some ht)
  exact ⟨key, hmem, task_of_timerOf ht⟩

namespace Tidy

theorem mem (h : Tidy z) (ht : timerOf z n = some t) : (t.triggerId, t) ∈ z.timers := by
  obtain ⟨key, hmem, -⟩ := mem_of_timerOf ht
  exact h.own _ hmem ▸ hmem

theorem timer_unique (h : Tidy z) {e e' : Value × Timer} (he : e ∈ z.timers) (he' : e' ∈ z.timers)
    (htask : e.2.task = e'.2.task) : e = e' := timer_unique_of_nodup h.owners he he' htask

theorem timerOf_of_mem (h : Tidy z) {key : Value} (ht : (key, t) ∈ z.timers) :
    timerOf z t.task = some t := by
  cases hfound : timerOf z t.task with
  | none =>
    have hnone := List.find?_eq_none.mp hfound t (Keyed.mem_items.mpr ⟨key, ht⟩)
    exact absurd (decide_eq_true rfl) hnone
  | some t' =>
    obtain ⟨key', hmem, htask⟩ := mem_of_timerOf hfound
    exact congrArg (fun e => some e.2) (h.timer_unique hmem ht htask)

/-- The periodic pass has a task of its own. -/
theorem pass_ne (h : Tidy z) (ht : timerOf z n = some t) : z.pass ≠ some n := fun hpass =>
  task_ne_pass_of_nodup h.owners (h.mem ht) hpass (task_of_timerOf ht)

/-- The task whose step is taken has nothing else to do. -/
theorem not_mem_popped (h : Tidy z) {d : Due} {rest : List Due} (hdue : z.due = d :: rest) :
    d.task ∉ (z.popped d rest).pending := by
  have hcount := count_pending_popped hdue d.task
  have hone := List.nodup_iff_count_le_one.mp h.pending d.task
  rw [List.count_singleton_self] at hcount
  exact List.count_eq_zero.mp (by omega)

end Tidy

theorem mem_pending_of_sleeper {wake : Option Stamp} (h : ⟨n, wake⟩ ∈ z.sleepers) :
    n ∈ z.pending := List.mem_append_left _ (List.mem_map.mpr ⟨_, h, rfl⟩)

theorem mem_pending_of_due {stage : Stage} (h : ⟨n, stage⟩ ∈ z.due) : n ∈ z.pending :=
  List.mem_append_right _ (List.mem_map.mpr ⟨_, h, rfl⟩)

theorem not_mem_idle_of_not_mem_pending (h : n ∉ z.pending) : n ∉ z.idle := by
  rw [pending, List.mem_append, List.mem_map, List.mem_map, not_or] at h
  rw [mem_idle]
  rintro (hsleeps | ⟨d, hd, -, htask⟩)
  · exact h.1 hsleeps
  · exact h.2 ⟨d, hd, htask⟩

theorem rested_of_not_mem_pending (h : n ∉ z.pending) : Rested n z := by
  intro d hd htask
  exact absurd (List.mem_append_right _ (List.mem_map.mpr ⟨d, hd, htask⟩)) h

end Scheduler

/-- A timer goes on to the next time that is sought at a reading of the clock. -/
structure Timer.Next (t : Timer) (now : Instant) (t' : Timer) : Prop where
  sought : t.sought now = .ok t'.nextRun
  same : t' = { t with nextRun := t'.nextRun }

namespace Timer.Next

variable {t t' : Timer} {now : Instant}

theorem alike (h : t.Next now t') : t.Alike t' := by
  rw [h.same]
  exact ⟨rfl, rfl, rfl⟩

/-- The next time is later than the reading of the clock and than the time that was served. -/
theorem later (h : t.Next now t') (hz : t.zone ∈ Zone.all) : max now t.nextRun < t'.nextRun :=
  Cron.lt_nextFire hz h.sought

end Timer.Next

theorem Timer.Alike.trans {t t' t'' : Timer} (h : t.Alike t') (h' : t'.Alike t'') : t.Alike t'' :=
  ⟨h'.triggerId.trans h.triggerId, h'.expression.trans h.expression, h'.zone.trans h.zone⟩

namespace Scheduler

variable {t t' : Timer} {lapsed : Prop} {clock : Stamp} {z z' : Scheduler} {d : Due}
  {rest : List Due}

/-- After its turn a timer that is still there is the one it was, or it has gone on to its next
time, for which its task waits. -/
theorem outcome_later (h : t.Outcome d.stage lapsed clock (z.popped d rest) z') (htidy : Tidy z)
    (hdue : z.due = d :: rest) (ht : timerOf z d.task = some t)
    (ht' : timerOf z' d.task = some t') :
    (t' = t ∧ d.stage = .waiting ∧ Rested d.task z') ∨
      (t' = t ∧ d.stage ≠ .waiting ∧ d.task ∉ z'.idle) ∨
      (t.Next clock.instant t' ∧ d.stage ≠ .waiting ∧ Rested d.task z') := by
  have hpopped := htidy.not_mem_popped hdue
  have hmem := htidy.mem ht
  have htask := task_of_timerOf ht
  obtain ⟨key, hmem', htask'⟩ := mem_of_timerOf ht'
  have hown : (key, t') ∈ z.timers → (key, t') = (t.triggerId, t) := fun hold =>
    htidy.timer_unique hold hmem (htask'.trans htask.symm)
  have hrested : Rested d.task (z.popped d rest) := rested_of_not_mem_pending hpopped
  have hidle : d.task ∉ (z.popped d rest).idle := not_mem_idle_of_not_mem_pending hpopped
  cases h with
  | waits fresh => exact .inl ⟨congrArg Prod.snd (hown hmem'), fresh, hrested⟩
  | attempts fresh stage' busy =>
    refine .inr (.inl ⟨congrArg Prod.snd (hown hmem'), fresh, fun hn => ?_⟩)
    rw [mem_idle] at hn hidle
    rcases hn with hsleeps | ⟨d', hd', hstage, htask'⟩
    · exact hidle (.inl hsleeps)
    · rcases List.mem_append.mp hd' with hold | hnew
      · exact hidle (.inr ⟨d', hold, hstage, htask'⟩)
      · rw [List.mem_singleton.mp hnew] at hstage
        exact busy hstage
  | advances fresh nextRun next =>
    rcases htidy.texts.mem_put.mp hmem' with hnew | ⟨hold, hkey⟩
    · obtain rfl : t' = { t with nextRun } := congrArg Prod.snd hnew
      exact .inr (.inr ⟨⟨next, rfl⟩, fresh, hrested⟩)
    · exact absurd (congrArg Prod.fst (hown hold)) hkey
  | retires fresh why =>
    obtain ⟨hold, hkey⟩ := htidy.texts.mem_erase.mp hmem'
    exact absurd (congrArg Prod.fst (hown hold)) hkey
  | fails fresh e fault other => exact .inr (.inl ⟨congrArg Prod.snd (hown hmem'), fresh, hidle⟩)

/-- After its turn a timer is in place and its task has something to do, unless it dropped itself or
the search for its next time failed. -/
theorem outcome_live (h : t.Outcome d.stage lapsed clock (z.popped d rest) z')
    (htexts : Keyed.Texts z.timers) (hmem : (t.triggerId, t) ∈ z.timers) :
    (t.task ∈ z'.pending ∧ ∃ t', (t'.triggerId, t') ∈ z'.timers ∧ t'.task = t.task) ∨
      ((lapsed ∨ ∃ e, t.sought clock.instant = .error e ∧ e.isInvalidSchedule = true) ∧
        z'.timers = z.timers.erase t.triggerId) ∨
      ∃ e, t.sought clock.instant = .error e ∧ e.isInvalidSchedule = false ∧
        z'.timers = z.timers := by
  cases h with
  | waits fresh => exact .inl ⟨mem_pending_of_sleeper List.mem_concat_self, t, hmem, rfl⟩
  | attempts fresh stage' busy =>
    exact .inl ⟨mem_pending_of_due List.mem_concat_self, t, hmem, rfl⟩
  | advances fresh nextRun next =>
    have hput := (htexts.mem_put (k := t.triggerId) (x := { t with nextRun })).mpr (.inl rfl)
    exact .inl ⟨mem_pending_of_sleeper List.mem_concat_self, { t with nextRun }, hput, rfl⟩
  | retires fresh why => exact .inr (.inl ⟨why, rfl⟩)
  | fails fresh e fault other => exact .inr (.inr ⟨e, fault, other, rfl⟩)

end Scheduler

namespace Automation

/-- The task of a timer takes the step that is due first. -/
structure Turn (n : Nat) (d : Due) (rest : List Due) (s s' : Automation) : Prop where
  timer : ∃ t, timerOf s.scheduler n = some t
  due : s.scheduler.due = d :: rest
  task : d.task = n
  taken : s' = (takeTurn s).2

/-- Between two states a timer stays as it is, and nothing happens to its task but that it may be
woken. -/
structure Spared (n : Nat) (t : Timer) (z z' : Scheduler) : Prop where
  timer : timerOf z n = some t
  pending : n ∈ z.pending → n ∈ z'.pending
  sleepers : ∀ w ∈ z'.sleepers, w.task = n → w ∈ z.sleepers
  due : ∀ d ∈ z'.due, d.task = n → d ∈ z.due ∨ d.stage = .woken ∧ ∃ w ∈ z.sleepers, w.task = n

/-- What others do leaves a task alone, as long as they do not drop its timer. -/
def Leaves (n : Nat) (s s' : Automation) : Prop :=
  ∀ t, timerOf s'.scheduler n = some t → Spared n t s.scheduler s'.scheduler

/-- How the task of a timer can end. -/
inductive Ends (n : Nat) (s s' : Automation) : Prop
  /-- Another drops the timer. -/
  | cancelled (others : ¬ ∃ d rest, Turn n d rest s s') (gone : timerOf s'.scheduler n = none)
  /-- It drops its timer, since its trigger has lapsed or has no further time. -/
  | retires (d : Due) (rest : List Due) (turn : Turn n d rest s s') (t : Timer)
    (timer : timerOf s.scheduler n = some t)
    (why : t.Lapsed s ∨
      ∃ e, t.sought s.clock.instant = .error e ∧ e.isInvalidSchedule = true)
    (dropped : s'.scheduler.timers = s.scheduler.timers.erase t.triggerId)
  /-- The search for its next time runs past the calendar, and its timer stays. -/
  | fails (d : Due) (rest : List Due) (turn : Turn n d rest s s') (t : Timer)
    (timer : timerOf s.scheduler n = some t) (e : Error)
    (fault : t.sought s.clock.instant = .error e) (other : e.isInvalidSchedule = false)
    (kept : s'.scheduler.timers = s.scheduler.timers)

/-- In its turn a task fires for the time of its timer. -/
structure Ticks (n : Nat) (t : Timer) (s s' : Automation) : Prop where
  firing : firing s = some t
  task : t.task = n
  taken : s' = (takeTurn s).2

/-- The pace of a task. It fires for one time of its timer after another, each of them the next one
of the schedule after the time that was served and after the reading of the clock in the turn in
which it was sought; it asks for no negative delays; and once live it is so until it ends. -/
structure Paced (n : Nat) (s : Nat → Automation) : Prop where
  later : ∀ {i j t t'}, i < j → Ticks n t (s i) (s (i + 1)) → Ticks n t' (s j) (s (j + 1)) →
    t.Alike t' ∧ t.nextRun < t'.nextRun
  next : ∀ {i j t t'}, i < j → Ticks n t (s i) (s (i + 1)) → Ticks n t' (s j) (s (j + 1)) →
    (∀ k, i < k → k < j → ∀ t'', ¬ Ticks n t'' (s k) (s (k + 1))) →
    ∃ k d rest, i ≤ k ∧ k < j ∧ Turn n d rest (s k) (s (k + 1)) ∧
      t.sought (s k).clock.instant = .ok t'.nextRun ∧
      (s k).clock.instant < t'.nextRun ∧ t.nextRun < t'.nextRun
  delays : ∀ {i d rest}, Turn n d rest (s i) (s (i + 1)) →
    ∃ added, (s (i + 1)).scheduler.delays = (s i).scheduler.delays ++ added ∧
      ∀ v ∈ added, v.IsDelay
  ends : ∀ {i}, (s i).scheduler.Live n →
    (s (i + 1)).scheduler.Live n ∨ Ends n (s i) (s (i + 1))

/-- A course of events, seen by one task: it takes its turns, and in between others may do anything
that leaves it alone. -/
structure Course (n : Nat) (s : Nat → Automation) : Prop where
  tidy : ∀ i, (s i).scheduler.Tidy
  step : ∀ i, (∃ d rest, Turn n d rest (s i) (s (i + 1))) ∨ Leaves n (s i) (s (i + 1))

variable {n : Nat} {s s' : Automation} {t t' : Timer} {d : Due} {rest : List Due}

/-- What a turn of a task does to its timer. -/
theorem Turn.outcome (h : Turn n d rest s s') (htidy : s.scheduler.Tidy)
    (ht : timerOf s.scheduler n = some t) : ∃ z', t.Outcome d.stage (t.Lapsed s) s.clock
      (s.scheduler.popped d rest) z' ∧ s'.scheduler = { z' with current := none } := by
  have hpass := htidy.pass_ne ht
  have hmem := htidy.mem ht
  rw [← h.task] at ht hpass
  rw [h.taken]
  exact takeTurn_outcome htidy.texts hmem h.due hpass ht

/-- What a timer asks to wait for in its turn is no negative length of time. -/
theorem Turn.delays (h : Turn n d rest s s') (htidy : s.scheduler.Tidy) :
    ∃ added, s'.scheduler.delays = s.scheduler.delays ++ added ∧ ∀ v ∈ added, v.IsDelay := by
  obtain ⟨t, ht⟩ := h.timer
  obtain ⟨z', houtcome, hs'⟩ := h.outcome htidy ht
  rw [hs']
  exact houtcome.delays

theorem Turn.later (h : Turn n d rest s s') (htidy : s.scheduler.Tidy)
    (ht : timerOf s.scheduler n = some t) (ht' : timerOf s'.scheduler n = some t') :
    (t' = t ∧ d.stage = .waiting ∧ Rested n s'.scheduler) ∨
      (t' = t ∧ d.stage ≠ .waiting ∧ n ∉ s'.scheduler.idle) ∨
      (t.Next s.clock.instant t' ∧ d.stage ≠ .waiting ∧ Rested n s'.scheduler) := by
  obtain ⟨z', houtcome, hs'⟩ := h.outcome htidy ht
  obtain rfl := h.task
  have hkept : timerOf z' d.task = some t' := by rwa [hs'] at ht'
  have hlater := outcome_later houtcome htidy h.due ht hkept
  rw [hs']
  exact hlater

theorem Ticks.turn (h : Ticks n t s s') : ∃ d rest, Turn n d rest s s' ∧ d.stage = .woken ∧
    timerOf s.scheduler n = some t := by
  obtain ⟨d, rest, hdue, hwoken, -, ht⟩ := firing_eq_some h.firing
  have htask : d.task = n := (task_of_timerOf ht).symm.trans h.task
  have ht : timerOf s.scheduler n = some t := htask ▸ ht
  exact ⟨d, rest, ⟨⟨t, ht⟩, hdue, htask, h.taken⟩, hwoken, ht⟩

theorem Turn.live_or_ends (h : Turn n d rest s s') (htidy : s.scheduler.Tidy)
    (htidy' : s'.scheduler.Tidy) : s'.scheduler.Live n ∨ Ends n s s' := by
  obtain ⟨t, ht⟩ := h.timer
  have hmem := htidy.mem ht
  have htask := task_of_timerOf ht
  obtain ⟨z', houtcome, hs'⟩ := h.outcome htidy ht
  rcases outcome_live houtcome htidy.texts hmem with ⟨hpending, t', hmem', htask'⟩ |
    ⟨why, hdropped⟩ | ⟨e, hfault, hother, hkept⟩
  · left
    rw [← htask, ← htask']
    rw [← htask'] at hpending
    rw [hs'] at htidy' ⊢
    exact ⟨hpending, t', htidy'.timerOf_of_mem hmem'⟩
  · exact .inr (.retires d rest h t ht why (hs' ▸ hdropped))
  · exact .inr (.fails d rest h t ht e hfault hother (hs' ▸ hkept))

/-- A task that is woken fires in its turn. -/
theorem Turn.ticks (h : Turn n d rest s s') (htidy : s.scheduler.Tidy) (hwoken : d.stage = .woken)
    (ht : timerOf s.scheduler n = some t) : Ticks n t s s' := by
  refine ⟨?_, task_of_timerOf ht, h.taken⟩
  have hpass := htidy.pass_ne ht
  obtain ⟨task, stage⟩ := d
  obtain rfl : stage = .woken := hwoken
  obtain rfl : task = n := h.task
  rw [firing, h.due]
  dsimp only
  rw [if_neg hpass, ht]

/-- A task that is idle waits for the time of its timer, or is about to. -/
theorem Turn.stage_of_rested (h : Turn n d rest s s') (hrested : Rested n s.scheduler) :
    d.stage = .waiting ∨ d.stage = .woken := by
  have hstage := hrested d (h.due ▸ List.mem_cons_self) h.task
  cases hd : d.stage with
  | waiting => exact .inl rfl
  | woken => exact .inr rfl
  | starting | stalled | concluding =>
    rw [hd] at hstage
    cases hstage

namespace Spared

variable {z z' : Scheduler}

theorem not_mem_idle (h : Spared n t z z') (hidle : n ∉ z.idle) : n ∉ z'.idle := by
  rw [mem_idle, not_or] at hidle
  rw [mem_idle]
  rintro (⟨w, hw, htask⟩ | ⟨d, hd, hstage, htask⟩)
  · exact hidle.1 ⟨w, h.sleepers w hw htask, htask⟩
  · rcases h.due d hd htask with hold | ⟨-, hsleeps⟩
    · exact hidle.2 ⟨d, hold, hstage, htask⟩
    · exact hidle.1 hsleeps

theorem rested (h : Spared n t z z') (hrested : Rested n z) : Rested n z' := by
  intro d hd htask
  rcases h.due d hd htask with hold | ⟨hwoken, -⟩
  · exact hrested d hold htask
  · rw [hwoken]
    rfl

end Spared

namespace Course

variable {s : Nat → Automation} {i j : Nat}

/-- A live task goes on, or it ends in one of three ways. -/
theorem live_or_ends (h : Course n s) (hlive : (s i).scheduler.Live n) :
    (s (i + 1)).scheduler.Live n ∨ Ends n (s i) (s (i + 1)) := by
  by_cases hturn : ∃ d rest, Turn n d rest (s i) (s (i + 1))
  · obtain ⟨d, rest, hturn⟩ := hturn
    exact hturn.live_or_ends (h.tidy i) (h.tidy (i + 1))
  · have hleaves := (h.step i).resolve_left hturn
    cases ht : timerOf (s (i + 1)).scheduler n with
    | none => exact .inr (.cancelled hturn ht)
    | some t => exact .inl ⟨(hleaves t ht).pending hlive.1, t, ht⟩

/-- After a task has fired for the time of its timer, either it is still busy with that, or the
timer went on to its next time in one of the turns since, and the task waits for it. -/
def Since (n : Nat) (s : Nat → Automation) (i : Nat) (t : Timer) (j : Nat) : Prop :=
  ∀ t', timerOf (s j).scheduler n = some t' → (t' = t ∧ n ∉ (s j).scheduler.idle) ∨
    (∃ k d rest, i ≤ k ∧ k < j ∧ Turn n d rest (s k) (s (k + 1)) ∧
      t.Next (s k).clock.instant t') ∧ Rested n (s j).scheduler

theorem since_tick (h : Course n s) (hticks : Ticks n t (s i) (s (i + 1))) :
    Since n s i t (i + 1) := by
  obtain ⟨d, rest, hturn, hwoken, ht⟩ := hticks.turn
  intro t' ht'
  rcases hturn.later (h.tidy i) ht ht' with ⟨-, hwaiting, -⟩ | ⟨hsame, -, hidle⟩ |
    ⟨hnext, -, hrested⟩
  · rw [hwoken] at hwaiting
    cases hwaiting
  · exact .inl ⟨hsame, hidle⟩
  · exact .inr ⟨⟨i, d, rest, Nat.le_refl i, Nat.lt_succ_self i, hturn, hnext⟩, hrested⟩

theorem since_turn (h : Course n s) (hsince : Since n s i t j) (hij : i < j)
    (hturn : Turn n d rest (s j) (s (j + 1)))
    (hquiet : ∀ t', ¬ Ticks n t' (s j) (s (j + 1))) : Since n s i t (j + 1) := by
  intro t'' ht''
  obtain ⟨t', ht⟩ := hturn.timer
  have hlater := hturn.later (h.tidy j) ht ht''
  rcases hsince t' ht with ⟨rfl, hidle⟩ | ⟨hnext, hrested⟩
  · -- The task is busy, so that its step is not one for which it waited.
    have hbusy : d.stage ≠ .waiting := by
      intro hstage
      refine hidle (mem_idle.mpr (.inr ⟨d, hturn.due ▸ List.mem_cons_self, ?_, hturn.task⟩))
      rw [hstage]
      rfl
    rcases hlater with ⟨-, hwaiting, -⟩ | ⟨hsame, -, hidle'⟩ | ⟨hnext, -, hrested⟩
    · exact absurd hwaiting hbusy
    · exact .inl ⟨hsame, hidle'⟩
    · exact .inr ⟨⟨j, d, rest, Nat.le_of_lt hij, Nat.lt_succ_self j, hturn, hnext⟩, hrested⟩
  · have hwaiting : d.stage = .waiting := (hturn.stage_of_rested hrested).resolve_right
      fun hwoken => hquiet t' (hturn.ticks (h.tidy j) hwoken ht)
    rcases hlater with ⟨rfl, -, hrested'⟩ | ⟨-, hother, -⟩ | ⟨-, hother, -⟩
    · obtain ⟨k, d', rest', hik, hkj, hturn', hnext⟩ := hnext
      exact .inr ⟨⟨k, d', rest', hik, Nat.lt_succ_of_lt hkj, hturn', hnext⟩, hrested'⟩
    · exact absurd hwaiting hother
    · exact absurd hwaiting hother

theorem since_leaves (hsince : Since n s i t j) (hleaves : Leaves n (s j) (s (j + 1))) :
    Since n s i t (j + 1) := by
  intro t' ht'
  have hspared := hleaves t' ht'
  rcases hsince t' hspared.timer with ⟨hsame, hidle⟩ | ⟨hnext, hrested⟩
  · exact .inl ⟨hsame, hspared.not_mem_idle hidle⟩
  · obtain ⟨k, d, rest, hik, hkj, hturn, hnext⟩ := hnext
    exact .inr ⟨⟨k, d, rest, hik, Nat.lt_succ_of_lt hkj, hturn, hnext⟩, hspared.rested hrested⟩

/-- As long as the task does not fire again. -/
theorem since (h : Course n s) (hticks : Ticks n t (s i) (s (i + 1))) (hij : i < j)
    (hquiet : ∀ k, i < k → k < j → ∀ t', ¬ Ticks n t' (s k) (s (k + 1))) : Since n s i t j := by
  induction j, hij using Nat.le_induction with
  | base => exact h.since_tick hticks
  | succ j hij ih =>
    have hsince := ih fun k hik hkj => hquiet k hik (Nat.lt_succ_of_lt hkj)
    rcases h.step j with ⟨d, rest, hturn⟩ | hleaves
    · exact h.since_turn hsince hij hturn (hquiet j hij (Nat.lt_succ_self j))
    · exact since_leaves hsince hleaves

/-- The time for which a task fires next is the one that was sought in a turn since. -/
theorem next_tick (h : Course n s) (hticks : Ticks n t (s i) (s (i + 1)))
    (hticks' : Ticks n t' (s j) (s (j + 1))) (hij : i < j)
    (hquiet : ∀ k, i < k → k < j → ∀ t'', ¬ Ticks n t'' (s k) (s (k + 1))) :
    ∃ k d rest, i ≤ k ∧ k < j ∧ Turn n d rest (s k) (s (k + 1)) ∧
      t.Next (s k).clock.instant t' := by
  obtain ⟨d, rest, hturn, hwoken, ht'⟩ := hticks'.turn
  rcases h.since hticks hij hquiet t' ht' with ⟨-, hidle⟩ | ⟨hnext, -⟩
  · refine absurd (mem_idle.mpr (.inr ⟨d, hturn.due ▸ List.mem_cons_self, ?_, hturn.task⟩)) hidle
    rw [hwoken]
    rfl
  · exact hnext

/-- However often a task fires, it is for a later time of the same schedule. -/
theorem ticks_later (h : Course n s) (hij : i < j) (hticks : Ticks n t (s i) (s (i + 1)))
    (hticks' : Ticks n t' (s j) (s (j + 1))) : t.Alike t' ∧ t.nextRun < t'.nextRun := by
  induction hlength : j - i using Nat.strong_induction_on generalizing i j t t' with
  | _ length ih =>
    -- A tick in between splits the stretch in two shorter ones.
    by_cases hbetween : ∃ k t'', i < k ∧ k < j ∧ Ticks n t'' (s k) (s (k + 1))
    · obtain ⟨k, t'', hik, hkj, hticks''⟩ := hbetween
      obtain ⟨halike, hlater⟩ := ih (k - i) (by omega) hik hticks hticks'' rfl
      obtain ⟨halike', hlater'⟩ := ih (j - k) (by omega) hkj hticks'' hticks' rfl
      exact ⟨halike.trans halike', Int.lt_trans hlater hlater'⟩
    · obtain ⟨-, -, -, -, ht⟩ := hticks.turn
      obtain ⟨k, d, rest, -, -, -, hnext⟩ := h.next_tick hticks hticks' hij
        fun k hik hkj t'' hticks'' => hbetween ⟨k, t'', hik, hkj, hticks''⟩
      have hzone : t.zone ∈ Zone.all := (h.tidy i).zones _ ((h.tidy i).mem ht)
      exact ⟨hnext.alike, Int.lt_of_le_of_lt (Int.le_max_right _ _) (hnext.later hzone)⟩

/-- Whatever the others do to the clock, a task keeps its pace. -/
theorem paced (h : Course n s) : Paced n s where
  later := h.ticks_later
  next hij hticks hticks' hquiet := by
    obtain ⟨-, -, -, -, ht⟩ := hticks.turn
    obtain ⟨k, d, rest, hik, hkj, hturn, hnext⟩ := h.next_tick hticks hticks' hij hquiet
    have hzone : _ ∈ Zone.all := (h.tidy _).zones _ ((h.tidy _).mem ht)
    obtain ⟨hclock, hserved⟩ := Int.max_lt.mp (hnext.later hzone)
    exact ⟨k, d, rest, hik, hkj, hturn, hnext.sought, hclock, hserved⟩
  delays hturn := hturn.delays (h.tidy _)
  ends := h.live_or_ends

end Course
end Automation

end ProcessTriggers
