import ProcessTriggers.Proofs.Rebuilds
import ProcessTriggers.Proofs.TimerOutcomes
import ProcessTriggers.Proofs.TimerSoundness

/-!
What a turn of a task does to the timers. A timer whose task was woken goes on to a later time, or
its task has an attempt in hand or nothing at all to do any more.
-/

namespace ProcessTriggers

open Action Automation

/-- The second timer is the first with a later time. -/
def Timer.Advances (t t' : Timer) : Prop := ∃ nextRun, t.nextRun < nextRun ∧ t' = { t with nextRun }

namespace Scheduler

/-- No number is that of two tasks, each task has one thing to do at most, and the zones of the
timers are known. -/
structure Orderly (z : Scheduler) : Prop where
  pending : ∀ n, z.pending.count n ≤ if n ≤ z.lastTask then 1 else 0
  owners : ∀ n, z.owners.count n ≤ if n ≤ z.lastTask then 1 else 0
  zones : ∀ e ∈ z.timers, e.2.zone ∈ Zone.all

/-- What an operation can do to the timers. Each of them was there, or is a former one with a later
time, or was built; one that was there has a task in `tasks` if the task may wait again. -/
structure Moves (now : Instant) (tasks : Nat → Prop) (z z' : Scheduler) : Prop where
  lastTask : z.lastTask ≤ z'.lastTask
  pending : ∀ n, z'.pending.count n ≤ z.pending.count n + z.fresh z' n
  owners : ∀ n, z'.owners.count n ≤ z.owners.count n + z.fresh z' n
  timers : ∀ e ∈ z'.timers, z.Built now z' e.2 ∨
    (∃ e₀ ∈ z.timers, e₀.1 = e.1 ∧ e₀.2.Advances e.2) ∨
    e ∈ z.timers ∧ (e.2.task ∈ z'.idle → tasks e.2.task)

variable {now : Instant} {z z' : Scheduler}

theorem Moves.refl (now : Instant) (z : Scheduler) : Moves now (· ∈ z.idle) z z where
  lastTask := Nat.le_refl _
  pending _ := Nat.le_add_right _ _
  owners _ := Nat.le_add_right _ _
  timers _ he := .inr (.inr ⟨he, id⟩)

theorem Moves.mono {tasks tasks' : Nat → Prop} (h : Moves now tasks z z')
    (hsub : ∀ n, tasks n → tasks' n) : Moves now tasks' z z' where
  lastTask := h.lastTask
  pending := h.pending
  owners := h.owners
  timers e he := (h.timers e he).imp id (Or.imp id (And.imp id fun hidle hn => hsub _ (hidle hn)))

/-- It does not matter for the timers which task takes its turn. -/
theorem Moves.settled {tasks : Nat → Prop} (h : Moves now tasks z z') :
    Moves now tasks z { z' with current := none } where
  lastTask := h.lastTask
  pending := h.pending
  owners := h.owners
  timers e he := (h.timers e he).imp (fun hb => ⟨hb.task, hb.zone, hb.first⟩) id

theorem Moves.orderly {tasks : Nat → Prop} (h : Moves now tasks z z') (ho : Orderly z) :
    Orderly z' := by
  have hfresh : ∀ n, (if n ≤ z.lastTask then 1 else 0) + z.fresh z' n ≤
      if n ≤ z'.lastTask then 1 else 0 := by
    intro n
    have hlast := h.lastTask
    unfold fresh
    split <;> split <;> split <;> omega
  refine ⟨fun n => ?_, fun n => ?_, fun e he => ?_⟩
  · have hpending := Nat.add_le_add_right (ho.pending n) (z.fresh z' n)
    exact Nat.le_trans (h.pending n) (Nat.le_trans hpending (hfresh n))
  · have howners := Nat.add_le_add_right (ho.owners n) (z.fresh z' n)
    exact Nat.le_trans (h.owners n) (Nat.le_trans howners (hfresh n))
  · rcases h.timers e he with hbuilt | ⟨e₀, he₀, -, nextRun, -, hadvanced⟩ | ⟨hold, -⟩
    · exact hbuilt.zone
    · rw [hadvanced]
      exact ho.zones e₀ he₀
    · exact ho.zones e hold

/-- A task is that of one timer only. -/
theorem timer_unique_of_nodup (h : z.owners.Nodup) {e e' : Value × Timer} (he : e ∈ z.timers)
    (he' : e' ∈ z.timers) (htask : e.2.task = e'.2.task) : e = e' :=
  List.inj_on_of_nodup_map (List.nodup_append.mp h).1 he he' htask

/-- The task of the periodic pass is that of no timer. -/
theorem task_ne_pass_of_nodup (h : z.owners.Nodup) {e : Value × Timer} (he : e ∈ z.timers) {n : Nat}
    (hpass : z.pass = some n) : e.2.task ≠ n := by
  refine (List.nodup_append.mp h).2.2 _ (List.mem_map_of_mem he) n ?_
  rw [hpass]
  exact List.mem_singleton_self n

namespace Orderly

theorem le_of_owner (h : Orderly z) {n : Nat} (hn : n ∈ z.owners) : n ≤ z.lastTask := by
  have hcount := h.owners n
  have hpos := List.count_pos_iff.mpr hn
  split at hcount <;> omega

theorem nodup_owners (h : Orderly z) : z.owners.Nodup := by
  rw [List.nodup_iff_count_le_one]
  intro n
  have hcount := h.owners n
  split at hcount <;> omega

theorem nodup_pending (h : Orderly z) : z.pending.Nodup := by
  rw [List.nodup_iff_count_le_one]
  intro n
  have hcount := h.pending n
  split at hcount <;> omega

theorem timer_unique (h : Orderly z) {e e' : Value × Timer} (he : e ∈ z.timers)
    (he' : e' ∈ z.timers) (htask : e.2.task = e'.2.task) : e = e' :=
  timer_unique_of_nodup h.nodup_owners he he' htask

theorem task_ne_pass (h : Orderly z) {e : Value × Timer} (he : e ∈ z.timers) {n : Nat}
    (hpass : z.pass = some n) : e.2.task ≠ n := task_ne_pass_of_nodup h.nodup_owners he hpass

theorem mem_owners {e : Value × Timer} (he : e ∈ z.timers) : e.2.task ∈ z.owners :=
  List.mem_append_left _ (List.mem_map_of_mem he)

end Orderly

/-- Where timers are only dropped and built, none that stays begins to wait. -/
theorem Rebuilt.moves (h : Rebuilt now z z') (ho : Orderly z) : Moves now (· ∈ z.idle) z z' where
  lastTask := h.lastTask
  pending := h.pending
  owners := h.owners
  timers e he := by
    rcases h.timers e he with hold | hbuilt
    · refine .inr (.inr ⟨hold, fun hidle => (h.idle _ hidle).resolve_right ?_⟩)
      exact Nat.not_lt.mpr (ho.le_of_owner (Orderly.mem_owners hold))
    · exact .inl hbuilt

/-! The step of a timer. -/

/-- What the step of a timer does to the scheduler. -/
inductive Stepped (t : Timer) (stage : Stage) (z : Scheduler) : Scheduler → Prop
  | waits (h : stage = .waiting) (wake : Option Stamp) (delays : List Value) :
    Stepped t stage z { z with sleepers := z.sleepers ++ [⟨t.task, wake⟩], delays }
  | rests {z' : Scheduler} (h : Dropped z z') : Stepped t stage z z'
  | attempts {stage' : Stage} (h : stage'.attempt? ≠ none) :
    Stepped t stage z { z with due := z.due ++ [⟨t.task, stage'⟩] }
  | advances {nextRun : Instant} (h : t.nextRun < nextRun) (wake : Option Stamp)
    (delays : List Value) : Stepped t stage z { z with
      timers := z.timers.put t.triggerId { t with nextRun }
      sleepers := z.sleepers ++ [⟨t.task, wake⟩]
      delays }

variable {s : Automation} {t : Timer} {stage : Stage}

/-- What becomes of a timer in its turn is one of these. -/
theorem Stepped.ofOutcome {lapsed : Prop} {clock : Stamp}
    (h : t.Outcome stage lapsed clock z z') (hz : t.zone ∈ Zone.all) : Stepped t stage z z' := by
  cases h with
  | waits fresh => exact .waits fresh _ _
  | attempts fresh stage' busy => exact .attempts busy
  | advances fresh nextRun next =>
    -- The search starts from the time that was just served, or after it.
    have hlater := Int.lt_of_le_of_lt (Int.le_max_right _ _) (Cron.lt_nextFire hz next)
    exact .advances hlater _ _
  | retires => exact .rests ⟨List.filter_sublist, .refl _, .refl _, .refl _, rfl⟩
  | fails => exact .rests (.refl z)

/-! The turn of a task. -/

/-- The scheduler while the first of the due steps is taken. -/
def popped (d : Due) (rest : List Due) (z : Scheduler) : Scheduler :=
  { z with due := rest, current := some d.task }

variable {d : Due} {rest : List Due}

theorem count_pending_popped (hdue : z.due = d :: rest) (n : Nat) :
    z.pending.count n = (z.popped d rest).pending.count n + [d.task].count n := by
  simp only [pending, popped, hdue, List.map_cons, List.count_append, List.count_cons,
    List.count_nil]
  omega

/-- The task whose step is taken does not wait besides. -/
theorem Orderly.idle_popped (ho : Orderly z) (hdue : z.due = d :: rest) {n : Nat}
    (hn : n ∈ (z.popped d rest).idle) : n ∈ z.idle ∧ n ≠ d.task := by
  have hpending : n ∈ (z.popped d rest).pending := by
    rw [mem_idle] at hn
    rw [Scheduler.pending, List.mem_append, List.mem_map, List.mem_map]
    rcases hn with hn | ⟨d', hd', -, htask⟩
    · exact .inl hn
    · exact .inr ⟨d', hd', htask⟩
  constructor
  · rw [mem_idle] at hn ⊢
    rcases hn with hn | ⟨d', hd', hstage⟩
    · exact .inl hn
    · exact .inr ⟨d', hdue ▸ List.mem_cons_of_mem d hd', hstage⟩
  · intro htask
    have hcount := count_pending_popped hdue n
    have hpos := List.count_pos_iff.mpr hpending
    have hone := List.nodup_iff_count_le_one.mp ho.nodup_pending n
    rw [htask, List.count_singleton_self] at hcount
    rw [htask] at hpos hone
    omega

theorem idle_sleep {n : Nat} (task : Nat) (wake : Option Stamp) (delays : List Value)
    (hn : n ∈ idle { z with sleepers := z.sleepers ++ [⟨task, wake⟩], delays }) :
    n ∈ z.idle ∨ n = task := by
  rw [mem_idle] at hn ⊢
  rcases hn with ⟨w, hw, htask⟩ | hdue
  · rcases List.mem_append.mp hw with hw | hw
    · exact .inl (.inl ⟨w, hw, htask⟩)
    · rw [List.mem_singleton.mp hw] at htask
      exact .inr htask.symm
  · exact .inl (.inr hdue)

theorem count_pending_sleep (z : Scheduler) (n task : Nat) (wake : Option Stamp)
    (delays : List Value) :
    (pending { z with sleepers := z.sleepers ++ [⟨task, wake⟩], delays }).count n =
      z.pending.count n + [task].count n := by
  simp only [pending, List.map_append, List.map_cons, List.map_nil, List.count_append]
  omega

/-- What a turn that was taken tells of the tasks that may wait after it: they waited before, and
the task of the turn had only begun. -/
def Unspent (z : Scheduler) (d : Due) (n : Nat) : Prop :=
  n ∈ z.idle ∧ (n = d.task → d.stage = .waiting)

theorem Orderly.unspent_popped (ho : Orderly z) (hdue : z.due = d :: rest) {n : Nat}
    (hn : n ∈ (z.popped d rest).idle) : z.Unspent d n :=
  ⟨(ho.idle_popped hdue hn).1, fun heq => absurd heq (ho.idle_popped hdue hn).2⟩

/-- Timers are dropped and built while the step is taken, and its task has nothing to do after. -/
theorem Rebuilt.moves_popped (h : Rebuilt now (z.popped d rest) z') (ho : Orderly z)
    (hdue : z.due = d :: rest) : Moves now (z.Unspent d) z z' where
  lastTask := h.lastTask
  pending n := by
    have hcount := count_pending_popped hdue n
    have hpending : z'.pending.count n ≤ (z.popped d rest).pending.count n + z.fresh z' n :=
      h.pending n
    omega
  owners := h.owners
  timers e he := by
    rcases h.timers e he with hold | hbuilt
    · refine .inr (.inr ⟨hold, fun hn => ?_⟩)
      rcases h.idle _ hn with hn | hn
      · exact ho.unspent_popped hdue hn
      · exact absurd (ho.le_of_owner (Orderly.mem_owners hold)) (Nat.not_le.mpr hn)
    · exact .inl ⟨hbuilt.task, hbuilt.zone, hbuilt.first⟩

/-- In its step a timer builds no other. -/
theorem Stepped.lastTask (h : Stepped t stage z z') : z'.lastTask = z.lastTask := by
  cases h with
  | rests hdropped => exact hdropped.lastTask
  | _ => rfl

/-- The timer of a task takes the step that is due. -/
theorem Stepped.moves (h : Stepped t d.stage (z.popped d rest) z') (ho : Orderly z)
    (htexts : Keyed.Texts z.timers) (hdue : z.due = d :: rest)
    (hmem : (t.triggerId, t) ∈ z.timers) (htask : t.task = d.task) :
    Moves now (z.Unspent d) z z' := by
  have hcount := count_pending_popped hdue
  cases h with
  | waits hstage wake delays =>
    refine ⟨Nat.le_refl _, fun n => ?_, fun n => Nat.le_add_right _ _, fun e he => ?_⟩
    · rw [count_pending_sleep, htask, hcount]
      exact Nat.le_add_right _ _
    · refine .inr (.inr ⟨he, fun hn => ?_⟩)
      rcases idle_sleep t.task wake delays hn with hn | hn
      · exact ho.unspent_popped hdue hn
      · -- The task was about to wait already.
        refine ⟨?_, fun _ => hstage⟩
        rw [hn, htask, mem_idle, hdue]
        exact .inr ⟨d, List.mem_cons_self, by rw [hstage]; rfl, rfl⟩
  | rests hdropped => exact (Rebuilt.ofDropped hdropped).moves_popped ho hdue
  | @attempts stage' hattempt =>
    refine ⟨Nat.le_refl _, fun n => ?_, fun n => Nat.le_add_right _ _, fun e he => ?_⟩
    · rw [hcount, ← htask]
      simp only [pending, List.map_append, List.map_cons, List.map_nil, List.count_append]
      omega
    · refine .inr (.inr ⟨he, fun hn => ho.unspent_popped hdue ?_⟩)
      rw [mem_idle] at hn ⊢
      rcases hn with hn | ⟨d', hd', hstage, hn⟩
      · exact .inl hn
      · rcases List.mem_append.mp hd' with hd' | hd'
        · exact .inr ⟨d', hd', hstage, hn⟩
        · rw [List.mem_singleton.mp hd'] at hstage
          exact absurd hstage hattempt
  | @advances nextRun hlater wake delays =>
    -- The timer is put in its own place, so that the tasks are those from before.
    have hplace := Keyed.map_put_of_get? Timer.task
      (htexts.get?_eq_some_iff.mpr hmem) (y := { t with nextRun }) rfl
    have howners : (z.timers.put t.triggerId { t with nextRun }).map (·.2.task) =
        z.timers.map (·.2.task) := by
      simpa only [List.map_map, Function.comp_def] using congrArg (List.map Prod.snd) hplace
    refine ⟨Nat.le_refl _, fun n => ?_, fun n => ?_, fun e he => ?_⟩
    · rw [hcount, ← htask]
      exact Nat.le_trans (Nat.le_of_eq (count_pending_sleep _ n t.task wake delays))
        (Nat.le_add_right _ _)
    · refine Nat.le_trans (Nat.le_of_eq ?_) (Nat.le_add_right _ _)
      simp only [Scheduler.owners, popped, howners]
    · rcases htexts.mem_put.mp he with rfl | ⟨he, hkey⟩
      · exact .inr (.inl ⟨_, hmem, rfl, nextRun, hlater, rfl⟩)
      · refine .inr (.inr ⟨he, fun hn => ?_⟩)
        have hsleep : e.2.task ∈ (z.popped d rest).idle ∨ e.2.task = t.task :=
          idle_sleep (z := z.popped d rest) t.task wake delays hn
        rcases hsleep with hn | hn
        · exact ho.unspent_popped hdue hn
        · exact absurd (congrArg Prod.fst (ho.timer_unique he hmem hn)) hkey

/-- The task of the periodic pass goes back to sleep, whatever timers it dropped and built. -/
theorem Rebuilt.moves_pass (h : Rebuilt now (z.popped d rest) z') (ho : Orderly z)
    (hdue : z.due = d :: rest) (hpass : z.pass = some d.task) (wake : Option Stamp)
    (delays : List Value) : Moves now (z.Unspent d) z
      { z' with sleepers := z'.sleepers ++ [⟨d.task, wake⟩], delays } := by
  have hmoves := h.moves_popped ho hdue
  refine ⟨h.lastTask, fun n => ?_, h.owners, fun e he => ?_⟩
  · have hcount := count_pending_popped hdue n
    have hpending : z'.pending.count n ≤ (z.popped d rest).pending.count n + z.fresh z' n :=
      h.pending n
    have hsleep := count_pending_sleep z' n d.task wake delays
    have hfresh : z.fresh { z' with sleepers := z'.sleepers ++ [⟨d.task, wake⟩], delays } n =
      z.fresh z' n := rfl
    omega
  · rcases hmoves.timers e he with hbuilt | hadvanced | ⟨hold, hidle⟩
    · exact .inl ⟨hbuilt.task, hbuilt.zone, hbuilt.first⟩
    · exact .inr (.inl hadvanced)
    · refine .inr (.inr ⟨hold, fun hn => ?_⟩)
      rcases idle_sleep d.task wake delays hn with hn | hn
      · exact hidle hn
      · exact absurd hn (ho.task_ne_pass hold hpass)

theorem passStep_cases {F : Frame} (hF : F.Registers) (task : Nat) (stage : Stage)
    (s : Automation) : ∃ s₁ wake delays, F.holds s s₁ ∧ (passStep task stage s).2 =
      { s₁ with scheduler := { s₁.scheduler with
        sleepers := s₁.scheduler.sleepers ++ [⟨task, wake⟩], delays } } := by
  have hsleep : ∀ s₁, F.holds s s₁ → ∃ s₂ wake delays, F.holds s s₂ ∧
      ((do sleep task (← get).config.reconcileInterval) s₁).2 =
        { s₂ with scheduler := { s₂.scheduler with
          sleepers := s₂.scheduler.sleepers ++ [⟨task, wake⟩], delays } } :=
    fun s₁ h => ⟨s₁, _, _, h, rfl⟩
  cases stage with
  | woken =>
    have hpass := reconcile_keeps hF s
    rw [passStep, bind_ok (attempt_run _ s)]
    cases (reconcile s).1 with
    | ok _ => exact hsleep _ hpass
    | error e =>
      obtain ⟨s₁, hlogged, hquiet⟩ := log_quiet .cron Log.error
        ("Error reconciling cron triggers: " ++ e.message) (reconcile s).2
      dsimp only
      rw [bind_ok hlogged]
      exact hsleep s₁ (F.trans hpass (F.quiet hquiet))
  | _ => exact hsleep s (F.refl s)

/-- A turn is taken, in which the step that is due first is gone through. -/
theorem takeTurn_run {s : Automation} (hdue : s.scheduler.due = d :: rest) :
    takeTurn s = change ({ · with current := none })
      ((if s.scheduler.pass = some d.task then passStep d.task d.stage
        else match timerOf s.scheduler d.task with
          | some t => timerStep t d.stage
          | none => return) { s with scheduler := s.scheduler.popped d rest }).2 := by
  rw [takeTurn, bind_get, hdue]
  dsimp only
  rw [change, bind_ok (modify_run _ s), step, bind_get, change, bind_ok (modify_run _ _),
    bind_ok (attempt_run _ _)]
  rfl

theorem task_of_timerOf {task : Nat} (ht : timerOf z task = some t) : t.task = task := by
  simpa using List.find?_some ht

/-- In the turn of a timer its step is taken. -/
theorem takeTurn_outcome (htexts : Keyed.Texts s.scheduler.timers)
    (hmem : (t.triggerId, t) ∈ s.scheduler.timers) (hdue : s.scheduler.due = d :: rest)
    (hpass : s.scheduler.pass ≠ some d.task) (ht : timerOf s.scheduler d.task = some t) :
    ∃ z', t.Outcome d.stage (t.Lapsed s) s.clock (s.scheduler.popped d rest) z' ∧
      (takeTurn s).2.scheduler = { z' with current := none } := by
  let popped : Automation := { s with scheduler := s.scheduler.popped d rest }
  have hcurrent : popped.scheduler.current = some t.task := congrArg some (task_of_timerOf ht).symm
  have hacts : t.Acts popped.scheduler :=
    ⟨htexts.text _ (Keyed.mem_keys hmem), htexts.get?_eq_some_iff.mpr hmem, hcurrent⟩
  rw [takeTurn_run hdue, if_neg hpass, ht]
  exact ⟨_, timerStep_outcome hacts d.stage, rfl⟩

theorem takeTurn_stepped (h : Sound s) (hdue : s.scheduler.due = d :: rest)
    (hpass : s.scheduler.pass ≠ some d.task) (ht : timerOf s.scheduler d.task = some t)
    (hz : t.zone ∈ Zone.all) : ∃ z', Stepped t d.stage (s.scheduler.popped d rest) z' ∧
      (takeTurn s).2.scheduler = { z' with current := none } := by
  obtain ⟨z', houtcome, hrun⟩ := takeTurn_outcome h.texts (timerOf_eq_some h ht) hdue hpass ht
  exact ⟨z', .ofOutcome houtcome hz, hrun⟩

/-- What a turn does to the timers. -/
theorem takeTurn_moves {s : Automation} (h : Sound s) (ho : Orderly s.scheduler)
    (hdue : s.scheduler.due = d :: rest) :
    Moves s.clock.instant (s.scheduler.Unspent d) s.scheduler (takeTurn s).2.scheduler := by
  by_cases hpass : s.scheduler.pass = some d.task
  · rw [takeTurn_run hdue, if_pos hpass]
    obtain ⟨s₁, wake, delays, hrebuilt, hrun⟩ := passStep_cases rebuiltFrame_registers d.task
      d.stage { s with scheduler := s.scheduler.popped d rest }
    rw [hrun]
    exact (hrebuilt.2.moves_pass ho hdue hpass wake delays).settled
  · cases ht : timerOf s.scheduler d.task with
    | none =>
      rw [takeTurn_run hdue, if_neg hpass, ht]
      exact ((Rebuilt.refl _ _).moves_popped ho hdue).settled
    | some t =>
      have hmem := timerOf_eq_some h ht
      obtain ⟨z', hstepped, hrun⟩ := takeTurn_stepped h hdue hpass ht (ho.zones _ hmem)
      rw [hrun]
      exact (hstepped.moves ho h.texts hdue hmem (task_of_timerOf ht)).settled

theorem count_cancel_le {w : Sleeper} (hw : w ∈ z.sleepers) (n : Nat) :
    ((cancel w.task z).sleepers.map (·.task)).count n + [w.task].count n ≤
      (z.sleepers.map (·.task)).count n := by
  by_cases hn : n = w.task
  · have hnone : n ∉ (cancel w.task z).sleepers.map (·.task) := by simp [cancel, hn]
    have hsome : 0 < (z.sleepers.map (·.task)).count n :=
      List.count_pos_iff.mpr (hn ▸ List.mem_map_of_mem hw)
    rw [List.count_eq_zero.mpr hnone, hn, List.count_singleton_self]
    rwa [hn] at hsome
  · have hnone : n ∉ [w.task] := by simpa using hn
    rw [List.count_eq_zero.mpr hnone]
    exact (List.filter_sublist.map _).count_le n

/-- A task is woken if it waits. -/
theorem wake_cases (task : Nat) (s : Automation) : (wake task s).2.scheduler = s.scheduler ∨
    ∃ w ∈ s.scheduler.sleepers, w.task = task ∧ (wake task s).2.scheduler =
      { cancel task s.scheduler with due := s.scheduler.due ++ [⟨task, .woken⟩] } := by
  by_cases hsleeps : s.scheduler.sleepers.any (·.task = task) = true
  · obtain ⟨w, hw, htask⟩ := List.any_eq_true.mp hsleeps
    refine .inr ⟨w, hw, of_decide_eq_true htask, ?_⟩
    rw [wake, bind_get, if_pos hsleeps]
    rfl
  · left
    rw [wake, bind_get, if_neg hsleeps]
    rfl

/-- A task that is woken waited before. -/
theorem wake_moves (task : Nat) (s : Automation) :
    Moves s.clock.instant (· ∈ s.scheduler.idle) s.scheduler (wake task s).2.scheduler := by
  rcases wake_cases task s with hrun | ⟨w, hw, rfl, hrun⟩
  · rw [hrun]
    exact .refl _ _
  · rw [hrun]
    refine ⟨Nat.le_refl _, fun n => ?_, fun n => Nat.le_add_right _ _, fun e he => ?_⟩
    · have hcount := count_cancel_le hw n
      simp only [pending, List.map_append, List.map_cons, List.map_nil, List.count_append]
        at hcount ⊢
      omega
    · refine .inr (.inr ⟨he, fun hn => ?_⟩)
      rw [mem_idle] at hn ⊢
      rcases hn with ⟨w', hw', hn⟩ | ⟨d', hd', hstage, hn⟩
      · exact .inl ⟨w', List.mem_of_mem_filter hw', hn⟩
      · rcases List.mem_append.mp hd' with hd' | hd'
        · exact .inr ⟨d', hd', hstage, hn⟩
        · rw [List.mem_singleton.mp hd'] at hn
          exact .inl ⟨w, hw, hn⟩

end Scheduler

namespace Operation

open Scheduler

/-- Whether an operation takes one turn at most. Those that take more take one after another. -/
def Single : Operation → Prop
  | runUntilIdle | release | advance .. => False
  | _ => True

/-- What a single operation does to the timers. -/
theorem perform_moves {op : Operation} (hop : op.Single) {s : Automation} (h : Sound s)
    (ho : Orderly s.scheduler) : Moves s.clock.instant (· ∈ s.scheduler.idle) s.scheduler
      (op.perform s).2.scheduler := by
  cases op with
  | runUntilIdle | release | advance => exact hop.elim
  | wake task => exact wake_moves task s
  | setClock t => exact .refl _ _
  | takeTurn =>
    cases hdue : s.scheduler.due with
    | nil =>
      rw [Operation.perform, Scheduler.takeTurn, bind_get, hdue]
      exact .refl _ _
    | cons d rest => exact (takeTurn_moves h ho hdue).mono fun _ => And.left
  | _ => exact (perform_rebuilds (by trivial) s).2.moves ho

end Operation
end ProcessTriggers
