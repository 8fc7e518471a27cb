import ProcessTriggers.Proofs.Pacing

/-!
The runs of the program, seen by one task. In every operation that is not its own turn the task is
left alone, unless its timer is dropped: others may wake it, and they begin and end tasks of their
own. So each live timer keeps its pace in every run.
-/

namespace ProcessTriggers

open Action Automation

namespace Scheduler

/-- Between two states tasks were ended and begun only. A task of a timer ends with its timer. -/
structure Renewed (z z' : Scheduler) : Prop where
  lastTask : z.lastTask ≤ z'.lastTask
  timers : ∀ e ∈ z'.timers, e ∈ z.timers ∨ z.lastTask < e.2.task
  sleepers : ∀ w ∈ z'.sleepers, w ∈ z.sleepers ∨ z.lastTask < w.task
  due : ∀ d ∈ z'.due, d ∈ z.due ∨ z.lastTask < d.task
  kept : ∀ e ∈ z.timers, e.2.task ≤ z.lastTask →
    (∀ e' ∈ z.timers, e'.2.task = e.2.task → e' ∈ z'.timers) →
    e.2.task ∈ z.pending → e.2.task ∈ z'.pending

namespace Renewed

variable {z z' z'' : Scheduler}

theorem ofDropped (h : Dropped z z') (hkept : ∀ e ∈ z'.timers, e.2.task ∈ z.pending →
    (∀ e' ∈ z.timers, e'.2.task = e.2.task → e' ∈ z'.timers) → e.2.task ∈ z'.pending) :
    Renewed z z' where
  lastTask := Nat.le_of_eq h.lastTask.symm
  timers _ he := .inl (h.timers.subset he)
  sleepers _ hw := .inl (h.sleepers.subset hw)
  due _ hd := .inl (h.due.subset hd)
  kept e he _ howners hpending := hkept e (howners e he rfl) hpending howners

theorem refl (z : Scheduler) : Renewed z z := ofDropped (.refl z) fun _ _ hpending _ => hpending

theorem trans (h : Renewed z z') (h' : Renewed z' z'') : Renewed z z'' where
  lastTask := Nat.le_trans h.lastTask h'.lastTask
  timers e he := (h'.timers e he).elim (h.timers e) fun hnew =>
    .inr (Nat.lt_of_le_of_lt h.lastTask hnew)
  sleepers w hw := (h'.sleepers w hw).elim (h.sleepers w) fun hnew =>
    .inr (Nat.lt_of_le_of_lt h.lastTask hnew)
  due d hd := (h'.due d hd).elim (h.due d) fun hnew =>
    .inr (Nat.lt_of_le_of_lt h.lastTask hnew)
  kept e he hle howners hpending := by
    have hlast := h.lastTask
    have hkept : ∀ e' ∈ z.timers, e'.2.task = e.2.task → e' ∈ z'.timers := fun e' he' htask =>
      (h'.timers e' (howners e' he' htask)).resolve_right (by omega)
    have hkept' : ∀ e' ∈ z'.timers, e'.2.task = e.2.task → e' ∈ z''.timers := fun e' he' htask =>
      howners e' ((h.timers e' he').resolve_right (by omega)) htask
    exact h'.kept e (hkept e he rfl) (by omega) hkept' (h.kept e he hle hkept hpending)

/-- A task was begun, for a timer or for the periodic pass. -/
theorem ofSpawn (hlast : z'.lastTask = z.lastTask + 1) (hsleepers : z'.sleepers = z.sleepers)
    (hdue : z'.due = z.due ++ [⟨z.lastTask + 1, .waiting⟩])
    (htimers : ∀ e ∈ z'.timers, e ∈ z.timers ∨ e.2.task = z.lastTask + 1) : Renewed z z' where
  lastTask := by omega
  timers e he := (htimers e he).imp id fun htask => by omega
  sleepers w hw := .inl (hsleepers ▸ hw)
  due d hd := by
    rw [hdue] at hd
    refine (List.mem_append.mp hd).imp id fun hnew => ?_
    rw [List.mem_singleton.mp hnew]
    exact Nat.lt_succ_self _
  kept e _ _ _ hpending := by
    rw [pending, hsleepers, hdue, List.map_append, ← List.append_assoc]
    exact List.mem_append_left _ hpending

/-- A timer was dropped, and its task was cancelled unless it took its turn. -/
theorem ofUnregister {key : Value} {t : Timer} (h : z.timers.get? key = some t) :
    Renewed z (let z := { z with timers := z.timers.erase key }
      if z.current = some t.task then z else cancel t.task z) := by
  obtain ⟨e, he, rfl⟩ := Option.map_eq_some_iff.mp h
  have hmem : e ∈ z.timers := List.mem_of_find?_eq_some he
  have hequal := List.find?_some he
  have hnot : e ∉ z.timers.erase key := fun hkept => by
    have hother := List.of_mem_filter hkept
    simp only [hequal, Bool.not_true, Bool.false_eq_true] at hother
  dsimp only
  split
  · exact ofDropped ⟨List.filter_sublist, .refl _, .refl _, .refl _, rfl⟩
      fun _ _ hpending _ => hpending
  · refine ofDropped ⟨List.filter_sublist, List.filter_sublist, .refl _, .refl _, rfl⟩
      fun e' he' hpending howners => ?_
    have htask : e'.2.task ≠ e.2.task := fun htask => hnot (howners e hmem htask.symm)
    rw [pending, List.mem_append, List.mem_map, List.mem_map] at hpending ⊢
    refine hpending.imp ?_ id
    rintro ⟨w, hw, hsleeps⟩
    exact ⟨w, List.mem_filter.mpr ⟨hw, decide_eq_true (hsleeps ▸ htask)⟩, hsleeps⟩

end Renewed
end Scheduler

/-- Tasks are ended and begun, and nothing else happens to the scheduler. -/
def renewedFrame : Frame where
  holds s s' := s.scheduler.Renewed s'.scheduler
  quiet h := h.scheduler ▸ .refl _
  trans := Scheduler.Renewed.trans

theorem renewed_of_eq {s s' : Automation} (h : s'.scheduler = s.scheduler) :
    s.scheduler.Renewed s'.scheduler := h ▸ .refl _

theorem renewedFrame_local : renewedFrame.Local := fun _ hscheduler => renewed_of_eq hscheduler

namespace Scheduler

theorem countTimers_renews : Keeps renewedFrame countTimers :=
  keeps_modify fun s => .refl s.scheduler

theorem unregister_renews (id : Value) : Keeps renewedFrame (unregister id) := by
  refine keeps_bind (keeps_ofExcept _) fun key => keeps_getBind fun s => ?_
  cases hget : s.scheduler.timers.get? key with
  | none => exact .refl _
  | some t =>
    refine holds_bind (Renewed.ofUnregister hget) fun _ => ?_
    exact keeps_bind countTimers_renews fun _ => log_keeps _ _ _

theorem renewedFrame_registers : renewedFrame.Registers where
  unregister := unregister_renews
  register t := by
    refine register_frame (unregister_renews t.id) countTimers_renews fun key _ _ _ => ?_
    refine keeps_modify fun s => .ofSpawn rfl rfl rfl fun e he => ?_
    exact (Keyed.mem_of_mem_put he).imp id fun htimer => congrArg Timer.task htimer

theorem start_renews : Keeps renewedFrame start := by
  have hrun : Keeps renewedFrame (change ({ · with running := true })) := keeps_modify fun s =>
    .ofDropped ⟨.refl _, .refl _, .refl _, .refl _, rfl⟩ fun _ _ hpending _ => hpending
  exact start_frame hrun (loadTriggers_keeps renewedFrame_registers)
    (keeps_modify fun s => .ofSpawn rfl rfl rfl fun _ he => .inl he)

theorem stop_renews : Keeps renewedFrame stop := by
  refine keeps_bind (keeps_modify fun s => ?_) fun _ =>
    keeps_bind countTimers_renews fun _ => log_keeps _ _ _
  refine .ofDropped ?_ fun e he => absurd he List.not_mem_nil
  exact ⟨List.nil_sublist _, List.nil_sublist _, List.nil_sublist _, List.nil_sublist _, rfl⟩

/-! The task is left alone. -/

variable {z z' : Scheduler} {n : Nat} {t : Timer} {d : Due} {rest : List Due}

theorem Renewed.spared (h : Renewed z z') (htidy : Tidy z) (hn : n ≤ z.lastTask)
    (ht : timerOf z' n = some t) : Spared n t z z' := by
  obtain ⟨key, hmem', rfl⟩ := mem_of_timerOf ht
  have hmem : (key, t) ∈ z.timers := (h.timers _ hmem').resolve_right (Nat.not_lt.mpr hn)
  have hkept : ∀ e ∈ z.timers, e.2.task = t.task → e ∈ z'.timers := fun e he htask =>
    htidy.timer_unique he hmem htask ▸ hmem'
  exact {
    timer := htidy.timerOf_of_mem hmem
    pending := h.kept (key, t) hmem hn hkept
    sleepers := fun w hw htask => (h.sleepers w hw).resolve_right (by omega)
    due := fun d hd htask => .inl ((h.due d hd).resolve_right (by omega)) }

/-- Other tasks begin to wait, or have their next steps due. -/
theorem spared_of_others {sleepers : List Sleeper} {due : List Due} (ht : timerOf z n = some t)
    (hsleepers : z'.sleepers = z.sleepers ++ sleepers) (hdue : z'.due = z.due ++ due)
    (hothers : (∀ w ∈ sleepers, w.task ≠ n) ∧ ∀ d ∈ due, d.task ≠ n) : Spared n t z z' where
  timer := ht
  pending hn := by
    rw [pending, List.mem_append] at hn ⊢
    rw [hsleepers, hdue, List.map_append, List.map_append]
    exact hn.imp (List.mem_append_left _) (List.mem_append_left _)
  sleepers w hw htask := by
    rw [hsleepers] at hw
    exact (List.mem_append.mp hw).resolve_right fun hnew => hothers.1 w hnew htask
  due d hd htask := by
    rw [hdue] at hd
    exact .inl ((List.mem_append.mp hd).resolve_right fun hnew => hothers.2 d hnew htask)

/-- The tasks have to do what they had to do before. -/
theorem spared_of_none (ht : timerOf z n = some t) (hsleepers : z'.sleepers = z.sleepers)
    (hdue : z'.due = z.due) : Spared n t z z' where
  timer := ht
  pending hn := by rwa [pending, hsleepers, hdue]
  sleepers w hw _ := hsleepers ▸ hw
  due d hd _ := .inl (hdue ▸ hd)

theorem spared_popped (hdue : z.due = d :: rest) (hother : d.task ≠ n)
    (ht : timerOf z n = some t) : Spared n t z (z.popped d rest) where
  timer := ht
  pending hn := by
    rw [pending, hdue, List.map_cons, List.mem_append, List.mem_cons] at hn
    refine List.mem_append.mpr (hn.imp id fun hn => hn.resolve_left ?_)
    exact fun htask => hother htask.symm
  sleepers _ hw _ := hw
  due _ hd _ := .inl (hdue ▸ List.mem_cons_of_mem d hd)

theorem Tidy.popped (h : Tidy z) (hdue : z.due = d :: rest) : Tidy (z.popped d rest) where
  texts := h.texts
  own := h.own
  zones := h.zones
  owners := h.owners
  pending := by
    refine h.pending.sublist (.append (.refl _) (.map _ ?_))
    rw [hdue]
    exact List.sublist_cons_self d rest

/-- What becomes of another timer in its turn. -/
theorem outcome_spares {u : Timer} {stage : Stage} {lapsed : Prop} {clock : Stamp}
    (h : u.Outcome stage lapsed clock z z') (htidy : Tidy z) (hother : u.task ≠ n)
    (ht : timerOf z' n = some t) : Spared n t z z' := by
  have hsleeper : ∀ wake, ∀ w ∈ [(⟨u.task, wake⟩ : Sleeper)], w.task ≠ n := fun wake w hw =>
    List.mem_singleton.mp hw ▸ hother
  have hdue : ∀ stage', ∀ d ∈ [(⟨u.task, stage'⟩ : Due)], d.task ≠ n := fun stage' d hd =>
    List.mem_singleton.mp hd ▸ hother
  have hnone : ∀ d ∈ ([] : List Due), d.task ≠ n := fun _ hd => absurd hd List.not_mem_nil
  cases h with
  | waits => exact spared_of_others ht rfl (List.append_nil _).symm ⟨hsleeper _, hnone⟩
  | attempts fresh stage' =>
    exact spared_of_others ht (List.append_nil _).symm rfl
      ⟨fun _ hw => absurd hw List.not_mem_nil, hdue stage'⟩
  | advances fresh nextRun =>
    obtain ⟨key, hmem', rfl⟩ := mem_of_timerOf ht
    rcases htidy.texts.mem_put.mp hmem' with hnew | ⟨hmem, -⟩
    · exact absurd (congrArg (·.2.task) hnew).symm hother
    · exact spared_of_others (htidy.timerOf_of_mem hmem) rfl (List.append_nil _).symm
        ⟨hsleeper _, hnone⟩
  | retires =>
    obtain ⟨key, hmem', rfl⟩ := mem_of_timerOf ht
    have hmem := (htidy.texts.mem_erase.mp hmem').1
    exact spared_of_none (htidy.timerOf_of_mem hmem) rfl rfl
  | fails => exact spared_of_none ht rfl rfl

end Scheduler

namespace Automation

open Scheduler

variable {n : Nat} {t : Timer} {d : Due} {rest : List Due} {s : Automation}

theorem Spared.trans {z z' z'' : Scheduler} (h : Spared n t z z') (h' : Spared n t z' z'') :
    Spared n t z z'' where
  timer := h.timer
  pending := h'.pending ∘ h.pending
  sleepers w hw htask := h.sleepers w (h'.sleepers w hw htask) htask
  due d hd htask := by
    rcases h'.due d hd htask with hd | ⟨hwoken, w, hw, hsleeps⟩
    · exact h.due d hd htask
    · exact .inr ⟨hwoken, w, h.sleepers w hw hsleeps, hsleeps⟩

/-- In the turn of another task. -/
theorem takeTurn_spares (htidy : s.scheduler.Tidy) (hn : n ≤ s.scheduler.lastTask)
    (hdue : s.scheduler.due = d :: rest) (hother : d.task ≠ n)
    (ht : timerOf (takeTurn s).2.scheduler n = some t) :
    Spared n t s.scheduler (takeTurn s).2.scheduler := by
  have hpopped := htidy.popped hdue
  have hstep : Spared n t (s.scheduler.popped d rest) (takeTurn s).2.scheduler := by
    by_cases hpass : s.scheduler.pass = some d.task
    · obtain ⟨s₁, wake, delays, hrenewed, hrun⟩ := passStep_cases renewedFrame_registers d.task
        d.stage { s with scheduler := s.scheduler.popped d rest }
      rw [takeTurn_run hdue, if_pos hpass, hrun] at ht ⊢
      have hkept : timerOf s₁.scheduler n = some t := ht
      refine (hrenewed.spared hpopped hn hkept).trans ?_
      refine spared_of_others hkept rfl (List.append_nil _).symm ⟨fun w hw => ?_, ?_⟩
      · exact List.mem_singleton.mp hw ▸ hother
      · exact fun d hd => absurd hd List.not_mem_nil
    · cases hu : timerOf s.scheduler d.task with
      | none =>
        rw [takeTurn_run hdue, if_neg hpass, hu] at ht ⊢
        exact spared_of_none ht rfl rfl
      | some u =>
        have hturn : Turn d.task d rest s (takeTurn s).2 := ⟨⟨u, hu⟩, hdue, rfl, rfl⟩
        obtain ⟨z', houtcome, hrun⟩ := hturn.outcome htidy hu
        rw [hrun] at ht ⊢
        have hspared : Spared n t (s.scheduler.popped d rest) z' :=
          outcome_spares houtcome hpopped ((task_of_timerOf hu).symm ▸ hother) ht
        exact ⟨hspared.timer, hspared.pending, hspared.sleepers, hspared.due⟩
  exact (spared_popped hdue hother hstep.timer).trans hstep

theorem wake_spares (task : Nat) (htidy : s.scheduler.Tidy) (hn : n ≤ s.scheduler.lastTask)
    (ht : timerOf (wake task s).2.scheduler n = some t) :
    Spared n t s.scheduler (wake task s).2.scheduler := by
  rcases wake_cases task s with hrun | ⟨w, hw, rfl, hrun⟩
  · exact (renewed_of_eq hrun).spared htidy hn ht
  · rw [hrun] at ht ⊢
    refine ⟨ht, fun hpending => ?_, fun w' hw' _ => List.mem_of_mem_filter hw',
      fun d hd htask => ?_⟩
    · by_cases htask : n = w.task
      · rw [htask]
        exact mem_pending_of_due List.mem_concat_self
      · rw [pending, List.mem_append, List.mem_map, List.mem_map] at hpending ⊢
        rcases hpending with ⟨w', hw', rfl⟩ | ⟨d, hd, rfl⟩
        · exact .inl ⟨w', List.mem_filter.mpr ⟨hw', decide_eq_true htask⟩, rfl⟩
        · exact .inr ⟨d, List.mem_append_left _ hd, rfl⟩
    · refine (List.mem_append.mp hd).imp id fun hnew => ?_
      rw [List.mem_singleton.mp hnew] at htask ⊢
      exact ⟨rfl, w, hw, htask⟩

theorem Running.tidy (h : Running s) : s.scheduler.Tidy where
  texts := h.1.texts
  own := h.1.own
  zones := h.2.zones
  owners := h.2.nodup_owners
  pending := h.2.nodup_pending

/-- No operation gives a timer to a task that has none. -/
theorem Running.timerOf_perform (h : Running s) {op : Operation} (hop : op.Single)
    (hn : n ≤ s.scheduler.lastTask) (ht : timerOf (op.perform s).2.scheduler n = some t) :
    ∃ t₀, timerOf s.scheduler n = some t₀ := by
  obtain ⟨key, hmem, rfl⟩ := mem_of_timerOf ht
  rcases (Operation.perform_moves hop h.1 h.2).timers _ hmem with
    hbuilt | ⟨e₀, he₀, -, nextRun, -, hadvanced⟩ | ⟨hold, -⟩
  · exact absurd hbuilt.task.1 (Nat.not_lt.mpr hn)
  · obtain rfl : t = { e₀.2 with nextRun } := hadvanced
    exact ⟨_, h.tidy.timerOf_of_mem (t := e₀.2) he₀⟩
  · exact ⟨t, h.tidy.timerOf_of_mem hold⟩

/-- An operation is the turn of a task, or it leaves the task alone. -/
theorem Running.turn_or_leaves (h : Running s) {op : Operation} (hop : op.Single)
    (hn : n ≤ s.scheduler.lastTask) :
    (∃ d rest, Turn n d rest s (op.perform s).2) ∨ Leaves n s (op.perform s).2 := by
  have hrenewed : s.scheduler.Renewed (op.perform s).2.scheduler → Leaves n s (op.perform s).2 :=
    fun hrenewed t ht => hrenewed.spared h.tidy hn ht
  cases op with
  | runUntilIdle | release | advance => exact hop.elim
  | wake task => exact .inr fun t ht => wake_spares task h.tidy hn ht
  | setClock stamp => exact .inr (hrenewed (.refl s.scheduler))
  | takeTurn =>
    cases hdue : s.scheduler.due with
    | nil =>
      refine .inr (hrenewed (renewed_of_eq ?_))
      rw [Operation.perform, Scheduler.takeTurn, bind_get, hdue]
      rfl
    | cons d rest =>
      by_cases htask : d.task = n
      · cases ht : timerOf s.scheduler n with
        | some t => exact .inl ⟨d, rest, ⟨t, ht⟩, hdue, htask, rfl⟩
        | none =>
          refine .inr fun t ht' => ?_
          obtain ⟨t₀, ht₀⟩ := h.timerOf_perform hop hn ht'
          rw [ht] at ht₀
          cases ht₀
      · exact .inr fun t ht => takeTurn_spares h.tidy hn hdue htask ht
  | _ =>
    exact .inr (hrenewed (Operation.perform_registers renewedFrame_local renewedFrame_registers
      start_renews stop_renews (by trivial) s))

/-- The states of a run, in which one operation is performed after another. -/
def trace (s : Automation) (ops : Nat → Operation) (i : Nat) : Automation :=
  s.after ((List.range i).map ops)

theorem trace_succ (s : Automation) (ops : Nat → Operation) (i : Nat) :
    s.trace ops (i + 1) = ((ops i).perform (s.trace ops i)).2 := by
  rw [trace, List.range_succ, List.map_append, after_append]
  rfl

theorem Attended.running_trace (h : Attended s) {ops : Nat → Operation}
    (hops : ∀ i, (ops i).KeepsListener ∧ (ops i).Single) (i : Nat) : Running (s.trace ops i) := by
  refine h.running.after fun op hop => ?_
  obtain ⟨j, -, rfl⟩ := List.mem_map.mp hop
  exact hops j

/-- A run is a course of events for the task of a timer. -/
theorem trace_course (h : Attended s) {ops : Nat → Operation}
    (hops : ∀ i, (ops i).KeepsListener ∧ (ops i).Single) {m : Nat}
    (ht : timerOf (s.trace ops m).scheduler n = some t) :
    Course n fun i => s.trace ops (m + i) := by
  have hrunning := fun i => h.running_trace hops (m + i)
  have hlast : ∀ i, n ≤ (s.trace ops (m + i)).scheduler.lastTask := by
    intro i
    induction i with
    | zero =>
      obtain ⟨key, hmem, rfl⟩ := mem_of_timerOf ht
      exact (hrunning 0).2.le_of_owner (Orderly.mem_owners hmem)
    | succ i ih =>
      rw [← Nat.add_assoc, trace_succ]
      have hmoves := Operation.perform_moves (hops (m + i)).2 (hrunning i).1 (hrunning i).2
      exact Nat.le_trans ih hmoves.lastTask
  refine ⟨fun i => (hrunning i).tidy, fun i => ?_⟩
  rw [← Nat.add_assoc, trace_succ]
  exact (hrunning i).turn_or_leaves (hops (m + i)).2 (hlast i)

/-- In every run, whatever the clock reads, each timer keeps its pace from any time on. -/
theorem timer_paced (h : Attended s) {ops : Nat → Operation}
    (hops : ∀ i, (ops i).KeepsListener ∧ (ops i).Single) {m : Nat}
    (ht : timerOf (s.trace ops m).scheduler n = some t) :
    Paced n fun i => s.trace ops (m + i) := (trace_course h hops ht).paced

/-- The clock is set to some seconds before the end of the calendar in Moscow. -/
def secondsLeft (n : Int) : Operation :=
  .setClock (Stamp.ofInstant (Stamp.limit - 3 * Stamp.hour - n * Stamp.second))

/-- A trigger that is to fire every minute is created just before the end of the calendar. Its timer
is woken for two times; before the second one the clock is set back by hours. -/
def lastMinutes (i : Nat) : Operation :=
  (secondsLeft 150 :: everyMinute ++ [.takeTurn, secondsLeft 125, .wake 1, .takeTurn, .takeTurn,
    .takeTurn, secondsLeft 10000, .wake 1]).getD i .takeTurn

theorem single_lastMinutes (i : Nat) : (lastMinutes i).KeepsListener ∧ (lastMinutes i).Single := by
  rw [lastMinutes, List.getD_eq_getElem?_getD]
  generalize hops : secondsLeft 150 :: everyMinute ++ _ = ops
  have hall : ∀ op ∈ ops, op.KeepsListener ∧ op.Single := by
    rw [← hops]
    simp [secondsLeft, everyMinute, Operation.KeepsListener, Operation.Single]
  cases hop : ops[i]? with
  | none => exact ⟨trivial, trivial⟩
  | some op => exact hall op (List.mem_of_getElem? hop)

/-- The timer fires for a later time although the clock was set back, and then the search for its
next time fails, so that it stays without a task. -/
theorem timer_paced_lastMinutes :
    Attended attended ∧ (∀ i, (lastMinutes i).KeepsListener ∧ (lastMinutes i).Single) ∧
      let s := attended.trace lastMinutes
      ∃ t t', Ticks 1 t (s 6) (s 7) ∧ Ticks 1 t' (s 11) (s 12) ∧
        (s 11).clock.instant < (s 6).clock.instant ∧ t.nextRun < t'.nextRun ∧
        Ends 1 (s 13) (s 14) ∧ (s 14).scheduler.timers.length = 1 := by
  have h : Attended attended := ⟨.inl rfl, rfl, rfl, rfl⟩
  have hbuilt : (timerOf (attended.trace lastMinutes 3).scheduler 1).isSome = true := by
    decide +kernel
  obtain ⟨t₀, ht₀⟩ := Option.isSome_iff_exists.mp hbuilt
  have hpaced := timer_paced h single_lastMinutes ht₀
  have hfires : (firing (attended.trace lastMinutes 6)).any (·.task = 1) = true := by
    decide +kernel
  have hagain : (firing (attended.trace lastMinutes 11)).any (·.task = 1) = true := by
    decide +kernel
  obtain ⟨t, hfires, ht⟩ := (Option.any_eq_true _ _).mp hfires
  obtain ⟨t', hagain, ht'⟩ := (Option.any_eq_true _ _).mp hagain
  have hticks : Ticks 1 t (attended.trace lastMinutes 6) (attended.trace lastMinutes 7) :=
    ⟨hfires, of_decide_eq_true ht, trace_succ attended lastMinutes 6⟩
  have hticks' : Ticks 1 t' (attended.trace lastMinutes 11) (attended.trace lastMinutes 12) :=
    ⟨hagain, of_decide_eq_true ht', trace_succ attended lastMinutes 11⟩
  have hlater := (hpaced.later (i := 3) (j := 8) (by decide) hticks hticks').2
  have hlive : (attended.trace lastMinutes 13).scheduler.Live 1 := by
    have hpending : 1 ∈ (attended.trace lastMinutes 13).scheduler.pending := by decide +kernel
    have htimer : (timerOf (attended.trace lastMinutes 13).scheduler 1).isSome = true := by
      decide +kernel
    exact ⟨hpending, Option.isSome_iff_exists.mp htimer⟩
  have hdead : ¬ (attended.trace lastMinutes 14).scheduler.Live 1 := by
    have hpending : 1 ∉ (attended.trace lastMinutes 14).scheduler.pending := by decide +kernel
    exact fun hlive => hpending hlive.1
  have hends := (hpaced.ends (i := 10) hlive).resolve_left hdead
  exact ⟨h, single_lastMinutes, t, t', hticks, hticks', by decide +kernel, hlater, hends,
    by decide +kernel⟩

end Automation
end ProcessTriggers
