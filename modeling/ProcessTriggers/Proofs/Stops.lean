import ProcessTriggers.Proofs.Confinement
import ProcessTriggers.Proofs.Reconciliation

/-!
What a scheduler does after it was stopped. It remains the listener of the registry, so a trigger
that is activated after the stop gets a timer, which fires; it does nothing for any other trigger.
The next start registers the active cron triggers as the first one did.
-/

namespace ProcessTriggers

open Action Automation

namespace Automation

/-- One of some operations, which are performed one after another, activates a trigger. -/
def Activates (s : Automation) (ops : List Operation) (id : Value) : Prop :=
  ∃ before op rest, ops = before ++ op :: rest ∧ op.Activates (s.after before) id

/-- No timer is live, and no task that takes a turn writes an execution. -/
def Silent (s : Automation) : Prop :=
  s.scheduler.timers = [] ∧
    ∀ op : Operation, op.TakesTurns → (op.perform s).2.executions = s.executions

variable {s : Automation} {ops : List Operation}

theorem Activates.later {id : Value} (h : s.Activates ops id) (op : Operation) :
    s.Activates (ops ++ [op]) id := by
  obtain ⟨before, op', rest, rfl, hop⟩ := h
  exact ⟨before, op', rest ++ [op], by rw [List.append_assoc, List.cons_append], hop⟩

theorem Sound.after (h : Sound s) (hops : ∀ op ∈ ops, op.KeepsListener) : Sound (s.after ops) :=
  after_induction h fun op hop s hs => Operation.perform_sound (hops op hop) s hs

/-- However long a stop lasts, the tasks are confined to the triggers that were activated since. -/
theorem confined_after (hs : Sound s) (h : s.scheduler.Confined fun _ => False)
    (hops : ∀ op ∈ ops, op.KeepsListener ∧ op.LeavesStopped) :
    (s.after ops).scheduler.Confined (s.Activates ops) := by
  induction ops using List.reverseRecOn with
  | nil => exact h.mono fun _ => False.elim
  | append_singleton ops op ih =>
    have hbefore : ∀ op ∈ ops, op.KeepsListener ∧ op.LeavesStopped := fun op' hop' =>
      hops op' (List.mem_append_left [op] hop')
    have hsound : Sound (s.after ops) := hs.after fun op' hop' => (hbefore op' hop').1
    have hop := (hops op (List.mem_append_right ops (List.mem_singleton_self op))).2
    have hone : s.after (ops ++ [op]) = (op.perform (s.after ops)).2 := after_append s ops [op]
    rw [hone]
    refine Operation.perform_confined hop hsound ((ih hbefore).mono fun id hid => hid.later op)
      fun id hid => ?_
    exact ⟨ops, op, [], rfl, hid⟩

/-- The turns of tasks activate no trigger. -/
theorem not_activates_of_turns (h : ∀ op ∈ ops, op.TakesTurns) (id : Value) :
    ¬ s.Activates ops id := by
  rintro ⟨before, op, rest, rfl, hop⟩
  have hturns : op.TakesTurns := h op (List.mem_append_right before List.mem_cons_self)
  cases hop with
  | @changed m => cases m <;> exact hturns
  | reconciled => exact hturns

/-- Tasks that are confined to no trigger are silent. -/
theorem silent_of_confined {A : Value → Prop} (hs : Sound s) (h : s.scheduler.Confined A)
    (hA : ∀ id, ¬ A id) : s.Silent := by
  refine ⟨List.eq_nil_iff_forall_not_mem.mpr fun e he => hA _ (h.timers e he), fun op hop => ?_⟩
  have hrows := ((Operation.turns_confined hop s hs).2 h).2
  exact (hrows.mono fun e => hA e.triggerId).eq_of_none

/-- In memory the active cron triggers are found. -/
theorem Sound.find_memory (h : Sound s) {ts : Keyed Trigger} (hts : s.triggers = .memory ts) :
    ∃ found, s.triggers.find TriggerStore.activeCron = .ok found ∧
      found.Perm (ts.items.filter (·.isAmong TriggerStore.activeCron)) := by
  have htable : Trigger.Table s.supply ts := by
    have hstore := h.store
    rwa [hts] at hstore
  obtain ⟨found, hfind, hperm, _⟩ := htable.find_run TriggerStore.activeCron
  exact ⟨found, hts ▸ hfind, hperm⟩

/-- Some minutes after the scheduler was stopped, with a trigger that is to fire every minute. -/
def minutesAfterStop : Automation :=
  (attended.after (.startScheduler :: everyMinute ++ [.stopScheduler])).after
    [.advance (5 * Stamp.minute) 0]

end Automation
end ProcessTriggers
