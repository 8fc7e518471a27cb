import ProcessTriggers.Proofs.Firing
import ProcessTriggers.Proofs.Mutations
import ProcessTriggers.Proofs.Timers

/-!
What the calls of the registry can do to the stored triggers and whom they tell.
-/

namespace ProcessTriggers

open Action Automation

namespace Trigger

/-- The first trigger became the second by changes that its owner may make. -/
structure Amends (t t' : Trigger) : Prop where
  id : t'.id = t.id
  workspaceId : t'.workspaceId = t.workspaceId
  type : t'.type = t.type
  createdById : t'.createdById = t.createdById
  createdAt : t'.createdAt = t.createdAt

namespace Amends

theorem refl (t : Trigger) : Amends t t := ⟨rfl, rfl, rfl, rfl, rfl⟩

theorem trans {t t' t'' : Trigger} (h : Amends t t') (h' : Amends t' t'') : Amends t t'' :=
  ⟨h'.id.trans h.id, h'.workspaceId.trans h.workspaceId, h'.type.trans h.type,
    h'.createdById.trans h.createdById, h'.createdAt.trans h.createdAt⟩

theorem touched {t t' : Trigger} (h : Amends t t') (now : Value) :
    Amends t { t' with updatedAt := now } :=
  ⟨h.id, h.workspaceId, h.type, h.createdById, h.createdAt⟩

end Amends

theorem change_amends {t t' : Trigger} {name : String} {v : Value}
    (h : t.change name v = .ok t') : Amends t t' := by
  unfold change at h
  split at h
  all_goals first
    | (cases h; done)
    | (rw [← Except.ok.inj h]; exact ⟨rfl, rfl, rfl, rfl, rfl⟩)

theorem foldlM_change_amends {changes : List (String × Value)} {t t' : Trigger}
    (h : changes.foldlM (fun t e => t.change e.1 e.2) t = .ok t') : Amends t t' := by
  induction changes generalizing t with
  | nil =>
    rw [← Except.ok.inj h]
    exact .refl t
  | cons e changes ih =>
    rw [List.foldlM_cons] at h
    obtain ⟨t₁, h₁, h⟩ := exists_of_bind_eq_ok h
    exact (change_amends h₁).trans (ih h)

theorem applyChanges_amends {t t' : Trigger} {changes : Entries}
    (h : t.applyChanges changes = .ok t') : Amends t t' := by
  obtain ⟨_, _, h⟩ := exists_of_bind_eq_ok h
  exact foldlM_change_amends h

end Trigger

namespace Automation

theorem findTriggers_cases (f : TriggerFilter) (s : Automation) :
    (∃ e s', findTriggers f s = (.error e, s') ∧ Quiet s s') ∨
      ∃ ts s', findTriggers f s = (.ok ts, s') ∧ s.triggers.find f = .ok ts ∧ Quiet s s' := by
  obtain ⟨e, s₁, hrun, hquiet⟩ | ⟨s₁, hrun, hquiet⟩ :=
    reaching_cases .find .triggers (.ok ()) (do
      Action.ofExcept ((← get).triggers.find f)) s
  · exact Or.inl ⟨e, s₁, hrun, hquiet⟩
  · rw [bind_get, hquiet.triggers, ofExcept_run] at hrun
    cases h : s.triggers.find f with
    | error e => exact Or.inl ⟨e, s₁, hrun.trans (by rw [h]), hquiet⟩
    | ok ts => exact Or.inr ⟨ts, s₁, hrun.trans (by rw [h]), rfl, hquiet⟩

/-- What the store finds is found by a call that is not broken. -/
theorem findTriggers_answers {f : TriggerFilter} {s : Automation} {ts : List Trigger}
    (hbroken : s.broken = []) (hfound : s.triggers.find f = .ok ts) :
    ∃ s', findTriggers f s = (.ok ts, s') ∧ Quiet s s' := by
  have hlookup : s.broken.lookup .find = none := by rw [hbroken, List.lookup_nil]
  obtain ⟨s', hrun, hquiet⟩ := reaching_answers .find .triggers (do
    Action.ofExcept ((← get).triggers.find f)) hlookup
  rw [bind_get, hquiet.triggers, ofExcept_run, hfound] at hrun
  exact ⟨s', hrun, hquiet⟩

end Automation

/-- Only those triggers are evaluated that the store finds. -/
theorem Engine.evaluate_frame {F : Frame} {type : TriggerType} {context workspaceId : Value}
    {s : Automation}
    (h : ∀ found t, s.triggers.find { workspaceId := Registry.given workspaceId
                                      type := some type
                                      isActive := some (.bool true) } = .ok found → t ∈ found →
      Keeps F (evaluateOne context t)) :
    F.holds s (evaluate type context workspaceId s).2 := by
  obtain ⟨e, s₁, hfind, hquiet⟩ | ⟨found, s₁, hfind, hfound, hquiet⟩ :=
    findTriggers_cases { workspaceId := Registry.given workspaceId
                         type := some type
                         isActive := some (.bool true) } s
  · have hactive : Registry.findActive type workspaceId s = (.error e, s₁) := hfind
    rw [evaluate, bind_error hactive]
    exact F.quiet hquiet
  · have hactive : Registry.findActive type workspaceId s = (.ok found, s₁) := hfind
    have hrest : Keeps F (do
        log .engine Log.debug
          (s!"Evaluating {found.length} triggers of type " ++ type.name ++ " for workspace " ++
            workspaceId.shown)
        evaluateAll context found) :=
      keeps_bind (log_keeps _ _ _) fun _ => evaluateAll_frame fun t ht => h found t hfound ht
    rw [evaluate, bind_ok hactive]
    exact F.trans (F.quiet hquiet) (hrest s₁)

namespace Registry

/-- How a call of the registry changes the state. Nothing is stored, or a trigger is written or
removed and the listener told, after a write and before a removal. -/
inductive Changed (s : Automation) : Automation → Prop
  | nothing {s' : Automation} (fired : Fired (fun _ => False) (fun _ => False) s s') : Changed s s'
  | created {t : Trigger} {store : TriggerStore} {s₁ s' : Automation}
    (id : t.id = .text (Supply.idText (s.supply.drawn + 1)))
    (createdAt : t.createdAt = .stamp (Stamp.ofInstant s.clock.instant))
    (inserted : s.triggers.insert t = .ok store)
    (stored : Quiet { s with supply := ⟨s.supply.drawn + 1⟩, triggers := store } s₁)
    (told : notify t false s₁ = (.ok ⟨⟩, s')) : Changed s s'
  | amended {id : Value} {t t' : Trigger} {store : TriggerStore} {s₁ s' : Automation}
    (found : s.triggers.get id = .ok (some t)) (amends : t.Amends t')
    (saved : s.triggers.save t' = .ok store) (stored : Quiet { s with triggers := store } s₁)
    (told : notify t' false s₁ = (.ok ⟨⟩, s')) : Changed s s'
  | removed {id : Value} {t : Trigger} {b : Bool} {store : TriggerStore} {s₁ s₂ s' : Automation}
    (found : s.triggers.get id = .ok (some t)) (quiet : Quiet s s₁)
    (told : notify t true s₁ = (.ok ⟨⟩, s₂)) (deleted : s₂.triggers.delete id = .ok (b, store))
    (stored : Quiet { s₂ with triggers := store } s') : Changed s s'
  | kept {id : Value} {t : Trigger} {s₁ s₂ s' : Automation}
    (found : s.triggers.get id = .ok (some t)) (quiet : Quiet s s₁)
    (told : notify t true s₁ = (.ok ⟨⟩, s₂)) (stored : Quiet s₂ s') : Changed s s'

theorem tell_run (t : Trigger) (deleted : Bool) (s : Automation) :
    ∃ r s', tell t deleted s = (r, s') ∧ Retimed s s' ∧ (s.listener = .scheduler →
      ∀ key, t.id.asKey = .ok key → Scheduler.Followed t deleted key s s') := by
  rw [tell, bind_get]
  cases s.listener with
  | none => exact ⟨_, s, rfl, .refl s, fun h => nomatch h⟩
  | scheduler =>
    obtain ⟨r, s', hrun, hretimed, hfollowed⟩ := Scheduler.onTriggerChanged_run t deleted s
    exact ⟨r, s', hrun, hretimed, fun _ => hfollowed⟩
  | recorder failure =>
    dsimp only
    rw [bind_get, bind_ok (modify_run _ s)]
    cases failure with
    | none => exact ⟨_, _, rfl, .ofQuiet (by constructor <;> rfl), fun h => nomatch h⟩
    | some e => exact ⟨_, _, rfl, .ofQuiet (by constructor <;> rfl), fun h => nomatch h⟩

/-- Telling the listener succeeds, since its errors are not passed on, and a scheduler follows. -/
theorem notify_run (t : Trigger) (deleted : Bool) (s : Automation) :
    ∃ s', notify t deleted s = (.ok ⟨⟩, s') ∧ Retimed s s' ∧ (s.listener = .scheduler →
      ∀ key, t.id.asKey = .ok key → Scheduler.Followed t deleted key s s') := by
  obtain ⟨r, s', hrun, hretimed, hfollowed⟩ := tell_run t deleted s
  rw [notify_eq, notifyWith, bind_ok (attempt_run _ s), hrun]
  cases r with
  | ok _ => exact ⟨s', rfl, hretimed, hfollowed⟩
  | error e =>
    refine ⟨_, rfl, hretimed.trans (.ofQuiet (by constructor <;> rfl)), fun hl key hkey => ?_⟩
    cases hfollowed hl key hkey with
    | other type timers => exact .other type timers
    | dropped timers => exact .dropped timers
    | renewed kept serves timers => exact .renewed kept serves timers

theorem retimed_of_told {t : Trigger} {deleted : Bool} {s s' : Automation}
    (h : notify t deleted s = (.ok ⟨⟩, s')) : Retimed s s' ∧ (s.listener = .scheduler →
      ∀ key, t.id.asKey = .ok key → Scheduler.Followed t deleted key s s') := by
  obtain ⟨s₁, hrun, hretimed, hfollowed⟩ := notify_run t deleted s
  rw [h] at hrun
  obtain rfl := (Prod.mk.inj hrun).2
  exact ⟨hretimed, hfollowed⟩

theorem Changed.broken {s s' : Automation} (h : Changed s s') : s'.broken = s.broken := by
  cases h with
  | nothing fired => exact fired.broken
  | created id createdAt inserted stored told =>
    exact (retimed_of_told told).1.broken.trans stored.broken
  | amended found amends saved stored told =>
    exact (retimed_of_told told).1.broken.trans stored.broken
  | removed found quiet told deleted stored =>
    exact (stored.broken.trans (retimed_of_told told).1.broken).trans quiet.broken
  | kept found quiet told stored =>
    exact (stored.broken.trans (retimed_of_told told).1.broken).trans quiet.broken

theorem perform_changed (m : Mutation) (s : Automation) : Changed s (m.perform s).2 := by
  rw [m.perform_eq, Mutation.performTelling]
  obtain ⟨e, s₁, hprepare, n, hdrawn, hquiet⟩ | ⟨t, deleted, s₁, hprepare, hprepared⟩ :=
    m.prepare_cases s
  · rw [bind_error hprepare]
    exact .nothing ((fired_supply hdrawn).trans (.ofQuiet hquiet))
  · rw [bind_ok hprepare]
    obtain ⟨s₂, htold, _⟩ := notify_run t deleted s₁
    dsimp only
    rw [← notify_eq, bind_ok htold]
    cases hprepared with
    | created allowed given known made id createdAt inserted stored =>
      exact .created id createdAt inserted stored htold
    | updated found changed known saved stored =>
      exact .amended found ((Trigger.applyChanges_amends changed).touched _) saved stored htold
    | @toggled id t store s₁ found saved stored =>
      have hamends : t.Amends t.toggled := ⟨rfl, rfl, rfl, rfl, rfl⟩
      exact .amended found (hamends.touched _) saved stored htold
    | @doomed id t s₁ found quiet =>
      rw [Mutation.finish]
      obtain ⟨e, s₃, hdelete, hquiet'⟩ | ⟨b, store, s₃, hdelete, hstore, hquiet'⟩ :=
        deleteTrigger_cases id s₂
      · rw [bind_error hdelete]
        exact .kept found quiet htold hquiet'
      · rw [bind_ok hdelete]
        exact .removed found quiet htold hstore (hquiet'.trans (by constructor <;> rfl))

theorem create_changed (data : Entries) (userId : Value) (s : Automation) :
    Changed s (create data userId s).2 := by
  have h := perform_changed (.create data userId) s
  rwa [Mutation.perform, map_run] at h

theorem update_changed (id : Value) (changes : Entries) (s : Automation) :
    Changed s (update id changes s).2 := by
  have h := perform_changed (.update id changes) s
  rwa [Mutation.perform, map_run] at h

theorem toggle_changed (id : Value) (s : Automation) : Changed s (toggle id s).2 := by
  have h := perform_changed (.toggle id) s
  rwa [Mutation.perform, map_run] at h

theorem delete_changed (id : Value) (s : Automation) : Changed s (delete id s).2 := by
  have h := perform_changed (.delete id) s
  rwa [Mutation.perform, map_run _ fun _ => none] at h

end Registry
end ProcessTriggers
