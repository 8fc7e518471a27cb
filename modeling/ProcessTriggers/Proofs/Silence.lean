import ProcessTriggers.Proofs.Actions

/-!
What is quiet: the log, the counts and the audits. Waiting for a store is quiet too, so a storage
call keeps whatever the store itself keeps.
-/

namespace ProcessTriggers

open Action Automation

variable {α : Type} {F : Frame}

namespace Automation

theorem log_keeps (c : Channel) (level : Log.Level) (message : String) :
    Keeps F (log c level message) :=
  keeps_modify fun _ => F.quiet (by constructor <;> rfl)

theorem now_keeps : Keeps F now := F.refl

theorem count_keeps (sample : Sample) : Keeps F (count sample) :=
  keeps_modify fun _ => F.quiet (by constructor <;> rfl)

theorem calling_keeps (c : StorageCall) {a : Action α} (ha : Keeps F a) :
    Keeps F (calling c a) := by
  unfold calling
  refine keeps_bind keeps_get fun s => ?_
  cases s.broken.lookup c with
  | some e => exact keeps_throw e
  | none => exact ha

theorem findLinkage_keeps (key : String) : Keeps F (findLinkage key) := by
  refine calling_keeps _ (keeps_bind keeps_get fun s => ?_)
  exact keeps_bind (keeps_modify fun _ => F.quiet (by constructor <;> rfl)) fun _ => keeps_pure _

theorem saveElementRecord_keeps (r : ElementRecord) : Keeps F (saveElementRecord r) :=
  calling_keeps _ (keeps_modify fun _ => F.quiet (by constructor <;> rfl))

end Automation

namespace Audit

theorem resolve_keeps (runKey : String) : Keeps F (resolve runKey) := by
  unfold resolve
  refine keeps_bind keeps_get fun s => keeps_bind (keeps_ofExcept _) fun ⟨found, cache⟩ => ?_
  refine keeps_bind (keeps_modify fun _ => F.quiet (by constructor <;> rfl)) fun _ => ?_
  refine keeps_bind (count_keeps _) fun _ => keeps_ite (keeps_pure found) ?_
  refine keeps_bind (findLinkage_keeps runKey) fun linkage => ?_
  cases linkage with
  | none => exact keeps_pure _
  | some l =>
    refine keeps_bind keeps_get fun s => keeps_bind (keeps_ofExcept _) fun cache => ?_
    refine keeps_bind (keeps_modify fun _ => F.quiet (by constructor <;> rfl)) fun _ => ?_
    exact keeps_pure _

theorem write_keeps (job : Job) (status : Value) (startedAt : Stamp) :
    Keeps F (write job status startedAt) := by
  unfold write
  refine keeps_ite (keeps_pure none) (keeps_bind (resolve_keeps _) fun linkage => ?_)
  cases linkage with
  | none => exact keeps_bind (log_keeps _ _ _) fun _ => keeps_pure none
  | some l =>
    refine keeps_bind now_keeps fun completedAt => keeps_bind (keeps_ofExcept _) fun ms => ?_
    exact keeps_bind (saveElementRecord_keeps _) fun _ => keeps_pure _

theorem record_keeps (job : Job) (status : Value) (startedAt : Stamp) :
    Keeps F (record job status startedAt) := by
  refine keeps_bind (keeps_attempt (write_keeps job status startedAt)) fun r => ?_
  cases r with
  | ok r => exact keeps_pure r
  | error e => exact keeps_bind (log_keeps _ _ _) fun _ => keeps_pure none

theorem record_succeeds (job : Job) (status : Value) (startedAt : Stamp) (s : Automation) :
    ∃ r s', record job status startedAt s = (.ok r, s') := by
  rw [record, bind_ok (attempt_run _ s)]
  cases (write job status startedAt s).1 with
  | ok r => exact ⟨_, _, rfl⟩
  | error e => exact ⟨_, _, rfl⟩

theorem settle_keeps : Keeps F settle := by
  refine keeps_bind keeps_get fun s => ?_
  refine keeps_bind (keeps_modify fun _ => F.quiet (by constructor <;> rfl)) fun _ => ?_
  refine keeps_bind (keeps_forIn fun a _ _ => ?_) fun _ => keeps_pure _
  exact keeps_bind (keeps_withBound _ (record_keeps _ _ _)) fun _ => keeps_pure _

end Audit

/-- Writing the audits succeeds whatever goes wrong with them. -/
theorem Audit.settle_run (s : Automation) : ∃ s', settle s = (.ok ⟨⟩, s') ∧ Quiet s s' := by
  have hquiet : Quiet s (settle s).2 := settle_keeps (F := quietFrame) s
  have hone : ∀ (a : PendingAudit) (s : Automation), ∃ r s',
      withBound a.bound (record a.job a.status a.startedAt) s = (.ok r, s') := by
    intro a s
    obtain ⟨r, s', h⟩ := record_succeeds a.job a.status a.startedAt { s with bound := a.bound }
    exact ⟨r, _, by rw [withBound_run, h]⟩
  obtain ⟨s', h⟩ := each_succeeds hone s.dispatcher.pending { s with dispatcher.pending := [] }
  have hrun : settle s = (.ok ⟨⟩, s') := by
    rw [settle, bind_ok (get_run s), bind_ok (modify_run _ s), forIn_eq_each, bind_ok h]
    rfl
  exact ⟨s', hrun, by rwa [hrun] at hquiet⟩

namespace Automation

/-- A relation is opened without fail. -/
theorem openRelation_run (name : RelationName) (s : Automation) :
    ∃ s', openRelation name s = (.ok ⟨⟩, s') ∧ Quiet s s' := by
  rw [openRelation, bind_get]
  split
  · obtain ⟨s', hrun, hquiet⟩ := Audit.settle_run s
    rw [bind_ok hrun]
    exact ⟨_, rfl, hquiet.trans (by constructor <;> rfl)⟩
  · exact ⟨s, rfl, .refl s⟩

theorem wait_run (name : RelationName) (s : Automation) :
    ∃ s', wait name s = (.ok ⟨⟩, s') ∧ Quiet s s' := by
  rw [wait, bind_get]
  split
  · exact Audit.settle_run s
  · exact ⟨s, rfl, .refl s⟩

/-- A storage call that is not broken, and before which nothing is found wrong, comes to the store
itself. -/
theorem reaching_answers (c : StorageCall) (name : RelationName) (a : Action α) {s : Automation}
    (hbroken : s.broken.lookup c = none) :
    ∃ s', reaching c name (.ok ()) a s = a s' ∧ Quiet s s' := by
  obtain ⟨s₁, hopen, hquiet⟩ := openRelation_run name s
  obtain ⟨s₂, hwait, hquiet'⟩ := wait_run name s₁
  refine ⟨s₂, ?_, hquiet.trans hquiet'⟩
  rw [reaching, calling, bind_get, hbroken]
  dsimp only
  rw [bind_ok hopen, bind_get]
  split
  · rw [bind_ofExcept rfl, bind_ok hwait]
  · rw [bind_ok hwait]

/-- A storage call ends in an error, or it comes to the store itself; nothing of importance happens
before that. -/
theorem reaching_cases (c : StorageCall) (name : RelationName) (prepare : Except Error Unit)
    (a : Action α) (s : Automation) :
    (∃ e s', reaching c name prepare a s = (.error e, s') ∧ Quiet s s') ∨
      ∃ s', reaching c name prepare a s = a s' ∧ Quiet s s' := by
  rw [reaching, calling, bind_get]
  cases s.broken.lookup c with
  | some e => exact Or.inl ⟨e, s, rfl, .refl s⟩
  | none =>
    obtain ⟨s₁, hopen, hquiet⟩ := openRelation_run name s
    obtain ⟨s₂, hwait, hquiet'⟩ := wait_run name s₁
    dsimp only
    rw [bind_ok hopen, bind_get]
    by_cases h : s₁.isRelational name = true
    · rw [if_pos h]
      cases prepare with
      | error e =>
        rw [bind_ofExcept_error rfl]
        exact Or.inl ⟨e, s₁, rfl, hquiet⟩
      | ok _ =>
        rw [bind_ofExcept rfl, bind_ok hwait]
        exact Or.inr ⟨s₂, rfl, hquiet.trans hquiet'⟩
    · rw [if_neg h, bind_ok hwait]
      exact Or.inr ⟨s₂, rfl, hquiet.trans hquiet'⟩

/-- A storage call before which nothing is found wrong fails only if it is broken. -/
theorem reaching_fails_or (c : StorageCall) (name : RelationName) (a : Action α) (s : Automation) :
    (s.broken ≠ [] ∧ ∃ e s', reaching c name (.ok ()) a s = (.error e, s') ∧ Quiet s s') ∨
      ∃ s', reaching c name (.ok ()) a s = a s' ∧ Quiet s s' := by
  cases hlookup : s.broken.lookup c with
  | none => exact Or.inr (reaching_answers c name a hlookup)
  | some e =>
    refine Or.inl ⟨fun h => ?_, e, s, ?_, .refl s⟩
    · rw [h] at hlookup
      cases hlookup
    · rw [reaching, calling, bind_get, hlookup]
      rfl

theorem reaching_keeps (c : StorageCall) (name : RelationName) (prepare : Except Error Unit)
    {a : Action α} (ha : Keeps F a) : Keeps F (reaching c name prepare a) := by
  intro s
  obtain ⟨e, s', hrun, hquiet⟩ | ⟨s', hrun, hquiet⟩ := reaching_cases c name prepare a s
  · rw [hrun]
    exact F.quiet hquiet
  · rw [hrun]
    exact F.trans (F.quiet hquiet) (ha s')

/-- A store in memory that is not broken answers at once. -/
theorem reaching_run (c : StorageCall) (name : RelationName) (prepare : Except Error Unit)
    (a : Action α) {s : Automation} (hbroken : s.broken = [])
    (hmemory : s.isRelational name = false) : reaching c name prepare a s = a s := by
  have hopen : openRelation name s = (.ok ⟨⟩, s) := by
    rw [openRelation, bind_ok (get_run s), hmemory]
    rfl
  have hwait : wait name s = (.ok ⟨⟩, s) := by
    rw [wait, bind_ok (get_run s), hmemory]
    rfl
  rw [reaching, calling, bind_ok (get_run s), hbroken, List.lookup_nil]
  simp only
  rw [bind_ok hopen, bind_ok (get_run s), hmemory]
  exact bind_ok hwait

end Automation
end ProcessTriggers
