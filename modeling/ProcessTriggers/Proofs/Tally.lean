import ProcessTriggers.Proofs.Attempts
import ProcessTriggers.Proofs.Backing

/-!
The counts of starts. In memory, the count of a stored trigger is the number of the successful
executions that the log has of it. This couples the store, the log and the orchestrator; an attempt
that is under way may outlive its trigger, but not the identifiers that were drawn before it.
-/

namespace ProcessTriggers

open Action Automation

/-- The number of the successful executions of a trigger in a log. -/
def Execution.successes (log : List Execution) (id : Value) : Nat :=
  log.countP fun e => e.succeeded && e.triggerId.equal id

/-- An identifier is one of the first that a supply gives out. -/
def Supply.Gave (n : Nat) (id : Value) : Prop := ∃ m ≤ n, id = .text (idText m)

namespace Supply.Gave

variable {m n : Nat} {id : Value}

theorem mono (h : Gave m id) (hle : m ≤ n) : Gave n id := by
  obtain ⟨k, hk, rfl⟩ := h
  exact ⟨k, Nat.le_trans hk hle, rfl⟩

theorem ne_next (h : Gave n id) : id ≠ .text (idText (n + 1)) := by
  obtain ⟨k, hk, rfl⟩ := h
  intro heq
  have := idText_injective (Value.text.inj heq)
  omega

end Supply.Gave

namespace Execution

variable {log : List Execution} {e : Execution} {id : Value}

theorem successes_append (log : List Execution) (e : Execution) (id : Value) :
    successes (log ++ [e]) id =
      successes log id + if e.succeeded && e.triggerId.equal id then 1 else 0 := by
  rw [successes, List.countP_append, List.countP_singleton]
  rfl

theorem successes_append_of_failed (h : e.succeeded = false) (id : Value) :
    successes (log ++ [e]) id = successes log id := by
  rw [successes_append, h]
  rfl

theorem successes_append_self {s : String} (h : e.succeeded = true)
    (hid : e.triggerId = .text s) : successes (log ++ [e]) e.triggerId =
      successes log e.triggerId + 1 := by
  have hself : e.triggerId.equal e.triggerId = true := by
    rw [hid]
    exact (Value.equal_text_iff s _).mpr rfl
  rw [successes_append, h, hself]
  rfl

theorem successes_append_of_ne {s : String} (hid : e.triggerId = .text s)
    (hne : id ≠ e.triggerId) : successes (log ++ [e]) id = successes log id := by
  have hother : e.triggerId.equal id = false := by
    rw [hid] at hne ⊢
    exact Bool.eq_false_iff.mpr fun heq => hne ((Value.equal_text_iff s id).mp heq)
  rw [successes_append, hother, Bool.and_false]
  rfl

/-- No execution is there for an identifier that was not drawn yet. -/
theorem successes_next {n : Nat} (h : ∀ e ∈ log, Supply.Gave n e.triggerId) :
    successes log (.text (Supply.idText (n + 1))) = 0 := by
  refine List.countP_eq_zero.mpr fun e he hcounts => ?_
  obtain ⟨m, hm, hid⟩ := h e he
  have hequal : e.triggerId.equal (.text (Supply.idText (n + 1))) = true :=
    (Bool.and_eq_true_iff.mp hcounts).2
  rw [hid, Value.equal_text_iff] at hequal
  exact (h e he).ne_next (hid.trans hequal.symm)

end Execution

namespace Keyed

variable {α : Type}

/-- What is there under a key may be replaced but is not lost. -/
theorem get?_put_isSome {t : Keyed α} {key : Value} (h : (t.get? key).isSome = true)
    (k : Value) (x : α) : ((t.put k x).get? key).isSome = true := by
  induction t with
  | nil => cases h
  | cons e t ih =>
    rw [get?, List.find?_cons] at h
    by_cases heq : e.1.equal k = true
    · rw [put, if_pos heq, get?, List.find?_cons]
      cases hkey : e.1.equal key with
      | true => rfl
      | false =>
        rw [hkey] at h
        exact h
    · rw [put, if_neg heq, get?, List.find?_cons]
      cases hkey : e.1.equal key with
      | true => rfl
      | false =>
        rw [hkey] at h
        exact ih h

end Keyed

namespace Orchestrator

/-- Whether a definition is known. -/
def Knows (o : Orchestrator) (id : Value) : Prop := ∃ d, o.findDefinition id = .ok (some d)

theorem knows_iff {o : Orchestrator} {id : Value} :
    o.Knows id ↔ id.asKey = .ok id ∧ (o.definitions.get? id).isSome = true := by
  constructor
  · rintro ⟨d, h⟩
    obtain ⟨key, hkey, hget⟩ := exists_of_bind_eq_ok h
    obtain rfl := Value.asKey_eq_ok hkey
    exact ⟨hkey, Option.isSome_of_eq_some (Except.ok.inj hget)⟩
  · rintro ⟨hkey, h⟩
    obtain ⟨d, hd⟩ := Option.isSome_iff_exists.mp h
    refine ⟨d, ?_⟩
    rw [findDefinition, hkey, ← hd]
    rfl

/-- A definition that is known remains known, whatever is deployed. -/
theorem Knows.deploy {o o' : Orchestrator} {d : Definition} {id : Value} (h : o.Knows id)
    (hdeploy : o.deploy d = .ok o') : o'.Knows id := by
  obtain ⟨key, _, ho⟩ := exists_of_bind_eq_ok hdeploy
  obtain rfl := Except.ok.inj ho
  obtain ⟨hkey, hsome⟩ := knows_iff.mp h
  exact knows_iff.mpr ⟨hkey, Keyed.get?_put_isSome hsome _ _⟩

theorem Knows.congr {o o' : Orchestrator} {id : Value} (h : o.Knows id)
    (hdefinitions : o'.definitions = o.definitions) : o'.Knows id := by
  rw [knows_iff] at h ⊢
  rwa [hdefinitions]

end Orchestrator

namespace TriggerStore

variable {ts : Keyed Trigger} {s : String} (firedAt : Stamp)

theorem counted_of_none (hget : ts.get? (.text s) = none) :
    (memory ts).counted (.text s) firedAt = .memory ts := by
  simp only [counted, recordFire, Value.asKey_text, bind, Except.bind, hget, pure, Except.pure]

theorem counted_of_some {t : Trigger} {n : Int} (hget : ts.get? (.text s) = some t)
    (hcount : t.triggerCount = .int n) :
    (memory ts).counted (.text s) firedAt = .memory (ts.put (.text s)
      { t with triggerCount := .int (n + 1), lastTriggeredAt := .stamp firedAt }) := by
  have hincrement : t.triggerCount.increment = .ok (.int (n + 1)) := by
    rw [hcount]
    rfl
  simp only [counted, recordFire, Value.asKey_text, bind, Except.bind, hget, hincrement, pure,
    Except.pure]

end TriggerStore

namespace Trigger

/-- The triggers in memory agree with the log of executions and the orchestrator: each has been
counted once for each of its successful executions, and has a definition that is known. -/
structure Tally (supply : Supply) (o : Orchestrator) (log : List Execution) (ts : Keyed Trigger) :
    Prop extends Table supply ts where
  typed : ∀ e ∈ ts, ∃ type, e.2.type = .known type
  counted : ∀ e ∈ ts, e.2.triggerCount = .int (Execution.successes log e.1)
  defined : ∀ e ∈ ts, o.Knows e.2.definitionId
  given : ∀ e ∈ log, Supply.Gave supply.drawn e.triggerId

theorem Table.gave {supply : Supply} {ts : Keyed Trigger} (h : Table supply ts) {k : Value}
    (hk : k ∈ ts.keys) : Supply.Gave supply.drawn k := by
  obtain ⟨ids, hkeys, ns, rfl, _, hbounds⟩ := h.issued
  rw [hkeys] at hk
  obtain ⟨id, hid, rfl⟩ := List.mem_map.mp hk
  obtain ⟨n, hn, rfl⟩ := List.mem_map.mp hid
  exact ⟨n, (hbounds n hn).2, rfl⟩

namespace Tally

variable {supply supply' : Supply} {o o' : Orchestrator} {log log' : List Execution}
  {ts : Keyed Trigger} {t t' : Trigger} {e : Execution}

theorem nil (supply : Supply) (o : Orchestrator) : Tally supply o [] [] where
  toTable := .nil supply
  typed _ h := absurd h List.not_mem_nil
  counted _ h := absurd h List.not_mem_nil
  defined _ h := absurd h List.not_mem_nil
  given _ h := absurd h List.not_mem_nil

theorem mono (h : Tally supply o log ts) (hle : supply.drawn ≤ supply'.drawn) :
    Tally supply' o log ts :=
  { h with
    toTable := h.toTable.mono hle
    given := fun e he => (h.given e he).mono hle }

/-- Other definitions do not matter as long as those that were known remain known. -/
theorem withDefinitions (h : Tally supply o log ts) (hknows : ∀ {id}, o.Knows id → o'.Knows id) :
    Tally supply o' log ts :=
  { h with defined := fun e he => hknows (h.defined e he) }

/-- A trigger put into the table agrees with a log in which the others have as many successes as
before. -/
theorem put (h : Tally supply o log ts) (htable : Table supply' (ts.put t.id t))
    (htype : ∃ type, t.type = .known type) (hdefined : o.Knows t.definitionId)
    (hcount : t.triggerCount = .int (Execution.successes log' t.id))
    (hothers : ∀ id ∈ ts.keys, id ≠ t.id →
      Execution.successes log' id = Execution.successes log id)
    (hgiven : ∀ e ∈ log', Supply.Gave supply'.drawn e.triggerId) :
    Tally supply' o log' (ts.put t.id t) := by
  have hmem : ∀ {e}, e ∈ ts.put t.id t → e = (t.id, t) ∨ e ∈ ts ∧ e.1 ≠ t.id :=
    h.texts.mem_put.mp
  refine { htable with typed := fun e he => ?_, counted := fun e he => ?_,
                       defined := fun e he => ?_, given := hgiven }
  · rcases hmem he with rfl | ⟨he, _⟩
    · exact htype
    · exact h.typed e he
  · rcases hmem he with rfl | ⟨he, hne⟩
    · exact hcount
    · rw [hothers e.1 (Keyed.mem_keys he) hne]
      exact h.counted e he
  · rcases hmem he with rfl | ⟨he, _⟩
    · exact hdefined
    · exact h.defined e he

theorem put_new (h : Tally supply o log ts)
    (hid : t.id = .text (Supply.idText (supply.drawn + 1)))
    (hcreated : ∃ created, t.createdAt = .stamp created ∧ created.isAware = true)
    (htype : ∃ type, t.type = .known type) (hdefined : o.Knows t.definitionId)
    (hcount : t.triggerCount = .int 0) :
    Tally ⟨supply.drawn + 1⟩ o log (ts.put t.id t) := by
  refine h.put (h.toTable.put_new hid hcreated) htype hdefined ?_ (fun _ _ _ => rfl)
    fun e he => (h.given e he).mono (Nat.le_succ _)
  rw [hcount, hid, Execution.successes_next h.given]
  rfl

theorem put_amended (h : Tally supply o log ts) {id : Value} (hmem : (id, t) ∈ ts)
    (hamends : t.Amends t') (hcount : t'.triggerCount = t.triggerCount)
    (hdefined : o.Knows t'.definitionId) : Tally supply o log (ts.put t'.id t') := by
  have hid : t'.id = id := hamends.id.trans (h.own _ hmem)
  obtain ⟨type, htype⟩ := h.typed _ hmem
  refine h.put (h.toTable.put_amended hmem hamends) ⟨type, hamends.type.trans htype⟩ hdefined ?_
    (fun _ _ _ => rfl) h.given
  rw [hcount, hid]
  exact h.counted _ hmem

theorem erase (h : Tally supply o log ts) (key : Value) : Tally supply o log (ts.erase key) where
  toTable := h.toTable.erase key
  typed e he := h.typed e (List.mem_of_mem_filter he)
  counted e he := h.counted e (List.mem_of_mem_filter he)
  defined e he := h.defined e (List.mem_of_mem_filter he)
  given := h.given

theorem given_append (h : Tally supply o log ts) (he : Supply.Gave supply.drawn e.triggerId) :
    ∀ e' ∈ log ++ [e], Supply.Gave supply.drawn e'.triggerId := by
  intro e' he'
  rcases List.mem_append.mp he' with he' | he'
  · exact h.given e' he'
  · rw [List.mem_singleton.mp he']
    exact he

/-- A failure is noted and nothing is counted. -/
theorem failure (h : Tally supply o log ts) (he : Supply.Gave supply.drawn e.triggerId)
    (hfailed : e.succeeded = false) : Tally supply o (log ++ [e]) ts :=
  { h with
    counted := fun e' he' => by
      rw [Execution.successes_append_of_failed hfailed]
      exact h.counted e' he'
    given := h.given_append he }

/-- A success is counted for its trigger, if that is still stored, and noted. -/
theorem success (h : Tally supply o log ts) (he : Supply.Gave supply.drawn e.triggerId)
    (hsucceeded : e.succeeded = true) (firedAt : Stamp) :
    ∃ ts', (TriggerStore.memory ts).counted e.triggerId firedAt = .memory ts' ∧
      Tally supply o (log ++ [e]) ts' := by
  have ⟨n, _, hid⟩ := he
  have hothers : ∀ id ∈ ts.keys, id ≠ e.triggerId →
      Execution.successes (log ++ [e]) id = Execution.successes log id := fun id _ hne =>
    Execution.successes_append_of_ne hid hne
  cases hget : ts.get? e.triggerId with
  | none =>
    have hnone : ∀ e' ∈ ts, e'.1 ≠ e.triggerId := by
      intro e' he' heq
      have hsome : ts.get? e.triggerId = some e'.2 :=
        h.texts.get?_eq_some_iff.mpr (heq ▸ he')
      rw [hget] at hsome
      cases hsome
    rw [hid] at hget
    refine ⟨ts, hid ▸ TriggerStore.counted_of_none firedAt hget,
      { h with counted := fun e' he' => ?_, given := h.given_append he }⟩
    rw [hothers e'.1 (Keyed.mem_keys he') (hnone e' he')]
    exact h.counted e' he'
  | some t =>
    have hmem : (e.triggerId, t) ∈ ts := h.texts.get?_eq_some_iff.mp hget
    have htid : t.id = e.triggerId := h.own _ hmem
    have hcount : t.triggerCount = .int (Execution.successes log e.triggerId) :=
      h.counted _ hmem
    let fired : Trigger := { t with
      triggerCount := .int (Execution.successes log e.triggerId + 1)
      lastTriggeredAt := .stamp firedAt }
    have hamends : t.Amends fired := ⟨rfl, rfl, rfl, rfl, rfl⟩
    have hfiredId : fired.id = e.triggerId := htid
    have hcounted : (TriggerStore.memory ts).counted e.triggerId firedAt =
        .memory (ts.put e.triggerId fired) := by
      rw [hid] at hget ⊢
      exact TriggerStore.counted_of_some firedAt hget (hid ▸ hcount)
    refine ⟨_, hcounted, ?_⟩
    rw [← hfiredId]
    refine h.put (h.toTable.put_amended hmem hamends) (h.typed _ hmem) (h.defined _ hmem) ?_ ?_
      (h.given_append he)
    · rw [hfiredId, Execution.successes_append_self hsucceeded hid]
      rfl
    · rw [hfiredId]
      exact hothers

end Tally
end Trigger
end ProcessTriggers
