import Mathlib.Data.List.DropRight
import ProcessTriggers.Proofs.LinkageCache

/-!
What the cache of linkages holds, told by the history of its calls alone: the keys that were used
last since it was emptied, each with the linkage that was put for it last.
-/

namespace ProcessTriggers.Audit.Cache

variable {α : Type} {n : ℕ} {c c' : Cache α}

inductive Call (α : Type)
  | get (key : String)
  | put (key : String) (a : α)
  | has (key : Value)
  | clear

/-- A call together with its answer. -/
inductive Event (α : Type)
  | got (key : String) (found : Option α)
  | stored (key : String) (a : α)
  | tested (key : Value) (answer : Except Error Bool)
  | cleared

def Call.isGet : Call α → Bool
  | get _ => true
  | _ => false

def Call.isTest : Call α → Bool
  | has _ => true
  | _ => false

def Event.call : Event α → Call α
  | got key _ => .get key
  | stored key a => .put key a
  | tested key _ => .has key
  | cleared => .clear

def serve (c : Cache α) : Call α → Except Error (Event α × Cache α)
  | .get key => do
    let (found, c) ← c.get (.text key)
    return (.got key found, c)
  | .put key a => return (.stored key a, ← c.put (.text key) a)
  | .has key => return (.tested key (c.has key), c)
  | .clear => return (.cleared, c.clear)

/-- Makes calls one after another, and writes down what happened. -/
def run (c : Cache α) : List (Call α) → Except Error (List (Event α) × Cache α)
  | [] => return ([], c)
  | call :: calls => do
    let (e, c) ← c.serve call
    let (es, c) ← c.run calls
    return (e :: es, c)

/-! What the history says. -/

/-- The keys that are in use after an event: a look-up uses its key just if it finds something. -/
def useAfter (used : List String) : Event α → List String
  | .got key (some _) | .stored key _ => used ++ [key]
  | .got _ none | .tested _ _ => used
  | .cleared => []

/-- The keys that were used since the cache was emptied last, once for each use. -/
def used (h : List (Event α)) : List String := h.foldl useAfter []

/-- The keys that were used last, `n` at most, in the order of their latest uses. -/
def recent (n : ℕ) (h : List (Event α)) : List String := (used h).dedup.rtake n

/-- The linkage that was put last for a key. -/
def latest (h : List (Event α)) (key : String) : Option α :=
  h.reverse.findSome? fun
    | .stored k a => if k = key then some a else none
    | _ => none

theorem used_append (h : List (Event α)) (e : Event α) : used (h ++ [e]) = useAfter (used h) e := by
  simp [used]

theorem length_recent (n : ℕ) (h : List (Event α)) :
    (recent n h).length = min n (used h).dedup.length := by
  simp [recent, List.rtake]
  omega

theorem latest_stored (h : List (Event α)) (key k : String) (a : α) :
    latest (h ++ [.stored key a]) k = if key = k then some a else latest h k := by
  unfold latest
  by_cases hk : key = k <;> simp [hk]

theorem latest_append {h : List (Event α)} {e : Event α} (he : ∀ key a, e ≠ .stored key a) :
    latest (h ++ [e]) = latest h := by
  funext key
  cases e <;> simp_all [latest]

/-! The keys that were used last. -/

/-- Using a key makes it the last one of those in use. -/
theorem dedup_append_singleton (ks : List String) (k : String) :
    (ks ++ [k]).dedup = ks.dedup.filter (· != k) ++ [k] := by
  induction ks with
  | nil => simp
  | cons x ks ih =>
    by_cases hx : x ∈ ks
    · rw [List.cons_append, List.dedup_cons_of_mem (by simp [hx]), ih, List.dedup_cons_of_mem hx]
    · rw [List.cons_append, List.dedup_cons_of_notMem hx]
      by_cases hk : x = k
      · simp [hk] at ih ⊢
        exact ih
      · rw [List.dedup_cons_of_notMem (by simp [hx, hk]), ih]
        simp [hk]

theorem rtake_append_of_le {xs ys : List String} (h : n ≤ ys.length) :
    (xs ++ ys).rtake n = ys.rtake n := by
  unfold List.rtake
  rw [List.length_append, Nat.add_sub_assoc h, ← List.drop_drop, List.drop_left]

theorem rtake_of_length_le {β : Type} {xs : List β} (h : xs.length ≤ n) : xs.rtake n = xs := by
  simp [List.rtake, Nat.sub_eq_zero_of_le h]

theorem map_rtake {β γ : Type} (f : β → γ) (xs : List β) :
    (xs.map f).rtake n = (xs.rtake n).map f := by
  simp [List.rtake]

/-- It makes no difference to the last keys whether those before them were dropped earlier. -/
theorem rtake_use {ks : List String} (hks : ks.Nodup) (k : String) :
    ((ks.rtake n).filter (· != k) ++ [k]).rtake n = (ks.filter (· != k) ++ [k]).rtake n := by
  obtain hle | hlt := Nat.le_total ks.length n
  · rw [rtake_of_length_le hle]
  · have hlength : (ks.rtake n).length = n := by simp [List.rtake]; omega
    have hnodup : (ks.rtake n).Nodup := hks.sublist (List.drop_sublist _ _)
    have hsplit : ks.rdrop n ++ ks.rtake n = ks := List.take_append_drop _ _
    -- At most one of the last keys is the one that is used now.
    have hfilter : n ≤ ((ks.rtake n).filter (· != k) ++ [k]).length := by
      rw [← hnodup.erase_eq_filter, List.length_append, List.length_singleton]
      have := List.le_length_erase (a := k) (l := ks.rtake n)
      omega
    calc ((ks.rtake n).filter (· != k) ++ [k]).rtake n
        = ((ks.rdrop n).filter (· != k) ++ ((ks.rtake n).filter (· != k) ++ [k])).rtake n :=
          (rtake_append_of_le hfilter).symm
      _ = (ks.filter (· != k) ++ [k]).rtake n := by
          rw [← List.append_assoc, ← List.filter_append, hsplit]

/-! What the cache holds. -/

theorem trim_eq_rtake (es : List (Value × α)) : trim (.int n) es = es.rtake n := by
  induction es with
  | nil => simp [trim]
  | cons e es ih =>
    rw [trim, isOver, Value.isGreater_int]
    by_cases hover : n < es.length + 1
    · have hdrop : (e :: es).rtake n = es.rtake n := by
        unfold List.rtake
        rw [List.length_cons, Nat.succ_sub (by omega), List.drop_succ_cons]
      have hmore : (n : ℤ) < (e :: es).length := by simp; omega
      simp only [hmore, decide_true, if_true, ih, hdrop]
    · have hroom : ¬(n : ℤ) < (e :: es).length := by simp; omega
      rw [rtake_of_length_le (by simp; omega)]
      simp only [hroom, decide_false, Bool.false_eq_true, if_false]

/-- The cache holds the keys that were used last, each with the linkage that was put for it last,
and it has counted the look-ups. -/
structure Recalls (n : ℕ) (h : List (Event α)) (c : Cache α) : Prop where
  maxSize : c.maxSize = .int n
  keys : c.keys = (recent n h).map .text
  linkages : ∀ e ∈ c.entries, ∃ key, e.1 = .text key ∧ latest h key = some e.2
  lookups : c.hits + c.misses = (h.map Event.call).countP Call.isGet

namespace Recalls

variable {h : List (Event α)}

theorem reflects (hc : Recalls n h c) : Reflects (latest h) c where
  agree := hc.linkages
  nodup := by
    rw [hc.keys]
    exact ((List.nodup_dedup _).sublist (List.drop_sublist _ _)).map fun _ _ => Value.text.inj

theorem size_eq (hc : Recalls n h c) : c.size = min n (used h).dedup.length := by
  have hlength := congrArg List.length hc.keys
  rw [Cache.keys, List.length_map, List.length_map, length_recent] at hlength
  exact hlength

theorem size_le (hc : Recalls n h c) : c.size ≤ n := hc.size_eq ▸ Nat.min_le_left _ _

theorem isSome_find? (hc : Recalls n h c) (key : String) :
    (find? c.entries (.text key)).isSome = decide (key ∈ recent n h) := by
  have hmem : .text key ∈ c.keys ↔ key ∈ recent n h := by simp [hc.keys]
  cases hfind : find? c.entries (.text key) with
  | none => simp [← hmem, hc.reflects.find?_eq_none hfind]
  | some e =>
    obtain ⟨he, hkey, -⟩ := hc.reflects.find?_eq_some hfind
    have hthere : .text key ∈ c.keys := hkey ▸ List.mem_map_of_mem he
    simp [hmem.mp hthere]

/-- What a look-up finds. -/
theorem found_eq (hc : Recalls n h c) (key : String) :
    (find? c.entries (.text key)).map (·.2) = if key ∈ recent n h then latest h key else none := by
  have hisSome := hc.isSome_find? key
  cases hfind : find? c.entries (.text key) with
  | none => simp_all
  | some e =>
    obtain ⟨-, -, hlatest⟩ := hc.reflects.find?_eq_some hfind
    simp_all

theorem has (hc : Recalls n h c) (key : String) :
    c.has (.text key) = .ok (decide (key ∈ recent n h)) := by
  rw [Cache.has, Value.asKey_text, ← hc.isSome_find?]
  rfl

/-- The key that is used becomes the newest, and the oldest is dropped if there is no room. -/
theorem use (hc : Recalls n h c) (key : String) (a : α) :
    (trim c.maxSize (refresh c.entries (.text key) a)).map (·.1) =
        ((used h ++ [key]).dedup.rtake n).map .text ∧
      ∀ e ∈ trim c.maxSize (refresh c.entries (.text key) a),
        e = (.text key, a) ∨ e ∈ c.entries ∧ e.1 ≠ .text key := by
  have hnewest : ((find? c.entries (.text key)).map (·.1)).getD (.text key) = .text key := by
    cases hfind : find? c.entries (.text key) with
    | none => rfl
    | some e => exact (hc.reflects.find?_eq_some hfind).2.1
  rw [hc.maxSize, refresh, hnewest]
  constructor
  · have hothers : (c.entries.filter (!·.1.equal (.text key))).map (·.1) =
        ((recent n h).filter (· != key)).map .text := by
      have hkeys := congrArg (List.filter (!·.equal (.text key))) hc.keys
      rw [Cache.keys, List.filter_map, List.filter_map] at hkeys
      exact hkeys
    calc (trim (.int n) (c.entries.filter (!·.1.equal (.text key)) ++ [(.text key, a)])).map (·.1)
        = (((recent n h).filter (· != key) ++ [key]).map Value.text).rtake n := by
          rw [trim_eq_rtake, ← map_rtake, List.map_append, hothers, List.map_append]
          rfl
      _ = ((used h ++ [key]).dedup.rtake n).map .text := by
          rw [map_rtake, recent, rtake_use (List.nodup_dedup _), dedup_append_singleton]
  · intro e he
    rcases List.mem_append.mp ((trim_suffix _ _).subset he) with he | he
    · obtain ⟨he, hother⟩ := List.mem_filter.mp he
      have hne : ¬e.1.equal (.text key) = true := by simpa using hother
      exact .inr ⟨he, fun hkey => hne ((hc.reflects.mem_equal_iff he).mpr hkey)⟩
    · exact .inl (List.mem_singleton.mp he)

/-! One call. -/

theorem get (hc : Recalls n h c) (key : String) : ∃ c',
    c.get (.text key) = .ok (if key ∈ recent n h then latest h key else none, c') ∧
      Recalls n (h ++ [.got key (if key ∈ recent n h then latest h key else none)]) c' := by
  have hfound := hc.found_eq key
  have hlatest (found : Option α) : latest (h ++ [.got key found]) = latest h :=
    latest_append nofun
  rw [Cache.get, Value.asKey_text]
  simp only [bind, Except.bind]
  rw [← hfound]
  cases hfind : find? c.entries (.text key) with
  | none =>
    refine ⟨_, rfl, hc.maxSize, ?_, ?_, ?_⟩
    · rw [recent, used_append]
      exact hc.keys
    · rw [hlatest]
      exact hc.linkages
    · simp [← hc.lookups, Event.call, Call.isGet, Nat.add_assoc]
  | some e =>
    -- Nothing is dropped, since the key was there before.
    have hroom : (refresh c.entries (.text key) e.2).length ≤ n := by
      rw [(hc.reflects.refresh_perm hfind).length_eq]
      exact hc.size_le
    have huse := hc.use key e.2
    rw [hc.maxSize, trim_eq (by exact_mod_cast hroom)] at huse
    refine ⟨_, rfl, hc.maxSize, ?_, ?_, ?_⟩
    · rw [recent, used_append]
      exact huse.1
    · intro e' he'
      rw [hlatest]
      rcases huse.2 e' he' with rfl | ⟨he', -⟩
      · exact ⟨key, rfl, (hc.reflects.find?_eq_some hfind).2.2⟩
      · exact hc.linkages e' he'
    · simp [← hc.lookups, Event.call, Call.isGet, Nat.add_assoc, Nat.add_comm 1]

theorem put (hc : Recalls n h c) (key : String) (a : α) : ∃ c',
    c.put (.text key) a = .ok c' ∧ Recalls n (h ++ [.stored key a]) c' := by
  obtain ⟨hkeys, hentries⟩ := hc.use key a
  refine ⟨_, rfl, hc.maxSize, ?_, ?_, ?_⟩
  · rw [recent, used_append]
    exact hkeys
  · intro e he
    rcases hentries e he with rfl | ⟨he, hne⟩
    · exact ⟨key, rfl, by simp [latest_stored]⟩
    · obtain ⟨k, hk, hlatest⟩ := hc.linkages e he
      have hother : key ≠ k := fun heq => hne (heq ▸ hk)
      exact ⟨k, hk, by simp [latest_stored, hother, hlatest]⟩
  · simp [← hc.lookups, Event.call, Call.isGet]

theorem test (hc : Recalls n h c) (key : Value) (answer : Except Error Bool) :
    Recalls n (h ++ [.tested key answer]) c where
  maxSize := hc.maxSize
  keys := by
    rw [recent, used_append]
    exact hc.keys
  linkages := by
    rw [latest_append nofun]
    exact hc.linkages
  lookups := by simp [← hc.lookups, Event.call, Call.isGet]

theorem clear (hc : Recalls n h c) : Recalls n (h ++ [.cleared]) c.clear where
  maxSize := hc.maxSize
  keys := by
    rw [recent, used_append, useAfter, List.dedup_nil, List.rtake_nil]
    rfl
  linkages := fun _ he => absurd he List.not_mem_nil
  lookups := by simp [← hc.lookups, Event.call, Call.isGet, Cache.clear]

theorem serve (hc : Recalls n h c) (call : Call α) :
    ∃ e c', c.serve call = .ok (e, c') ∧ e.call = call ∧ Recalls n (h ++ [e]) c' := by
  cases call with
  | get key =>
    obtain ⟨c', hget, hc'⟩ := hc.get key
    refine ⟨_, c', ?_, rfl, hc'⟩
    rw [Cache.serve, hget]
    rfl
  | put key a =>
    obtain ⟨c', hput, hc'⟩ := hc.put key a
    refine ⟨_, c', ?_, rfl, hc'⟩
    rw [Cache.serve, hput]
    rfl
  | has key => exact ⟨_, _, rfl, rfl, hc.test key _⟩
  | clear => exact ⟨_, _, rfl, rfl, hc.clear⟩

theorem run (hc : Recalls n h c) (calls : List (Call α)) :
    ∃ es c', c.run calls = .ok (es, c') ∧ es.map Event.call = calls ∧ Recalls n (h ++ es) c' := by
  induction calls generalizing h c with
  | nil => exact ⟨[], c, rfl, rfl, by simpa using hc⟩
  | cons call calls ih =>
    obtain ⟨e, c₁, hserve, hcall, h₁⟩ := hc.serve call
    obtain ⟨es, c', hrun, hcalls, h'⟩ := ih h₁
    refine ⟨e :: es, c', ?_, by simp [hcall, hcalls], by simpa using h'⟩
    simp only [Cache.run, hserve, hrun, bind, Except.bind, pure, Except.pure]

end Recalls

/-- Whether a key is there can be asked at any time without a trace in the cache. -/
theorem run_without_tests (calls : List (Call α)) (c : Cache α) :
    (c.run (calls.filter (!·.isTest))).map (·.2) = (c.run calls).map (·.2) := by
  induction calls generalizing c with
  | nil => rfl
  | cons call calls ih =>
    cases htest : call.isTest with
    | true =>
      obtain ⟨key, rfl⟩ : ∃ key, call = .has key := by cases call <;> simp_all [Call.isTest]
      rw [List.filter_cons_of_neg (by simp [htest]), ih, Cache.run]
      simp only [serve, bind, Except.bind, pure, Except.pure]
      cases c.run calls <;> rfl
    | false =>
      rw [List.filter_cons_of_pos (by simp [htest]), Cache.run, Cache.run]
      simp only [bind, Except.bind, pure, Except.pure]
      cases c.serve call with
      | error e => rfl
      | ok r =>
        have hrest := ih r.2
        dsimp only
        cases hl : r.2.run (calls.filter (!·.isTest)) <;> cases hr : r.2.run calls <;>
          simp_all [Except.map]

theorem create_int (hn : 1 ≤ n) :
    (create (.int n) : Except Error (Cache α)) = .ok { maxSize := .int n } := by
  have horder : (Value.int n).order "<=" (.int 0) = .ok (some .gt) := by
    have hgt : compare (n : ℤ) 0 = .gt := Int.compare_eq_gt.mpr (by omega)
    rw [← hgt]
    rfl
  rw [create, Value.isAtMost, horder]
  rfl

/-- Whatever calls are made, the cache holds the keys that were used last since it was emptied, as
many as it has room for and in the order of their latest uses, each with the linkage that was put
for it last. A look-up finds just that, and is counted; asking whether a key is there changes
nothing. -/
theorem holds_recent (hn : 1 ≤ n) (calls : List (Call α)) : ∃ c₀ h c,
    create (.int n) = .ok c₀ ∧ c₀.run calls = .ok (h, c) ∧ h.map Event.call = calls ∧
    c.keys = (recent n h).map .text ∧
    (recent n h).length = min n (used h).dedup.length ∧ c.size ≤ n ∧
    (∀ e ∈ c.entries, ∃ key, e.1 = .text key ∧ latest h key = some e.2) ∧
    (∀ key, ∃ c', c.get (.text key) = .ok (if key ∈ recent n h then latest h key else none, c')) ∧
    c.hits + c.misses = calls.countP Call.isGet ∧
    (∀ key, c.has (.text key) = .ok (decide (key ∈ recent n h))) ∧
    (c₀.run (calls.filter (!·.isTest))).map (·.2) = .ok c := by
  have hempty : Recalls n [] ({ maxSize := .int n } : Cache α) :=
    ⟨rfl, by simp [Cache.keys, recent, used], fun _ he => absurd he List.not_mem_nil, rfl⟩
  obtain ⟨h, c, hrun, hcalls, hc⟩ := hempty.run calls
  rw [List.nil_append] at hc
  refine ⟨_, h, c, create_int hn, hrun, hcalls, hc.keys, length_recent n h, hc.size_le,
    hc.linkages, fun key => ?_, hcalls ▸ hc.lookups, hc.has, ?_⟩
  · obtain ⟨c', hget, -⟩ := hc.get key
    exact ⟨c', hget⟩
  · rw [run_without_tests, hrun]
    rfl

/-- Two keys fit. The one that was looked up is kept when a third is put. -/
def threeKeys : List (Call ℕ) :=
  [.put "a" 1, .put "b" 2, .get "a", .has (.text "b"), .put "c" 3, .get "b"]

theorem holds_recent_threeKeys : 1 ≤ 2 ∧ ∃ c₀ h c, create (.int 2) = .ok c₀ ∧
    c₀.run threeKeys = .ok (h, c) ∧ c.keys = [.text "a", .text "c"] ∧ c.hits + c.misses = 2 ∧
    ∃ c', c.get (.text "a") = .ok (some 1, c') := by
  obtain ⟨c₀, h, c, hcreate, hrun, -, hkeys, -, -, -, hget, hlookups, -⟩ :=
    holds_recent (n := 2) (by decide) threeKeys
  obtain rfl := Except.ok.inj (hcreate.symm.trans (create_int (n := 2) (by decide)))
  have hhistory : h = [.stored "a" 1, .stored "b" 2, .got "a" (some 1),
      .tested (.text "b") (.ok true), .stored "c" 3, .got "b" none] :=
    (congrArg Prod.fst (Except.ok.inj hrun)).symm
  subst hhistory
  exact ⟨by decide, _, _, c, hcreate, hrun, hkeys, hlookups, hget "a"⟩

end ProcessTriggers.Audit.Cache
