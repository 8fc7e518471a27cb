import Mathlib.Data.List.Dedup
import Mathlib.Data.List.Perm.Subperm
import ProcessTriggers.Proofs.Handling

/-!
The cache of run linkages. As long as its entries agree with the store of runs, a linkage is
resolved as the store would do it, whatever was dropped from the cache before, and the store is
asked just if the cache does not know the run.
-/

namespace ProcessTriggers

open Action Automation

theorem Value.isGreater_int (m n : Int) :
    (Value.int m).isGreater (.int n) = .ok (decide (n < m)) := by
  have horder : (Value.int m).order ">" (.int n) = .ok (some (compare m n)) := rfl
  rw [isGreater, horder]
  refine congrArg Except.ok ?_
  rw [Bool.eq_iff_iff, beq_iff_eq, decide_eq_true_iff, Option.some.injEq, Int.compare_eq_gt]

namespace Audit.Cache

variable {α : Type} {known : String → Option α} {c c' : Cache α} {key : String}

/-- The entries agree with what is known, and no key is there twice. -/
structure Reflects (known : String → Option α) (c : Cache α) : Prop where
  agree : ∀ e ∈ c.entries, ∃ key, e.1 = .text key ∧ known key = some e.2
  nodup : c.keys.Nodup

theorem trim_suffix (maxSize : Value) (es : List (Value × α)) : trim maxSize es <:+ es := by
  induction es with
  | nil => exact List.suffix_refl []
  | cons e es ih =>
    rw [trim]
    split
    · exact ih.trans (List.suffix_cons e es)
    · exact List.suffix_refl _

/-- Nothing is dropped as long as there is room. -/
theorem trim_eq {bound : Int} {es : List (Value × α)} (h : (es.length : Int) ≤ bound) :
    trim (.int bound) es = es := by
  cases es with
  | nil => rfl
  | cons e es =>
    rw [trim, isOver, Value.isGreater_int, decide_eq_false (by omega)]
    rfl

/-- What becomes of the cache when a key is resolved: it is found, or it is looked up and then kept
if it is known. -/
inductive Resolved (known : String → Option α) (key : String) (c : Cache α) : Cache α → Prop
  | hit {a : α} (h : known key = some a) {es : List (Value × α)}
    (hes : es.Perm c.entries) (hmem : .text key ∈ c.keys) :
    Resolved known key c { c with entries := es, hits := c.hits + 1 }
  | learnt {a : α} (h : known key = some a) (hnew : .text key ∉ c.keys) :
    Resolved known key c { c with
      entries := trim c.maxSize (c.entries ++ [(.text key, a)]), misses := c.misses + 1 }
  | unknown (h : known key = none) : Resolved known key c { c with misses := c.misses + 1 }

namespace Reflects

theorem mem_equal_iff (h : Reflects known c) {e : Value × α} (he : e ∈ c.entries) :
    e.1.equal (.text key) = true ↔ e.1 = .text key := by
  obtain ⟨text, htext, -⟩ := h.agree e he
  rw [htext, Value.equal_text_iff, eq_comm]

theorem find?_eq_some (h : Reflects known c) {e : Value × α}
    (hfind : find? c.entries (.text key) = some e) :
    e ∈ c.entries ∧ e.1 = .text key ∧ known key = some e.2 := by
  have hmem : e ∈ c.entries := List.mem_of_find?_eq_some hfind
  have hkey : e.1 = .text key := (h.mem_equal_iff hmem).mp
    (List.find?_some (p := fun e : Value × α => e.1.equal (.text key)) hfind)
  obtain ⟨text, htext, hknown⟩ := h.agree e hmem
  obtain rfl := Value.text.inj (htext.symm.trans hkey)
  exact ⟨hmem, hkey, hknown⟩

theorem find?_eq_none (h : Reflects known c) (hfind : find? c.entries (.text key) = none) :
    .text key ∉ c.keys := by
  intro hmem
  obtain ⟨e, he, hkey⟩ := List.mem_map.mp hmem
  exact List.find?_eq_none.mp hfind e he ((h.mem_equal_iff he).mpr hkey)

/-- The entry of a key that is there is only moved to the end. -/
theorem refresh_perm (h : Reflects known c) {e : Value × α}
    (hfind : find? c.entries (.text key) = some e) :
    (refresh c.entries (.text key) e.2).Perm c.entries := by
  obtain ⟨hmem, hkey, -⟩ := h.find?_eq_some hfind
  have hrefresh : refresh c.entries (.text key) e.2 =
      c.entries.filter (!·.1.equal (.text key)) ++ [e] := by
    rw [refresh, hfind]
    rfl
  have hothers (x : Value × α) (hx : x ∈ c.entries) : (!x.1.equal (.text key)) = true ↔ x ≠ e := by
    rw [Bool.not_eq_true', Bool.eq_false_iff, Ne, h.mem_equal_iff hx, ← hkey, not_iff_not]
    exact ⟨List.inj_on_of_nodup_map h.nodup hx hmem, congrArg Prod.fst⟩
  have hnodup : c.entries.Nodup := h.nodup.of_map _
  rw [hrefresh, List.perm_ext_iff_of_nodup _ hnodup]
  · intro x
    rw [List.mem_append, List.mem_filter, List.mem_singleton]
    constructor
    · rintro (⟨hx, -⟩ | rfl)
      · exact hx
      · exact hmem
    · intro hx
      by_cases heq : x = e
      · exact Or.inr heq
      · exact Or.inl ⟨hx, (hothers x hx).mpr heq⟩
  · refine List.nodup_append.mpr ⟨hnodup.filter _, List.nodup_singleton e, ?_⟩
    rintro x hx y hy rfl
    obtain ⟨hx, hother⟩ := List.mem_filter.mp hx
    exact (hothers x hx).mp hother (List.mem_singleton.mp hy)

end Reflects

/-- A key that is not there is added at the end. -/
theorem refresh_eq {es : List (Value × α)} (hfind : find? es (.text key) = none) (a : α) :
    refresh es (.text key) a = es ++ [(.text key, a)] := by
  rw [refresh, hfind, List.filter_eq_self.mpr]
  · rfl
  · intro e he
    rw [Bool.not_eq_true', Bool.eq_false_iff]
    exact List.find?_eq_none.mp hfind e he

theorem Reflects.learn {a : α} (h : Reflects known c) (hknown : known key = some a)
    (hnew : .text key ∉ c.keys) :
    Reflects known { c with entries := c.entries ++ [(.text key, a)] } where
  agree e he := by
    rcases List.mem_append.mp he with he | he
    · exact h.agree e he
    · obtain rfl := List.mem_singleton.mp he
      exact ⟨key, rfl, hknown⟩
  nodup := by
    rw [keys, List.map_append]
    refine List.nodup_append.mpr ⟨h.nodup, List.nodup_singleton _, ?_⟩
    rintro k hk k' hk' rfl
    obtain rfl := List.mem_singleton.mp hk'
    exact hnew hk

theorem Reflects.length_le (h : Reflects known c) {ks : List String}
    (hks : ∀ key, .text key ∈ c.keys → key ∈ ks) : c.entries.length ≤ ks.length := by
  have hsub : c.keys ⊆ ks.map Value.text := by
    intro k hk
    obtain ⟨e, he, rfl⟩ := List.mem_map.mp hk
    obtain ⟨key, hkey, -⟩ := h.agree e he
    rw [hkey] at hk ⊢
    exact List.mem_map_of_mem (hks key hk)
  have hlength := (List.Nodup.subperm h.nodup hsub).length_le
  rwa [keys, List.length_map, List.length_map] at hlength

theorem Resolved.reflects (h : Resolved known key c c') (hc : Reflects known c) :
    Reflects known c' := by
  cases h with
  | hit h hes hmem =>
    exact ⟨fun e he => hc.agree e (hes.subset he), (hes.map _).nodup_iff.mpr hc.nodup⟩
  | @learnt a h hnew =>
    have hsuffix := trim_suffix c.maxSize (c.entries ++ [(.text key, a)])
    have hlearn := hc.learn h hnew
    exact ⟨fun e he => hlearn.agree e (hsuffix.subset he),
      (hsuffix.map _).sublist.nodup hlearn.nodup⟩
  | unknown h => exact ⟨hc.agree, hc.nodup⟩

theorem Resolved.maxSize (h : Resolved known key c c') : c'.maxSize = c.maxSize := by
  cases h <;> rfl

/-- Some keys were asked for. Nothing was dropped from the cache: it holds the known ones among the
keys, each of which was looked up once; the others were looked up whenever they were asked for. -/
structure Holds (isKnown : String → Bool) (asked : List String) (lookups : Nat) (c : Cache α) :
    Prop where
  mem_iff : ∀ k, .text k ∈ c.keys ↔ k ∈ asked ∧ isKnown k = true
  lookups : lookups = c.entries.length + asked.countP (!isKnown ·)

namespace Holds

variable {isKnown : String → Bool} {asked : List String} {m : Nat}

/-- There are as many entries as known keys were asked for. -/
theorem length_eq (h : Holds isKnown asked m c) (hc : Reflects known c) :
    c.entries.length = (asked.filter isKnown).dedup.length := by
  have hperm : c.keys.Perm ((asked.filter isKnown).dedup.map Value.text) := by
    refine (List.perm_ext_iff_of_nodup hc.nodup
      ((List.nodup_dedup _).map fun _ _ => Value.text.inj)).mpr fun k => ?_
    rw [List.mem_map]
    constructor
    · intro hk
      obtain ⟨e, he, rfl⟩ := List.mem_map.mp hk
      obtain ⟨key, hkey, -⟩ := hc.agree e he
      rw [hkey] at hk ⊢
      exact ⟨key, List.mem_dedup.mpr (List.mem_filter.mpr ((h.mem_iff key).mp hk)), rfl⟩
    · rintro ⟨key, hkey, rfl⟩
      exact (h.mem_iff key).mpr (List.mem_filter.mp (List.mem_dedup.mp hkey))
  have hlength := hperm.length_eq
  rwa [keys, List.length_map, List.length_map] at hlength

theorem hit (h : Holds isKnown asked m c) {es : List (Value × α)} (hes : es.Perm c.entries)
    (hmem : .text key ∈ c.keys) (hits : Nat) :
    Holds isKnown (key :: asked) m { c with entries := es, hits } := by
  obtain ⟨hasked, hisKnown⟩ := (h.mem_iff key).mp hmem
  refine ⟨fun k => ?_, ?_⟩
  · have hsame : .text k ∈ es.map (·.1) ↔ .text k ∈ c.keys := (hes.map _).mem_iff
    rw [keys, hsame, h.mem_iff, List.mem_cons]
    constructor
    · exact fun ⟨hk, hisKnown⟩ => ⟨.inr hk, hisKnown⟩
    · rintro ⟨rfl | hk, hisKnown⟩
      · exact ⟨hasked, hisKnown⟩
      · exact ⟨hk, hisKnown⟩
  · rw [List.countP_cons_of_neg (by simp [hisKnown]), hes.length_eq, h.lookups]

theorem learn (h : Holds isKnown asked m c) (hisKnown : isKnown key = true) (a : α)
    (misses : Nat) : Holds isKnown (key :: asked) (m + 1)
      { c with entries := c.entries ++ [(.text key, a)], misses } := by
  refine ⟨fun k => ?_, ?_⟩
  · rw [keys, List.map_append, List.mem_append, ← keys, h.mem_iff, List.mem_cons]
    simp only [List.map_cons, List.map_nil, List.mem_singleton, Value.text.injEq]
    constructor
    · rintro (⟨hk, hisKnown⟩ | rfl)
      · exact ⟨.inr hk, hisKnown⟩
      · exact ⟨.inl rfl, hisKnown⟩
    · rintro ⟨rfl | hk, hisKnown⟩
      · exact .inr rfl
      · exact .inl ⟨hk, hisKnown⟩
  · rw [List.countP_cons_of_neg (by simp [hisKnown]), List.length_append, List.length_singleton,
      h.lookups]
    omega

theorem miss (h : Holds isKnown asked m c) (hisKnown : isKnown key = false) (misses : Nat) :
    Holds isKnown (key :: asked) (m + 1) { c with misses } := by
  refine ⟨fun k => (h.mem_iff k).trans ?_, ?_⟩
  · rw [List.mem_cons]
    constructor
    · exact fun ⟨hk, hisKnown⟩ => ⟨.inr hk, hisKnown⟩
    · rintro ⟨rfl | hk, hisKnown'⟩
      · rw [hisKnown] at hisKnown'
        cases hisKnown'
      · exact ⟨hk, hisKnown'⟩
  · rw [List.countP_cons_of_pos (by simp [hisKnown]), h.lookups, Nat.add_assoc]

end Holds

/-- Nothing is dropped if there is room for all known keys that are asked for. -/
theorem Resolved.holds {isKnown : String → Bool} {asked ks : List String} {m n : Nat} {bound : Int}
    (h : Resolved known key c c') (hc : Reflects known c) (hbound : c.maxSize = .int bound)
    (hks : ∀ k ∈ key :: asked, isKnown k = true → k ∈ ks) (hroom : (ks.length : Int) ≤ bound)
    (hknown : (known key).isSome = isKnown key) (hn : c'.misses = c.misses + n)
    (hholds : Holds isKnown asked m c) : Holds isKnown (key :: asked) (m + n) c' := by
  cases h with
  | hit h hes hmem =>
    obtain rfl : n = 0 := by simpa using hn
    exact hholds.hit hes hmem _
  | @learnt a h hnew =>
    obtain rfl : n = 1 := by simpa using hn.symm
    have hlearn := hholds.learn (by rw [← hknown, h]; rfl) a (c.misses + 1)
    have hlength : (c.entries ++ [(Value.text key, a)]).length ≤ ks.length :=
      (hc.learn h hnew).length_le fun k hk =>
        have ⟨hasked, hisKnown⟩ := (hlearn.mem_iff k).mp hk
        hks k hasked hisKnown
    rw [hbound, trim_eq (by omega), ← hbound]
    exact hlearn
  | unknown h =>
    obtain rfl : n = 1 := by simpa using hn.symm
    exact hholds.miss (by rw [← hknown, h]; rfl) _

end Audit.Cache

namespace Audit

variable {s : Automation}

/-- The cache of a state agrees with its store of runs. -/
def Cached (s : Automation) : Prop :=
  s.dispatcher.cache.Reflects (s.runs.linkages.lookup ·)

theorem get_of_find? {c : Cache Linkage} {key : String} {e : Value × Linkage}
    (h : Cache.find? c.entries (.text key) = some e) : c.get (.text key) = .ok (some e.2, { c with
      entries := Cache.refresh c.entries (.text key) e.2, hits := c.hits + 1 }) := by
  rw [Cache.get, Value.asKey_text]
  simp only [bind, Except.bind, h]
  rfl

theorem get_of_find?_eq_none {c : Cache Linkage} {key : String}
    (h : Cache.find? c.entries (.text key) = none) :
    c.get (.text key) = .ok (none, { c with misses := c.misses + 1 }) := by
  rw [Cache.get, Value.asKey_text]
  simp only [bind, Except.bind, h]
  rfl

theorem put_of_find?_eq_none {c : Cache Linkage} {key : String}
    (h : Cache.find? c.entries (.text key) = none) (l : Linkage) :
    c.put (.text key) l = .ok { c with
      entries := Cache.trim c.maxSize (c.entries ++ [(.text key, l)]) } := by
  rw [Cache.put, Value.asKey_text]
  simp only [bind, Except.bind, Cache.refresh_eq h]
  rfl

theorem findLinkage_run (hfinds : s.broken.lookup .findLinkage = none) (key : String) :
    findLinkage key s = (.ok (s.runs.linkages.lookup key),
      { s with runs.lookups := s.runs.lookups + 1 }) := by
  rw [findLinkage, calling, bind_get, hfinds]
  rfl

theorem resolve_of_cached {key : String} {e : Value × Linkage}
    (hfind : Cache.find? s.dispatcher.cache.entries (.text key) = some e) :
    Ends (resolve key) s (some e.2) { s with dispatcher.cache := { s.dispatcher.cache with
      entries := Cache.refresh s.dispatcher.cache.entries (.text key) e.2
      hits := s.dispatcher.cache.hits + 1 } } := by
  rw [Ends, resolve, bind_get, bind_ofExcept (get_of_find? hfind)]
  exact ⟨_, rfl, rfl⟩

section Miss

variable {key : String} (hfind : Cache.find? s.dispatcher.cache.entries (.text key) = none)
  (hfinds : s.broken.lookup .findLinkage = none)

include hfind hfinds

/-- A run that is not known is not kept in the cache either. -/
theorem resolve_of_unknown (hknown : s.runs.linkages.lookup key = none) :
    Ends (resolve key) s none { s with
      dispatcher.cache := { s.dispatcher.cache with misses := s.dispatcher.cache.misses + 1 }
      runs.lookups := s.runs.lookups + 1 } := by
  rw [Ends, resolve, bind_get, bind_ofExcept (get_of_find?_eq_none hfind)]
  dsimp only
  rw [bind_ok (modify_run _ s), bind_ok (count_run _ _), Option.isSome_none,
    if_neg Bool.false_ne_true, bind_ok (findLinkage_run ?_ key)]
  · dsimp only
    rw [hknown]
    exact ⟨_, rfl, rfl⟩
  · exact hfinds

theorem resolve_of_known {l : Linkage} (hknown : s.runs.linkages.lookup key = some l) :
    Ends (resolve key) s (some l) { s with
      dispatcher.cache := { s.dispatcher.cache with
        entries := Cache.trim s.dispatcher.cache.maxSize
          (s.dispatcher.cache.entries ++ [(.text key, l)])
        misses := s.dispatcher.cache.misses + 1 }
      runs.lookups := s.runs.lookups + 1 } := by
  rw [Ends, resolve, bind_get, bind_ofExcept (get_of_find?_eq_none hfind)]
  dsimp only
  rw [bind_ok (modify_run _ s), bind_ok (count_run _ _), Option.isSome_none,
    if_neg Bool.false_ne_true, bind_ok (findLinkage_run ?_ key)]
  · dsimp only
    rw [hknown]
    dsimp only
    rw [bind_get, bind_ofExcept (put_of_find?_eq_none ?_ l)]
    · exact ⟨_, rfl, rfl⟩
    · exact hfind
  · exact hfinds

end Miss

/-- A linkage is resolved as the store has it; the store is asked just if the cache misses. -/
theorem resolve_ends (hcache : Cached s) (hfinds : s.broken.lookup .findLinkage = none)
    (key : String) : ∃ cache n,
    Cache.Resolved (s.runs.linkages.lookup ·) key s.dispatcher.cache cache ∧
    cache.misses = s.dispatcher.cache.misses + n ∧
    Ends (resolve key) s (s.runs.linkages.lookup key) { s with
      dispatcher.cache := cache
      runs.lookups := s.runs.lookups + n } := by
  cases hfind : Cache.find? s.dispatcher.cache.entries (.text key) with
  | some e =>
    obtain ⟨hmem, hkey, hknown⟩ := hcache.find?_eq_some hfind
    have hkeys : .text key ∈ s.dispatcher.cache.keys := hkey ▸ List.mem_map_of_mem hmem
    refine ⟨_, 0, .hit hknown (hcache.refresh_perm hfind) hkeys, rfl, ?_⟩
    rw [hknown]
    exact resolve_of_cached hfind
  | none =>
    cases hknown : s.runs.linkages.lookup key with
    | none => exact ⟨_, 1, .unknown hknown, rfl, resolve_of_unknown hfind hfinds hknown⟩
    | some l =>
      have hnew := hcache.find?_eq_none hfind
      exact ⟨_, 1, .learnt hknown hnew, rfl, resolve_of_known hfind hfinds hknown⟩

theorem saveElementRecord_run (hsaves : s.broken.lookup .saveElementRecord = none)
    (r : ElementRecord) :
    saveElementRecord r s = (.ok ⟨⟩, { s with runs.records := s.runs.records ++ [r] }) := by
  rw [saveElementRecord, calling, bind_get, hsaves]
  rfl

end Audit

namespace PendingAudit

variable {s : Automation}

/-- The record of an audit, once it is known which run it belongs to and how long the job took. -/
def recordOf (a : PendingAudit) (l : Linkage) (completedAt : Stamp) (durationMs : Int) :
    ElementRecord where
  instanceId := l.instanceId
  definitionId := l.definitionId
  elementId := a.job.elementId
  status := a.status
  startedAt := a.startedAt
  completedAt := completedAt
  durationMs := durationMs
  workerType := a.job.type.orElse .null

/-- The record that an audit comes to when it is written. -/
def record? (a : PendingAudit) (s : Automation) : Option ElementRecord :=
  if a.job.elementId.truthy then do
    let l ← s.runs.linkages.lookup a.job.runKey.shown
    let completedAt := Stamp.ofInstant s.clock.instant
    return a.recordOf l completedAt (← (Audit.durationMs a.startedAt completedAt).toOption)
  else none

theorem record?_of_falsy {a : PendingAudit} (h : a.job.elementId.truthy = false) :
    a.record? s = none := by
  rw [record?, h]
  rfl

section

variable {a : PendingAudit} (h : a.job.elementId.truthy = true)

include h

theorem record?_of_unknown (hknown : s.runs.linkages.lookup a.job.runKey.shown = none) :
    a.record? s = none := by
  rw [record?, if_pos h, hknown]
  rfl

theorem record?_of_known {l : Linkage}
    (hknown : s.runs.linkages.lookup a.job.runKey.shown = some l) :
    a.record? s = ((Audit.durationMs a.startedAt (Stamp.ofInstant s.clock.instant)).toOption).map
      (a.recordOf l (Stamp.ofInstant s.clock.instant)) := by
  simp only [record?, if_pos h, hknown, Option.bind_eq_bind, Option.bind_some, Option.pure_def,
    Option.map_eq_bind, Function.comp_def]

end

end PendingAudit

namespace Audit

/-- What becomes of the cache when an audit is written, with the number of look-ups in the store. -/
structure Consulted (a : PendingAudit) (s : Automation) (cache : Cache Linkage) (n : Nat) :
    Prop where
  resolved : a.job.elementId.truthy = true →
    Cache.Resolved (s.runs.linkages.lookup ·) a.job.runKey.shown s.dispatcher.cache cache
  untouched : a.job.elementId.truthy = false → cache = s.dispatcher.cache
  misses : cache.misses = s.dispatcher.cache.misses + n

theorem Consulted.reflects {a : PendingAudit} {cache : Cache Linkage} {n : Nat}
    (h : Consulted a s cache n) (hcache : Cached s) :
    cache.Reflects (s.runs.linkages.lookup ·) := by
  cases helement : a.job.elementId.truthy with
  | false =>
    rw [h.untouched helement]
    exact hcache
  | true => exact (h.resolved helement).reflects hcache

theorem Consulted.maxSize {a : PendingAudit} {cache : Cache Linkage} {n : Nat}
    (h : Consulted a s cache n) : cache.maxSize = s.dispatcher.cache.maxSize := by
  cases helement : a.job.elementId.truthy with
  | false => rw [h.untouched helement]
  | true => exact (h.resolved helement).maxSize

/-- An audit is written as if there were no cache. -/
theorem record_ends (hcache : Cached s) (hfinds : s.broken.lookup .findLinkage = none)
    (hsaves : s.broken.lookup .saveElementRecord = none) (a : PendingAudit) : ∃ cache n,
    Consulted a s cache n ∧
    Ends (record a.job a.status a.startedAt) s (a.record? s) { s with
      dispatcher.cache := cache
      runs := { s.runs with
        lookups := s.runs.lookups + n
        records := s.runs.records ++ (a.record? s).toList } } := by
  cases helement : a.job.elementId.truthy with
  | false =>
    have hskips : ¬ a.job.elementId.truthy = true := ne_true_of_eq_false helement
    refine ⟨_, 0, ⟨fun h => absurd h hskips, fun _ => rfl, rfl⟩, ?_⟩
    have hwrite : write a.job a.status a.startedAt s = (.ok none, s) := by
      rw [write, helement]
      rfl
    rw [Ends, PendingAudit.record?_of_falsy helement, record, bind_ok (attempt_run _ s), hwrite]
    exact ⟨s, rfl, by simp⟩
  | true =>
    have hwrites : ¬ a.job.elementId.truthy = false := ne_false_of_eq_true helement
    obtain ⟨cache, n, hresolved, hmisses, s₁, hresolve, hcore⟩ :=
      resolve_ends hcache hfinds a.job.runKey.shown
    refine ⟨cache, n, ⟨fun _ => hresolved, fun h => absurd h hwrites, hmisses⟩, ?_⟩
    obtain ⟨logged, metrics, events, statuses, rfl⟩ := eq_of_core hcore
    rw [Ends, record, bind_ok (attempt_run _ s), write, helement, Bool.not_true,
      if_neg Bool.false_ne_true, bind_ok hresolve]
    cases hknown : s.runs.linkages.lookup a.job.runKey.shown with
    | none =>
      rw [PendingAudit.record?_of_unknown helement hknown, Option.toList_none, List.append_nil]
      exact ⟨_, rfl, rfl⟩
    | some l =>
      rw [PendingAudit.record?_of_known helement hknown]
      dsimp only
      rw [bind_ok (now_run _)]
      cases durationMs a.startedAt (Stamp.ofInstant s.clock.instant) with
      | error e =>
        rw [Except.toOption, Option.map_none, Option.toList_none, List.append_nil,
          bind_error (ofExcept_run (.error e) _)]
        exact ⟨_, rfl, rfl⟩
      | ok ms =>
        rw [Except.toOption, Option.map_some, Option.toList_some, bind_ok (ofExcept_run (.ok ms) _),
          bind_ok (saveElementRecord_run ?_ _)]
        · exact ⟨_, rfl, rfl⟩
        · exact hsaves

/-- An audit was written: its record is there, and the store and the cache were consulted. -/
def Written (a : PendingAudit) (s s' : Automation) : Prop :=
  ∃ cache n, Consulted a s cache n ∧ s'.core = { s with
    dispatcher.cache := cache
    runs := { s.runs with
      lookups := s.runs.lookups + n
      records := s.runs.records ++ (a.record? s).toList } }.core

/-- The task that writes an audit. -/
def task (a : PendingAudit) : Action (Option ElementRecord) :=
  withBound a.bound (record a.job a.status a.startedAt)

theorem task_written (hcache : Cached s) (hfinds : s.broken.lookup .findLinkage = none)
    (hsaves : s.broken.lookup .saveElementRecord = none) (a : PendingAudit) :
    ∃ r, (task a s).1 = .ok r ∧ Written a s (task a s).2 := by
  obtain ⟨cache, n, hconsulted, hends⟩ :=
    record_ends (s := { s with bound := a.bound }) hcache hfinds hsaves a
  obtain ⟨s', hrun, hcore⟩ : Ends (task a) s (a.record? s) { s with
      dispatcher.cache := cache
      runs := { s.runs with
        lookups := s.runs.lookups + n
        records := s.runs.records ++ (a.record? s).toList } } := .withBound rfl hends
  rw [hrun]
  exact ⟨_, rfl, cache, n, ⟨hconsulted.resolved, hconsulted.untouched, hconsulted.misses⟩, hcore⟩

end Audit
end ProcessTriggers
