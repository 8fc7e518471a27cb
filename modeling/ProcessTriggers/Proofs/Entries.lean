import Mathlib.Data.List.Nodup
import ProcessTriggers.Value.Basic

/-!
Entries: what is found under a key, what replacing an entry leaves as it was, and entries made of
pairs.
-/

namespace ProcessTriggers

namespace Entries

theorem get?_cons_self (key : String) (v : Value) (es : Entries) :
    get? ((key, v) :: es) key = some v := by
  rw [get?, List.lookup_cons, beq_self_eq_true]

theorem get?_cons_of_ne {key name : String} (h : name ≠ key) (v : Value) (es : Entries) :
    get? ((key, v) :: es) name = get? es name := by
  rw [get?, get?, List.lookup_cons, beq_eq_false_iff_ne.mpr h]

theorem get?_eq_none_of_not_mem {es : Entries} {key : String} (h : key ∉ es.keys) :
    es.get? key = none := by
  induction es with
  | nil => rfl
  | cons e es ih =>
    obtain ⟨hne, hrest⟩ := not_or.mp (List.mem_cons.not.mp h)
    rw [get?, List.lookup_cons, beq_eq_false_iff_ne.mpr hne]
    exact ih hrest

theorem ne_of_get?_eq_none {es : Entries} {key : String} (h : es.get? key = none)
    {e : String × Value} (he : e ∈ es) : e.1 ≠ key := by
  intro heq
  have hne := List.lookup_eq_none_iff.mp h e he
  rw [heq] at hne
  simp at hne

theorem exists_get?_of_mem {es : Entries} {key : String} (h : key ∈ es.keys) :
    ∃ v, es.get? key = some v := by
  obtain ⟨e, he, rfl⟩ := List.mem_map.mp h
  cases hget : es.get? e.1 with
  | none => exact absurd rfl (ne_of_get?_eq_none hget he)
  | some v => exact ⟨v, rfl⟩

/-- Without repeated keys it does not matter in which order entries stand. -/
theorem get?_eq_some_iff {es : Entries} (h : es.keys.Nodup) {key : String} {v : Value} :
    es.get? key = some v ↔ (key, v) ∈ es := by
  induction es with
  | nil => simp [get?]
  | cons e es ih =>
    obtain ⟨he, hes⟩ := List.nodup_cons.mp h
    rw [get?, List.lookup_cons, List.mem_cons]
    by_cases hkey : key = e.1
    · have hnot : (key, v) ∉ es := fun hmem => he (List.mem_map.mpr ⟨_, hmem, hkey⟩)
      simp only [beq_iff_eq.mpr hkey, Option.some.injEq, hnot, or_false]
      exact ⟨fun hv => Prod.ext hkey hv.symm, fun heq => (congrArg Prod.snd heq).symm⟩
    · have hne : (key, v) ≠ e := fun heq => hkey (congrArg Prod.fst heq)
      simp only [beq_eq_false_iff_ne.mpr hkey, hne, false_or]
      exact ih hes

theorem get?_filter {keep : String → Bool} {key : String} (h : keep key = true) (es : Entries) :
    get? (es.filter fun e => keep e.1) key = es.get? key := by
  induction es with
  | nil => rfl
  | cons e es ih =>
    rw [get?] at ih
    rw [List.filter_cons]
    split
    · rw [get?, get?, List.lookup_cons, List.lookup_cons, ih]
      rfl
    · next hdropped =>
      have hne : key ≠ e.1 := by
        rintro rfl
        exact hdropped h
      rw [get?, get?, List.lookup_cons, beq_eq_false_iff_ne.mpr hne, ih]
      rfl

/-- A key of entries that were put together is a key of one part only. -/
theorem get?_of_perm {es fs gs : Entries} (hkeys : gs.keys.Nodup) (h : gs.Perm (es ++ fs))
    (key : String) :
    es.get? key = none ∧ gs.get? key = fs.get? key ∨
      fs.get? key = none ∧ gs.get? key = es.get? key := by
  have hparts : (keys (es ++ fs)).Nodup := (h.map Prod.fst).nodup_iff.mp hkeys
  have hfound : ∀ v, gs.get? key = some v ↔ (key, v) ∈ es ++ fs := fun v =>
    (get?_eq_some_iff hkeys).trans h.mem_iff
  rw [keys, List.map_append] at hparts
  obtain ⟨hes, hfs, hdisjoint⟩ := List.nodup_append.mp hparts
  cases hget : es.get? key with
  | none =>
    refine .inl ⟨rfl, Option.ext fun v => ?_⟩
    have hnot : (key, v) ∉ es := fun hmem => ne_of_get?_eq_none hget hmem rfl
    rw [hfound, List.mem_append, or_iff_right hnot, get?_eq_some_iff hfs]
  | some v =>
    have hmem := (get?_eq_some_iff hes).mp hget
    refine .inr ⟨get?_eq_none_of_not_mem fun hkey => ?_, ?_⟩
    · exact hdisjoint key (List.mem_map_of_mem hmem) key hkey rfl
    · exact (hfound v).mpr (List.mem_append_left fs hmem)

theorem get?_put_self (es : Entries) (key : String) (v : Value) :
    (es.put key v).get? key = some v := by
  induction es with
  | nil => rw [put, get?, List.lookup_cons, beq_self_eq_true]
  | cons e es ih =>
    by_cases heq : e.1 = key
    · rw [put, if_pos heq, get?, List.lookup_cons, beq_self_eq_true]
    · rw [get?] at ih
      rw [put, if_neg heq, get?, List.lookup_cons, beq_eq_false_iff_ne.mpr (Ne.symm heq), ih]

theorem get?_put_of_ne (es : Entries) {key k : String} (h : k ≠ key) (v : Value) :
    (es.put key v).get? k = es.get? k := by
  induction es with
  | nil =>
    rw [put, get?, List.lookup_cons, beq_eq_false_iff_ne.mpr h]
    rfl
  | cons e es ih =>
    rw [get?, get?] at ih
    by_cases heq : e.1 = key
    · rw [put, if_pos heq, get?, get?, List.lookup_cons, List.lookup_cons, heq,
        beq_eq_false_iff_ne.mpr h]
    · rw [put, if_neg heq, get?, get?, List.lookup_cons, List.lookup_cons, ih]

/-- Of merged entries, the second ones count where they are there. -/
theorem get?_merge {fs : Entries} (h : fs.keys.Nodup) (es : Entries) (key : String) :
    (es.merge fs).get? key = (fs.get? key).or (es.get? key) := by
  induction fs generalizing es with
  | nil => rfl
  | cons f fs ih =>
    obtain ⟨hnew, hrest⟩ := List.nodup_cons.mp h
    have hmerge : es.merge (f :: fs) = (es.put f.1 f.2).merge fs := rfl
    rw [hmerge, ih hrest]
    by_cases heq : key = f.1
    · have hget : get? (f :: fs) key = some f.2 := heq ▸ get?_cons_self f.1 f.2 fs
      rw [hget, heq, get?_eq_none_of_not_mem hnew, get?_put_self]
      rfl
    · have hget : get? (f :: fs) key = get? fs key := get?_cons_of_ne heq f.2 fs
      rw [hget, get?_put_of_ne es heq]

theorem put_of_not_mem {es : Entries} {key : String} (h : key ∉ es.keys) (v : Value) :
    es.put key v = es ++ [(key, v)] := by
  induction es with
  | nil => rfl
  | cons e es ih =>
    rw [keys, List.map_cons, List.mem_cons, not_or] at h
    rw [put, if_neg (Ne.symm h.1), ih h.2]
    rfl

theorem foldl_put_of_nodup {es fs : Entries} (h : (keys (es ++ fs)).Nodup) :
    fs.foldl (fun es (k, v) => put es k v) es = es ++ fs := by
  induction fs generalizing es with
  | nil => exact (List.append_nil es).symm
  | cons f fs ih =>
    obtain ⟨key, v⟩ := f
    have hassoc : es ++ (key, v) :: fs = (es ++ [(key, v)]) ++ fs := by simp
    have hnew : key ∉ es.keys := by
      rw [keys, List.map_append, List.map_cons] at h
      exact fun hmem => (List.nodup_append.mp h).2.2 key hmem key List.mem_cons_self rfl
    rw [hassoc] at h ⊢
    rw [List.foldl_cons]
    dsimp only
    rw [put_of_not_mem hnew, ih h]

theorem mem_put {es : Entries} {key : String} {v : Value} {e : String × Value}
    (h : e ∈ es.put key v) : e = (key, v) ∨ e ∈ es := by
  induction es with
  | nil => exact .inl (List.mem_singleton.mp h)
  | cons f es ih =>
    rw [put] at h
    split at h
    · exact (List.mem_cons.mp h).imp_right (List.mem_cons_of_mem _)
    · rcases List.mem_cons.mp h with rfl | h
      · exact .inr List.mem_cons_self
      · exact (ih h).imp_right (List.mem_cons_of_mem _)

theorem keys_put_of_mem {es : Entries} {key : String} (h : key ∈ es.keys) (v : Value) :
    (es.put key v).keys = es.keys := by
  induction es with
  | nil => cases h
  | cons f es ih =>
    rw [put]
    split
    · next heq => rw [← heq]; rfl
    · next hne =>
      have hmem : key ∈ keys es := (List.mem_cons.mp h).resolve_left (Ne.symm hne)
      exact congrArg (f.1 :: ·) (ih hmem)

theorem nodup_keys_put {es : Entries} (h : es.keys.Nodup) (key : String) (v : Value) :
    (es.put key v).keys.Nodup := by
  by_cases hmem : key ∈ es.keys
  · rwa [keys_put_of_mem hmem]
  · rw [put_of_not_mem hmem, keys, List.map_append]
    refine List.nodup_append.mpr ⟨h, List.nodup_singleton key, fun a ha b hb heq => ?_⟩
    have hb : b = key := List.mem_singleton.mp hb
    exact hmem (hb ▸ heq ▸ ha)

theorem nodup_keys_merge {es : Entries} (h : es.keys.Nodup) (fs : Entries) :
    (es.merge fs).keys.Nodup := by
  induction fs generalizing es with
  | nil => exact h
  | cons f fs ih => exact ih (nodup_keys_put h f.1 f.2)

/-- The entries of pairs are among the pairs. -/
theorem mem_of_mem_ofPairs {es : Entries} {e : String × Value} (h : e ∈ ofPairs es) : e ∈ es := by
  have hfold : ∀ (fs es : Entries), e ∈ fs.foldl (fun es (k, v) => put es k v) es →
      e ∈ es ∨ e ∈ fs := by
    intro fs
    induction fs with
    | nil => exact fun es he => .inl he
    | cons f fs ih =>
      intro es he
      rcases ih _ he with he | he
      · rcases mem_put he with rfl | he
        · exact .inr List.mem_cons_self
        · exact .inl he
      · exact .inr (List.mem_cons_of_mem f he)
  exact (hfold es [] h).resolve_left List.not_mem_nil

theorem nodup_keys_ofPairs (es : Entries) : (ofPairs es).keys.Nodup :=
  @nodup_keys_merge [] List.nodup_nil es

/-- Entries without repeated keys are the entries of themselves. -/
theorem ofPairs_eq_self {es : Entries} (h : es.keys.Nodup) : ofPairs es = es := by
  have hnil : ([] ++ es : Entries).keys.Nodup := h
  exact foldl_put_of_nodup hnil

theorem mem_keys_put {es : Entries} {key k : String} {v : Value}
    (h : k ∈ (es.put key v).keys) : k = key ∨ k ∈ es.keys := by
  obtain ⟨e, he, rfl⟩ := List.mem_map.mp h
  exact (mem_put he).imp (congrArg Prod.fst) fun he => List.mem_map_of_mem he

end Entries

namespace Value

theorem entry_cons (e : String × Value) (es : Entries) (key : String) :
    entry (e :: es) key = if key = e.1 then e.2 else entry es key := by
  rw [entry, Entries.get?, List.lookup_cons]
  by_cases h : key = e.1
  · rw [beq_iff_eq.mpr h, if_pos h]
    rfl
  · rw [beq_eq_false_iff_ne.mpr h, if_neg h]
    rfl

theorem entry_put_self (es : Entries) (key : String) (v : Value) :
    entry (es.put key v) key = v := congrArg ofOption (es.get?_put_self key v)

theorem entry_put_of_ne (es : Entries) {key k : String} (h : k ≠ key) (v : Value) :
    entry (es.put key v) k = entry es k :=
  congrArg ofOption (es.get?_put_of_ne h v)

theorem entry_filter {p : String → Bool} {key : String} (hp : p key = true) (es : Entries) :
    entry (es.filter fun e => p e.1) key = entry es key :=
  congrArg ofOption (Entries.get?_filter hp es)

end Value

namespace Entries

theorem get?_eq_entry {es : Entries} {key : String} (h : key ∈ es.keys) :
    es.get? key = some (Value.entry es key) := by
  obtain ⟨v, hv⟩ := exists_get?_of_mem h
  rw [Value.entry, hv]
  rfl

/-- Entries without repeated keys are known by their keys and what is found under them. -/
theorem eq_map_entry {es : Entries} (h : es.keys.Nodup) :
    es = es.keys.map fun key => (key, Value.entry es key) := by
  induction es with
  | nil => rfl
  | cons e es ih =>
    obtain ⟨he, hes⟩ := List.nodup_cons.mp h
    have htail : (keys es).map (fun key => (key, Value.entry (e :: es) key)) =
        (keys es).map fun key => (key, Value.entry es key) := by
      refine List.map_congr_left fun key hkey => ?_
      have hne : key ≠ e.1 := by
        rintro rfl
        exact he hkey
      rw [Value.entry_cons, if_neg hne]
    have hkeys : keys (e :: es) = e.1 :: keys es := rfl
    rw [hkeys, List.map_cons, htail, ← ih hes, Value.entry_cons, if_pos rfl]

/-- Putting what is there changes nothing. -/
theorem put_entry_self {es : Entries} {key : String} (h : key ∈ es.keys) :
    es.put key (Value.entry es key) = es := by
  induction es with
  | nil => cases h
  | cons e es ih =>
    rw [put]
    split
    · next heq => rw [Value.entry_cons, if_pos heq.symm, ← heq]
    · next hne =>
      have hmem : key ∈ keys es := (List.mem_cons.mp h).resolve_left (Ne.symm hne)
      rw [Value.entry_cons, if_neg (Ne.symm hne), ih hmem]

end Entries
end ProcessTriggers
