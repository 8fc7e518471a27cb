import Mathlib.Logic.Function.Basic
import Mathlib.Data.List.Nodup
import ProcessTriggers.Store.Keyed
import ProcessTriggers.Supply

/-!
Tables keyed by texts, and the identifiers that a supply gives out.
-/

namespace ProcessTriggers

namespace Value

/-- Nothing but a text equals a text. -/
theorem equal_text_iff (s : String) (v : Value) : equal (.text s) v = true ↔ v = .text s := by
  cases v with
  | text t => rw [equal, beq_iff_eq, text.injEq, eq_comm]
  | _ => simp [equal, sameNumber?, integer?]

theorem any_equal_iff {v : Value} {s : String} (hv : v = .text s) (vs : List Value) :
    vs.any v.equal = true ↔ v ∈ vs := by
  simp [hv, List.any_eq_true, equal_text_iff]

theorem asKey_text (s : String) : (Value.text s).asKey = .ok (.text s) := rfl

theorem asKey_eq_ok {v key : Value} (h : v.asKey = .ok key) : key = v := by
  unfold asKey at h
  by_cases hv : v.isHashable
  · rw [if_pos hv] at h
    exact (Except.ok.inj h).symm
  · rw [if_neg hv] at h
    cases h

end Value

namespace Keyed

variable {α β : Type}

/-- Every key is a text, and none is there twice. -/
structure Texts (t : Keyed α) : Prop where
  text : ∀ k ∈ t.keys, ∃ s : String, k = .text s
  nodup : t.keys.Nodup

theorem mem_keys {t : Keyed α} {k : Value} {x : α} (h : (k, x) ∈ t) : k ∈ t.keys :=
  List.mem_map_of_mem h

theorem mem_keys_iff {t : Keyed α} {k : Value} : k ∈ t.keys ↔ ∃ x, (k, x) ∈ t := by
  rw [keys, List.mem_map]
  exact ⟨fun ⟨e, he, hk⟩ => ⟨e.2, hk ▸ he⟩, fun ⟨x, hx⟩ => ⟨_, hx, rfl⟩⟩

theorem mem_items {t : Keyed α} {x : α} : x ∈ t.items ↔ ∃ k, (k, x) ∈ t := by
  simp only [items, List.mem_map, Prod.exists, exists_eq_right]

theorem has_erase (t : Keyed α) (key : Value) : (t.erase key).has key = false := by
  rw [has, erase, List.any_eq_false]
  intro e he
  obtain ⟨-, hne⟩ := List.mem_filter.mp he
  rw [Bool.not_eq_true', Bool.eq_false_iff] at hne
  exact hne

theorem has_put {key : Value} (h : key.equal key = true) (t : Keyed α) (x : α) :
    (t.put key x).has key = true := by
  induction t with
  | nil => simp [put, has, h]
  | cons e t ih =>
    rw [put]
    split
    · next hkey => simp [has, hkey]
    · rw [has, List.any_cons]
      exact Bool.or_eq_true_iff.mpr (.inr ih)

theorem get?_put_of_has {α : Type} {t : Keyed α} {k : Value} {x : α} (h : t.has k = true) :
    (t.put k x).get? k = some x := by
  induction t with
  | nil => cases h
  | cons e t ih =>
    rw [put]
    by_cases he : e.1.equal k = true
    · rw [if_pos he, get?, List.find?_cons, he]
      rfl
    · have hrest : Keyed.has t k = true := by
        rw [has, List.any_cons, Bool.or_eq_true] at h
        exact h.resolve_left he
      rw [if_neg he, get?, List.find?_cons, Bool.eq_false_iff.mpr he]
      exact ih hrest

theorem mem_of_mem_put {t : Keyed α} {key : Value} {x : α} {e : Value × α}
    (h : e ∈ t.put key x) : e ∈ t ∨ e.2 = x := by
  induction t with
  | nil => exact .inr (congrArg Prod.snd (List.mem_singleton.mp h))
  | cons f t ih =>
    rw [put] at h
    split at h
    · rcases List.mem_cons.mp h with rfl | h
      · exact .inr rfl
      · exact .inl (List.mem_cons_of_mem f h)
    · rcases List.mem_cons.mp h with rfl | h
      · exact .inl List.mem_cons_self
      · exact (ih h).imp (List.mem_cons_of_mem f) id

namespace Texts

variable {t : Keyed α} {k k' : Value} {x x' : α}

theorem nil : Texts ([] : Keyed α) := ⟨fun _ h => absurd h List.not_mem_nil, List.nodup_nil⟩

theorem equal_iff (h : Texts t) (hk : k ∈ t.keys) : k.equal k' = true ↔ k' = k := by
  obtain ⟨s, rfl⟩ := h.text k hk
  exact Value.equal_text_iff s k'

theorem tail {e : Value × α} (h : Texts (e :: t)) : Texts t where
  text k hk := h.text k (List.mem_cons_of_mem e.1 hk)
  nodup := (List.nodup_cons.mp h.nodup).2

theorem head_not_mem {e : Value × α} (h : Texts (e :: t)) : e.1 ∉ t.keys :=
  (List.nodup_cons.mp h.nodup).1

theorem has_iff (h : Texts t) : t.has k = true ↔ k ∈ t.keys := by
  rw [has, List.any_eq_true]
  constructor
  · rintro ⟨e, he, heq⟩
    rw [(h.equal_iff (mem_keys he)).mp heq]
    exact mem_keys he
  · intro hk
    obtain ⟨e, he, rfl⟩ := List.mem_map.mp hk
    exact ⟨e, he, (h.equal_iff (mem_keys he)).mpr rfl⟩

theorem has_eq_false_iff (h : Texts t) : t.has k = false ↔ k ∉ t.keys := by
  rw [Bool.eq_false_iff, Ne, h.has_iff]

theorem get?_eq_some_iff (h : Texts t) : t.get? k = some x ↔ (k, x) ∈ t := by
  induction t with
  | nil => simp [get?]
  | cons e t ih =>
    have hmem : e.1 ∈ Keyed.keys (e :: t) := List.mem_cons_self
    rw [get?, List.find?_cons]
    by_cases heq : e.1.equal k = true
    · have hk : k = e.1 := (h.equal_iff hmem).mp heq
      rw [heq, hk]
      simp only [Option.map_some, Option.some.injEq, List.mem_cons, Prod.ext_iff, true_and]
      constructor
      · exact fun hx => Or.inl hx.symm
      · rintro (hx | hx)
        · exact hx.symm
        · exact absurd (mem_keys hx) h.head_not_mem
    · have hk : k ≠ e.1 := fun hk => heq ((h.equal_iff hmem).mpr hk)
      rw [Bool.not_eq_true] at heq
      rw [heq]
      simp only [List.mem_cons, Prod.ext_iff, hk, false_and, false_or]
      exact ih h.tail

theorem get?_eq_none_iff (h : Texts t) : t.get? k = none ↔ k ∉ t.keys := by
  rw [Option.eq_none_iff_forall_ne_some, mem_keys_iff, not_exists]
  exact forall_congr' fun x => not_congr h.get?_eq_some_iff

/-- A key leads to one item only. -/
theorem unique (h : Texts t) (hx : (k, x) ∈ t) (hx' : (k, x') ∈ t) : x = x' := by
  have hget := h.get?_eq_some_iff.mpr hx
  rw [h.get?_eq_some_iff.mpr hx'] at hget
  exact (Option.some.inj hget).symm

theorem mem_put (h : Texts t) {e : Value × α} :
    e ∈ t.put k x ↔ e = (k, x) ∨ e ∈ t ∧ e.1 ≠ k := by
  induction t with
  | nil => simp [put]
  | cons f t ih =>
    have hmem : f.1 ∈ Keyed.keys (f :: t) := List.mem_cons_self
    by_cases heq : f.1.equal k = true
    · have hk : k = f.1 := (h.equal_iff hmem).mp heq
      rw [put, if_pos heq, hk, List.mem_cons, List.mem_cons]
      constructor
      · rintro (he | he)
        · exact Or.inl he
        · exact Or.inr ⟨Or.inr he, fun hne => h.head_not_mem (hne ▸ mem_keys he)⟩
      · rintro (he | ⟨rfl | he, hne⟩)
        · exact Or.inl he
        · exact absurd rfl hne
        · exact Or.inr he
    · have hk : f.1 ≠ k := fun hk => heq ((h.equal_iff hmem).mpr hk.symm)
      rw [put, if_neg heq, List.mem_cons, List.mem_cons, ih h.tail]
      constructor
      · rintro (rfl | he | ⟨he, hne⟩)
        · exact Or.inr ⟨Or.inl rfl, hk⟩
        · exact Or.inl he
        · exact Or.inr ⟨Or.inr he, hne⟩
      · rintro (he | ⟨rfl | he, hne⟩)
        · exact Or.inr (Or.inl he)
        · exact Or.inl rfl
        · exact Or.inr (Or.inr ⟨he, hne⟩)

theorem put_of_not_mem (h : Texts t) (hk : k ∉ t.keys) : t.put k x = t ++ [(k, x)] := by
  induction t with
  | nil => rfl
  | cons e t ih =>
    have heq : ¬ e.1.equal k = true := fun heq =>
      hk ((h.equal_iff List.mem_cons_self).mp heq ▸ List.mem_cons_self)
    rw [put, if_neg heq, ih h.tail fun hmem => hk (List.mem_cons_of_mem e.1 hmem)]
    rfl

theorem put_of_mem (h : Texts t) (hk : k ∈ t.keys) :
    t.put k x = t.map fun e => if e.1.equal k then (e.1, x) else e := by
  induction t with
  | nil => exact absurd hk List.not_mem_nil
  | cons e t ih =>
    rw [List.map_cons]
    by_cases heq : e.1.equal k = true
    · have hk : k = e.1 := (h.equal_iff List.mem_cons_self).mp heq
      have hrest : t.map (fun e => if e.1.equal k then (e.1, x) else e) = t := by
        refine (List.map_congr_left fun f hf => ?_).trans (List.map_id' t)
        have hne : ¬f.1.equal k = true := by
          rw [h.tail.equal_iff (mem_keys hf), hk]
          exact fun heq => h.head_not_mem (heq ▸ mem_keys hf)
        rw [if_neg hne]
      rw [put, if_pos heq, if_pos heq, hrest]
    · have hne : k ≠ e.1 := fun hne => heq ((h.equal_iff List.mem_cons_self).mpr hne)
      have htail : k ∈ Keyed.keys t := (List.mem_cons.mp hk).resolve_left hne
      rw [put, if_neg heq, if_neg heq, ih h.tail htail]

theorem keys_put_of_mem (h : Texts t) (hk : k ∈ t.keys) : (t.put k x).keys = t.keys := by
  induction t with
  | nil => exact absurd hk List.not_mem_nil
  | cons e t ih =>
    by_cases heq : e.1.equal k = true
    · rw [put, if_pos heq]
      rfl
    · have hne : k ≠ e.1 := fun hne => heq ((h.equal_iff List.mem_cons_self).mpr hne)
      have htail : k ∈ Keyed.keys t := (List.mem_cons.mp hk).resolve_left hne
      have hrec := ih h.tail htail
      rw [put, if_neg heq]
      simp only [keys, List.map_cons] at hrec ⊢
      rw [hrec]

theorem keys_put_of_not_mem (h : Texts t) (hk : k ∉ t.keys) :
    (t.put k x).keys = t.keys ++ [k] := by
  rw [h.put_of_not_mem hk, keys, List.map_append]
  rfl

theorem put (h : Texts t) (s : String) : Texts (t.put (.text s) x) := by
  by_cases hk : Value.text s ∈ t.keys
  · have hkeys := h.keys_put_of_mem (x := x) hk
    exact ⟨fun k hk => h.text k (hkeys ▸ hk), hkeys ▸ h.nodup⟩
  · have hkeys := h.keys_put_of_not_mem (x := x) hk
    constructor
    · intro k hmem
      rw [hkeys, List.mem_append, List.mem_singleton] at hmem
      rcases hmem with hmem | rfl
      · exact h.text k hmem
      · exact ⟨s, rfl⟩
    · rw [hkeys]
      exact h.nodup.append (List.nodup_singleton _) (List.disjoint_singleton.mpr hk)

theorem mem_erase (h : Texts t) {e : Value × α} : e ∈ t.erase k ↔ e ∈ t ∧ e.1 ≠ k := by
  rw [erase, List.mem_filter]
  refine and_congr_right fun he => ?_
  rw [Bool.not_eq_true', Bool.eq_false_iff, Ne, h.equal_iff (mem_keys he)]
  exact ⟨fun hne heq => hne heq.symm, fun hne heq => hne heq.symm⟩

theorem erase_sublist (t : Keyed α) (k : Value) : (t.erase k).keys.Sublist t.keys :=
  List.filter_sublist.map _

theorem erase (h : Texts t) (k : Value) : Texts (t.erase k) where
  text k' hk' := h.text k' ((erase_sublist t k).subset hk')
  nodup := h.nodup.sublist (erase_sublist t k)

theorem not_mem_keys_erase (h : Texts t) : k ∉ (t.erase k).keys := by
  intro hk
  obtain ⟨e, he, heq⟩ := List.mem_map.mp hk
  exact (h.mem_erase.mp he).2 heq

theorem get?_put_self (h : Texts t) {s : String} (hk : k = .text s) :
    (t.put k x).get? k = some x := by
  subst hk
  exact (h.put s).get?_eq_some_iff.mpr (h.mem_put.mpr (.inl rfl))

theorem get?_put_of_ne (h : Texts t) {s : String} (hk : k = .text s) (hne : k' ≠ k)
    (hget : t.get? k' = some x) : (t.put k x').get? k' = some x := by
  subst hk
  have hmem := h.get?_eq_some_iff.mp hget
  exact (h.put s).get?_eq_some_iff.mpr (h.mem_put.mpr (.inr ⟨hmem, hne⟩))

theorem get?_erase_of_ne (h : Texts t) (hne : k' ≠ k) (hget : t.get? k' = some x) :
    (t.erase k).get? k' = some x := by
  have hmem := h.get?_eq_some_iff.mp hget
  exact (h.erase k).get?_eq_some_iff.mpr (h.mem_erase.mpr ⟨hmem, hne⟩)

end Texts
end Keyed

namespace Supply

theorem toString_injective : Function.Injective (toString : Nat → String) := by
  intro m n h
  have hrepr : Nat.repr m = Nat.repr n := h
  have hdigits : Nat.toDigits 10 m = Nat.toDigits 10 n := by
    rw [← Nat.toList_repr, ← Nat.toList_repr, hrepr]
  rw [← Nat.ofDigitChars_ten_toDigits (n := m), hdigits, Nat.ofDigitChars_ten_toDigits]

theorem idText_injective : Function.Injective idText := fun _ _ h =>
  toString_injective ((String.append_right_inj "id-").mp h)

/-- Identifiers that were given out one after another, after the first `low` and among the first
`high`. -/
def Issued (low high : Nat) (ids : List String) : Prop :=
  ∃ ns : List Nat, ids = ns.map idText ∧ ns.Pairwise (· < ·) ∧ ∀ n ∈ ns, low < n ∧ n ≤ high

namespace Issued

variable {low middle high : Nat} {ids ids' : List String}

theorem nil (low high : Nat) : Issued low high [] :=
  ⟨[], rfl, List.Pairwise.nil, fun _ h => absurd h List.not_mem_nil⟩

theorem nodup (h : Issued low high ids) : ids.Nodup := by
  obtain ⟨ns, rfl, hns, _⟩ := h
  exact (hns.imp Nat.ne_of_lt).map idText fun m n hne heq => hne (idText_injective heq)

theorem mono {low' high' : Nat} (h : Issued low high ids) (hlow : low' ≤ low)
    (hhigh : high ≤ high') : Issued low' high' ids := by
  obtain ⟨ns, hids, hns, hbounds⟩ := h
  refine ⟨ns, hids, hns, fun n hn => ?_⟩
  have := hbounds n hn
  omega

theorem append (h : Issued low middle ids) (h' : Issued middle high ids') (hlow : low ≤ middle)
    (hhigh : middle ≤ high) : Issued low high (ids ++ ids') := by
  obtain ⟨ns, rfl, hns, hbounds⟩ := h
  obtain ⟨ns', rfl, hns', hbounds'⟩ := h'
  refine ⟨ns ++ ns', List.map_append.symm, ?_, ?_⟩
  · refine List.pairwise_append.mpr ⟨hns, hns', fun m hm n hn => ?_⟩
    have := hbounds m hm
    have := hbounds' n hn
    omega
  · intro n hn
    rcases List.mem_append.mp hn with hn | hn
    · have := hbounds n hn
      omega
    · have := hbounds' n hn
      omega

theorem single {n : Nat} (hlow : low < n) (hhigh : n ≤ high) : Issued low high [idText n] :=
  ⟨[n], rfl, List.pairwise_singleton _ n, fun m hm => by
    rw [List.mem_singleton.mp hm]
    exact ⟨hlow, hhigh⟩⟩

theorem sublist (h : Issued low high ids) (hsub : ids'.Sublist ids) : Issued low high ids' := by
  obtain ⟨ns, rfl, hns, hbounds⟩ := h
  obtain ⟨ns', hns', rfl⟩ := List.sublist_map_iff.mp hsub
  exact ⟨ns', rfl, hns.sublist hns', fun n hn => hbounds n (hns'.subset hn)⟩

/-- The next identifier is new. -/
theorem next_not_mem (h : Issued low high ids) : idText (high + 1) ∉ ids := by
  obtain ⟨ns, rfl, _, hbounds⟩ := h
  intro hmem
  obtain ⟨n, hn, heq⟩ := List.mem_map.mp hmem
  have := hbounds n hn
  have := idText_injective heq
  omega

end Issued
end Supply
end ProcessTriggers
