import Mathlib.Data.List.Basic
import ProcessTriggers.Path

/-!
Paths into a context. To follow a path made of two is to follow one after the other, and a path
whose keys are given leads to what the keys lead to, or to nothing from the first key on that is
not there.
-/

namespace ProcessTriggers

namespace Text

variable {sep : Char}

theorem parts_ne_nil (sep : Char) (cs : List Char) : parts sep cs ≠ [] := by
  cases cs with
  | nil => exact List.cons_ne_nil _ _
  | cons c cs =>
    rw [parts]
    split
    · exact List.cons_ne_nil _ _
    · split <;> exact List.cons_ne_nil _ _

theorem parts_cons_sep (sep : Char) (cs : List Char) :
    parts sep (sep :: cs) = [] :: parts sep cs := by
  rw [parts]
  cases hparts : parts sep cs with
  | nil => exact absurd hparts (parts_ne_nil sep cs)
  | cons part rest => exact if_pos rfl

theorem parts_cons_of_ne {c : Char} (h : c ≠ sep) {cs part : List Char} {rest : List (List Char)}
    (hparts : parts sep cs = part :: rest) : parts sep (c :: cs) = (c :: part) :: rest := by
  rw [parts, hparts]
  exact if_neg h

/-- The separator between two texts separates their parts. -/
theorem parts_append (p q : List Char) :
    parts sep (p ++ sep :: q) = parts sep p ++ parts sep q := by
  induction p with
  | nil => exact parts_cons_sep sep q
  | cons c p ih =>
    obtain ⟨part, rest, hparts⟩ := List.exists_cons_of_ne_nil (parts_ne_nil sep p)
    rw [List.cons_append]
    by_cases h : c = sep
    · rw [h, parts_cons_sep, parts_cons_sep, ih, List.cons_append]
    · rw [hparts, List.cons_append] at ih
      rw [parts_cons_of_ne h ih, parts_cons_of_ne h hparts, List.cons_append]

theorem parts_of_not_mem {cs : List Char} (h : sep ∉ cs) : parts sep cs = [cs] := by
  induction cs with
  | nil => rfl
  | cons c cs ih =>
    obtain ⟨hne, hrest⟩ := not_or.mp (List.mem_cons.not.mp h)
    exact parts_cons_of_ne (Ne.symm hne) (ih hrest)

/-- Texts that were joined by a separator which none of them has are its parts. -/
theorem parts_intercalate {texts : List (List Char)} (hne : texts ≠ [])
    (h : ∀ cs ∈ texts, sep ∉ cs) : parts sep ([sep].intercalate texts) = texts := by
  induction texts with
  | nil => exact absurd rfl hne
  | cons cs texts ih =>
    have hcs : parts sep cs = [cs] := parts_of_not_mem (h cs List.mem_cons_self)
    cases texts with
    | nil => rw [List.intercalate_singleton, hcs]
    | cons ds texts =>
      rw [List.intercalate_cons_cons, List.append_assoc, List.singleton_append, parts_append, hcs,
        ih (List.cons_ne_nil ds texts) fun es hes => h es (List.mem_cons_of_mem cs hes)]
      rfl

end Text

namespace Path

variable {v w : Value} {keys : List String}

/-- Keys lead from a value to another one, each of them by an entry of an object. -/
inductive Leads : Value → List String → Value → Prop
  | here (v : Value) : Leads v [] v
  | enter {es : Entries} {key : String} {u w : Value} {keys : List String}
    (entry : Entries.get? es key = some u) (rest : Leads u keys w) :
    Leads (.object es) (key :: keys) w

/-- On the way that some keys lead there is no going on: what was reached is no object, or has no
entry under the next key. -/
def Stops (v : Value) (keys : List String) : Prop :=
  ∃ before key after u, keys = before ++ key :: after ∧ Leads v before u ∧
    ∀ es, u = .object es → Entries.get? es key = none

theorem follow_append (v : Value) (ks ls : List String) :
    follow v (ks ++ ls) = follow (follow v ks) ls := List.foldl_append

/-- Nothing but an object can be entered. -/
theorem step_of_not_object (h : ∀ es, v ≠ .object es) (key : String) : step v key = .missing := by
  cases v with
  | object es => exact absurd rfl (h es)
  | _ => rfl

theorem follow_missing (keys : List String) : follow .missing keys = .missing := by
  induction keys with
  | nil => rfl
  | cons key keys ih => exact ih

theorem follow_of_not_object (h : ∀ es, v ≠ .object es) (hne : keys ≠ []) :
    follow v keys = .missing := by
  obtain ⟨key, rest, rfl⟩ := List.exists_cons_of_ne_nil hne
  rw [follow, List.foldl_cons, step_of_not_object h]
  exact follow_missing rest

theorem follow_of_leads (h : Leads v keys w) : follow v keys = w := by
  induction h with
  | here v => rfl
  | @enter es key u w keys entry rest ih =>
    rw [follow, List.foldl_cons, step, entry, Option.getD_some]
    exact ih

theorem follow_of_stops (h : Stops v keys) : follow v keys = .missing := by
  obtain ⟨before, key, after, u, rfl, hleads, hnone⟩ := h
  have hstep : step u key = .missing := by
    cases u with
    | object es => rw [step, hnone es rfl, Option.getD_none]
    | _ => rfl
  rw [follow_append, follow_of_leads hleads, follow, List.foldl_cons, hstep]
  exact follow_missing after

/-- Keys lead somewhere, or there is no going on. -/
theorem leads_or_stops (v : Value) (keys : List String) : (∃ w, Leads v keys w) ∨ Stops v keys := by
  induction keys generalizing v with
  | nil => exact .inl ⟨v, .here v⟩
  | cons key keys ih =>
    have hstop : (∀ es, v = .object es → Entries.get? es key = none) → Stops v (key :: keys) :=
      fun h => ⟨[], key, keys, v, rfl, .here v, h⟩
    cases v with
    | object es =>
      cases hget : Entries.get? es key with
      | none => exact .inr (hstop fun es' h => Value.object.inj h ▸ hget)
      | some u =>
        rcases ih u with ⟨w, hleads⟩ | ⟨before, key', after, u', rfl, hleads, hnone⟩
        · exact .inl ⟨w, .enter hget hleads⟩
        · exact .inr ⟨key :: before, key', after, u', rfl, .enter hget hleads, hnone⟩
    | _ => exact .inr (hstop fun es h => nomatch h)

/-- Where keys lead on, there is no stop on the way. -/
theorem not_stops_of_leads (h : Leads v keys w) : ¬ Stops v keys := by
  induction h with
  | here v =>
    rintro ⟨before, key, after, u, hkeys, -⟩
    exact absurd hkeys.symm (List.append_ne_nil_of_right_ne_nil before (List.cons_ne_nil key after))
  | @enter es key u w keys entry rest ih =>
    rintro ⟨before, key', after, u', hkeys, hleads, hnone⟩
    cases hleads with
    | here =>
      obtain ⟨rfl, rfl⟩ := List.cons.inj hkeys
      exact absurd (hnone es rfl) (entry ▸ Option.some_ne_none u)
    | enter entry' rest' =>
      obtain ⟨rfl, rfl⟩ := List.cons.inj hkeys
      obtain rfl := Option.some.inj (entry.symm.trans entry')
      exact ih ⟨_, key', after, u', rfl, rest', hnone⟩

theorem keys?_path (p : String) :
    keys? ("$." ++ p) = some ((Text.parts '.' p.toList).map String.ofList) := by
  rw [keys?, String.toList_append]
  rfl

end Path

namespace Value

open Path

/-- A path is resolved by following its keys. -/
theorem resolve_path (p : String) (context : Value) :
    resolve (.text ("$." ++ p)) context =
      follow context ((Text.parts '.' p.toList).map String.ofList) := by
  have htruthy : truthy (.text ("$." ++ p)) = true := by
    simp [truthy]
  simp only [resolve, htruthy, keys?_path, Bool.not_true, Bool.false_eq_true, if_false]

/-- The keys of a path that is written with dots between them, if no key has a dot itself. -/
theorem parts_joined {keys : List String} (hne : keys ≠ [])
    (hdots : ∀ key ∈ keys, '.' ∉ key.toList) :
    (Text.parts '.' (".".intercalate keys).toList).map String.ofList = keys := by
  have htexts : ∀ cs ∈ keys.map String.toList, '.' ∉ cs := by
    simpa using hdots
  have hdot : ".".toList = ['.'] := rfl
  rw [String.toList_intercalate, hdot, Text.parts_intercalate (by simpa using hne) htexts,
    List.map_map]
  simp

/-- A path that continues another one is resolved in what the other leads to, and nothing is found
in a value that is no object. A path of some keys leads where the keys lead, and to nothing just
where there is no going on, or where the context itself has the mark of a missing value. -/
theorem resolve_follows (context : Value) :
    (∀ p q : String, resolve (.text ("$." ++ p ++ "." ++ q)) context =
      resolve (.text ("$." ++ q)) (resolve (.text ("$." ++ p)) context)) ∧
    (∀ (q : String) (v : Value), (∀ es, v ≠ .object es) →
      resolve (.text ("$." ++ q)) v = .missing) ∧
    ∀ keys : List String, keys ≠ [] → (∀ key ∈ keys, '.' ∉ key.toList) →
      let found := resolve (.text ("$." ++ ".".intercalate keys)) context
      ((∃ v, Leads context keys v) ↔ ¬ Stops context keys) ∧
      (∀ v, Leads context keys v → found = v) ∧
      (found = .missing ↔ Stops context keys ∨ Leads context keys .missing) := by
  refine ⟨fun p q => ?_, fun q v hv => ?_, fun keys hne hdots => ?_⟩
  · rw [String.append_assoc, String.append_assoc, resolve_path, resolve_path, resolve_path,
      ← follow_append, ← List.map_append, ← Text.parts_append]
    simp
  · rw [resolve_path]
    exact follow_of_not_object hv (by simpa using Text.parts_ne_nil '.' q.toList)
  · intro found
    have hfound : found = follow context keys := by
      rw [← parts_joined hne hdots]
      exact resolve_path _ context
    have hstops : ¬ Stops context keys → ∃ w, Leads context keys w :=
      (leads_or_stops context keys).resolve_right
    refine ⟨⟨fun ⟨w, hleads⟩ => not_stops_of_leads hleads, hstops⟩,
      fun v hleads => hfound.trans (follow_of_leads hleads), fun hmissing => ?_, ?_⟩
    · rcases leads_or_stops context keys with ⟨w, hleads⟩ | hstops
      · have hw : w = .missing := (follow_of_leads hleads).symm.trans (hfound.symm.trans hmissing)
        exact .inr (hw ▸ hleads)
      · exact .inl hstops
    · rintro (hstops | hleads)
      · exact hfound.trans (follow_of_stops hstops)
      · exact hfound.trans (follow_of_leads hleads)

/-- An entity without an identifier, and with a part under the empty key. -/
def unnamedEntity : Value :=
  .object [("entity", .object [("id", .null), ("", .object [("size", .int 0)])])]

theorem resolve_follows_unnamedEntity :
    resolve (.text "$.entity.id") unnamedEntity = .null ∧
      resolve (.text "$.entity.id.name") unnamedEntity = .missing ∧
      resolve (.text "$.entity..size") unnamedEntity = .int 0 := by
  obtain ⟨hcompose, hnothing, hkeys⟩ := resolve_follows unnamedEntity
  have hid : resolve (.text "$.entity.id") unnamedEntity = .null :=
    (hkeys ["entity", "id"] (by decide) (by decide)).2.1 .null (.enter rfl (.enter rfl (.here _)))
  have hempty := hkeys ["entity", "", "size"] (by decide) (by decide)
  refine ⟨hid, ?_, hempty.2.1 (.int 0) (.enter rfl (.enter rfl (.enter rfl (.here _))))⟩
  have hname := hcompose "entity.id" "name"
  rw [show "$." ++ "entity.id" = "$.entity.id" from rfl, hid] at hname
  exact hname.trans (hnothing "name" .null fun es h => nomatch h)

end Value
end ProcessTriggers
