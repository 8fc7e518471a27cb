import Mathlib.Logic.Function.Iterate
import ProcessTriggers.Log.Logger
import ProcessTriggers.Proofs.Actions
import ProcessTriggers.Proofs.Entries

/-!
The correlation fields of an entry. What a record says itself comes first, then what the innermost
of the blocks around it binds. To copy the bound fields onto the record beforehand makes no
difference inside the blocks, and keeps them for an entry that is written later.
-/

namespace ProcessTriggers

namespace Entries

/-- The entries that a function has for some names, in the order of the names. -/
def picked (f : String → Option Value) (names : List String) : Entries :=
  names.filterMap fun name => (f name).map (name, ·)

variable {f g : String → Option Value} {names : List String}

theorem picked_cons (f : String → Option Value) (name : String) (names : List String) :
    picked f (name :: names) =
      match f name with
      | none => picked f names
      | some v => (name, v) :: picked f names := by
  rw [picked, List.filterMap_cons]
  cases f name <;> rfl

theorem keys_picked_sublist (f : String → Option Value) (names : List String) :
    (picked f names).keys.Sublist names := by
  induction names with
  | nil => exact .slnil
  | cons name names ih =>
    rw [picked_cons]
    cases f name with
    | none => exact ih.cons name
    | some v => exact ih.cons_cons name

theorem nodup_keys_picked (h : names.Nodup) : (picked f names).keys.Nodup :=
  h.sublist (keys_picked_sublist f names)

theorem get?_picked {name : String} (h : name ∈ names) : (picked f names).get? name = f name := by
  induction names with
  | nil => cases h
  | cons first names ih =>
    rw [picked_cons]
    by_cases hfirst : name = first
    · subst hfirst
      cases hf : f name with
      | none =>
        by_cases hmem : name ∈ names
        · exact (ih hmem).trans hf
        · exact get?_eq_none_of_not_mem fun hkey => hmem ((keys_picked_sublist f names).subset hkey)
      | some v => exact get?_cons_self name v _
    · have hmem := (List.mem_cons.mp h).resolve_left hfirst
      cases f first with
      | none => exact ih hmem
      | some v => exact (get?_cons_of_ne hfirst v _).trans (ih hmem)

/-- To put what is there already changes nothing, so picked entries may have more of that. -/
theorem merge_picked (hnodup : names.Nodup) {es : Entries}
    (h : ∀ name ∈ names, g name = f name ∨
      f name = none ∧ ∃ v, g name = some v ∧ es.get? name = some v) :
    es.merge (picked g names) = es.merge (picked f names) := by
  induction names generalizing es with
  | nil => rfl
  | cons name names ih =>
    obtain ⟨hnew, hrest⟩ := List.nodup_cons.mp hnodup
    have hlater : ∀ v, ∀ other ∈ names, g other = f other ∨
        f other = none ∧ ∃ w, g other = some w ∧ (es.put name v).get? other = some w := by
      intro v other hother
      have hne : other ≠ name := fun heq => hnew (heq ▸ hother)
      rw [get?_put_of_ne es hne]
      exact h other (List.mem_cons_of_mem name hother)
    rw [picked_cons, picked_cons]
    rcases h name List.mem_cons_self with hsame | ⟨hnone, v, hsome, hget⟩
    · rw [hsame]
      cases f name with
      | none => exact ih hrest fun other hother => h other (List.mem_cons_of_mem name hother)
      | some v => exact ih hrest (hlater v)
    · have hthere : es.put name v = es := by
        have hkey : name ∈ es.keys := by
          by_contra hnot
          cases (get?_eq_none_of_not_mem hnot).symm.trans hget
        have hentry := put_entry_self hkey
        rwa [Value.entry, hget] at hentry
      have hput := ih hrest (hlater v)
      rw [hthere] at hput
      rw [hnone, hsome]
      exact (congrArg (merge · (picked g names)) hthere).trans hput

/-- Adds what is lacking of some names. -/
def filledUp (f : String → Value) (names : List String) (es : Entries) : Entries :=
  names.foldl (fun es name => if es.has name then es else es.put name (f name)) es

theorem get?_filledUp (f : String → Value) (names : List String) (es : Entries) (key : String) :
    (es.filledUp f names).get? key =
      (es.get? key).or (if key ∈ names then some (f key) else none) := by
  induction names generalizing es with
  | nil => simp [filledUp]
  | cons name names ih =>
    have hstep : es.filledUp f (name :: names) =
        (if es.has name then es else es.put name (f name)).filledUp f names := rfl
    rw [hstep, ih]
    by_cases hhas : es.has name = true
    · rw [if_pos hhas]
      by_cases hkey : key = name
      · obtain ⟨v, hv⟩ := Option.isSome_iff_exists.mp hhas
        have hget : es.get? key = some v := hkey ▸ hv
        rw [hget]
        rfl
      · simp [hkey]
    · rw [if_neg hhas]
      by_cases hkey : key = name
      · subst hkey
        have hget : es.get? key = none := by
          rw [Bool.not_eq_true, has, Option.isSome_eq_false_iff, Option.isNone_iff_eq_none] at hhas
          exact hhas
        rw [get?_put_self, hget]
        simp
      · rw [get?_put_of_ne es hkey]
        simp [hkey]

end Entries

namespace Log

/-- What entries bind a field to. Null binds nothing. -/
def bound? (es : Entries) (field : String) : Option Value := (es.get? field).filter (!·.isNull)

/-- What the attributes of a record say about a field. Neither null nor an empty text says
anything. -/
def said? (attributes : Entries) (field : String) : Option Value :=
  (attributes.get? field).filter fun v => !(v.isNull || v.equal (.text ""))

theorem equal_empty_iff {v : Value} : v.equal (.text "") = true ↔ v = .text "" := by
  cases v <;> simp [Value.equal, Value.sameNumber?, Value.integer?, Value.isNull, Value.isMissing]

/-- What the innermost of nested blocks binds a field to. The blocks are given from the outermost
on, inside of which `outer` is bound already. -/
def innermost? (outer : Entries) (blocks : List Entries) (field : String) : Option Value :=
  (outer :: blocks).reverse.findSome? (bound? · field)

/-- The fields that are bound inside nested blocks. -/
def inside (outer : Entries) (blocks : List Entries) : Entries := blocks.foldl bind outer

theorem bound?_bind {fields : Entries} (h : fields.keys.Nodup) (outer : Entries) (field : String) :
    bound? (bind outer fields) field = (bound? fields field).or (bound? outer field) := by
  have hnodup : Entries.keys (fields.filter fun e => !e.2.isNull) |>.Nodup :=
    h.sublist (List.filter_sublist.map _)
  have hgiven : Entries.get? (fields.filter fun e => !e.2.isNull) field = bound? fields field := by
    refine Option.ext fun v => ?_
    rw [Entries.get?_eq_some_iff hnodup, List.mem_filter, bound?, Option.filter_eq_some_iff,
      Entries.get?_eq_some_iff h]
  rw [bound?, bind, Entries.get?_merge hnodup, hgiven]
  cases hfields : bound? fields field with
  | none => rfl
  | some v =>
    obtain ⟨-, hv⟩ := Option.filter_eq_some_iff.mp hfields
    simp [hv]

/-- Inside nested blocks a field is bound to what the innermost block that binds it gives. -/
theorem bound?_inside {blocks : List Entries} (h : ∀ fields ∈ blocks, fields.keys.Nodup)
    (outer : Entries) (field : String) :
    bound? (inside outer blocks) field = innermost? outer blocks field := by
  induction blocks generalizing outer with
  | nil => simp [inside, innermost?]
  | cons fields blocks ih =>
    obtain ⟨hfields, hblocks⟩ := List.forall_mem_cons.mp h
    have hstep : inside outer (fields :: blocks) = inside (bind outer fields) blocks := rfl
    rw [hstep, ih hblocks, innermost?, innermost?, List.reverse_cons, List.reverse_cons,
      List.reverse_cons, List.findSome?_append, List.findSome?_append, List.findSome?_append]
    simp [bound?_bind hfields, Option.or_assoc]

theorem contextFields_subset : ∀ field ∈ contextFields, field ∈ shownAttributes :=
  fun _ h => List.mem_append_left _ h

theorem shownAttributes_nodup : shownAttributes.Nodup := by decide

theorem contextFields_nodup : contextFields.Nodup := by decide

namespace Record

variable {field : String}

theorem boundFields_eq (bound : Entries) :
    boundFields bound = Entries.picked (bound? bound) contextFields := by
  refine List.filterMap_congr fun name _ => ?_
  rw [bound?]
  cases bound.get? name with
  | none => rfl
  | some v => cases v <;> rfl

theorem givenAttributes_eq (r : Record) :
    r.givenAttributes = Entries.picked (said? r.attributes) shownAttributes := by
  refine List.filterMap_congr fun name _ => ?_
  rw [said?]
  cases r.attributes.get? name with
  | none => rfl
  | some v =>
    rw [Option.filter_some]
    dsimp only
    cases v.isNull || v.equal (.text "") <;> rfl

theorem nodup_keys_fields (bound : Entries) (r : Record) : (r.fields bound).keys.Nodup := by
  rw [fields, boundFields_eq]
  exact Entries.nodup_keys_merge (Entries.nodup_keys_picked contextFields_nodup) _

/-- What a record says itself wins over what is bound. -/
theorem get?_fields (hfield : field ∈ contextFields) (bound : Entries) (r : Record) :
    (r.fields bound).get? field = (said? r.attributes field).or (bound? bound field) := by
  rw [fields, boundFields_eq, givenAttributes_eq,
    Entries.get?_merge (Entries.nodup_keys_picked shownAttributes_nodup),
    Entries.get?_picked (contextFields_subset field hfield), Entries.get?_picked hfield]

/-- What the filter writes for a field that a record lacks. -/
def standIn (bound : Entries) (field : String) : Value := (bound.get? field).getD (.text "")

/-- What was copied says what is bound, unless that is an empty text. -/
theorem filter_standIn (bound : Entries) (field : String) :
    (some (standIn bound field)).filter (fun v => !(v.isNull || v.equal (.text ""))) =
      (bound? bound field).filter fun v => !v.equal (.text "") := by
  rw [standIn, bound?]
  cases bound.get? field with
  | none => rfl
  | some v =>
    rw [Option.getD_some, Option.filter_filter]
    simp only [Bool.not_or]

theorem get?_fill (bound : Entries) (r : Record) (key : String) :
    (r.fill bound).attributes.get? key = (r.attributes.get? key).or
      (if key ∈ contextFields then some (standIn bound key) else none) :=
  Entries.get?_filledUp (standIn bound) contextFields r.attributes key

/-- A record that was filled shows the fields that it showed before, as long as the same is
bound. -/
theorem fields_fill (bound : Entries) (r : Record) :
    (r.fill bound).fields bound = r.fields bound := by
  rw [fields, fields, givenAttributes_eq, givenAttributes_eq]
  refine Entries.merge_picked shownAttributes_nodup fun name _ => ?_
  rw [said?, said?, get?_fill]
  cases hown : r.attributes.get? name with
  | some v => exact .inl rfl
  | none =>
    by_cases hname : name ∈ contextFields
    · rw [boundFields_eq, Entries.get?_picked hname, if_pos hname, standIn, bound?]
      cases hbound : bound.get? name with
      | none => exact .inl rfl
      | some v =>
        cases hv : v.isNull with
        | true => exact .inl (by simp [hv])
        | false =>
          cases hempty : v.equal (.text "") with
          | true => exact .inl (by simp [hempty])
          | false => exact .inr ⟨rfl, v, by simp [hv, hempty], by simp [hv]⟩
    · rw [if_neg hname]
      exact .inl rfl

end Record

namespace Draft

/-- The record with the bound fields copied onto it. -/
def filled (bound : Entries) (d : Draft) : Draft :=
  { d with attributes := (Record.fill bound ⟨unset, d.logger, "", d.attributes⟩).attributes }

theorem get?_filled_of_not_mem {name : String} (h : name ∉ contextFields) (bound : Entries)
    (d : Draft) : (d.filled bound).attributes.get? name = d.attributes.get? name := by
  rw [filled, Record.get?_fill, if_neg h, Option.or_none]

theorem given_filled {name : String} (h : name ∉ contextFields) (bound : Entries) (d : Draft)
    (own : Value) : (d.filled bound).given name own = d.given name own := by
  rw [given, given, get?_filled_of_not_mem h]

theorem text_filled (bound : Entries) (d : Draft) : (d.filled bound).text = d.text := by
  rw [text, text, given_filled (by decide), get?_filled_of_not_mem (by decide)]
  rfl

/-- The attributes of a record as a record of their own. -/
def own (d : Draft) : Record := ⟨unset, d.logger, "", d.attributes⟩

/-- The entry that shows some correlation fields. -/
def showing (d : Draft) (now : Stamp) (fields : Entries) : Except Error Entries := do
  let level ← shownLevel d.level
  let message ← d.text
  let error := d.given "exc_info" .null
  let es := Entries.merge [
    ("timestamp", .text now.isoText), ("level", d.given "levelname" level),
    ("logger", d.given "name" (.text d.logger)), ("message", .text message),
    ("module", d.given "module" (.text d.place.module)),
    ("function", d.given "funcName" (.text d.place.function)),
    ("line", d.given "lineno" (.int d.place.line))] fields
  if error.truthy then return es.put "exception" (← shownError error) else return es

theorem entry_eq_showing (bound : Entries) (now : Stamp) (d : Draft) (isFilled : Bool) :
    d.entry bound now isFilled =
      d.showing now (Record.fields bound (if isFilled then d.own.fill bound else d.own)) := by
  rw [entry, showing]
  cases isFilled <;> rfl

theorem showing_filled (bound : Entries) (now : Stamp) (d : Draft) (fields : Entries) :
    (d.filled bound).showing now fields = d.showing now fields := by
  simp only [showing, text_filled, given_filled (by decide : "exc_info" ∉ contextFields),
    given_filled (by decide : "levelname" ∉ contextFields),
    given_filled (by decide : "name" ∉ contextFields),
    given_filled (by decide : "module" ∉ contextFields),
    given_filled (by decide : "funcName" ∉ contextFields),
    given_filled (by decide : "lineno" ∉ contextFields)]
  rfl

/-- To fill a record is to copy the bound fields onto it before its entry is made. -/
theorem entry_filled (bound : Entries) (now : Stamp) (d : Draft) :
    (d.filled bound).entry bound now false = d.entry bound now true := by
  rw [entry_eq_showing, entry_eq_showing, showing_filled]
  rfl

/-- The other names that an entry shows. -/
def otherNames : List String :=
  ["timestamp", "level", "logger", "message", "module", "function", "line", "exception"]

theorem not_mem_otherNames : ∀ field ∈ contextFields, field ∉ otherNames := by decide

theorem get?_showing {d : Draft} {now : Stamp} {fields es : Entries} {field : String}
    (hfield : field ∈ contextFields) (hnodup : fields.keys.Nodup)
    (h : d.showing now fields = .ok es) : es.get? field = fields.get? field := by
  have hother := not_mem_otherNames field hfield
  obtain ⟨level, -, h⟩ := exists_of_bind_eq_ok h
  obtain ⟨message, -, h⟩ := exists_of_bind_eq_ok h
  have hmerge : ∀ head : Entries, head.keys = otherNames.dropLast →
      (head.merge fields).get? field = fields.get? field := by
    intro head hhead
    have hnone : head.get? field = none := Entries.get?_eq_none_of_not_mem fun hmem =>
      hother (List.dropLast_subset _ (hhead ▸ hmem))
    rw [Entries.get?_merge hnodup, hnone, Option.or_none]
  dsimp only at h
  split at h
  · obtain ⟨shown, -, h⟩ := exists_of_bind_eq_ok h
    cases h
    have hne : field ≠ "exception" := fun heq => hother (heq ▸ by decide)
    rw [Entries.get?_put_of_ne _ hne]
    exact hmerge _ rfl
  · cases h
    exact hmerge _ rfl

/-- An entry shows what the record says about a field, or else what is bound. -/
theorem get?_entry {d : Draft} {bound es : Entries} {now : Stamp} {field : String}
    (hfield : field ∈ contextFields) (h : d.entry bound now false = .ok es) :
    es.get? field = (said? d.attributes field).or (bound? bound field) := by
  rw [entry_eq_showing] at h
  exact (get?_showing hfield (Record.nodup_keys_fields _ _) h).trans (Record.get?_fields hfield _ _)

/-- An entry is the same however often the record was filled before, if the same was bound. -/
theorem entry_filled_iterate (bound : Entries) (now : Stamp) (n : Nat) (d : Draft) :
    ((filled bound)^[n] d).entry bound now false = d.entry bound now false := by
  induction n with
  | zero => rfl
  | succ n ih =>
    rw [Function.iterate_succ_apply', entry_filled, entry_eq_showing, if_pos rfl,
      Record.fields_fill, ← ih, entry_eq_showing]
    rfl

theorem get?_filled {field : String} (hfield : field ∈ contextFields) (bound : Entries)
    (d : Draft) : (d.filled bound).attributes.get? field =
      some ((d.attributes.get? field).getD (Record.standIn bound field)) := by
  rw [filled, Record.get?_fill, if_pos hfield, Option.or_some]

/-- A record that was filled has every field, its own where it had one before. -/
theorem get?_filled_iterate {field : String} (hfield : field ∈ contextFields) (bound : Entries)
    (n : Nat) (d : Draft) : ((filled bound)^[n + 1] d).attributes.get? field =
      some ((d.attributes.get? field).getD (Record.standIn bound field)) := by
  induction n with
  | zero => exact get?_filled hfield bound d
  | succ n ih =>
    rw [Function.iterate_succ_apply', get?_filled hfield, ih]
    rfl

end Draft

/-- Runs an action in nested blocks, given from the outermost on. -/
def nested {α : Type} (blocks : List Entries) (a : Action α) : Action α :=
  blocks.foldr Action.binding a

/-- An action in nested blocks has their fields bound. However it ends, what was bound before is
bound again. -/
theorem nested_run {α : Type} {blocks : List Entries} (h : blocks ≠ []) (a : Action α)
    (s : Automation) : nested blocks a s = ((a { s with bound := inside s.bound blocks }).1,
      { (a { s with bound := inside s.bound blocks }).2 with bound := s.bound }) := by
  induction blocks generalizing s with
  | nil => exact absurd rfl h
  | cons fields blocks ih =>
    have hstep : nested (fields :: blocks) a = Action.binding fields (nested blocks a) := rfl
    rw [hstep, Action.binding_run, Action.withBound_run]
    cases blocks with
    | nil => rfl
    | cons => rw [ih (List.cons_ne_nil _ _)]; rfl

/-- A record of which one field is given and another is null. -/
def startedJob : Draft where
  level := .int info
  logger := "jobs.dispatcher"
  message := .text "started"
  arguments := []
  place := ⟨"dispatcher", "handle", 71⟩
  attributes := [("job_type", .text "send-email"), ("job_key", .null)]

/-- Two blocks, of which the inner one binds a field anew and leaves another as it is. -/
def twoBlocks : List Entries :=
  [[("trigger_id", .text "t-1"), ("job_key", .text "7")],
    [("trigger_id", .text "t-2"), ("job_key", .null)]]

end Log
end ProcessTriggers
