import Mathlib.Data.List.Forall2
import ProcessTriggers.Environment.Reference

/-!
What filling makes of an object. Its shape, its keys and whatever is no text stay as they are, and
each text gives way to the text that it is filled to; but a list that is an item of a list stays as
it is with all that it holds.
-/

namespace ProcessTriggers

namespace Value

mutual

/-- A value with all of its texts made empty: its shape, its keys and whatever is no text. -/
def skeleton : Value → Value
  | .text _ => .text ""
  | .list xs => .list (skeletonItems xs)
  | .object es => .object (skeletonEntries es)
  | v => v

def skeletonItems : List Value → List Value
  | [] => []
  | x :: xs => skeleton x :: skeletonItems xs

def skeletonEntries : List (String × Value) → List (String × Value)
  | [] => []
  | (k, v) :: es => (k, skeleton v) :: skeletonEntries es

end

mutual

/-- The texts of a value from first to last. -/
def texts : Value → List String
  | .text s => [s]
  | .list xs => textsItems xs
  | .object es => textsEntries es
  | _ => []

def textsItems : List Value → List String
  | [] => []
  | x :: xs => texts x ++ textsItems xs

def textsEntries : List (String × Value) → List String
  | [] => []
  | (_, v) :: es => texts v ++ textsEntries es

end

def isList : Value → Bool
  | .list _ => true
  | _ => false

mutual

/-- The texts of a value from first to last, each with whether it is buried: it lies in a list that
is an item of a list. -/
def marked (buried : Bool) : Value → List (Bool × String)
  | .text s => [(buried, s)]
  | .list xs => markedItems buried xs
  | .object es => markedEntries buried es
  | _ => []

def markedItems (buried : Bool) : List Value → List (Bool × String)
  | [] => []
  | x :: xs => marked (buried || isList x) x ++ markedItems buried xs

def markedEntries (buried : Bool) : List (String × Value) → List (Bool × String)
  | [] => []
  | (_, v) :: es => marked buried v ++ markedEntries buried es

end

mutual

/-- Buried or not, the texts are the same. -/
theorem marked_snd (buried : Bool) : ∀ v : Value, (v.marked buried).map (·.2) = v.texts
  | .text s => rfl
  | .list xs => by rw [marked, texts, markedItems_snd buried xs]
  | .object es => by rw [marked, texts, markedEntries_snd buried es]
  | .null | .bool _ | .int _ | .double _ | .bytes _ | .missing | .record _ | .stamp _ | .date _ =>
    rfl

theorem markedItems_snd (buried : Bool) :
    ∀ xs : List Value, (markedItems buried xs).map (·.2) = textsItems xs
  | [] => rfl
  | x :: xs => by
    rw [markedItems, List.map_append, marked_snd _ x, markedItems_snd buried xs, textsItems]

theorem markedEntries_snd (buried : Bool) :
    ∀ es : List (String × Value), (markedEntries buried es).map (·.2) = textsEntries es
  | [] => rfl
  | (k, v) :: es => by
    rw [markedEntries, List.map_append, marked_snd buried v, markedEntries_snd buried es,
      textsEntries]

end

mutual

/-- What is in a buried value is buried. -/
theorem marked_true : ∀ v : Value, v.marked true = v.texts.map (true, ·)
  | .text s => rfl
  | .list xs => by rw [marked, texts, markedItems_true xs]
  | .object es => by rw [marked, texts, markedEntries_true es]
  | .null | .bool _ | .int _ | .double _ | .bytes _ | .missing | .record _ | .stamp _ | .date _ =>
    rfl

theorem markedItems_true : ∀ xs : List Value, markedItems true xs = (textsItems xs).map (true, ·)
  | [] => rfl
  | x :: xs => by
    rw [markedItems, Bool.true_or, marked_true x, markedItems_true xs, textsItems, List.map_append]

theorem markedEntries_true :
    ∀ es : List (String × Value), markedEntries true es = (textsEntries es).map (true, ·)
  | [] => rfl
  | (k, v) :: es => by
    rw [markedEntries, marked_true v, markedEntries_true es, textsEntries, List.map_append]

end

mutual

/-- A value is determined by its skeleton and its texts, which are what comes before others. -/
theorem eq_of_skeleton {rest rest' : List String} : ∀ v w : Value, v.skeleton = w.skeleton →
    v.texts ++ rest = w.texts ++ rest' → v = w ∧ rest = rest'
  | .text s, w, hskeleton, htexts => by
    cases w with
    | text s' =>
      obtain ⟨rfl, rfl⟩ := List.cons.inj htexts
      exact ⟨rfl, rfl⟩
    | _ => simp only [skeleton, reduceCtorEq] at hskeleton
  | .list xs, w, hskeleton, htexts => by
    cases w with
    | list ys =>
      obtain ⟨rfl, rfl⟩ := eq_of_skeletonItems xs ys (list.inj hskeleton) htexts
      exact ⟨rfl, rfl⟩
    | _ => simp only [skeleton, reduceCtorEq] at hskeleton
  | .object es, w, hskeleton, htexts => by
    cases w with
    | object fs =>
      obtain ⟨rfl, rfl⟩ := eq_of_skeletonEntries es fs (object.inj hskeleton) htexts
      exact ⟨rfl, rfl⟩
    | _ => simp only [skeleton, reduceCtorEq] at hskeleton
  | .null, w, hskeleton, htexts | .bool _, w, hskeleton, htexts | .int _, w, hskeleton, htexts
  | .double _, w, hskeleton, htexts | .bytes _, w, hskeleton, htexts
  | .missing, w, hskeleton, htexts | .record _, w, hskeleton, htexts
  | .stamp _, w, hskeleton, htexts | .date _, w, hskeleton, htexts => by
    cases w <;> simp_all [skeleton, texts]

theorem eq_of_skeletonItems {rest rest' : List String} : ∀ xs ys : List Value,
    skeletonItems xs = skeletonItems ys → textsItems xs ++ rest = textsItems ys ++ rest' →
      xs = ys ∧ rest = rest'
  | [], [], _, htexts => ⟨rfl, htexts⟩
  | x :: xs, y :: ys, hskeleton, htexts => by
    obtain ⟨hfirst, hmore⟩ := List.cons.inj hskeleton
    rw [textsItems, textsItems, List.append_assoc, List.append_assoc] at htexts
    obtain ⟨rfl, hrest⟩ := eq_of_skeleton x y hfirst htexts
    obtain ⟨rfl, rfl⟩ := eq_of_skeletonItems xs ys hmore hrest
    exact ⟨rfl, rfl⟩

theorem eq_of_skeletonEntries {rest rest' : List String} : ∀ es fs : List (String × Value),
    skeletonEntries es = skeletonEntries fs →
      textsEntries es ++ rest = textsEntries fs ++ rest' → es = fs ∧ rest = rest'
  | [], [], _, htexts => ⟨rfl, htexts⟩
  | (k, v) :: es, (k', w) :: fs, hskeleton, htexts => by
    obtain ⟨hfirst, hmore⟩ := List.cons.inj hskeleton
    obtain ⟨rfl, hvalue⟩ := Prod.mk.inj hfirst
    rw [textsEntries, textsEntries, List.append_assoc, List.append_assoc] at htexts
    obtain ⟨rfl, hrest⟩ := eq_of_skeleton v w hvalue htexts
    obtain ⟨rfl, rfl⟩ := eq_of_skeletonEntries es fs hmore hrest
    exact ⟨rfl, rfl⟩

end

end Value

namespace Environment

open Value

variable {env : Environment} {s : String} {α β : Type}

/-- The text that another one is filled to. -/
def FillsTo (env : Environment) (s s' : String) : Prop := env.substitute (.text s) = .ok (.text s')

/-- A text that cannot be filled. -/
def Refuses (env : Environment) (s : String) : Prop := ∃ e, env.substitute (.text s) = .error e

theorem substitute_cases (env : Environment) (s : String) :
    (∃ e, env.substitute (.text s) = .error e) ∨
      ∃ s', env.substitute (.text s) = .ok (.text s') := by
  rw [substitute]
  cases env.fillBraced s.toList with
  | error e => exact .inl ⟨e, rfl⟩
  | ok cs => exact .inr ⟨_, rfl⟩

/-- What becomes of a text. A buried one stays as it is. -/
def Becomes (env : Environment) (m : Bool × String) (s' : String) : Prop :=
  if m.1 then s' = m.2 else env.FillsTo m.2 s'

/-- How the filling of what holds some texts ends: with an error if one of them that is not buried
cannot be filled, and otherwise with something of which more is known. -/
inductive Ends (env : Environment) (ms : List (Bool × String)) (P : α → Prop) :
    Except Error α → Prop
  | refused {s : String} {e : Error} (mem : (false, s) ∈ ms) (refuses : env.Refuses s) :
    Ends env ms P (.error e)
  | filled {w : α} (fills : ∀ s, (false, s) ∈ ms → ¬ env.Refuses s) (known : P w) :
    Ends env ms P (.ok w)

theorem Ends.bind {ms ms' : List (Bool × String)} {P : α → Prop} {Q : β → Prop}
    {r : Except Error α} {f : α → Except Error β} (h : Ends env ms P r)
    (hf : ∀ w, P w → Ends env ms' Q (f w)) : Ends env (ms ++ ms') Q (r >>= f) := by
  cases h with
  | refused mem refuses => exact .refused (List.mem_append_left _ mem) refuses
  | @filled w fills known =>
    have hw := hf w known
    change Ends env (ms ++ ms') Q (f w)
    generalize f w = r at hw
    cases hw with
    | refused mem refuses => exact .refused (List.mem_append_right _ mem) refuses
    | filled fills' known' =>
      exact .filled (fun s hs => (List.mem_append.mp hs).elim (fills s) (fills' s)) known'

theorem Ends.map {ms : List (Bool × String)} {P : α → Prop} {Q : β → Prop}
    {r : Except Error α} {f : α → β} (h : Ends env ms P r) (hf : ∀ w, P w → Q (f w)) :
    Ends env ms Q (r >>= fun w => .ok (f w)) := by
  cases h with
  | refused mem refuses => exact .refused mem refuses
  | filled fills known => exact .filled fills (hf _ known)

/-- What is left as it is. -/
theorem ends_kept (v : Value) : Ends env (v.marked true)
    (fun w => w.skeleton = v.skeleton ∧ List.Forall₂ env.Becomes (v.marked true) w.texts)
    (.ok v) := by
  rw [marked_true]
  refine .filled (fun s hs => ?_) ⟨rfl, ?_⟩
  · obtain ⟨_, _, h⟩ := List.mem_map.mp hs
    cases h
  · rw [List.forall₂_map_left_iff]
    exact List.forall₂_same.mpr fun _ _ => rfl

theorem substituteItems_cons (env : Environment) (x : Value) (xs : List Value) :
    env.substituteItems (x :: xs) =
      (if x.isList then .ok x else env.substituteEntry x) >>= fun w =>
        env.substituteItems xs >>= fun ws => .ok (w :: ws) := by
  cases x with
  | object es =>
    simp only [substituteItems, substituteEntry, isList, Bool.false_eq_true, if_false, bind_assoc,
      pure_bind]
    rfl
  | _ => rfl

mutual

theorem substituteEntry_ends (env : Environment) : ∀ v : Value, Ends env (v.marked false)
    (fun w => w.skeleton = v.skeleton ∧ List.Forall₂ env.Becomes (v.marked false) w.texts)
    (env.substituteEntry v)
  | .text s => by
    rw [substituteEntry]
    obtain ⟨e, he⟩ | ⟨s', hs'⟩ := substitute_cases env s
    · rw [he]
      exact .refused List.mem_cons_self ⟨e, he⟩
    · rw [hs']
      refine .filled (fun s₁ hs₁ ⟨e, he⟩ => ?_) ⟨rfl, .cons hs' .nil⟩
      obtain rfl : s₁ = s := congrArg Prod.snd (List.mem_singleton.mp hs₁)
      cases hs'.symm.trans he
  | .list xs => by
    rw [substituteEntry, marked]
    exact (substituteItems_ends env xs).map fun ys h => ⟨congrArg Value.list h.1, h.2⟩
  | .object es => by
    rw [substituteEntry, marked]
    exact (substituteEntries_ends env es).map fun fs h => ⟨congrArg Value.object h.1, h.2⟩
  | .null | .bool _ | .int _ | .double _ | .bytes _ | .missing | .record _ | .stamp _ | .date _ =>
    .filled (fun s hs => absurd hs List.not_mem_nil) ⟨rfl, .nil⟩

theorem substituteItems_ends (env : Environment) : ∀ xs : List Value,
    Ends env (markedItems false xs) (fun ws => skeletonItems ws = skeletonItems xs ∧
      List.Forall₂ env.Becomes (markedItems false xs) (textsItems ws)) (env.substituteItems xs)
  | [] => .filled (fun s hs => absurd hs List.not_mem_nil) ⟨rfl, .nil⟩
  | x :: xs => by
    -- a list among the items is left as it is, and all that it holds is buried
    have hx : Ends env (x.marked x.isList)
        (fun w => w.skeleton = x.skeleton ∧ List.Forall₂ env.Becomes (x.marked x.isList) w.texts)
        (if x.isList then .ok x else env.substituteEntry x) := by
      cases h : x.isList with
      | true => exact ends_kept x
      | false => exact substituteEntry_ends env x
    rw [substituteItems_cons, markedItems, Bool.false_or]
    refine hx.bind fun w hw => (substituteItems_ends env xs).map fun ws hws => ?_
    rw [skeletonItems, skeletonItems, textsItems, hw.1, hws.1]
    exact ⟨rfl, List.rel_append hw.2 hws.2⟩

theorem substituteEntries_ends (env : Environment) : ∀ es : List (String × Value),
    Ends env (markedEntries false es) (fun fs => skeletonEntries fs = skeletonEntries es ∧
      List.Forall₂ env.Becomes (markedEntries false es) (textsEntries fs))
      (env.substituteEntries es)
  | [] => .filled (fun s hs => absurd hs List.not_mem_nil) ⟨rfl, .nil⟩
  | (k, v) :: es => by
    rw [substituteEntries, markedEntries]
    refine (substituteEntry_ends env v).bind fun w hw =>
      (substituteEntries_ends env es).map fun fs hfs => ?_
    rw [skeletonEntries, skeletonEntries, textsEntries, hw.1, hfs.1]
    exact ⟨rfl, List.rel_append hw.2 hfs.2⟩

end

/-- Whether all texts of an object are filled, wherever they are: filling the object ends with an
error exactly if one of them cannot be filled, and otherwise with the same object but for the texts,
each of which is filled. -/
def FillsAll (env : Environment) (v : Value) : Prop :=
  ((∃ e, env.substituteObject v = .error e) ↔ ∃ s ∈ v.texts, env.Refuses s) ∧
    ∀ w, env.substituteObject v = .ok w →
      w.skeleton = v.skeleton ∧ List.Forall₂ env.FillsTo v.texts w.texts

theorem substituteObject_ends (env : Environment) (es : List (String × Value)) :
    Ends env ((Value.object es).marked false) (fun w => w.skeleton = (Value.object es).skeleton ∧
      List.Forall₂ env.Becomes ((Value.object es).marked false) w.texts)
      (env.substituteObject (.object es)) :=
  substituteEntry_ends env (.object es)

theorem becomes_unique : Relator.RightUnique env.Becomes := by
  rintro ⟨_ | _, s⟩ s₁ s₂ h₁ h₂
  · cases h₁.symm.trans h₂
    rfl
  · exact h₁.trans h₂.symm

theorem FillsTo.not_refuses {s' : String} (h : env.FillsTo s s') : ¬ env.Refuses s :=
  fun ⟨_, he⟩ => nomatch h.symm.trans he

/-- All texts are filled, if those that are buried would be filled to what they are. -/
theorem forall₂_fillsTo_iff {ms : List (Bool × String)} {ts : List String}
    (h : List.Forall₂ env.Becomes ms ts) :
    List.Forall₂ env.FillsTo (ms.map (·.2)) ts ↔ ∀ s, (true, s) ∈ ms → env.FillsTo s s := by
  induction h with
  | nil => simp
  | @cons m t ms ts hm _ ih =>
    rw [List.map_cons, List.forall₂_cons, ih]
    obtain ⟨_ | _, s⟩ := m
    · have hs : env.FillsTo s t := hm
      simp [hs]
    · obtain rfl : t = s := hm
      simp

/-- What filling makes of an object. It ends with an error exactly if a text that is not buried
cannot be filled, and otherwise with the one object that has the same shape, keys and other values,
and in which each text that is not buried is filled and each that is buried stays as it is. So all
texts are filled unless a buried one would not be filled to what it is. -/
theorem substituteObject_fills (env : Environment) (es : List (String × Value)) :
    ((∃ e, env.substituteObject (.object es) = .error e) ↔
      ∃ s, (false, s) ∈ (Value.object es).marked false ∧ env.Refuses s) ∧
    (∀ w, env.substituteObject (.object es) = .ok w ↔
      (∀ s, (false, s) ∈ (Value.object es).marked false → ¬ env.Refuses s) ∧
      w.skeleton = (Value.object es).skeleton ∧
      List.Forall₂ env.Becomes ((Value.object es).marked false) w.texts) ∧
    (env.FillsAll (.object es) ↔
      (∃ s, (false, s) ∈ (Value.object es).marked false ∧ env.Refuses s) ∨
      ∀ s, (true, s) ∈ (Value.object es).marked false → env.FillsTo s s) := by
  have hends := substituteObject_ends env es
  rw [FillsAll, ← marked_snd false]
  generalize env.substituteObject (.object es) = r at hends
  cases hends with
  | @refused s e mem refuses =>
    have hrefused : ∃ s, (false, s) ∈ (Value.object es).marked false ∧ env.Refuses s :=
      ⟨s, mem, refuses⟩
    refine ⟨iff_of_true ⟨e, rfl⟩ hrefused, fun w => iff_of_false (fun h => nomatch h) ?_, ?_⟩
    · exact fun h => h.1 s mem refuses
    · refine iff_of_true ⟨iff_of_true ⟨e, rfl⟩ ?_, fun w h => nomatch h⟩ (.inl hrefused)
      exact ⟨s, List.mem_map_of_mem mem, refuses⟩
  | @filled w fills known =>
    have hnone : ¬ ∃ s, (false, s) ∈ (Value.object es).marked false ∧ env.Refuses s :=
      fun ⟨s, mem, refuses⟩ => fills s mem refuses
    refine ⟨iff_of_false (fun ⟨_, h⟩ => nomatch h) hnone, fun w' => ⟨?_, fun h => ?_⟩, ?_⟩
    · rintro ⟨⟩
      exact ⟨fills, known⟩
    · have htexts : w.texts = w'.texts := becomes_unique.forall₂ known.2 h.2.2
      rw [(eq_of_skeleton w w' (known.1.trans h.2.1.symm) (congrArg (· ++ []) htexts)).1]
    · rw [or_iff_right hnone, ← forall₂_fillsTo_iff known.2]
      refine ⟨fun h => (h.2 w rfl).2, fun h => ⟨iff_of_false (fun ⟨_, h⟩ => nomatch h) ?_, ?_⟩⟩
      · rintro ⟨s, hs, refuses⟩
        obtain ⟨⟨_ | _, s⟩, hm, rfl⟩ := List.mem_map.mp hs
        · exact fills s hm refuses
        · exact ((forall₂_fillsTo_iff known.2).mp h s hm).not_refuses refuses
      · rintro w' ⟨⟩
        exact ⟨known.1, h⟩

/-- A reference in a list that is an item of a list is not filled in. -/
theorem substituteObject_fills_buried :
    ¬ FillsAll { settings := [("HOST", "db")] }
      (.object [("a", .list [.list [.text "$\x7bHOST\x7d"]])]) := by
  intro h
  obtain ⟨s, hs, -⟩ | hburied :=
    ((substituteObject_fills { settings := [("HOST", "db")] } _).2.2).mp h
  · simp [marked, markedEntries, markedItems, isList] at hs
  · have hkept := hburied "$\x7bHOST\x7d" (by simp [marked, markedEntries, markedItems, isList])
    have hpieces : Piece.ofText "$\x7bHOST\x7d".toList = [.reference ⟨"HOST".toList, .keep⟩] := by
      decide +kernel
    rw [FillsTo, substitute, fillBraced, hpieces] at hkept
    have hfilled := Value.text.inj (Except.ok.inj hkept)
    exact absurd hfilled (by decide +kernel)

end Environment

end ProcessTriggers
