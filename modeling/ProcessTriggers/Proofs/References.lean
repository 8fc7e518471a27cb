import Mathlib.Data.List.Infix
import Mathlib.Data.List.TakeWhile
import ProcessTriggers.Environment.Reference
import ProcessTriggers.Proofs.Digits

/-!
What is filled into a text. The references in braces are read from left to right and each gives way
to what stands for it; then the text that results is read for names after a dollar sign, wherever
they come from. So what is put in for a reference stays as it is if no such name of a variable that
is set has come about.
-/

namespace ProcessTriggers

/-- What a reference says about its variable, as it is written behind the name. -/
def Fallback.written : Fallback → List Char
  | .keep => []
  | .default text => ':' :: '-' :: text
  | .refuse message => ':' :: '?' :: message

namespace Reference

variable {cs rest rest' : List Char} {x x' : Reference}

theorem written_append (x : Reference) (rest : List Char) : x.written ++ rest =
    '$' :: '\x7b' :: (x.name ++ (x.fallback.written ++ '\x7d' :: rest)) := by
  obtain ⟨name, fallback⟩ := x
  cases fallback <;> simp [written, Fallback.written]

/-- The name of a reference is not empty and ends where it should, and the closing brace is the
first one behind it. -/
structure Proper (x : Reference) : Prop where
  name_ne : x.name ≠ []
  name : ∀ c ∈ x.name, endsName c = false
  fallback : '\x7d' ∉ x.fallback.written

/-- A reference is read where it is written. -/
theorem Proper.read? (h : x.Proper) (rest : List Char) :
    Reference.read? (x.name ++ (x.fallback.written ++ '\x7d' :: rest)) = some (x, rest) := by
  obtain ⟨name, fallback⟩ := x
  obtain ⟨hne, hname, hfallback⟩ := h
  have hends : ∀ c ∈ (fallback.written ++ '\x7d' :: rest).head?, (!endsName c) = false := by
    cases fallback <;> (intro c hc; cases hc; rfl)
  obtain ⟨htake, hdrop⟩ := span_run (fun c hc => by rw [hname c hc]; rfl) hends
  have hclose (operand : List Char) (hoperand : '\x7d' ∉ operand) :
      (operand ++ '\x7d' :: rest).takeWhile (· ≠ '\x7d') = operand ∧
        (operand ++ '\x7d' :: rest).dropWhile (· ≠ '\x7d') = '\x7d' :: rest := by
    refine span_run (fun c hc => decide_eq_true fun heq => hoperand (heq ▸ hc)) fun c hc => ?_
    cases hc
    rfl
  dsimp only at hne htake hdrop ⊢
  rw [Reference.read?]
  simp only [htake, hdrop, List.isEmpty_iff, hne, if_false]
  cases fallback with
  | keep => rfl
  | default text =>
    obtain ⟨ht, hd⟩ := hclose text fun hmem => hfallback (by simp [Fallback.written, hmem])
    simp only [Fallback.written, List.cons_append, ht, hd]
    rfl
  | refuse message =>
    obtain ⟨ht, hd⟩ := hclose message fun hmem => hfallback (by simp [Fallback.written, hmem])
    simp only [Fallback.written, List.cons_append, ht, hd]
    rfl

/-- What is read as a reference is written as one. -/
theorem of_read? (h : read? cs = some (x, rest)) :
    x.Proper ∧ cs = x.name ++ (x.fallback.written ++ '\x7d' :: rest) := by
  have hname : ∀ c ∈ cs.takeWhile (!endsName ·), endsName c = false := fun c hc => by
    simpa using List.mem_takeWhile_imp hc
  have hcs := (List.takeWhile_append_dropWhile (p := (!endsName ·)) (l := cs)).symm
  rw [read?] at h
  dsimp only at h
  split at h
  · cases h
  · next hne =>
    rw [List.isEmpty_iff] at hne
    split at h
    · next mark r hdrop =>
      split at h
      · next c r' hclose =>
        have hr := (List.takeWhile_append_dropWhile (p := (· ≠ '\x7d')) (l := r)).symm
        have hc := List.head?_dropWhile_not (· ≠ '\x7d') r
        have hoperand : '\x7d' ∉ r.takeWhile (· ≠ '\x7d') := fun hmem => by
          simpa using List.mem_takeWhile_imp hmem
        rw [hclose] at hr hc
        obtain rfl : c = '\x7d' := by simpa using hc
        rw [hdrop, hr] at hcs
        split at h
        · next hmark =>
          cases h
          rw [hmark] at hcs
          exact ⟨⟨hne, hname, by simpa [Fallback.written] using hoperand⟩, hcs⟩
        · split at h
          · next hmark =>
            cases h
            rw [hmark] at hcs
            exact ⟨⟨hne, hname, by simpa [Fallback.written] using hoperand⟩, hcs⟩
          · cases h
      · cases h
    · next r hdrop =>
      cases h
      rw [hdrop] at hcs
      exact ⟨⟨hne, hname, List.not_mem_nil⟩, hcs⟩
    · cases h

theorem Proper.unique (h : x.Proper) (h' : x'.Proper)
    (heq : x.written ++ rest = x'.written ++ rest') : x = x' ∧ rest = rest' := by
  rw [written_append, written_append] at heq
  have hread := h.read? rest
  rw [(List.cons.inj (List.cons.inj heq).2).2, h'.read? rest'] at hread
  cases hread
  exact ⟨rfl, rfl⟩

/-- A reference to a variable that is not set, which says that it must be. -/
def IsRefused (env : Environment) (x : Reference) : Prop :=
  env.get? (String.ofList x.name) = none ∧ ∃ message, x.fallback = .refuse message

/-- What is put in for a reference: the value of its variable, or else the default text, or the
reference itself. -/
def standIn (env : Environment) (x : Reference) : List Char :=
  match env.get? (String.ofList x.name), x.fallback with
  | some value, _ => value.toList
  | none, .keep => x.written
  | none, .default text => text
  | none, .refuse _ => []

theorem resolve_cases (env : Environment) (x : Reference) :
    (x.IsRefused env ∧ ∃ e, x.resolve env = .error e) ∨
      ¬ x.IsRefused env ∧ x.resolve env = .ok (x.standIn env) := by
  rw [resolve, standIn, IsRefused]
  cases env.get? (String.ofList x.name) with
  | some value => exact .inr ⟨fun h => (nomatch h.1), rfl⟩
  | none =>
    cases x.fallback with
    | keep => exact .inr ⟨fun ⟨_, _, h⟩ => (nomatch h), rfl⟩
    | default text => exact .inr ⟨fun ⟨_, _, h⟩ => (nomatch h), rfl⟩
    | refuse message => exact .inl ⟨⟨rfl, message, rfl⟩, _, rfl⟩

end Reference

namespace Piece

variable {cs rest : List Char} {ps ps' : List Piece} {env : Environment}

/-- How a text is read. Where a reference is written it is read, and any other character is read as
it is. -/
inductive Reads : List Char → List Piece → Prop
  | nil : Reads [] []
  | reference {x : Reference} {rest : List Char} {ps : List Piece} (proper : x.Proper)
    (reads : Reads rest ps) : Reads (x.written ++ rest) (.reference x :: ps)
  | char {c : Char} {rest : List Char} {ps : List Piece}
    (plain : ∀ (x : Reference) (rest' : List Char), x.Proper → c :: rest ≠ x.written ++ rest')
    (reads : Reads rest ps) : Reads (c :: rest) (.char c :: ps)

/-- A text begins with a reference or with a character that begins none. -/
theorem ofText_cons (c : Char) (r : List Char) :
    (∃ (x : Reference) (rest : List Char), x.Proper ∧ c :: r = x.written ++ rest ∧
      ofText (c :: r) = .reference x :: ofText rest) ∨
      (∀ (x : Reference) (rest : List Char), x.Proper → c :: r ≠ x.written ++ rest) ∧
        ofText (c :: r) = .char c :: ofText r := by
  rw [ofText]
  split
  · next x rest h =>
    split at h
    · next hstart =>
      obtain ⟨rfl, hbrace⟩ := hstart
      obtain ⟨hx, hr⟩ := Reference.of_read? h
      obtain ⟨r', rfl⟩ := List.head?_eq_some_iff.mp hbrace
      rw [List.drop_one, List.tail_cons] at hr
      exact .inl ⟨x, rest, hx, by rw [Reference.written_append, hr], rfl⟩
    · cases h
  · next h =>
    refine .inr ⟨fun x rest hx heq => ?_, rfl⟩
    rw [Reference.written_append] at heq
    obtain ⟨rfl, rfl⟩ := List.cons.inj heq
    rw [if_pos ⟨rfl, rfl⟩, List.drop_one, List.tail_cons, hx.read?] at h
    cases h

theorem reads_ofText (cs : List Char) : Reads cs (ofText cs) := by
  induction hn : cs.length using Nat.strong_induction_on generalizing cs with
  | _ n ih =>
    subst hn
    cases cs with
    | nil =>
      rw [ofText]
      exact .nil
    | cons c r =>
      obtain ⟨x, rest, hx, heq, hread⟩ | ⟨hplain, hread⟩ := ofText_cons c r
      · rw [hread, heq]
        refine .reference hx (ih _ ?_ rest rfl)
        rw [heq, Reference.written_append]
        simp only [List.length_cons, List.length_append]
        omega
      · rw [hread]
        exact .char hplain (ih _ (Nat.lt_succ_self _) r rfl)

theorem Reads.unique (h : Reads cs ps) (h' : Reads cs ps') : ps = ps' := by
  induction h generalizing ps' with
  | nil =>
    generalize hnil : ([] : List Char) = cs at h'
    cases h' with
    | nil => rfl
    | reference _ _ => rw [Reference.written_append] at hnil; cases hnil
    | char _ _ => cases hnil
  | @reference x rest ps proper reads ih =>
    generalize hcs : x.written ++ rest = cs at h'
    cases h' with
    | nil => rw [Reference.written_append] at hcs; cases hcs
    | reference proper' reads' =>
      obtain ⟨rfl, rfl⟩ := proper.unique proper' hcs
      rw [ih reads']
    | char plain _ => exact absurd hcs.symm (plain x rest proper)
  | @char c rest ps plain reads ih =>
    generalize hcs : c :: rest = cs at h'
    cases h' with
    | nil => cases hcs
    | reference proper' _ => exact absurd hcs (plain _ _ proper')
    | char _ reads' =>
      cases hcs
      rw [ih reads']

/-- What is put in for a piece of a text. -/
def standIn (env : Environment) : Piece → List Char
  | char c => [c]
  | reference x => x.standIn env

/-- A text can be filled just if no reference in it is refused. -/
theorem resolve_pieces (env : Environment) (ps : List Piece) :
    ((∃ x, .reference x ∈ ps ∧ x.IsRefused env) ∧ ∃ e, ps.mapM (resolve env) = .error e) ∨
      (∀ x, .reference x ∈ ps → ¬ x.IsRefused env) ∧
        ps.mapM (resolve env) = .ok (ps.map (standIn env)) := by
  induction ps with
  | nil => exact .inr ⟨fun _ h => absurd h List.not_mem_nil, rfl⟩
  | cons p ps ih =>
    have hfirst : (∃ x, p = .reference x ∧ x.IsRefused env ∧ ∃ e, p.resolve env = .error e) ∨
        (∀ x, p = .reference x → ¬ x.IsRefused env) ∧ p.resolve env = .ok (p.standIn env) := by
      cases p with
      | char c => exact .inr ⟨fun x h => (nomatch h), rfl⟩
      | reference x =>
        obtain ⟨hx, he⟩ | ⟨hx, hok⟩ := x.resolve_cases env
        · exact .inl ⟨x, rfl, hx, he⟩
        · exact .inr ⟨fun x' h => by cases h; exact hx, hok⟩
    obtain ⟨x, rfl, hx, e, he⟩ | ⟨hx, hok⟩ := hfirst
    · exact .inl ⟨⟨x, List.mem_cons_self, hx⟩, e, by rw [List.mapM_cons, he]; rfl⟩
    · obtain ⟨⟨x, hmem, hrefused⟩, e, he⟩ | ⟨hrest, hmap⟩ := ih
      · refine .inl ⟨⟨x, List.mem_cons_of_mem p hmem, hrefused⟩, e, ?_⟩
        rw [List.mapM_cons, hok, he]
        rfl
      · refine .inr ⟨fun x hmem => ?_, by rw [List.mapM_cons, hok, hmap]; rfl⟩
        rcases List.mem_cons.mp hmem with heq | hmem
        · exact hx x heq.symm
        · exact hrest x hmem

end Piece

/-- A part of a text in which names stand after dollar signs. -/
inductive BarePiece
  | char (c : Char)
  | name (cs : List Char)

namespace BarePiece

open Environment (startsBareName isBareName bareName)

variable {cs rest run : List Char} {bs : List BarePiece} {env : Environment}

/-- How the names in a text are read. A name goes as far as it can. -/
inductive Reads : List Char → List BarePiece → Prop
  | nil : Reads [] []
  | name {first : Char} {more rest : List Char} {bs : List BarePiece}
    (starts : startsBareName first = true) (all : ∀ c ∈ more, isBareName c = true)
    (ends : ∀ c ∈ rest.head?, isBareName c = false) (reads : Reads rest bs) :
    Reads ('$' :: first :: (more ++ rest)) (.name (first :: more) :: bs)
  | char {c : Char} {rest : List Char} {bs : List BarePiece}
    (plain : c = '$' → ∀ d ∈ rest.head?, startsBareName d = false) (reads : Reads rest bs) :
    Reads (c :: rest) (.char c :: bs)

/-- What is put in for a piece of a text. -/
def standIn (env : Environment) : BarePiece → List Char
  | char c => [c]
  | name cs =>
    match env.get? (String.ofList cs) with
    | some value => value.toList
    | none => '$' :: cs

theorem ne_dollar {c : Char} (h : isBareName c = true) : c ≠ '$' := by
  rintro rfl
  revert h
  decide

theorem fillBare_append (env : Environment) (hrun : ∀ c ∈ run, c ≠ '$') (rest : List Char) :
    env.fillBare (run ++ rest) = run ++ env.fillBare rest := by
  induction run with
  | nil => rfl
  | cons c run ih =>
    rw [List.cons_append, Environment.fillBare, if_neg fun h => hrun c List.mem_cons_self h.1]
    dsimp only
    rw [ih fun d hd => hrun d (List.mem_cons_of_mem c hd), List.cons_append]

/-- The name behind a dollar sign goes as far as it can. -/
theorem bareName_run {first : Char} {more : List Char} (hstarts : startsBareName first = true)
    (hall : ∀ c ∈ more, isBareName c = true) (hends : ∀ c ∈ rest.head?, isBareName c = false) :
    bareName (first :: (more ++ rest)) = first :: more := by
  have hrun : ∀ c ∈ first :: more, isBareName c = true := by
    intro c hc
    rcases List.mem_cons.mp hc with rfl | hc
    · rw [isBareName, hstarts, Bool.true_or]
    · exact hall c hc
  rw [bareName, List.head?_cons, Option.map_some, Option.getD_some, if_pos hstarts]
  exact (span_run hrun hends).1

/-- A text begins with a name after a dollar sign, or with a character that begins none. -/
theorem start_cases (c : Char) (r : List Char) :
    (∃ (first : Char) (more rest : List Char), c = '$' ∧ r = first :: (more ++ rest) ∧
      startsBareName first = true ∧ (∀ d ∈ more, isBareName d = true) ∧
      ∀ d ∈ rest.head?, isBareName d = false) ∨
      ∀ d ∈ r.head?, c = '$' → startsBareName d = false := by
  cases r with
  | nil => exact .inr fun d hd => nomatch hd
  | cons first tail =>
    by_cases hstart : c = '$' ∧ startsBareName first = true
    · refine .inl ⟨first, tail.takeWhile isBareName, tail.dropWhile isBareName, hstart.1, ?_,
        hstart.2, fun d hd => List.mem_takeWhile_imp hd, fun d hd => ?_⟩
      · rw [List.takeWhile_append_dropWhile]
      · have hhead := List.head?_dropWhile_not isBareName tail
        rw [Option.mem_def.mp hd] at hhead
        exact hhead
    · refine .inr fun d hd hc => ?_
      obtain rfl : first = d := Option.some.inj hd
      exact Bool.eq_false_iff.mpr fun hd => hstart ⟨hc, hd⟩

theorem fillBare_name (env : Environment) {first : Char} {more : List Char}
    (hstarts : startsBareName first = true) (hall : ∀ c ∈ more, isBareName c = true)
    (hends : ∀ c ∈ rest.head?, isBareName c = false) :
    env.fillBare ('$' :: first :: (more ++ rest)) =
      standIn env (.name (first :: more)) ++ env.fillBare rest := by
  have hname := bareName_run hstarts hall hends
  have hrun : ∀ c ∈ first :: more, c ≠ '$' := by
    intro c hc
    rcases List.mem_cons.mp hc with rfl | hc
    · exact ne_dollar (by rw [isBareName, hstarts, Bool.true_or])
    · exact ne_dollar (hall c hc)
  rw [Environment.fillBare, hname, if_pos ⟨rfl, List.cons_ne_nil first more⟩, standIn]
  cases env.get? (String.ofList (first :: more)) with
  | none =>
    -- The dollar sign stays, and behind it there is none up to the end of the name.
    dsimp only
    rw [← List.cons_append, fillBare_append env hrun]
    rfl
  | some value =>
    dsimp only
    rw [← List.cons_append, List.drop_left]

theorem fillBare_char (env : Environment) {c : Char}
    (hplain : c = '$' → ∀ d ∈ rest.head?, startsBareName d = false) :
    env.fillBare (c :: rest) = c :: env.fillBare rest := by
  have hname : ¬ (c = '$' ∧ bareName rest ≠ []) := by
    rintro ⟨hc, hne⟩
    refine hne (if_neg ?_)
    cases rest with
    | nil => exact Bool.false_ne_true
    | cons d rest =>
      rw [List.head?_cons, Option.map_some, Option.getD_some, hplain hc d rfl]
      exact Bool.false_ne_true
  rw [Environment.fillBare, if_neg hname]

/-- In the second pass the names of a text give way to the values of their variables. -/
theorem fillBare_reads (env : Environment) (cs : List Char) :
    ∃ bs, Reads cs bs ∧ env.fillBare cs = bs.flatMap (standIn env) := by
  induction hn : cs.length using Nat.strong_induction_on generalizing cs with
  | _ n ih =>
    subst hn
    cases cs with
    | nil => exact ⟨[], .nil, by rw [Environment.fillBare]; rfl⟩
    | cons c r =>
      obtain ⟨first, more, rest, rfl, rfl, hstarts, hall, hends⟩ | hplain := start_cases c r
      · obtain ⟨bs, hreads, hfill⟩ := ih rest.length (by
          simp only [List.length_cons, List.length_append]
          omega) rest rfl
        refine ⟨_, .name hstarts hall hends hreads, ?_⟩
        rw [fillBare_name env hstarts hall hends, hfill, List.flatMap_cons]
      · obtain ⟨bs, hreads, hfill⟩ := ih r.length (Nat.lt_succ_self _) r rfl
        have hplain' : c = '$' → ∀ d ∈ r.head?, startsBareName d = false := fun hc d hd =>
          hplain d hd hc
        refine ⟨_, .char hplain' hreads, ?_⟩
        rw [fillBare_char env hplain', hfill, List.flatMap_cons]
        rfl

theorem Reads.unique {bs' : List BarePiece} (h : Reads cs bs) (h' : Reads cs bs') : bs = bs' := by
  induction h generalizing bs' with
  | nil => cases h'; rfl
  | @name first more rest bs starts all ends reads ih =>
    generalize hcs : '$' :: first :: (more ++ rest) = cs at h'
    cases h' with
    | nil => cases hcs
    | @name first' more' rest' bs' starts' all' ends' reads' =>
      have htail := (List.cons.inj hcs).2
      have hname := bareName_run starts all ends
      rw [htail, bareName_run starts' all' ends'] at hname
      obtain ⟨rfl, rfl⟩ := List.cons.inj hname
      obtain rfl := List.append_cancel_left (List.cons.inj htail).2
      rw [ih reads']
    | char plain' _ =>
      cases hcs
      rw [plain' rfl first rfl] at starts
      cases starts
  | @char c rest bs plain reads ih =>
    generalize hcs : c :: rest = cs at h'
    cases h' with
    | nil => cases hcs
    | name starts' _ _ _ =>
      cases hcs
      rw [plain rfl _ rfl] at starts'
      cases starts'
    | char _ reads' =>
      cases hcs
      rw [ih reads']

/-- A text whose names are those of variables that are not set stays as it is. -/
theorem Reads.kept (h : Reads cs bs)
    (hunset : ∀ name, .name name ∈ bs → env.get? (String.ofList name) = none) :
    bs.flatMap (standIn env) = cs := by
  induction h with
  | nil => rfl
  | name starts all ends reads ih =>
    rw [List.flatMap_cons, standIn, hunset _ List.mem_cons_self,
      ih fun name hname => hunset name (List.mem_cons_of_mem _ hname)]
    rfl
  | char plain reads ih =>
    rw [List.flatMap_cons, ih fun name hname => hunset name (List.mem_cons_of_mem _ hname)]
    rfl

/-- Values without dollar signs leave one dollar sign less for each name that they are put in
for. -/
theorem Reads.count_le (h : Reads cs bs) (hvalues : ∀ name value, .name name ∈ bs →
      env.get? (String.ofList name) = some value → '$' ∉ value.toList) :
    (bs.flatMap (standIn env)).count '$' ≤ cs.count '$' ∧
      ((bs.flatMap (standIn env)).count '$' = cs.count '$' →
        ∀ name, .name name ∈ bs → env.get? (String.ofList name) = none) := by
  induction h with
  | nil => exact ⟨Nat.le_refl _, fun _ _ h => absurd h List.not_mem_nil⟩
  | @name first more rest bs starts all ends reads ih =>
    obtain ⟨hle, heq⟩ := ih fun name value hname =>
      hvalues name value (List.mem_cons_of_mem _ hname)
    have hrun : '$' ∉ first :: more := by
      intro hmem
      rcases List.mem_cons.mp hmem with rfl | hmem
      · exact ne_dollar (by rw [isBareName, starts, Bool.true_or]) rfl
      · exact ne_dollar (all _ hmem) rfl
    have hcount : ('$' :: first :: (more ++ rest)).count '$' = 1 + rest.count '$' := by
      rw [List.count_cons_self, ← List.cons_append, List.count_append,
        List.count_eq_zero.mpr hrun]
      omega
    rw [List.flatMap_cons, List.count_append, hcount]
    cases hget : env.get? (String.ofList (first :: more)) with
    | none =>
      have hkept : (standIn env (.name (first :: more))).count '$' = 1 := by
        rw [standIn, hget]
        dsimp only
        rw [List.count_cons_self, List.count_eq_zero.mpr hrun]
      rw [hkept]
      refine ⟨by omega, fun h name hname => ?_⟩
      rcases List.mem_cons.mp hname with h' | hname
      · cases h'
        exact hget
      · exact heq (by omega) name hname
    | some value =>
      have hnone : (standIn env (.name (first :: more))).count '$' = 0 := by
        rw [standIn, hget]
        exact List.count_eq_zero.mpr (hvalues _ value List.mem_cons_self hget)
      rw [hnone]
      exact ⟨by omega, fun h => absurd h (by omega)⟩
  | @char c rest bs plain reads ih =>
    obtain ⟨hle, heq⟩ := ih fun name value hname =>
      hvalues name value (List.mem_cons_of_mem _ hname)
    rw [List.flatMap_cons, standIn, List.singleton_append, List.count_cons, List.count_cons]
    refine ⟨by omega, fun h name hname => heq (by omega) name ?_⟩
    exact (List.mem_cons.mp hname).resolve_left fun h => nomatch h

end BarePiece

/-- A text in which a name stands after a dollar sign. -/
def HasNames (cs : List Char) : Prop :=
  ∃ c, Environment.startsBareName c = true ∧ ['$', c] <:+: cs

section HasNames

variable {cs rest : List Char} {c : Char}

theorem hasNames_cons : HasNames (c :: cs) ↔
    (c = '$' ∧ ∃ d ∈ cs.head?, Environment.startsBareName d = true) ∨ HasNames cs := by
  constructor
  · rintro ⟨d, hd, hinfix⟩
    rcases List.infix_cons_iff.mp hinfix with hprefix | hinfix
    · obtain ⟨rest, hrest⟩ := hprefix
      obtain ⟨rfl, rfl⟩ := List.cons.inj hrest
      exact .inl ⟨rfl, d, rfl, hd⟩
    · exact .inr ⟨d, hd, hinfix⟩
  · rintro (⟨rfl, d, hmem, hd⟩ | ⟨d, hd, hinfix⟩)
    · obtain ⟨rest, rfl⟩ := List.head?_eq_some_iff.mp hmem
      exact ⟨d, hd, [], rest, rfl⟩
    · exact ⟨d, hd, List.infix_cons hinfix⟩

theorem not_hasNames_nil : ¬ HasNames [] := by
  rintro ⟨c, -, hinfix⟩
  exact List.cons_ne_nil _ _ (List.eq_nil_of_infix_nil hinfix)

theorem hasNames_append_of_not_mem (h : '$' ∉ cs) : HasNames (cs ++ rest) ↔ HasNames rest := by
  induction cs with
  | nil => rfl
  | cons c cs ih =>
    rw [List.cons_append, hasNames_cons, ih fun hmem => h (List.mem_cons_of_mem c hmem)]
    exact or_iff_right fun hc => h (hc.1 ▸ List.mem_cons_self)

/-- No name goes beyond a closing brace. -/
theorem hasNames_append_brace : HasNames (cs ++ '\x7d' :: rest) ↔ HasNames cs ∨ HasNames rest := by
  induction cs with
  | nil =>
    rw [List.nil_append, hasNames_cons, or_iff_right not_hasNames_nil]
    exact or_iff_right fun h => by cases h.1
  | cons c cs ih =>
    rw [List.cons_append, hasNames_cons, hasNames_cons, ih, or_assoc]
    refine or_congr (and_congr_right fun _ => ?_) Iff.rfl
    cases cs with
    | nil => simp [Environment.startsBareName]
    | cons d cs => rfl

theorem BarePiece.Reads.not_name {bs : List BarePiece} (h : BarePiece.Reads cs bs)
    (hcs : ¬ HasNames cs) (name : List Char) : .name name ∉ bs := by
  induction h with
  | nil => exact List.not_mem_nil
  | name starts _ _ _ _ => exact absurd (hasNames_cons.mpr (.inl ⟨rfl, _, rfl, starts⟩)) hcs
  | char _ _ ih =>
    intro hmem
    refine ih (fun hrest => hcs (hasNames_cons.mpr (.inr hrest))) ?_
    exact (List.mem_cons.mp hmem).resolve_left fun h => nomatch h

/-- Where a text has no names, what is put in has no dollar signs, and no dollar sign stands before
a reference, no names come about. -/
theorem Piece.Reads.not_hasNames {ps : List Piece} {env : Environment} (h : Piece.Reads cs ps)
    (hcs : ¬ HasNames cs)
    (hvalues : ∀ x, .reference x ∈ ps → x.standIn env = x.written ∨ '$' ∉ x.standIn env)
    (hseams : ∀ x, ¬ [.char '$', .reference x] <:+: ps) :
    ¬ HasNames (ps.flatMap (Piece.standIn env)) := by
  induction h with
  | nil => exact not_hasNames_nil
  | @reference x rest ps proper reads ih =>
    have htext : x.written ++ rest =
        '$' :: '\x7b' :: (x.name ++ x.fallback.written) ++ '\x7d' :: rest := by
      rw [Reference.written_append, List.cons_append, List.cons_append, List.append_assoc]
    rw [htext, hasNames_append_brace, not_or] at hcs
    have hrest := ih hcs.2 (fun x' hx' => hvalues x' (List.mem_cons_of_mem _ hx'))
      fun x' hx' => hseams x' (List.infix_cons hx')
    rw [List.flatMap_cons, Piece.standIn]
    rcases hvalues x List.mem_cons_self with hkept | hplain
    · have hfilled : x.written ++ ps.flatMap (Piece.standIn env) =
          '$' :: '\x7b' :: (x.name ++ x.fallback.written) ++
            '\x7d' :: ps.flatMap (Piece.standIn env) := by
        rw [Reference.written_append, List.cons_append, List.cons_append, List.append_assoc]
      rw [hkept, hfilled, hasNames_append_brace, not_or]
      exact ⟨hcs.1, hrest⟩
    · rwa [hasNames_append_of_not_mem hplain]
  | @char c rest ps plain reads ih =>
    rw [hasNames_cons, not_or] at hcs
    have hrest := ih hcs.2 (fun x' hx' => hvalues x' (List.mem_cons_of_mem _ hx'))
      fun x' hx' => hseams x' (List.infix_cons hx')
    rw [List.flatMap_cons, Piece.standIn, List.singleton_append, hasNames_cons, not_or]
    refine ⟨?_, hrest⟩
    rintro ⟨rfl, d, hd, hstarts⟩
    -- What follows the dollar sign is no reference, so it follows it in the text already.
    cases reads with
    | nil => cases hd
    | reference => exact hseams _ ⟨[], _, rfl⟩
    | char => exact hcs.1 ⟨rfl, d, hd, hstarts⟩

end HasNames

namespace Environment

/-- A text with what is put in for the references in braces. -/
def filled (env : Environment) (ps : List Piece) : List Char := ps.flatMap (Piece.standIn env)

/-- A text is filled unless a reference in it is refused. Then each reference in braces has given
way to what is put in for it, and after that each name in the outcome to the value of its variable.
So the outcome stands if its names are those of variables that are not set, and only then if the
values of the others hold no dollar signs. There are no names in it if there are none in the text,
nothing with a dollar sign is put in, and no dollar sign stands before a reference. -/
theorem substitute_fills (env : Environment) (s : String) :
    ∃ ps, (∀ ps', Piece.Reads s.toList ps' ↔ ps' = ps) ∧
      ((∃ e, env.substitute (.text s) = .error e) ↔
        ∃ x, .reference x ∈ ps ∧ x.IsRefused env) ∧
      ∀ v, env.substitute (.text s) = .ok v →
        ∃ bs, (∀ bs', BarePiece.Reads (env.filled ps) bs' ↔ bs' = bs) ∧
          v = .text (String.ofList (bs.flatMap (BarePiece.standIn env))) ∧
          ((∀ name, .name name ∈ bs → env.get? (String.ofList name) = none) →
            v = .text (String.ofList (env.filled ps))) ∧
          ((∀ name value, .name name ∈ bs → env.get? (String.ofList name) = some value →
              '$' ∉ value.toList) →
            v = .text (String.ofList (env.filled ps)) →
              ∀ name, .name name ∈ bs → env.get? (String.ofList name) = none) ∧
          (¬ HasNames s.toList →
            (∀ x, .reference x ∈ ps → x.standIn env = x.written ∨ '$' ∉ x.standIn env) →
            (∀ x, ¬ [.char '$', .reference x] <:+: ps) → ∀ name, .name name ∉ bs) := by
  have hreads := Piece.reads_ofText s.toList
  generalize hps : Piece.ofText s.toList = ps at hreads
  have hsubstitute : env.substitute (.text s) = (do
      let parts ← ps.mapM (Piece.resolve env)
      return .text (String.ofList (env.fillBare parts.flatten))) := by
    rw [substitute, fillBraced, hps]
    simp only [bind_assoc, pure_bind]
  refine ⟨ps, fun ps' => ⟨fun h => h.unique hreads, fun h => h ▸ hreads⟩, ?_, fun v hv => ?_⟩
  · obtain ⟨hrefused, e, he⟩ | ⟨hnone, hok⟩ := Piece.resolve_pieces env ps
    · exact ⟨fun _ => hrefused, fun _ => ⟨e, by rw [hsubstitute, he]; rfl⟩⟩
    · refine ⟨fun ⟨e, he⟩ => ?_, fun ⟨x, hx, hrefused⟩ => absurd hrefused (hnone x hx)⟩
      rw [hsubstitute, hok] at he
      cases he
  · obtain ⟨-, e, he⟩ | ⟨-, hok⟩ := Piece.resolve_pieces env ps
    · rw [hsubstitute, he] at hv
      cases hv
    · obtain ⟨bs, hbs, hfill⟩ := BarePiece.fillBare_reads env (env.filled ps)
      have hfilled : (ps.map (Piece.standIn env)).flatten = env.filled ps := rfl
      rw [hsubstitute, hok] at hv
      obtain rfl := Except.ok.inj hv
      rw [hfilled, hfill]
      refine ⟨bs, fun bs' => ⟨fun h => h.unique hbs, fun h => h ▸ hbs⟩, rfl, fun hunset => ?_,
        fun hvalues heq => ?_, fun hcs hplain hseams =>
          hbs.not_name (hreads.not_hasNames hcs hplain hseams)⟩
      · rw [hbs.kept hunset]
      · have hlists := String.ofList_injective (Value.text.inj heq)
        exact (hbs.count_le hvalues).2 (congrArg (List.count '$') hlists)

/-- A password that holds the name of another variable behind a dollar sign. -/
def passwordSettings : Environment where
  settings := [("PASSWORD", "pa$WORD"), ("WORD", "x")]

theorem substitute_fills_password :
    (∃ v, passwordSettings.substitute (.text "$\x7bPASSWORD\x7d@db") = .ok v ∧
        v ≠ .text "pa$WORD@db") ∧
      passwordSettings.substitute (.text "$\x7bWORD\x7d@$\x7bHOST:-db\x7d") =
        .ok (.text "x@db") := by
  have hok : ∀ {s : String} {ps : List Piece}, ((∃ e, passwordSettings.substitute (.text s) =
      .error e) ↔ ∃ x, .reference x ∈ ps ∧ x.IsRefused passwordSettings) →
      (∀ x, .reference x ∈ ps → ∀ message, x.fallback ≠ .refuse message) →
      ∃ v, passwordSettings.substitute (.text s) = .ok v := by
    intro s ps herror hnone
    cases hs : passwordSettings.substitute (.text s) with
    | ok v => exact ⟨v, rfl⟩
    | error e =>
      obtain ⟨x, hx, _, message, hrefuse⟩ := herror.mp ⟨e, hs⟩
      exact absurd hrefuse (hnone x hx message)
  constructor
  · obtain ⟨ps, hps, herror, hfills⟩ :=
      substitute_fills passwordSettings "$\x7bPASSWORD\x7d@db"
    have hpieces : ps = [.reference ⟨"PASSWORD".toList, .keep⟩, .char '@', .char 'd', .char 'b'] :=
      ((hps _).mp (Piece.reads_ofText _)).symm.trans (by decide +kernel)
    subst hpieces
    obtain ⟨v, hv⟩ := hok herror (by simp)
    obtain ⟨bs, hbs, -, -, hverbatim, -⟩ := hfills v hv
    refine ⟨v, hv, fun heq => ?_⟩
    have hword : BarePiece.Reads ('$' :: 'W' :: (['O', 'R', 'D'] ++ ['@', 'd', 'b']))
        [.name "WORD".toList, .char '@', .char 'd', .char 'b'] :=
      .name (by decide) (List.all_eq_true.mp rfl) (fun c hc => Option.some.inj hc ▸ rfl)
        (.char (by decide) (.char (by decide) (.char (by decide) .nil)))
    have hnames : bs =
        [.char 'p', .char 'a', .name "WORD".toList, .char '@', .char 'd', .char 'b'] :=
      ((hbs _).mp (.char (by decide) (.char (by decide) hword))).symm
    subst hnames
    have hunset := hverbatim (fun name value hname hvalue => by
      obtain rfl : name = "WORD".toList := by simpa using hname
      obtain rfl : "x" = value := Option.some.inj hvalue
      decide) (heq.trans (congrArg Value.text (by decide))) "WORD".toList (by simp)
    cases hunset
  · obtain ⟨ps, hps, herror, hfills⟩ :=
      substitute_fills passwordSettings "$\x7bWORD\x7d@$\x7bHOST:-db\x7d"
    have hpieces : ps = [.reference ⟨"WORD".toList, .keep⟩, .char '@',
        .reference ⟨"HOST".toList, .default "db".toList⟩] :=
      ((hps _).mp (Piece.reads_ofText _)).symm.trans (by decide +kernel)
    subst hpieces
    obtain ⟨v, hv⟩ := hok herror (by simp)
    obtain ⟨bs, -, -, hstands, -, hnone⟩ := hfills v hv
    have hnames : ¬ HasNames "$\x7bWORD\x7d@$\x7bHOST:-db\x7d".toList := by
      simp [hasNames_cons, not_hasNames_nil, startsBareName]
    have hunset := hnone hnames (fun x hx => ?_) fun x hx => ?_
    · rw [hv, hstands fun name hname => absurd hname (hunset name)]
      rfl
    · simp only [List.mem_cons, Piece.reference.injEq, reduceCtorEq, List.not_mem_nil, or_false,
        false_or] at hx
      rcases hx with rfl | rfl
      · exact .inr (by decide)
      · exact .inr (by decide)
    · simp [List.infix_cons_iff] at hx

end Environment
end ProcessTriggers
