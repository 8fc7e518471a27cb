import ProcessTriggers.Proofs.JsonText

/-!
The characters of printed values. Numbers and times are printed in characters of ASCII, and JSON
text on one line holds neither control characters nor halves of surrogate pairs. The tolerant style
has a text for every value.
-/

namespace ProcessTriggers

namespace Text

/-- Whether a text is made of visible characters of ASCII. -/
def Clean (cs : List Char) : Prop := ∀ c ∈ cs, 0x20 ≤ c.toNat ∧ c.toNat < 0x80

theorem Clean.append {cs ds : List Char} (hcs : Clean cs) (hds : Clean ds) : Clean (cs ++ ds) :=
  fun c hc => (List.mem_append.mp hc).elim (hcs c) (hds c)

theorem Clean.sublist {cs ds : List Char} (h : Clean ds) (hsub : cs.Sublist ds) : Clean cs :=
  fun c hc => h c (hsub.subset hc)

theorem hasHalf_of_clean {s : String} (h : Clean s.toList) : hasHalf s = false :=
  hasHalf_of_ascii fun c hc => (h c hc).2

theorem clean_of_decide {cs : List Char}
    (h : cs.all (fun c => 0x20 ≤ c.toNat ∧ c.toNat < 0x80) = true) : Clean cs :=
  fun c hc => of_decide_eq_true (List.all_eq_true.mp h c hc)

end Text

/-! Numbers. -/

namespace Double

open Text

theorem clean_toDigits (n : Nat) : Clean (Nat.toDigits 10 n) := fun c hc => by
  have := Numeral.isDigit_iff.mp (Numeral.isDigit_of_mem_toDigits c hc)
  omega

theorem clean_toString (n : Nat) : Clean (toString n).toList :=
  Nat.toList_repr ▸ clean_toDigits n

theorem clean_zeros (n : Nat) : Clean (List.replicate n '0') := fun c hc => by
  rw [List.eq_of_mem_replicate hc]
  decide

theorem clean_signText (negative : Bool) : Clean (signText negative).toList := by
  cases negative <;> exact clean_of_decide rfl

theorem clean_exponentText (k : Int) : Clean (exponentText k).toList := by
  have hsign : Clean (if k < 0 then "e-" else "e+").toList := by
    split <;> exact clean_of_decide rfl
  rw [exponentText, String.toList_append]
  refine hsign.append ?_
  split
  · rw [String.toList_append]
    exact (clean_of_decide rfl).append (clean_toString _)
  · exact clean_toString _

section

variable {ds : List Char} (h : Clean ds)

include h

theorem clean_positionalText (k : Int) : Clean (positionalText ds k).toList := by
  unfold positionalText
  split
  · rw [String.toList_append]
    refine (clean_of_decide rfl).append ?_
    rw [String.toList_ofList]
    exact (clean_zeros _).append h
  · have hwhole := (h.append (clean_zeros (k.toNat + 1 - ds.length))).sublist
      (List.take_sublist (k.toNat + 1) _)
    have hrest := h.sublist (List.drop_sublist (k.toNat + 1) ds)
    simp only [String.toList_append, String.toList_ofList]
    refine (hwhole.append (clean_of_decide rfl)).append ?_
    split
    · exact clean_of_decide rfl
    · rw [String.toList_ofList]
      exact hrest

theorem clean_scientificText (k : Int) : Clean (scientificText ds k).toList := by
  have hrest := h.sublist (List.drop_sublist 1 ds)
  simp only [scientificText, String.toList_append, String.toList_ofList]
  refine ((h.sublist (List.take_sublist 1 ds)).append ?_).append (clean_exponentText k)
  split
  · exact clean_of_decide rfl
  · rw [String.toList_append]
    refine (clean_of_decide rfl).append ?_
    rw [String.toList_ofList]
    exact hrest

end

theorem clean_decimal (d : Decimal) : Clean d.text.toList := by
  have hdigits : Clean (dropTrailingZeros (toString d.digits).toList) := by
    refine (clean_toString d.digits).sublist ?_
    rw [dropTrailingZeros, ← List.reverse_sublist, List.reverse_reverse]
    exact List.dropWhile_sublist _
  simp only [Decimal.text]
  split
  · exact clean_positionalText hdigits _
  · exact clean_scientificText hdigits _

/-- A double is shown in visible characters of ASCII. -/
theorem clean_text (x : Double) : Clean x.text.toList := by
  cases x with
  | nan => exact clean_of_decide rfl
  | infinite negative =>
    rw [text, String.toList_append]
    exact (clean_signText negative).append (clean_of_decide rfl)
  | finite negative m e =>
    rw [text, String.toList_append]
    refine (clean_signText negative).append ?_
    split
    · exact clean_of_decide rfl
    · exact clean_decimal _

end Double

/-! Times. -/

namespace Stamp

open Text

theorem clean_padded (width n : Nat) : Clean (padded width n).toList := by
  rw [padded, String.toList_append, String.toList_ofList]
  exact (Double.clean_zeros _).append (Double.clean_toString n)

theorem clean_clockText (micro : Nat) : Clean (clockText micro).toList := by
  have hcolon : Clean ":".toList := clean_of_decide rfl
  have hfraction : Clean (if micro % 1000000 = 0 then "" else
      "." ++ padded 6 (micro % 1000000)).toList := by
    split
    · exact clean_of_decide rfl
    · rw [String.toList_append]
      exact (clean_of_decide rfl).append (clean_padded _ _)
  simp only [clockText, String.toList_append]
  exact (((((clean_padded _ _).append hcolon).append (clean_padded _ _)).append hcolon).append
    (clean_padded _ _)).append hfraction

theorem clean_offsetText (offset : Int) : Clean (offsetText offset).toList := by
  rw [offsetText, String.toList_append]
  refine Clean.append ?_ ?_
  · split <;> exact clean_of_decide rfl
  · split
    · rw [String.toList_ofList]
      exact (clean_clockText _).sublist (List.take_sublist _ _)
    · exact clean_clockText _

theorem clean_isoText (t : Stamp) : Clean t.isoText.toList := by
  have hdash : Clean "-".toList := clean_of_decide rfl
  have hdate : Clean (dateText t.date).toList := by
    simp only [dateText, String.toList_append]
    exact ((((clean_padded _ _).append hdash).append (clean_padded _ _)).append hdash).append
      (clean_padded _ _)
  have hoffset : Clean ((t.offset.map offsetText).getD "").toList := by
    cases t.offset with
    | none => exact clean_of_decide rfl
    | some offset => exact clean_offsetText offset
  simp only [isoText, render, String.toList_append]
  exact ((hdate.append (clean_of_decide rfl)).append (clean_clockText _)).append hoffset

end Stamp

/-! Values. -/

namespace Json

/-- Values that JSON can express, without halves of surrogate pairs. -/
inductive Printable : Value → Prop
  | null : Printable .null
  | bool (b : Bool) : Printable (.bool b)
  | int (n : Int) : Printable (.int n)
  | double (x : Double) : Printable (.double x)
  | text {s : String} : Text.hasHalf s = false → Printable (.text s)
  | list {xs : List Value} : (∀ x ∈ xs, Printable x) → Printable (.list xs)
  | object {es : Entries} : (∀ e ∈ es, Text.hasHalf e.1 = false) → (∀ e ∈ es, Printable e.2) →
      Printable (.object es)

variable {ascii : Bool}

theorem visible_of_clean {cs : List Char} (h : Text.Clean cs) : ∀ c ∈ cs, Visible ascii c :=
  fun c hc => visible_of_ascii (h c hc).1 (h c hc).2

theorem clean_printDouble (x : Double) : Text.Clean (printDouble x).toList := by
  unfold printDouble
  split
  · exact Text.clean_of_decide rfl
  · split <;> exact Text.clean_of_decide rfl
  · exact Double.clean_text _

theorem clean_int (n : Int) : Text.Clean (toString n).toList := by
  cases n with
  | ofNat n => exact Double.clean_toString n
  | negSucc n =>
    have hsign : toString (Int.negSucc n) = "-" ++ toString (n + 1) := rfl
    rw [hsign, String.toList_append]
    exact (Text.clean_of_decide rfl).append (Double.clean_toString _)

variable {style : Style} {gap : List Char}

theorem printItems_visible {depth : Nat} {xs : List Value}
    (h : ∀ x ∈ xs, ∃ s, printAt style depth x = .ok s ∧ ∀ c ∈ s.toList, Visible style.ascii c) :
    ∃ ss, printItems style depth xs = .ok ss ∧
      ∀ cs ∈ ss.map String.toList, ∀ c ∈ cs, Visible style.ascii c := by
  induction xs with
  | nil => exact ⟨[], rfl, by simp⟩
  | cons x xs ih =>
    obtain ⟨s, hs, hvisible⟩ := h x List.mem_cons_self
    obtain ⟨ss, hss, hall⟩ := ih fun y hy => h y (List.mem_cons_of_mem x hy)
    refine ⟨s :: ss, ?_, List.forall_mem_cons.mpr ⟨hvisible, hall⟩⟩
    simp only [printItems, hs, hss, bind, Except.bind, pure, Except.pure]

section

variable (hstyle : style.OnOneLine gap)

include hstyle

theorem printMembers_visible {depth : Nat} {es : List (String × Value)}
    (hkeys : ∀ e ∈ es, style.ascii = true ∨ Text.hasHalf e.1 = false)
    (h : ∀ e ∈ es, ∃ s, printAt style depth e.2 = .ok s ∧
      ∀ c ∈ s.toList, Visible style.ascii c) :
    ∃ ss, printMembers style depth es = .ok ss ∧
      ∀ cs ∈ ss.map String.toList, ∀ c ∈ cs, Visible style.ascii c := by
  induction es with
  | nil => exact ⟨[], rfl, by simp⟩
  | cons e es ih =>
    obtain ⟨s, hs, hvisible⟩ := h e List.mem_cons_self
    obtain ⟨ss, hss, hall⟩ := ih (fun f hf => hkeys f (List.mem_cons_of_mem e hf))
      fun f hf => h f (List.mem_cons_of_mem e hf)
    have hmember : ∀ c ∈ (printString style.ascii e.1 ++ style.keySeparator ++ s).toList,
        Visible style.ascii c := by
      intro c hc
      simp only [String.toList_append, hstyle.keys, List.mem_append, List.mem_cons] at hc
      rcases hc with (hc | rfl | hc) | hc
      · exact visible_printString (hkeys e List.mem_cons_self) c hc
      · exact visible_of_ascii (by decide) (by decide)
      · exact visible_gap hstyle.space c hc
      · exact hvisible c hc
    refine ⟨(printString style.ascii e.1 ++ style.keySeparator ++ s) :: ss, ?_,
      List.forall_mem_cons.mpr ⟨hmember, hall⟩⟩
    simp only [printMembers, hs, hss, bind, Except.bind, pure, Except.pure]

theorem visible_bracketedText {depth : Nat} (left right : Char)
    (hleft : Visible style.ascii left) (hright : Visible style.ascii right) {ss : List String}
    (h : ∀ cs ∈ ss.map String.toList, ∀ c ∈ cs, Visible style.ascii c) :
    ∀ c ∈ (style.bracketed depth (String.ofList [left]) (String.ofList [right]) ss).toList,
      Visible style.ascii c := by
  rw [toList_bracketed hstyle]
  exact visible_bracketed hstyle.space hleft hright h

theorem printAt_visible {v : Value} (h : Printable v) (depth : Nat) :
    ∃ s, printAt style depth v = .ok s ∧ ∀ c ∈ s.toList, Visible style.ascii c := by
  induction h generalizing depth with
  | null => exact ⟨"null", rfl, visible_of_clean (Text.clean_of_decide rfl)⟩
  | bool b =>
    refine ⟨if b then "true" else "false", rfl, visible_of_clean ?_⟩
    cases b <;> exact Text.clean_of_decide rfl
  | int n => exact ⟨_, rfl, visible_of_clean (clean_int n)⟩
  | double x => exact ⟨_, rfl, visible_of_clean (clean_printDouble x)⟩
  | text hs => exact ⟨_, rfl, visible_printString (.inr hs)⟩
  | list hxs ih =>
    obtain ⟨ss, hss, hall⟩ := printItems_visible fun x hx => ih x hx (depth + 1)
    refine ⟨style.bracketed depth "[" "]" ss, ?_, ?_⟩
    · simp only [printAt, hss, bind, Except.bind, pure, Except.pure]
    · exact visible_bracketedText hstyle '[' ']' (visible_of_ascii (by decide) (by decide))
        (visible_of_ascii (by decide) (by decide)) hall
  | object hhalves hes ih =>
    obtain ⟨ss, hss, hall⟩ := printMembers_visible hstyle (fun e he => .inr (hhalves e he))
      fun e he => ih e he (depth + 1)
    refine ⟨style.bracketed depth "\x7b" "\x7d" ss, ?_, ?_⟩
    · simp only [printAt, hss, bind, Except.bind, pure, Except.pure]
    · exact visible_bracketedText hstyle '\x7b' '\x7d' (visible_of_ascii (by decide) (by decide))
        (visible_of_ascii (by decide) (by decide)) hall

/-- A value that JSON can express is printed without halves of surrogate pairs. -/
theorem print_printable {v : Value} (h : Printable v) :
    ∃ s, print style v = .ok s ∧ Text.hasHalf s = false := by
  obtain ⟨s, hs, hvisible⟩ := printAt_visible hstyle h 0
  exact ⟨s, hs, hasHalf_of_visible hvisible⟩

end

/-- The tolerant style has a text for every value, in ASCII. -/
theorem printAt_tolerant (depth : Nat) (v : Value) :
    ∃ s, printAt tolerant depth v = .ok s ∧ ∀ c ∈ s.toList, Visible true c := by
  cases v with
  | list xs =>
    have hitems : ∀ x ∈ xs, ∃ s, printAt tolerant (depth + 1) x = .ok s ∧
        ∀ c ∈ s.toList, Visible true c := fun x _ => printAt_tolerant (depth + 1) x
    obtain ⟨ss, hss, hall⟩ := printItems_visible hitems
    refine ⟨tolerant.bracketed depth "[" "]" ss, ?_, ?_⟩
    · simp only [printAt, hss, bind, Except.bind, pure, Except.pure]
    · exact visible_bracketedText onOneLine_tolerant '[' ']'
        (visible_of_ascii (by decide) (by decide)) (visible_of_ascii (by decide) (by decide)) hall
  | object es =>
    have hmembers : ∀ e ∈ es, ∃ s, printAt tolerant (depth + 1) e.2 = .ok s ∧
        ∀ c ∈ s.toList, Visible true c := fun e _ => printAt_tolerant (depth + 1) e.2
    obtain ⟨ss, hss, hall⟩ :=
      printMembers_visible onOneLine_tolerant (fun _ _ => .inl rfl) hmembers
    refine ⟨tolerant.bracketed depth "\x7b" "\x7d" ss, ?_, ?_⟩
    · simp only [printAt, hss, bind, Except.bind, pure, Except.pure]
    · exact visible_bracketedText onOneLine_tolerant '\x7b' '\x7d'
        (visible_of_ascii (by decide) (by decide)) (visible_of_ascii (by decide) (by decide)) hall
  | null => exact ⟨"null", rfl, visible_of_clean (Text.clean_of_decide rfl)⟩
  | bool b =>
    refine ⟨if b then "true" else "false", rfl, visible_of_clean ?_⟩
    cases b <;> exact Text.clean_of_decide rfl
  | int n => exact ⟨_, rfl, visible_of_clean (clean_int n)⟩
  | double x => exact ⟨_, rfl, visible_of_clean (clean_printDouble x)⟩
  | _ => exact ⟨_, rfl, visible_printString (.inl rfl)⟩
termination_by v
decreasing_by
  · have hitem := List.sizeOf_lt_of_mem ‹x ∈ xs›
    simp only [Value.list.sizeOf_spec]
    omega
  · have hentry := List.sizeOf_lt_of_mem ‹e ∈ es›
    have hvalue : sizeOf e = 1 + sizeOf e.1 + sizeOf e.2 := rfl
    simp only [Value.object.sizeOf_spec]
    omega

/-- Every value is printed in the tolerant style, without halves of surrogate pairs. -/
theorem print_tolerant (v : Value) :
    ∃ s, print tolerant v = .ok s ∧ Text.hasHalf s = false := by
  obtain ⟨s, hs, hvisible⟩ := printAt_tolerant 0 v
  exact ⟨s, hs, hasHalf_of_visible hvisible⟩

end Json
end ProcessTriggers
