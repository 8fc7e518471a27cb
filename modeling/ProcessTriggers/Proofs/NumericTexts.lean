import Mathlib.Data.List.DropRight
import Mathlib.Data.List.Infix
import ProcessTriggers.Proofs.DecimalLiterals
import ProcessTriggers.Proofs.LetterCase

/-!
Numeric texts. A grammar tells which texts of printable ASCII characters denote a number: the blank
one, decimal literals, infinity, and digits after the mark of a base. Such a text becomes a number,
and no other does but those with something between the mark of a base and the digits: spaces, a
sign, or the mark once more.
-/

namespace ProcessTriggers

namespace Text

/-- The characters of printable ASCII text, and the space. -/
def IsPlain (c : Char) : Prop := 0x20 ≤ c.toNat ∧ c.toNat ≤ 0x7e

instance (c : Char) : Decidable (IsPlain c) := inferInstanceAs (Decidable (_ ∧ _))

theorem of_isPlain {P : Char → Prop} (h : ∀ n < 0x7f, 0x20 ≤ n → P (Char.ofNat n)) {c : Char}
    (hc : IsPlain c) : P c := by
  have hchar := h c.toNat (Nat.lt_succ_of_le hc.2) hc.1
  rwa [Char.ofNat_toNat] at hchar

theorem isBlank_eq_space {c : Char} (hc : IsPlain c) : isBlank c = (c == ' ') :=
  of_isPlain (P := fun c => isBlank c = (c == ' ')) (by decide +kernel) hc

theorem isSpace_eq_space {c : Char} (hc : IsPlain c) : isSpace c = (c == ' ') :=
  of_isPlain (P := fun c => isSpace c = (c == ' ')) (by decide +kernel) hc

/-- Among plain characters there are no other digits than those of ASCII. -/
theorem digitChar_digitValue? {c : Char} (hc : IsPlain c) :
    ((digitValue? c).map digitChar).getD c = c :=
  of_isPlain (P := fun c => ((digitValue? c).map digitChar).getD c = c) (by decide +kernel) hc

theorem lowerChar_plain {c : Char} (hc : IsPlain c) : lowerChar c = [c.toLower] :=
  of_isPlain (P := fun c => lowerChar c = [c.toLower]) (by decide +kernel) hc

theorem toList_lower {cs : List Char} (h : ∀ c ∈ cs, IsPlain c) :
    (lower (String.ofList cs)).toList = cs.map Char.toLower := by
  have hafter : ∀ before, lowerAfter before cs = cs.map Char.toLower := by
    induction cs with
    | nil => exact fun _ => rfl
    | cons c cs ih =>
      intro before
      obtain ⟨hc, hcs⟩ := List.forall_mem_cons.mp h
      have hsigma : c ≠ 'Σ' := by
        rintro rfl
        exact absurd hc (by decide)
      rw [lowerAfter, if_neg hsigma, lowerChar_plain hc, ih hcs]
      rfl
  rw [lower, String.toList_ofList, String.toList_ofList, hafter]

theorem isRun_iff {part whole : List Char} : isRun part whole = true ↔ part <:+: whole := by
  induction whole with
  | nil => rw [isRun, List.isEmpty_iff, List.infix_nil]
  | cons c cs ih =>
    rw [isRun, Bool.or_eq_true, List.isPrefixOf_iff_prefix, ih, List.infix_cons_iff]

/-! Trimming. -/

variable {p q : Char → Bool} {cs s : List Char}

theorem trimBy_subset : trimBy p cs ⊆ cs := fun _ hc =>
  (List.dropWhile_suffix p).subset ((List.rdropWhile_prefix p _).subset hc)

theorem dropWhile_congr (h : ∀ c ∈ cs, p c = q c) : cs.dropWhile p = cs.dropWhile q := by
  induction cs with
  | nil => rfl
  | cons c cs ih =>
    obtain ⟨hc, hcs⟩ := List.forall_mem_cons.mp h
    rw [List.dropWhile_cons, List.dropWhile_cons, hc, ih hcs]

theorem trimBy_congr (h : ∀ c ∈ cs, p c = q c) : trimBy p cs = trimBy q cs := by
  have hreverse : ∀ c ∈ (cs.dropWhile q).reverse, p c = q c := fun c hc =>
    h c ((List.dropWhile_suffix q).subset (List.mem_reverse.mp hc))
  rw [trimBy, trimBy, dropWhile_congr h, dropWhile_congr hreverse]

/-- What a trimmed text ends with has white space in front only. -/
theorem trimBy_of_suffix (h : cs <:+ trimBy p s) : trimBy p cs = cs.dropWhile p := by
  refine List.rdropWhile_eq_self_iff.mpr fun hne => ?_
  obtain ⟨front, hfront⟩ := (List.dropWhile_suffix p).trans h
  have htrim : trimBy p s ≠ [] := by
    rw [← hfront]
    exact List.append_ne_nil_of_right_ne_nil front hne
  have hlast : (trimBy p s).getLast htrim = (cs.dropWhile p).getLast hne := by
    simp only [← hfront, List.getLast_append_of_ne_nil _ hne]
  rw [← hlast]
  exact List.rdropWhile_last_not p (s.dropWhile p) htrim

theorem dropWhile_trimBy (p : Char → Bool) (s : List Char) :
    (trimBy p s).dropWhile p = trimBy p s := by
  refine List.dropWhile_eq_self_iff.mpr fun hpos => ?_
  have hfront : trimBy p s <+: s.dropWhile p := List.rdropWhile_prefix p (s.dropWhile p)
  rw [hfront.getElem hpos]
  exact List.dropWhile_get_zero_not p s (Nat.lt_of_lt_of_le hpos hfront.length_le)

end Text

namespace Numeral

open Text (IsPlain)

variable {cs : List Char}

/-! Plain texts. -/

theorem normalize_eq (h : ∀ c ∈ cs, IsPlain c) : normalize cs = Text.trimBy (· == ' ') cs := by
  have hspace := Text.trimBy_congr fun c hc => Text.isSpace_eq_space (h c hc)
  rw [normalize, hspace]
  have hsame : ∀ c ∈ Text.trimBy (· == ' ') cs,
      ((Text.digitValue? c).map Text.digitChar).getD c = c := fun c hc =>
    Text.digitChar_digitValue? (h c (Text.trimBy_subset hc))
  exact (List.map_congr_left hsame).trans (List.map_id' _)

theorem word?_eq_none {negative : Bool} (hinf : ¬ "inf".toList <:+: cs.map Char.toLower)
    (hnan : ¬ "nan".toList <:+: cs.map Char.toLower) : word? negative cs = none := by
  have hother : ∀ {w : String}, String.ofList (cs.map Char.toLower) = w →
      cs.map Char.toLower = w.toList := by
    rintro w rfl
    exact String.toList_ofList.symm
  have hne : ¬(String.ofList (cs.map Char.toLower) = "inf" ∨
      String.ofList (cs.map Char.toLower) = "infinity") := by
    rintro (h | h)
    · exact hinf (by rw [hother h])
    · exact hinf (by rw [hother h]; decide)
  have hne' : String.ofList (cs.map Char.toLower) ≠ "nan" := fun h => hnan (by rw [hother h])
  simp only [word?, if_neg hne, if_neg hne']

end Numeral

namespace Double

theorem ofMagnitude_ne_nan (negative : Bool) (q : Rat) : ofMagnitude negative q ≠ .nan := by
  simp only [ofMagnitude, zero]
  split_ifs <;> exact Double.noConfusion

theorem ofInt_ne_nan (n : Int) : ofInt n ≠ .nan := by
  rw [ofInt, ofRat]
  split_ifs
  · exact ofMagnitude_ne_nan true _
  · exact ofMagnitude_ne_nan false _

end Double

theorem Numeral.Literal.double_ne_nan (l : Literal) (negative : Bool) :
    l.double negative ≠ .nan := by
  simp only [double, Double.zero]
  split_ifs
  · exact Double.noConfusion
  · exact Double.noConfusion
  · exact Double.noConfusion
  · exact Double.ofMagnitude_ne_nan negative _

namespace Operand

open Text (IsPlain)
open Numeral

variable {base : Nat} {letter c : Char} {cs ds extra rest : List Char}

/-! The grammar. -/

/-- The texts that denote a number, with no white space around them. -/
inductive Numeric : List Char → Prop
  | blank : Numeric []
  | decimal {cs : List Char} (h : Signed Decimal cs) : Numeric cs
  | infinity {cs : List Char} (h : Signed (· = "Infinity".toList) cs) : Numeric cs
  | based {base : Nat} {letter c : Char} {ds : List Char} (hbase : (base, letter) ∈ markedBases)
    (hc : c ∈ [letter, letter.toUpper]) (h : Digits base ds) : Numeric ('0' :: c :: ds)

/-- What is passed over between the mark of a base and the digits: spaces, a sign and the mark once
more, or some of these. -/
inductive PassedOver (letter : Char) : List Char → Prop
  | mk {blanks sign mark : List Char} (hblanks : ∀ b ∈ blanks, b = ' ')
    (hsign : sign ∈ [[], ['+'], ['-']])
    (hmark : mark ∈ [[], ['0', letter], ['0', letter.toUpper]]) :
    PassedOver letter (blanks ++ (sign ++ mark))

/-- Texts with the mark of a base and digits of it, which something that is passed over may
separate. -/
inductive Marked (extra : List Char) : List Char → Prop
  | mk {base : Nat} {letter c : Char} {ds : List Char} (hbase : (base, letter) ∈ markedBases)
    (hc : c ∈ [letter, letter.toUpper]) (hextra : PassedOver letter extra) (h : Digits base ds) :
    Marked extra ('0' :: c :: (extra ++ ds))

/-- Texts in which something stands between the mark of a base and the digits. -/
def Lax (cs : List Char) : Prop := ∃ extra, extra ≠ [] ∧ Marked extra cs

/-! Marks. -/

theorem mem_bases (hbase : (base, letter) ∈ markedBases) : base ∈ bases := by
  have hall : ∀ b ∈ markedBases, b.1 ∈ bases := by decide
  exact hall _ hbase

theorem baseMark?_eq_some (hbase : (base, letter) ∈ markedBases)
    (hc : c ∈ [letter, letter.toUpper]) :
    baseMark? ('0' :: c :: rest) = some (base, letter, rest) := by
  simp only [markedBases, List.mem_cons, Prod.mk.injEq, List.not_mem_nil, or_false] at hbase hc
  rcases hbase with ⟨rfl, rfl⟩ | ⟨rfl, rfl⟩ | ⟨rfl, rfl⟩ <;> rcases hc with rfl | rfl <;> rfl

theorem mark_unique {base' : Nat} {letter' : Char} (hbase : (base, letter) ∈ markedBases)
    (hbase' : (base', letter') ∈ markedBases) (hc : c ∈ [letter, letter.toUpper])
    (hc' : c ∈ [letter', letter'.toUpper]) : base' = base ∧ letter' = letter := by
  have hmark : baseMark? ['0', c] = some (base, letter, []) := baseMark?_eq_some hbase hc
  rw [baseMark?_eq_some hbase' hc'] at hmark
  cases hmark
  exact ⟨rfl, rfl⟩

theorem PassedOver.nil (letter : Char) : PassedOver letter [] :=
  @mk letter [] [] [] (List.forall_mem_nil _) (.head _) (.head _)

theorem PassedOver.forall_mem {q : Char → Prop} (h : PassedOver letter extra) (hspace : q ' ')
    (hsign : q '+' ∧ q '-') (hzero : q '0') (hletter : q letter ∧ q letter.toUpper) :
    ∀ c ∈ extra, q c := by
  cases h with
  | @mk blanks sign mark hblanks hs hm =>
    simp only [List.mem_cons, List.not_mem_nil, or_false] at hs hm
    refine List.forall_mem_append.mpr ⟨fun b hb => hblanks b hb ▸ hspace, ?_⟩
    refine List.forall_mem_append.mpr ⟨?_, ?_⟩
    · rcases hs with rfl | rfl | rfl
      · exact List.forall_mem_nil _
      · exact List.forall_mem_singleton.mpr hsign.1
      · exact List.forall_mem_singleton.mpr hsign.2
    · rcases hm with rfl | rfl | rfl
      · exact List.forall_mem_nil _
      · exact List.forall_mem_cons.mpr ⟨hzero, List.forall_mem_singleton.mpr hletter.1⟩
      · exact List.forall_mem_cons.mpr ⟨hzero, List.forall_mem_singleton.mpr hletter.2⟩

/-- What is passed over has a character that is no digit. -/
theorem PassedOver.exists_not_digit (h : PassedOver letter extra) (hne : extra ≠ [])
    (hbase : (base, letter) ∈ markedBases) : ∃ d ∈ extra, d ∉ digitsOf base := by
  have hno : ∀ b ∈ bases, ' ' ∉ digitsOf b ∧ '+' ∉ digitsOf b ∧ '-' ∉ digitsOf b := by decide
  obtain ⟨hspace, hplus, hminus⟩ := hno base (mem_bases hbase)
  obtain ⟨hlower, hupper⟩ := letter_no_digit hbase
  cases h with
  | @mk blanks sign mark hblanks hsign hmark =>
    cases blanks with
    | cons b blanks =>
      rw [hblanks b List.mem_cons_self]
      exact ⟨' ', List.mem_cons_self, hspace⟩
    | nil =>
      simp only [List.mem_cons, List.not_mem_nil, or_false] at hsign hmark
      rcases hsign with rfl | rfl | rfl
      · rcases hmark with rfl | rfl | rfl
        · exact absurd rfl hne
        · refine ⟨letter, .tail _ (.head _), fun hmem => ?_⟩
          rw [mem_digitsOf_iff (mem_bases hbase), hlower] at hmem
          cases hmem
        · refine ⟨letter.toUpper, .tail _ (.head _), fun hmem => ?_⟩
          rw [mem_digitsOf_iff (mem_bases hbase), hupper] at hmem
          cases hmem
      · exact ⟨'+', .head _, hplus⟩
      · exact ⟨'-', .head _, hminus⟩

/-- After the mark of a base a text is read where it has digits of the base after what is passed
over. -/
theorem intIn?_isSome_iff (hbase : (base, letter) ∈ markedBases) (hplain : ∀ c ∈ rest, IsPlain c)
    (hunderscore : '_' ∉ rest) (htrim : Text.trimBy (· == ' ') rest = rest.dropWhile (· == ' ')) :
    (intIn? base letter rest).isSome = true ↔
      ∃ extra ds, rest = extra ++ ds ∧ PassedOver letter extra ∧ Digits base ds := by
  have hnormal := (normalize_eq hplain).trans htrim
  constructor
  · intro h
    obtain ⟨n, hn⟩ := Option.isSome_iff_exists.mp h
    cases writesIn_of_intIn? hunderscore hn with
    | @mk sign mark ds negative m signed marked eq digits =>
      have hsign : sign ∈ signs.map Prod.fst := List.mem_map_of_mem signed
      have hblanks : ∀ b ∈ rest.takeWhile (· == ' '), b = ' ' := fun b hb =>
        eq_of_beq (@List.mem_takeWhile_imp _ (· == ' ') _ _ hb)
      refine ⟨_, ds, ?_, .mk hblanks hsign marked,
        (natOf?_isSome_iff (mem_bases hbase)).mp (by rw [digits]; rfl)⟩
      calc rest = rest.takeWhile (· == ' ') ++ rest.dropWhile (· == ' ') :=
            List.takeWhile_append_dropWhile.symm
        _ = _ := by rw [← hnormal, eq]; simp only [List.append_assoc]
  · rintro ⟨extra, ds, rfl, hextra, hds⟩
    obtain ⟨m, hm⟩ := Option.isSome_iff_exists.mp ((natOf?_isSome_iff (mem_bases hbase)).mpr hds)
    cases hextra with
    | @mk blanks sign mark hblanks hsign hmark =>
      obtain ⟨⟨sign, negative⟩, signed, rfl⟩ : ∃ s ∈ signs, s.1 = sign := List.mem_map.mp hsign
      have hno : ' ' ∉ sign ++ (mark ++ ds) := by
        have hsigns : ∀ s ∈ signs, ' ' ∉ s.1 := by decide
        have hmarks : ∀ b ∈ markedBases, ∀ m ∈ [[], ['0', b.2], ['0', b.2.toUpper]], ' ' ∉ m := by
          decide
        have hdigits : ∀ b ∈ bases, ' ' ∉ digitsOf b := by decide
        rw [List.mem_append, List.mem_append, not_or, not_or]
        exact ⟨hsigns _ signed, hmarks _ hbase mark hmark,
          fun hd => hdigits base (mem_bases hbase) (hds.2 _ hd)⟩
      have hdrop : (blanks ++ (sign ++ mark) ++ ds).dropWhile (· == ' ') =
          sign ++ (mark ++ ds) := by
        rw [List.append_assoc, List.append_assoc]
        exact (span_run (fun b hb => beq_iff_eq.mpr (hblanks b hb))
          fun c hc => beq_eq_false_iff_ne.mpr fun hspace =>
            hno (hspace ▸ List.mem_of_mem_head? hc)).2
      have hwrites := WritesIn.mk signed hmark (hnormal.trans hdrop) hm
      rw [intIn?_of_writesIn hbase hunderscore hwrites]
      rfl

/-! Characters. -/

/-- The characters of decimal literals. -/
def decimalChars : List Char := "0123456789.eE+-".toList

/-- Characters that texts without underscores and without words are made of. -/
def IsAllowed (c : Char) : Prop := c ≠ '_' ∧ c.toLower ≠ 'n'

instance (c : Char) : Decidable (IsAllowed c) := inferInstanceAs (Decidable (_ ∧ _))

theorem isExcluded_eq_false (hplain : ∀ c ∈ cs, IsPlain c) (h : ∀ c ∈ cs, IsAllowed c) :
    isExcluded cs = false := by
  have hcontains : cs.contains '_' = false := by
    rw [Bool.eq_false_iff, Ne, List.contains_iff_mem]
    exact fun hmem => (h '_' hmem).1 rfl
  have hrun : ∀ {word : List Char}, 'n' ∈ word →
      Text.isRun word (cs.map Char.toLower) = false := by
    intro word hword
    rw [Bool.eq_false_iff, Ne, Text.isRun_iff]
    intro hpart
    obtain ⟨c, hc, hn⟩ := List.mem_map.mp (hpart.subset hword)
    exact (h c hc).2 hn
  have hinf : 'n' ∈ "inf".toList := by decide
  have hnan : 'n' ∈ "nan".toList := by decide
  simp only [isExcluded, Text.toList_lower hplain, hcontains, hrun hinf, hrun hnan, Bool.or_self]

theorem isExcluded_spec (hplain : ∀ c ∈ cs, IsPlain c) (h : isExcluded cs = false) :
    '_' ∉ cs ∧ ¬ "inf".toList <:+: cs.map Char.toLower ∧
      ¬ "nan".toList <:+: cs.map Char.toLower := by
  simp only [isExcluded, Text.toList_lower hplain, Bool.or_eq_false_iff] at h
  obtain ⟨⟨hunderscore, hinf⟩, hnan⟩ := h
  refine ⟨fun hmem => ?_, fun hpart => ?_, fun hpart => ?_⟩
  · rw [List.contains_iff_mem.mpr hmem] at hunderscore
    cases hunderscore
  · rw [Text.isRun_iff.mpr hpart] at hinf
    cases hinf
  · rw [Text.isRun_iff.mpr hpart] at hnan
    cases hnan

theorem mem_decimalChars (h : Signed Decimal cs) : ∀ c ∈ cs, c ∈ decimalChars := by
  have hdigit : ∀ d ∈ digitsOf 10, d ∈ decimalChars := List.all_iff_forall_prop.mp (by decide)
  have hdecimal : ∀ {cs}, Decimal cs → ∀ c ∈ cs, c ∈ decimalChars := by
    rintro _ ⟨hm, he⟩
    refine List.forall_mem_append.mpr ⟨?_, ?_⟩
    · cases hm with
      | whole h => exact fun d hd => hdigit d (h.2 d hd)
      | pointed h =>
        obtain ⟨hds, hfs⟩ := List.forall_mem_append.mp h.2
        refine List.forall_mem_append.mpr ⟨fun d hd => hdigit d (hds d hd), ?_⟩
        exact List.forall_mem_cons.mpr ⟨by decide, fun f hf => hdigit f (hfs f hf)⟩
    · cases he with
      | none => exact fun _ hc => nomatch hc
      | power he h =>
        refine List.forall_mem_cons.mpr ⟨by rcases he with rfl | rfl <;> decide, ?_⟩
        exact h.forall_mem (fun h d hd => hdigit d (h.2 d hd)) (by decide) (by decide)
  exact h.forall_mem hdecimal (by decide) (by decide)

theorem Marked.isAllowed (h : Marked extra cs) : ∀ c ∈ cs, IsAllowed c := by
  have hletters : ∀ b ∈ markedBases, IsAllowed b.2 ∧ IsAllowed b.2.toUpper := by decide
  cases h with
  | @mk base letter c ds hbase hc hextra h =>
    have hletter := hletters _ hbase
    have hmark : IsAllowed c := by
      simp only [List.mem_cons, List.not_mem_nil, or_false] at hc
      rcases hc with rfl | rfl
      · exact hletter.1
      · exact hletter.2
    refine List.forall_mem_cons.mpr ⟨by decide, List.forall_mem_cons.mpr ⟨hmark, ?_⟩⟩
    have hdigits : ∀ d ∈ digitsOf base, IsAllowed d := forall_digits (by decide) (mem_bases hbase)
    refine List.forall_mem_append.mpr ⟨?_, fun d hd => hdigits d (h.2 d hd)⟩
    exact hextra.forall_mem (by decide) (by decide) (by decide) hletter

/-- A mark is nothing that a decimal literal has. -/
theorem mark_not_mem_decimalChars (hbase : (base, letter) ∈ markedBases)
    (hc : c ∈ [letter, letter.toUpper]) : c ∉ decimalChars := by
  have hletters : ∀ b ∈ markedBases, b.2 ∉ decimalChars ∧ b.2.toUpper ∉ decimalChars := by decide
  obtain ⟨hlower, hupper⟩ := hletters _ hbase
  simp only [List.mem_cons, List.not_mem_nil, or_false] at hc
  rcases hc with rfl | rfl
  · exact hlower
  · exact hupper

theorem Lax.not_numeric (h : Lax cs) : ¬ Numeric cs := by
  obtain ⟨extra, hne, @⟨base, letter, c, ds, hbase, hc, hextra, hds⟩⟩ := h
  intro hnumeric
  cases hnumeric with
  | decimal h =>
    exact mark_not_mem_decimalChars hbase hc (mem_decimalChars h c (.tail _ (.head _)))
  | infinity h =>
    have hzero : ∀ d ∈ '0' :: c :: (extra ++ ds), d ≠ '0' :=
      h.forall_mem (by rintro _ rfl; exact List.all_iff_forall_prop.mp (by decide)) (by decide)
        (by decide)
    exact hzero '0' List.mem_cons_self rfl
  | based hbase' hc' h =>
    obtain ⟨rfl, rfl⟩ := mark_unique hbase hbase' hc hc'
    obtain ⟨d, hd, hno⟩ := hextra.exists_not_digit hne hbase
    exact hno (h.2 d (List.mem_append_left ds hd))

/-! Numbers. -/

theorem numeric_or_lax_iff : Numeric cs ∨ Lax cs ↔
    cs = [] ∨ Signed (· = "Infinity".toList) cs ∨ Signed Decimal cs ∨ ∃ extra, Marked extra cs := by
  constructor
  · rintro (h | ⟨extra, -, h⟩)
    · cases h with
      | blank => exact .inl rfl
      | decimal h => exact .inr (.inr (.inl h))
      | infinity h => exact .inr (.inl h)
      | based hbase hc h => exact .inr (.inr (.inr ⟨[], .mk hbase hc (.nil _) h⟩))
    · exact .inr (.inr (.inr ⟨extra, h⟩))
  · rintro (rfl | h | h | ⟨extra, h⟩)
    · exact .inl .blank
    · exact .inl (.infinity h)
    · exact .inl (.decimal h)
    · by_cases hextra : extra = []
      · cases h with
        | mk hbase hc _ h =>
          subst hextra
          exact .inl (.based hbase hc h)
      · exact .inr ⟨extra, hextra, h⟩

theorem getD_double?_iff (hplain : ∀ c ∈ cs, IsPlain c) (h : isExcluded cs = false)
    (htrim : Text.trimBy (· == ' ') cs = cs) :
    (double? cs).getD .nan ≠ .nan ↔ Signed Decimal cs := by
  obtain ⟨hunderscore, hinf, hnan⟩ := isExcluded_spec hplain h
  obtain ⟨sign, -, hcs⟩ := takeSign_cases cs
  have hbody : (takeSign cs).2 <:+ cs := ⟨sign, hcs.symm⟩
  have hword : word? (takeSign cs).1 (takeSign cs).2 = none :=
    word?_eq_none (fun h => hinf (h.trans (hbody.map _).isInfix))
      fun h => hnan (h.trans (hbody.map _).isInfix)
  have hjoin : joinGroups? Char.isDigit (takeSign cs).2 = some (takeSign cs).2 :=
    joinGroups?_of_not_mem _ fun hmem => hunderscore (hbody.subset hmem)
  have hread : double? cs =
      (literal? (takeSign cs).2).map fun l => l.double (takeSign cs).1 := by
    simp only [double?, normalize_eq hplain, htrim, hword, hjoin, Option.bind_eq_bind,
      Option.bind_some]
    cases literal? (takeSign cs).2 <;> rfl
  rw [signed_iff Decimal.head_not_sign, ← literal?_isSome_iff, hread]
  cases literal? (takeSign cs).2 with
  | none => exact iff_of_false (not_not_intro rfl) Bool.false_ne_true
  | some l => exact iff_of_true (l.double_ne_nan _) rfl

theorem marked_iff (hbase : (base, letter) ∈ markedBases) (hc : c ∈ [letter, letter.toUpper])
    (hplain : ∀ c ∈ rest, IsPlain c) (hunderscore : '_' ∉ rest)
    (htrim : Text.trimBy (· == ' ') rest = rest.dropWhile (· == ' ')) :
    (∃ extra, Marked extra ('0' :: c :: rest)) ↔ (intIn? base letter rest).isSome = true := by
  rw [intIn?_isSome_iff hbase hplain hunderscore htrim]
  constructor
  · rintro ⟨extra, h⟩
    cases h with
    | mk hbase' hc' hextra h =>
      obtain ⟨rfl, rfl⟩ := mark_unique hbase hbase' hc hc'
      exact ⟨extra, _, rfl, hextra, h⟩
  · rintro ⟨extra, ds, rfl, hextra, h⟩
    exact ⟨extra, .mk hbase hc hextra h⟩

theorem signed_infinity_iff : Signed (· = "Infinity".toList) cs ↔
    (cs = "Infinity".toList ∨ cs = "+Infinity".toList) ∨ cs = "-Infinity".toList := by
  constructor
  · intro h
    cases h with
    | unsigned h => exact .inl (.inl h)
    | plus h => exact .inl (.inr (congrArg _ h))
    | minus h => exact .inr (congrArg _ h)
  · rintro ((rfl | rfl) | rfl)
    · exact .unsigned rfl
    · exact .plus rfl
    · exact .minus rfl

theorem mem_mark (hplain : IsPlain c) (hbase : (base, letter) ∈ markedBases)
    (h : c.toLower = letter) : c ∈ [letter, letter.toUpper] := by
  have hall : ∀ b ∈ markedBases, ∀ n < 0x7f, 0x20 ≤ n →
      (Char.ofNat n).toLower = b.2 → Char.ofNat n ∈ [b.2, b.2.toUpper] := by
    decide +kernel
  exact Text.of_isPlain (P := fun c => c.toLower = letter → c ∈ [letter, letter.toUpper])
    (hall _ hbase) hplain h

/-- Nothing is excluded that is a decimal literal or marked as digits of a base. -/
theorem isExcluded_eq_false_of (hplain : ∀ c ∈ cs, IsPlain c)
    (h : Signed Decimal cs ∨ ∃ extra, Marked extra cs) : isExcluded cs = false := by
  have hdecimal : ∀ c ∈ decimalChars, IsAllowed c := List.all_iff_forall_prop.mp (by decide)
  refine isExcluded_eq_false hplain ?_
  rcases h with h | ⟨extra, h⟩
  · exact fun c hc => hdecimal c (mem_decimalChars h c hc)
  · exact h.isAllowed

theorem not_marked (h : baseMark? cs = none) : ¬ ∃ extra, Marked extra cs := by
  rintro ⟨extra, hmarked⟩
  cases hmarked with
  | mk hbase hc =>
    rw [baseMark?_eq_some hbase hc] at h
    cases h

theorem ne_nan_iff_isSome {written : Option Int} {x : Double}
    (hx : (match written with
      | some n => ofInt n
      | none => .ok .nan) = .ok x) : x ≠ .nan ↔ written.isSome = true := by
  cases written with
  | none =>
    cases hx
    exact iff_of_false (not_not_intro rfl) Bool.false_ne_true
  | some n =>
    rcases ofInt_cases n with ⟨-, herror⟩ | ⟨-, hok⟩
    · cases herror.symm.trans hx
    · cases hok.symm.trans hx
      exact iff_of_true (Double.ofInt_ne_nan n) rfl

/-- A text without the spaces around it. -/
def unspaced (s : String) : List Char := Text.trimBy (· == ' ') s.toList

theorem ofText_ne_nan_iff {s : String} {x : Double} (hplain : ∀ c ∈ s.toList, IsPlain c)
    (hx : ofText s = .ok x) : x ≠ .nan ↔ Numeric (unspaced s) ∨ Lax (unspaced s) := by
  have htrim : Text.trim s.toList = unspaced s :=
    Text.trimBy_congr fun c hc => Text.isBlank_eq_space (hplain c hc)
  have hrest : ∀ rest, rest <:+ unspaced s →
      Text.trimBy (· == ' ') rest = rest.dropWhile (· == ' ') := fun _ => Text.trimBy_of_suffix
  have hself : Text.trimBy (· == ' ') (unspaced s) = unspaced s :=
    (hrest _ (List.suffix_refl _)).trans (Text.dropWhile_trimBy _ _)
  have hchars : ∀ c ∈ unspaced s, IsPlain c := fun c hc => hplain c (Text.trimBy_subset hc)
  rw [numeric_or_lax_iff, signed_infinity_iff]
  simp only [ofText, htrim] at hx
  generalize unspaced s = cs at *
  split_ifs at hx with hempty hinf hneg hexcluded
  · cases hx
    exact iff_of_true Double.noConfusion (.inl (List.isEmpty_iff.mp hempty))
  · cases hx
    exact iff_of_true Double.noConfusion (.inr (.inl (.inl hinf)))
  · cases hx
    exact iff_of_true Double.noConfusion (.inr (.inl (.inr hneg)))
  · cases hx
    refine iff_of_false (not_not_intro rfl) ?_
    rintro (h | h | h)
    · exact hempty (List.isEmpty_iff.mpr h)
    · exact h.elim hinf hneg
    · rw [isExcluded_eq_false_of hchars h] at hexcluded
      cases hexcluded
  · have hnil : cs ≠ [] := mt List.isEmpty_iff.mpr hempty
    have hallowed := Bool.eq_false_iff.mpr hexcluded
    rw [or_iff_right hnil, or_iff_right (not_or.mpr ⟨hinf, hneg⟩)]
    rcases baseMark?_cases cs with hnone | ⟨base, letter, c, rest, rfl, hc, hbase, hmark⟩
    · simp only [hnone] at hx
      cases hx
      rw [or_iff_left (not_marked hnone)]
      exact getD_double?_iff hchars hallowed hself
    · have hletter := mem_mark (hchars c (.tail _ (.head _))) hbase hc
      have hdecimal : ¬ Signed Decimal ('0' :: c :: rest) := fun h =>
        mark_not_mem_decimalChars hbase hletter (mem_decimalChars h c (.tail _ (.head _)))
      have hrestPlain : ∀ d ∈ rest, IsPlain d := fun d hd => hchars d (.tail _ (.tail _ hd))
      rw [or_iff_right hdecimal, marked_iff hbase hletter hrestPlain (underscore_not_mem hallowed)
        (hrest rest ⟨['0', c], rfl⟩)]
      simp only [hmark] at hx
      exact ne_nan_iff_isSome hx

/-- A text of printable ASCII characters for which there is an answer becomes a number, not NaN,
just if the grammar has it, or if it is no such text but would be one without what stands between
the mark of a base and the digits. -/
theorem number_text_isNaN_iff {s : String} {x : Double} (hplain : ∀ c ∈ s.toList, IsPlain c)
    (hx : number (.text s) = .ok x) :
    (x.isNaN = false ↔ Numeric (unspaced s) ∨ Lax (unspaced s)) ∧
      (Lax (unspaced s) → ¬ Numeric (unspaced s)) := by
  have hnan : x.isNaN = false ↔ x ≠ .nan := by
    cases x <;> simp [Double.isNaN]
  exact ⟨hnan.trans (ofText_ne_nan_iff hplain hx), Lax.not_numeric⟩

/-- A sign after the mark of a base makes a number of a text that the grammar does not have. -/
theorem number_text_isNaN_iff_signedDigits :
    (∀ c ∈ "0x-5".toList, IsPlain c) ∧ number (.text "0x-5") = .ok (.ofInt (-5)) ∧
      (Double.ofInt (-5)).isNaN = false ∧ ¬ Numeric (unspaced "0x-5") := by
  have hplain : ∀ c ∈ "0x-5".toList, IsPlain c := List.all_iff_forall_prop.mp (by decide)
  have hread : number (.text "0x-5") = ofInt (-5) := rfl
  have hsmall : ¬ Double.limit ≤ (-5 : Int).natAbs := by decide +kernel
  have hnumber : number (.text "0x-5") = .ok (.ofInt (-5)) :=
    hread.trans ((ofInt_cases (-5)).resolve_left fun h => hsmall h.1).2
  have hsign : PassedOver 'x' ['-'] :=
    @PassedOver.mk 'x' [] ['-'] [] (List.forall_mem_nil _) (by decide) (.head _)
  have hfive : Digits 16 ['5'] := ⟨by decide, List.forall_mem_singleton.mpr (by decide)⟩
  have hlax : Lax (unspaced "0x-5") :=
    ⟨['-'], by decide, @Marked.mk ['-'] 16 'x' 'x' ['5'] (.head _) (.head _) hsign hfive⟩
  obtain ⟨hiff, hno⟩ := number_text_isNaN_iff hplain hnumber
  exact ⟨hplain, hnumber, hiff.mpr (.inr hlax), hno hlax⟩

end Operand

end ProcessTriggers
