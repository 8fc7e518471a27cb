import Mathlib.Data.List.Forall2
import Mathlib.Data.List.TakeWhile
import ProcessTriggers.Json.Printer
import ProcessTriggers.Json.Reader
import ProcessTriggers.Proofs.Actions
import ProcessTriggers.Proofs.Digits
import ProcessTriggers.Proofs.Entries

/-!
JSON text on one line. What is written in such a style is read back as it was, as far as it holds
neither doubles nor halves of surrogate pairs.
-/

namespace ProcessTriggers

theorem Text.hasHalf_of_ascii {s : String} (h : ∀ c ∈ s.toList, c.toNat < 0x80) :
    hasHalf s = false := by
  rw [hasHalf, List.any_eq_false]
  intro c hc
  rw [isHalf_eq_false_of_lt (Nat.lt_trans (h c hc) (by decide))]
  decide

namespace Json

/-- Characters that are no control characters and keep no halves, and belong to ASCII if that is
asked. -/
structure Visible (ascii : Bool) (c : Char) : Prop where
  shown : 0x20 ≤ c.toNat
  whole : Text.isHalf c = false
  basic : ascii = true → c.toNat < 0x80

theorem visible_of_ascii {ascii : Bool} {c : Char} (hshown : 0x20 ≤ c.toNat)
    (hbasic : c.toNat < 0x80) : Visible ascii c :=
  ⟨hshown, Text.isHalf_eq_false_of_lt (by omega), fun _ => hbasic⟩

theorem hasHalf_of_visible {ascii : Bool} {s : String} (h : ∀ c ∈ s.toList, Visible ascii c) :
    Text.hasHalf s = false := by
  rw [Text.hasHalf, List.any_eq_false]
  intro c hc
  rw [(h c hc).whole]
  decide

variable {ascii : Bool} {gap : List Char}

/-! Strings. -/

theorem escapeChar_eq {c : Char} (h : Text.isHalf c = false) :
    (∃ e, escaped? e = some c ∧ e ≠ 'u' ∧ escapeChar ascii c = ['\\', e]) ∨
      (escapeChar ascii c = numberEscape c ∧ Text.codePoint c = c.toNat) ∨
      (escapeChar ascii c = [c] ∧ c ≠ '"' ∧ c ≠ '\\' ∧ 0x20 ≤ c.toNat) := by
  unfold escapeChar
  split
  · next hc =>
    refine .inl ⟨c, ?_, ?_, rfl⟩
    · rcases hc with rfl | rfl <;> rfl
    · rcases hc with rfl | rfl <;> decide
  · next hc =>
    split
    · next hn => exact .inl ⟨'n', hn ▸ rfl, by decide, rfl⟩
    split
    · next hr => exact .inl ⟨'r', hr ▸ rfl, by decide, rfl⟩
    split
    · next ht => exact .inl ⟨'t', ht ▸ rfl, by decide, rfl⟩
    split
    · next hb => exact .inl ⟨'b', hb ▸ rfl, by decide, rfl⟩
    split
    · next hf => exact .inl ⟨'f', hf ▸ rfl, by decide, rfl⟩
    split
    · exact .inr (.inl ⟨rfl, Text.codePoint_eq_toNat h⟩)
    · next hrange =>
      rw [not_or] at hc hrange
      exact .inr (.inr ⟨rfl, hc.1, hc.2, Nat.not_lt.mp hrange.1⟩)

theorem hexUnit?_hexDigits {n : Nat} (hn : n < 0x10000) {r : List Char} (hr : r ≠ []) :
    hexUnit? (Text.hexDigits 4 n ++ r) = some (n, r) := by
  obtain ⟨c, cs, rfl⟩ := List.exists_cons_of_ne_nil hr
  have hread := Text.natOf?_hexDigits hn
  simp only [Text.hexDigits, List.nil_append, List.cons_append] at hread ⊢
  simp only [hexUnit?, hread]
  rfl

theorem charOf_toNat (c : Char) : Text.charOf c.toNat = c := by
  have hvalid : c.toNat < 0xd800 ∨ 0xdfff < c.toNat ∧ c.toNat < 0x110000 := c.valid
  have hhigh : Text.isHighHalf c.toNat = false := by
    simp only [Text.isHighHalf, Bool.and_eq_false_iff, decide_eq_false_iff_not]
    omega
  have hlow : Text.isLowHalf c.toNat = false := by
    simp only [Text.isLowHalf, Bool.and_eq_false_iff, decide_eq_false_iff_not]
    omega
  rw [Text.charOf, hhigh, hlow]
  exact Char.ofNat_toNat c

/-- A character that was written by its number is read back. -/
theorem hexEscape_numberEscape {c : Char} (hcode : Text.codePoint c = c.toNat) {r : List Char}
    (hr : r ≠ []) : ∃ cs, numberEscape c ++ r = '\\' :: 'u' :: cs ∧ hexEscape cs = .ok (c, r) := by
  have hvalid : c.toNat < 0xd800 ∨ 0xdfff < c.toNat ∧ c.toNat < 0x110000 := c.valid
  rw [numberEscape, hcode]
  split
  · next hn =>
    refine ⟨Text.hexDigits 4 c.toNat ++ r, rfl, ?_⟩
    have hhigh : Text.isHighHalf c.toNat = false := by
      simp only [Text.isHighHalf, Bool.and_eq_false_iff, decide_eq_false_iff_not]
      omega
    rw [hexEscape, hexUnit?_hexDigits hn hr]
    dsimp only
    split
    · rw [hhigh, charOf_toNat]
      rfl
    · rw [charOf_toNat]
  · next hn =>
    obtain ⟨high, hhigh⟩ : ∃ m, m = 0xd800 + (c.toNat - 0x10000) / 0x400 := ⟨_, rfl⟩
    obtain ⟨low, hlow⟩ : ∃ m, m = 0xdc00 + (c.toNat - 0x10000) % 0x400 := ⟨_, rfl⟩
    have hsplit : Text.splitHalves c.toNat = (high, low) := by rw [hhigh, hlow, Text.splitHalves]
    have hisHigh : Text.isHighHalf high = true := by
      simp only [Text.isHighHalf, Bool.and_eq_true, decide_eq_true_eq]
      omega
    have hisLow : Text.isLowHalf low = true := by
      simp only [Text.isLowHalf, Bool.and_eq_true, decide_eq_true_eq]
      omega
    have hjoin : Text.joinHalves high low = c := by
      have hnumber : 0x10000 + (high - 0xd800) * 0x400 + (low - 0xdc00) = c.toNat := by omega
      rw [Text.joinHalves, hnumber, Char.ofNat_toNat]
    have hlong : 4 < (Text.hexDigits 4 low ++ r).length := by
      have hpos := List.length_pos_iff.mpr hr
      simp only [Text.hexDigits, List.nil_append, List.cons_append, List.length_cons]
      omega
    refine ⟨Text.hexDigits 4 high ++ ('\\' :: 'u' :: (Text.hexDigits 4 low ++ r)), ?_, ?_⟩
    · rw [hsplit, unitEscape, unitEscape]
      simp
    · rw [hexEscape, hexUnit?_hexDigits (by omega) (List.cons_ne_nil _ _)]
      simp only [hisHigh, hlong, decide_true, Bool.and_self, if_true,
        hexUnit?_hexDigits (n := low) (by omega) hr, hisLow, hjoin]

/-- One character of a string is read back from what was written for it. -/
theorem readChars_escapeChar {c : Char} (h : Text.isHalf c = false) (start : List Char) (n : Nat)
    {r : List Char} (hr : r ≠ []) {cs rest : List Char}
    (hread : readChars start n r = .ok (cs, rest)) :
    readChars start (n + 1) (escapeChar ascii c ++ r) = .ok (c :: cs, rest) := by
  rcases escapeChar_eq h with ⟨e, he, hu, heq⟩ | ⟨heq, hcode⟩ | ⟨heq, hquote, hslash, hrange⟩
  · have hslash : ¬('\\' = '"') := by decide
    rw [heq]
    simp only [List.cons_append, List.nil_append, readChars, if_neg hslash, if_true, he, hread,
      bind, Except.bind]
    rfl
  · obtain ⟨ds, hds, hescape⟩ := hexEscape_numberEscape hcode hr
    have hslash : ¬('\\' = '"') := by decide
    rw [heq, hds]
    simp only [readChars, if_neg hslash, if_true, hescape, bind, Except.bind, hread]
    rfl
  · rw [heq, List.singleton_append]
    simp only [readChars, if_neg hquote, if_neg hslash, if_neg (Nat.not_lt.mpr hrange), hread,
      bind, Except.bind]
    rfl

theorem readChars_escaped (start : List Char) {cs : List Char} (h : ∀ c ∈ cs, Text.isHalf c = false)
    (rest : List Char) {n : Nat} (hn : cs.length < n) :
    readChars start n (cs.flatMap (escapeChar ascii) ++ '"' :: rest) = .ok (cs, rest) := by
  induction cs generalizing n with
  | nil =>
    obtain ⟨m, rfl⟩ := Nat.exists_eq_add_of_le' hn
    rfl
  | cons c cs ih =>
    obtain ⟨m, rfl⟩ : ∃ m, n = m + 1 :=
      Nat.exists_eq_add_of_le' (Nat.lt_of_le_of_lt (Nat.zero_le _) hn)
    rw [List.flatMap_cons, List.append_assoc]
    refine readChars_escapeChar (h c List.mem_cons_self) start m (by simp) ?_
    exact ih (fun d hd => h d (List.mem_cons_of_mem c hd)) (by simpa using hn)

/-- What is written for a character is visible. A half is written by its number if all characters
outside ASCII are. -/
theorem visible_escapeChar {c : Char} (h : ascii = true ∨ Text.isHalf c = false) :
    ∀ d ∈ escapeChar ascii c, Visible ascii d := by
  have hhex : ∀ n, Visible ascii (Text.hexDigit (n % 16)) := by
    intro n
    have hdigits : ∀ m < 16, 0x20 ≤ (Text.hexDigit m).toNat ∧ (Text.hexDigit m).toNat < 0x80 := by
      decide
    obtain ⟨hshown, hbasic⟩ := hdigits _ (Nat.mod_lt n (by decide))
    exact visible_of_ascii hshown hbasic
  have hunit : ∀ n, ∀ d ∈ unitEscape n, Visible ascii d := by
    intro n d hd
    simp only [unitEscape, Text.hexDigits, List.nil_append, List.cons_append, List.mem_cons,
      List.not_mem_nil, or_false] at hd
    rcases hd with rfl | rfl | rfl | rfl | rfl | rfl
    · exact visible_of_ascii (by decide) (by decide)
    · exact visible_of_ascii (by decide) (by decide)
    all_goals exact hhex _
  have hletter : ∀ e : Char, 0x20 ≤ e.toNat → e.toNat < 0x80 →
      ∀ d ∈ ['\\', e], Visible ascii d := by
    intro e hshown hbasic d hd
    simp only [List.mem_cons, List.not_mem_nil, or_false] at hd
    rcases hd with rfl | rfl
    · exact visible_of_ascii (by decide) (by decide)
    · exact visible_of_ascii hshown hbasic
  unfold escapeChar
  split
  · next hc =>
    rcases hc with rfl | rfl
    · exact hletter _ (by decide) (by decide)
    · exact hletter _ (by decide) (by decide)
  iterate 5
    split
    · exact hletter _ (by decide) (by decide)
  split
  · rw [numberEscape]
    split
    · exact hunit _
    · intro d hd
      exact (List.mem_append.mp hd).elim (hunit _ d) (hunit _ d)
  · next hrange =>
    rw [not_or, not_and] at hrange
    intro d hd
    rw [List.mem_singleton.mp hd]
    rcases h with hascii | hwhole
    · have := hrange.2 hascii
      exact visible_of_ascii (by omega) (by omega)
    · exact ⟨by omega, hwhole, fun hascii => by have := hrange.2 hascii; omega⟩

theorem escapeChar_ne_nil (ascii : Bool) (c : Char) : escapeChar ascii c ≠ [] := by
  have hnumber : numberEscape c ≠ [] := by
    rw [numberEscape]
    split <;> simp [unitEscape]
  unfold escapeChar
  split_ifs <;> simp [hnumber]

theorem length_le_escaped (ascii : Bool) (cs : List Char) :
    cs.length ≤ (cs.flatMap (escapeChar ascii)).length := by
  induction cs with
  | nil => exact Nat.le_refl 0
  | cons c cs ih =>
    have hone := List.length_pos_iff.mpr (escapeChar_ne_nil ascii c)
    rw [List.flatMap_cons, List.length_append, List.length_cons]
    omega

theorem isHalf_of_mem {s : String} (h : Text.hasHalf s = false) :
    ∀ c ∈ s.toList, Text.isHalf c = false := by
  intro c hc
  rw [Text.hasHalf, List.any_eq_false] at h
  exact Bool.eq_false_iff.mpr (h c hc)

theorem visible_printString {s : String} (h : ascii = true ∨ Text.hasHalf s = false) :
    ∀ c ∈ (printString ascii s).toList, Visible ascii c := by
  intro c hc
  rw [printString, String.toList_ofList, List.cons_append, List.mem_cons, List.mem_append,
    List.mem_singleton] at hc
  rcases hc with rfl | hc | rfl
  · exact visible_of_ascii (by decide) (by decide)
  · obtain ⟨d, hd, hc⟩ := List.mem_flatMap.mp hc
    exact visible_escapeChar (h.imp id fun hwhole => isHalf_of_mem hwhole d hd) c hc
  · exact visible_of_ascii (by decide) (by decide)

/-- A string is read back. -/
theorem readString_print (ascii : Bool) {s : String} (h : Text.hasHalf s = false)
    (rest : List Char) :
    readString ((printString ascii s).toList ++ rest) = .ok (s, rest) := by
  have htext : (printString ascii s).toList ++ rest =
      '"' :: (s.toList.flatMap (escapeChar ascii) ++ '"' :: rest) := by
    simp [printString]
  have hlong : s.toList.length <
      ('"' :: (s.toList.flatMap (escapeChar ascii) ++ '"' :: rest)).length := by
    have := length_le_escaped ascii s.toList
    simp only [List.length_cons, List.length_append]
    omega
  rw [htext, readString, List.drop_succ_cons, List.drop_zero,
    readChars_escaped _ (isHalf_of_mem h) _ hlong]
  exact congrArg (fun t => Except.ok (t, rest)) String.ofList_toList

/-! Values. -/

/-- What may follow a value: the end of the text, a comma or a closing bracket. -/
def Ends (rest : List Char) : Prop := ∀ c ∈ rest.head?, c = ',' ∨ c = ']' ∨ c = '\x7d'

/-- Whether a value can begin with a character: it belongs to ASCII, is no space and closes no
list. -/
def begins (c : Char) : Bool := !isSpace c && c != ']' && decide (c.toNat < 0x80)

theorem begins_of_isDigit {c : Char} (h : c.isDigit = true) : begins c = true := by
  have hne : ∀ {d : Char}, d.isDigit = false → c ≠ d := by
    rintro d hd rfl
    rw [h] at hd
    cases hd
  have hascii : c.toNat < 0x80 := by
    have := Numeral.isDigit_iff.mp h
    omega
  simp [begins, isSpace, hne (d := ' ') rfl, hne (d := '\t') rfl, hne (d := '\n') rfl,
    hne (d := '\r') rfl, hne (d := ']') rfl, hascii]

/-- Visible characters that stand for a value: they begin like one, and the value is read from
them. -/
structure Reads (ascii : Bool) (cs : List Char) (v : Value) : Prop where
  visible : ∀ c ∈ cs, Visible ascii c
  first : ∃ c, begins c = true ∧ cs.head? = some c
  read : ∀ n rest, cs.length ≤ n → Ends rest → readValue n (cs ++ rest) = .ok (v, rest)

theorem Reads.exists_cons {cs : List Char} {v : Value} (h : Reads ascii cs v) : ∃ c r, cs = c :: r ∧
    isSpace c = false ∧ c ≠ ']' ∧ c.toNat < 0x80 := by
  obtain ⟨c, hc, hhead⟩ := h.first
  cases cs with
  | nil => cases hhead
  | cons d r =>
    cases hhead
    exact ⟨c, r, rfl, by simpa [begins, and_assoc] using hc⟩

theorem skipSpace_cons {c : Char} (hc : isSpace c = false) (r : List Char) :
    skipSpace (c :: r) = c :: r :=
  List.dropWhile_cons_of_neg (by simp [hc])

theorem reads_string {s : String} (h : Text.hasHalf s = false) :
    Reads ascii (printString ascii s).toList (.text s) where
  visible := visible_printString (.inr h)
  first := ⟨'"', by decide, by simp [printString]⟩
  read n rest hn _ := by
    have hread := readString_print ascii h rest
    have htext : (printString ascii s).toList =
        '"' :: (s.toList.flatMap (escapeChar ascii) ++ ['"']) := by simp [printString]
    rw [htext] at hn hread ⊢
    obtain ⟨m, rfl⟩ := Nat.exists_eq_add_of_le' (Nat.lt_of_lt_of_le (Nat.zero_lt_succ _) hn)
    rw [List.cons_append] at hread ⊢
    simp only [readValue, hread]
    rfl

theorem reads_word {w : List Char} {v : Value} (hw : (w, v) ∈ words.take 3) :
    Reads ascii w v := by
  have hcases : w = "null".toList ∧ v = .null ∨ w = "true".toList ∧ v = .bool true ∨
      w = "false".toList ∧ v = .bool false := by
    simpa [words] using hw
  have hall : w.all (fun c => 0x20 ≤ c.toNat ∧ c.toNat < 0x80) = true := by
    rcases hcases with ⟨rfl, -⟩ | ⟨rfl, -⟩ | ⟨rfl, -⟩ <;> decide
  have hvisible : ∀ c ∈ w, Visible ascii c := fun c hc =>
    have hrange := of_decide_eq_true (List.all_eq_true.mp hall c hc)
    visible_of_ascii hrange.1 hrange.2
  rcases hcases with ⟨rfl, rfl⟩ | ⟨rfl, rfl⟩ | ⟨rfl, rfl⟩
  · refine ⟨hvisible, ⟨'n', by decide, rfl⟩, fun n rest hn _ => ?_⟩
    obtain ⟨m, rfl⟩ := Nat.exists_eq_add_of_le' (Nat.lt_of_lt_of_le (Nat.zero_lt_succ _) hn)
    rfl
  · refine ⟨hvisible, ⟨'t', by decide, rfl⟩, fun n rest hn _ => ?_⟩
    obtain ⟨m, rfl⟩ := Nat.exists_eq_add_of_le' (Nat.lt_of_lt_of_le (Nat.zero_lt_succ _) hn)
    rfl
  · refine ⟨hvisible, ⟨'f', by decide, rfl⟩, fun n rest hn _ => ?_⟩
    obtain ⟨m, rfl⟩ := Nat.exists_eq_add_of_le' (Nat.lt_of_lt_of_le (Nat.zero_lt_succ _) hn)
    rfl

/-- The decimal digits of a number. -/
def digitsOf (n : Nat) : List Char := Nat.toDigits 10 n

theorem visible_digits (n : Nat) : ∀ c ∈ digitsOf n, Visible ascii c := by
  intro c hc
  have := Numeral.isDigit_iff.mp (Numeral.isDigit_of_mem_toDigits c hc)
  exact visible_of_ascii (by omega) (by omega)

theorem wholeDigits?_digits (n : Nat) {rest : List Char} (hrest : Ends rest) :
    wholeDigits? (digitsOf n ++ rest) = some (digitsOf n, rest) := by
  have hstop : ∀ c ∈ rest.head?, c.isDigit = false := by
    intro c hc
    rcases hrest c hc with rfl | rfl | rfl <;> rfl
  have hall : ∀ d ∈ digitsOf n, d.isDigit = true := Numeral.isDigit_of_mem_toDigits
  have htake : rest.takeWhile Char.isDigit = [] ∧ rest.dropWhile Char.isDigit = rest := by
    cases rest with
    | nil => exact ⟨rfl, rfl⟩
    | cons c r =>
      have hc : ¬c.isDigit = true := by simp [hstop c rfl]
      exact ⟨List.takeWhile_cons_of_neg hc, List.dropWhile_cons_of_neg hc⟩
  obtain ⟨d, ds, hds, hzero⟩ := Numeral.toDigits_head n
  rw [digitsOf, hds] at hall ⊢
  rw [List.cons_append]
  by_cases hd : d = '0'
  · rw [hd, hzero hd]
    rfl
  · have htail : ∀ e ∈ ds, e.isDigit = true := fun e he => hall e (List.mem_cons_of_mem d he)
    simp only [wholeDigits?, hall d List.mem_cons_self, if_true,
      List.takeWhile_append_of_pos htail, List.dropWhile_append_of_pos htail, htake,
      List.append_nil]

theorem readNumber_digits {n : Nat} (hn : (digitsOf n).length ≤ Numeral.maxDigits)
    {rest : List Char} (hrest : Ends rest) :
    readNumber (digitsOf n ++ rest) = .ok (.int n, rest) ∧
      readNumber ('-' :: (digitsOf n ++ rest)) = .ok (.int (-n), rest) := by
  have hwhole := wholeDigits?_digits n hrest
  have hvalue : Numeral.natOf? 10 (digitsOf n) = some n := Numeral.natOf?_toDigits n
  have hfraction : fractionDigits rest = ([], rest) := by
    cases rest with
    | nil => rfl
    | cons c r => rcases hrest c rfl with rfl | rfl | rfl <;> rfl
  have hexponent : exponentPart rest = (none, rest) := by
    cases rest with
    | nil => rfl
    | cons c r => rcases hrest c rfl with rfl | rfl | rfl <;> rfl
  have hsign : ((digitsOf n ++ rest).head? == some '-') = false := by
    obtain ⟨d, ds, hds, -⟩ := Numeral.toDigits_head n
    have hd : d.isDigit = true := Numeral.isDigit_of_mem_toDigits (n := n) d (by simp [hds])
    rw [digitsOf, hds]
    refine beq_eq_false_iff_ne.mpr fun heq => ?_
    rw [Option.some.inj heq] at hd
    cases hd
  constructor
  · simp only [readNumber, hsign, Bool.false_eq_true, if_false, hwhole, hfraction, hexponent,
      List.isEmpty_nil, Option.isNone_none, Bool.and_self, if_true, if_neg (Nat.not_lt.mpr hn),
      hvalue, Option.getD_some, pure, Except.pure]
  · simp only [readNumber, List.head?_cons, BEq.rfl, if_true, List.drop_succ_cons, List.drop_zero,
      hwhole, hfraction, hexponent, List.isEmpty_nil, Option.isNone_none, Bool.and_self,
      if_neg (Nat.not_lt.mpr hn), hvalue, Option.getD_some, pure, Except.pure]

/-- A text that begins with a digit, or with a digit after a minus, is read as a number. -/
theorem readValue_number {d : Char} (hd : d.isDigit = true) (m : Nat) (r : List Char) :
    readValue (m + 1) (d :: r) = readNumber (d :: r) ∧
      readValue (m + 1) ('-' :: d :: r) = readNumber ('-' :: d :: r) := by
  have hne : ∀ {c : Char}, c.isDigit = false → (c == d) = false := by
    intro c hc
    refine beq_eq_false_iff_ne.mpr fun heq => ?_
    rw [heq, hd] at hc
    cases hc
  have hword : word? (d :: r) = none ∧ word? ('-' :: d :: r) = none := by
    simp [word?, words, List.find?, List.isPrefixOf, hne (c := 'n') rfl, hne (c := 't') rfl,
      hne (c := 'f') rfl, hne (c := 'N') rfl, hne (c := 'I') rfl, hne (c := '-') rfl]
  constructor
  · rw [readValue, hword.1]
    all_goals
      intro _ heq
      cases heq
      cases hd
  · rw [readValue, hword.2]
    all_goals
      intro _ heq
      cases heq

theorem reads_int {n : Int} (hn : (digitsOf n.natAbs).length ≤ Numeral.maxDigits) :
    Reads ascii (toString n).toList (.int n) := by
  obtain ⟨d, ds, hds, -⟩ := Numeral.toDigits_head n.natAbs
  have hd : d.isDigit = true :=
    Numeral.isDigit_of_mem_toDigits (n := n.natAbs) d (by simp [hds])
  rw [← digitsOf] at hds
  cases n with
  | ofNat n =>
    have hdigits : digitsOf n = d :: ds := hds
    have htext : (toString (Int.ofNat n)).toList = digitsOf n := Nat.toList_repr
    rw [htext]
    refine ⟨visible_digits n, ⟨d, begins_of_isDigit hd, by rw [hdigits]; rfl⟩,
      fun m rest hm hrest => ?_⟩
    have hread := (readNumber_digits hn hrest).1
    rw [hdigits] at hm
    obtain ⟨k, rfl⟩ := Nat.exists_eq_add_of_le' (Nat.lt_of_lt_of_le (Nat.zero_lt_succ _) hm)
    have hvalue := (readValue_number hd k (ds ++ rest)).1
    rw [← List.cons_append, ← hdigits] at hvalue
    exact hvalue.trans hread
  | negSucc n =>
    have hdigits : digitsOf (n + 1) = d :: ds := hds
    have htext : (toString (Int.negSucc n)).toList = '-' :: digitsOf (n + 1) := by
      have hrepr : toString (Int.negSucc n) = "-" ++ (n + 1).repr := rfl
      rw [hrepr, String.toList_append, Nat.toList_repr]
      rfl
    rw [htext]
    have hvisible : ∀ c ∈ '-' :: digitsOf (n + 1), Visible ascii c := by
      intro c hc
      rcases List.mem_cons.mp hc with rfl | hc
      · exact visible_of_ascii (by decide) (by decide)
      · exact visible_digits (n + 1) c hc
    refine ⟨hvisible, ⟨'-', by decide, rfl⟩, fun m rest hm hrest => ?_⟩
    have hread := (readNumber_digits hn hrest).2
    obtain ⟨k, rfl⟩ := Nat.exists_eq_add_of_le' (Nat.lt_of_lt_of_le (Nat.zero_lt_succ _) hm)
    have hvalue := (readValue_number hd k (ds ++ rest)).2
    rw [← List.cons_append, ← hdigits] at hvalue
    exact hvalue.trans hread

/-! Lists and objects. -/

/-- Items with what separates them. -/
def joined (gap : List Char) (css : List (List Char)) : List Char := (',' :: gap).intercalate css

theorem joined_cons_cons (cs cs' : List Char) (css : List (List Char)) :
    joined gap (cs :: cs' :: css) = cs ++ ',' :: (gap ++ joined gap (cs' :: css)) := by
  rw [joined, List.intercalate_cons_cons, List.append_assoc]
  rfl

theorem joined_singleton (cs : List Char) : joined gap [cs] = cs := List.intercalate_singleton

theorem exists_joined_eq (gap : List Char) (c : Char) (r : List Char) (css : List (List Char)) :
    ∃ tail, joined gap ((c :: r) :: css) = c :: tail := by
  cases css with
  | nil => exact ⟨r, joined_singleton _⟩
  | cons cs css => exact ⟨r ++ ',' :: (gap ++ joined gap (cs :: css)), joined_cons_cons _ _ _⟩

theorem ends_comma (r : List Char) : Ends (',' :: r) := fun _ hc => .inl (Option.some.inj hc).symm

theorem ends_bracket (r : List Char) : Ends (']' :: r) :=
  fun _ hc => .inr (.inl (Option.some.inj hc).symm)

theorem ends_brace (r : List Char) : Ends ('\x7d' :: r) :=
  fun _ hc => .inr (.inr (Option.some.inj hc).symm)

section

variable (hgap : ∀ c ∈ gap, c = ' ')

include hgap

theorem visible_gap : ∀ c ∈ gap, Visible ascii c := by
  intro c hc
  rw [hgap c hc]
  exact visible_of_ascii (by decide) (by decide)

theorem skipSpace_gap {c : Char} (hc : isSpace c = false) (r : List Char) :
    skipSpace (gap ++ c :: r) = c :: r := by
  rw [skipSpace, List.dropWhile_append_of_pos fun d hd => by rw [hgap d hd]; rfl]
  exact skipSpace_cons hc r

theorem visible_joined {css : List (List Char)} (h : ∀ cs ∈ css, ∀ c ∈ cs, Visible ascii c) :
    ∀ c ∈ joined gap css, Visible ascii c := by
  induction css with
  | nil => exact fun c hc => absurd hc List.not_mem_nil
  | cons cs css ih =>
    have hcs := h cs List.mem_cons_self
    have hcss := ih fun ds hds => h ds (List.mem_cons_of_mem cs hds)
    cases css with
    | nil =>
      rw [joined_singleton]
      exact hcs
    | cons cs' css =>
      rw [joined_cons_cons]
      intro c hc
      simp only [List.mem_append, List.mem_cons] at hc
      rcases hc with hc | rfl | hc | hc
      · exact hcs c hc
      · exact visible_of_ascii (by decide) (by decide)
      · exact visible_gap hgap c hc
      · exact hcss c hc

theorem visible_bracketed {left right : Char} (hleft : Visible ascii left)
    (hright : Visible ascii right) {css : List (List Char)}
    (h : ∀ cs ∈ css, ∀ c ∈ cs, Visible ascii c) :
    ∀ c ∈ left :: (joined gap css ++ [right]), Visible ascii c := by
  intro c hc
  simp only [List.mem_cons, List.mem_append, List.not_mem_nil, or_false] at hc
  rcases hc with rfl | hc | rfl
  · exact hleft
  · exact visible_joined hgap h c hc
  · exact hright

theorem readItems_joined {css : List (List Char)} {xs : List Value}
    (h : List.Forall₂ (Reads ascii) css xs) (hne : css ≠ []) (n : Nat) (rest : List Char)
    (hn : (joined gap css).length < n) :
    readItems n (joined gap css ++ ']' :: rest) = .ok (xs, rest) := by
  induction h generalizing n with
  | nil => exact absurd rfl hne
  | @cons cs x css xs hx hxs ih =>
    obtain ⟨m, rfl⟩ := Nat.exists_eq_add_of_le' (Nat.lt_of_le_of_lt (Nat.zero_le _) hn)
    cases hxs with
    | nil =>
      rw [joined_singleton] at hn ⊢
      have hread := hx.read m (']' :: rest) (Nat.lt_succ_iff.mp hn) (ends_bracket rest)
      simp only [readItems, hread, bind, Except.bind, skipSpace_cons (c := ']') rfl, pure,
        Except.pure]
    | @cons cs' y css ys hy hys =>
      rw [joined_cons_cons] at hn ⊢
      rw [List.length_append, List.length_cons, List.length_append] at hn
      obtain ⟨c, r, hcs, hspace, -⟩ := hy.exists_cons
      obtain ⟨tail, htail⟩ := exists_joined_eq gap c r css
      rw [← hcs] at htail
      have hrest := ih (List.cons_ne_nil _ _) m (by omega)
      have hread := hx.read m (',' :: (gap ++ joined gap (cs' :: css) ++ ']' :: rest)) (by omega)
        (ends_comma _)
      have hskip : skipSpace (gap ++ joined gap (cs' :: css) ++ ']' :: rest) =
          joined gap (cs' :: css) ++ ']' :: rest := by
        rw [htail, List.append_assoc]
        exact skipSpace_gap hgap hspace _
      rw [List.append_assoc, List.cons_append]
      simp only [readItems, hread, bind, Except.bind, skipSpace_cons (c := ',') rfl, hskip, hrest,
        pure, Except.pure]

end

/-- Characters that stand for a member of an object. -/
inductive ReadsMember (ascii : Bool) (gap : List Char) : List Char → String × Value → Prop
  | mk {e : String × Value} {vs : List Char} : Text.hasHalf e.1 = false → Reads ascii vs e.2 →
      ReadsMember ascii gap ((printString ascii e.1).toList ++ ':' :: (gap ++ vs)) e

theorem ReadsMember.exists_cons {cs : List Char} {e : String × Value}
    (h : ReadsMember ascii gap cs e) : ∃ r, cs = '"' :: r := by
  cases h with
  | @mk _ vs _ _ =>
    exact ⟨e.1.toList.flatMap (escapeChar ascii) ++ ['"'] ++ ':' :: (gap ++ vs),
      by simp [printString]⟩

section

variable (hgap : ∀ c ∈ gap, c = ' ')

include hgap

theorem ReadsMember.visible {cs : List Char} {e : String × Value}
    (h : ReadsMember ascii gap cs e) : ∀ c ∈ cs, Visible ascii c := by
  cases h with
  | mk hkey hvs =>
    intro c hc
    simp only [List.mem_append, List.mem_cons] at hc
    rcases hc with hc | rfl | hc | hc
    · exact visible_printString (.inr hkey) c hc
    · exact visible_of_ascii (by decide) (by decide)
    · exact visible_gap hgap c hc
    · exact hvs.visible c hc

/-- The key and the value of a member are read up to what follows. -/
theorem ReadsMember.read {cs : List Char} {e : String × Value} (h : ReadsMember ascii gap cs e)
    {n : Nat} {rest : List Char} (hn : cs.length ≤ n) (hrest : Ends rest) :
    ∃ vs, readString (cs ++ rest) = .ok (e.1, ':' :: (gap ++ vs ++ rest)) ∧
      skipSpace (gap ++ vs ++ rest) = vs ++ rest ∧
      readValue n (vs ++ rest) = .ok (e.2, rest) := by
  cases h with
  | @mk _ vs hkey hvs =>
    obtain ⟨c, r, hcs, hspace, -⟩ := hvs.exists_cons
    rw [List.length_append, List.length_cons, List.length_append] at hn
    refine ⟨vs, ?_, ?_, hvs.read n rest (by omega) hrest⟩
    · rw [List.append_assoc]
      exact readString_print ascii hkey _
    · rw [hcs, List.append_assoc]
      exact skipSpace_gap hgap hspace _

theorem readMembers_joined {css : List (List Char)} {es : List (String × Value)}
    (h : List.Forall₂ (ReadsMember ascii gap) css es) (hne : css ≠ []) (n : Nat)
    (rest : List Char) (hn : (joined gap css).length < n) :
    readMembers n (joined gap css ++ '\x7d' :: rest) = .ok (es, rest) := by
  induction h generalizing n with
  | nil => exact absurd rfl hne
  | @cons cs e css es he hes ih =>
    obtain ⟨m, rfl⟩ := Nat.exists_eq_add_of_le' (Nat.lt_of_le_of_lt (Nat.zero_le _) hn)
    obtain ⟨q, hquote⟩ := he.exists_cons
    have hhead : ∀ r : List Char, ((cs ++ r).head? != some '"') = false := by
      intro r
      rw [hquote]
      rfl
    cases hes with
    | nil =>
      rw [joined_singleton] at hn ⊢
      obtain ⟨vs, hkey, hskip, hvalue⟩ := he.read hgap (Nat.lt_succ_iff.mp hn) (ends_brace rest)
      simp only [readMembers, hhead, hkey, hskip, hvalue, bind, Except.bind,
        skipSpace_cons (c := ':') rfl, skipSpace_cons (c := '\x7d') rfl, pure, Except.pure,
        Bool.false_eq_true, if_false]
    | @cons cs' f css fs hf hfs =>
      rw [joined_cons_cons] at hn ⊢
      rw [List.length_append, List.length_cons, List.length_append] at hn
      obtain ⟨r, hcs⟩ := hf.exists_cons
      obtain ⟨tail, htail⟩ := exists_joined_eq gap '"' r css
      rw [← hcs] at htail
      have hrest := ih (List.cons_ne_nil _ _) m (by omega)
      obtain ⟨vs, hkey, hskip, hvalue⟩ := he.read hgap (n := m) (by omega)
        (ends_comma (gap ++ joined gap (cs' :: css) ++ '\x7d' :: rest))
      have hskip' : skipSpace (gap ++ joined gap (cs' :: css) ++ '\x7d' :: rest) =
          joined gap (cs' :: css) ++ '\x7d' :: rest := by
        rw [htail, List.append_assoc]
        exact skipSpace_gap hgap (c := '"') rfl _
      rw [List.append_assoc, List.cons_append]
      simp only [readMembers, hhead, hkey, hskip, hvalue, hskip', hrest, bind, Except.bind,
        skipSpace_cons (c := ':') rfl, skipSpace_cons (c := ',') rfl, pure, Except.pure,
        Bool.false_eq_true, if_false]

theorem reads_list {css : List (List Char)} {xs : List Value}
    (h : List.Forall₂ (Reads ascii) css xs) :
    Reads ascii ('[' :: (joined gap css ++ [']'])) (.list xs) := by
  have hitems : ∀ cs ∈ css, ∀ c ∈ cs, Visible ascii c :=
    ((List.forall₂_and_left css xs).mp (h.imp fun _ _ hx => ⟨hx.visible, hx⟩)).1
  refine ⟨visible_bracketed hgap (visible_of_ascii (by decide) (by decide))
    (visible_of_ascii (by decide) (by decide)) hitems, ⟨'[', by decide, rfl⟩,
    fun n rest hn _ => ?_⟩
  obtain ⟨m, rfl⟩ := Nat.exists_eq_add_of_le' (Nat.lt_of_lt_of_le (Nat.zero_lt_succ _) hn)
  rw [List.cons_append, List.append_assoc, List.singleton_append]
  cases h with
  | nil => rfl
  | @cons cs x css xs hx hxs =>
    obtain ⟨c, r, hcs, hspace, hclose, -⟩ := hx.exists_cons
    obtain ⟨tail, htail⟩ := exists_joined_eq gap c r css
    rw [← hcs] at htail
    simp only [List.length_cons, List.length_append, List.length_nil] at hn
    have hitems := readItems_joined hgap (.cons hx hxs) (List.cons_ne_nil _ _) m rest (by omega)
    rw [htail, List.cons_append] at hitems ⊢
    simp only [readValue, skipSpace_cons hspace]
    split
    · next heq => exact absurd (List.cons.inj heq).1 hclose
    · simp only [hitems]
      rfl

theorem reads_object {css : List (List Char)} {es : List (String × Value)}
    (h : List.Forall₂ (ReadsMember ascii gap) css es) (hkeys : (Entries.keys es).Nodup) :
    Reads ascii ('\x7b' :: (joined gap css ++ ['\x7d'])) (.object es) := by
  have hmembers : ∀ cs ∈ css, ∀ c ∈ cs, Visible ascii c :=
    ((List.forall₂_and_left css es).mp (h.imp fun _ _ he => ⟨he.visible hgap, he⟩)).1
  refine ⟨visible_bracketed hgap (visible_of_ascii (by decide) (by decide))
    (visible_of_ascii (by decide) (by decide)) hmembers, ⟨'\x7b', by decide, rfl⟩,
    fun n rest hn _ => ?_⟩
  obtain ⟨m, rfl⟩ := Nat.exists_eq_add_of_le' (Nat.lt_of_lt_of_le (Nat.zero_lt_succ _) hn)
  rw [List.cons_append, List.append_assoc, List.singleton_append]
  cases h with
  | nil => rfl
  | @cons cs e css es he hes =>
    obtain ⟨r, hcs⟩ := he.exists_cons
    obtain ⟨tail, htail⟩ := exists_joined_eq gap '"' r css
    rw [← hcs] at htail
    simp only [List.length_cons, List.length_append, List.length_nil] at hn
    have hmembers := readMembers_joined hgap (.cons he hes) (List.cons_ne_nil _ _) m rest (by omega)
    rw [htail, List.cons_append] at hmembers ⊢
    simp only [readValue, skipSpace_cons (c := '"') rfl]
    split
    · next heq => cases heq
    · simp only [hmembers, bind, Except.bind, pure, Except.pure, Entries.ofPairs_eq_self hkeys]

end

/-! Printing. -/

/-- Values that stored text keeps exactly: what a JSON text can stand for, without doubles and
without halves of surrogate pairs. -/
inductive Exact : Value → Prop
  | null : Exact .null
  | bool (b : Bool) : Exact (.bool b)
  | int {n : Int} : (digitsOf n.natAbs).length ≤ Numeral.maxDigits → Exact (.int n)
  | text {s : String} : Text.hasHalf s = false → Exact (.text s)
  | list {xs : List Value} : (∀ x ∈ xs, Exact x) → Exact (.list xs)
  | object {es : Entries} : es.keys.Nodup → (∀ e ∈ es, Text.hasHalf e.1 = false) →
      (∀ e ∈ es, Exact e.2) → Exact (.object es)

/-- Styles that write on one line, with the same space after a comma as after a colon. -/
structure Style.OnOneLine (style : Style) (gap : List Char) : Prop where
  indent : style.indent = none
  items : style.itemSeparator.toList = ',' :: gap
  keys : style.keySeparator.toList = ':' :: gap
  space : ∀ c ∈ gap, c = ' '

variable {style : Style}

theorem printItems_exact {depth : Nat} {xs : List Value}
    (h : ∀ x ∈ xs, ∃ s, printAt style depth x = .ok s ∧ Reads style.ascii s.toList x) :
    ∃ ss, printItems style depth xs = .ok ss ∧
      List.Forall₂ (Reads style.ascii) (ss.map String.toList) xs := by
  induction xs with
  | nil => exact ⟨[], rfl, .nil⟩
  | cons x xs ih =>
    obtain ⟨s, hs, hread⟩ := h x List.mem_cons_self
    obtain ⟨ss, hss, hreads⟩ := ih fun y hy => h y (List.mem_cons_of_mem x hy)
    refine ⟨s :: ss, ?_, .cons hread hreads⟩
    simp only [printItems, hs, hss, bind, Except.bind, pure, Except.pure]

section

variable (hstyle : style.OnOneLine gap)

include hstyle

theorem toList_bracketed (depth : Nat) (left right : Char) (items : List String) :
    (style.bracketed depth (String.ofList [left]) (String.ofList [right]) items).toList =
      left :: (joined gap (items.map String.toList) ++ [right]) := by
  have hnewline : ∀ depth, style.newline depth = "" := fun depth => by
    rw [Style.newline, hstyle.indent]
  cases items with
  | nil => simp [Style.bracketed, joined]
  | cons s ss =>
    simp [Style.bracketed, hnewline, joined, hstyle.items, String.toList_intercalate]

theorem printMembers_exact {depth : Nat} {es : List (String × Value)}
    (hkeys : ∀ e ∈ es, Text.hasHalf e.1 = false)
    (h : ∀ e ∈ es, ∃ s, printAt style depth e.2 = .ok s ∧ Reads style.ascii s.toList e.2) :
    ∃ ss, printMembers style depth es = .ok ss ∧
      List.Forall₂ (ReadsMember style.ascii gap) (ss.map String.toList) es := by
  induction es with
  | nil => exact ⟨[], rfl, .nil⟩
  | cons e es ih =>
    obtain ⟨s, hs, hread⟩ := h e List.mem_cons_self
    obtain ⟨ss, hss, hreads⟩ := ih (fun f hf => hkeys f (List.mem_cons_of_mem e hf))
      fun f hf => h f (List.mem_cons_of_mem e hf)
    have hmember : ReadsMember style.ascii gap
        (printString style.ascii e.1 ++ style.keySeparator ++ s).toList e := by
      have htext : (printString style.ascii e.1 ++ style.keySeparator ++ s).toList =
          (printString style.ascii e.1).toList ++ ':' :: (gap ++ s.toList) := by
        simp [hstyle.keys]
      rw [htext]
      exact .mk (hkeys e List.mem_cons_self) hread
    refine ⟨(printString style.ascii e.1 ++ style.keySeparator ++ s) :: ss, ?_,
      .cons hmember hreads⟩
    simp only [printMembers, hs, hss, bind, Except.bind, pure, Except.pure]

/-- What is written for a value reads as the value. -/
theorem printAt_exact {v : Value} (h : Exact v) (depth : Nat) :
    ∃ s, printAt style depth v = .ok s ∧ Reads style.ascii s.toList v := by
  induction h generalizing depth with
  | null => exact ⟨"null", rfl, reads_word (by simp [words])⟩
  | bool b =>
    cases b with
    | true => exact ⟨"true", rfl, reads_word (by simp [words])⟩
    | false => exact ⟨"false", rfl, reads_word (by simp [words])⟩
  | int hn => exact ⟨_, rfl, reads_int hn⟩
  | text hs => exact ⟨_, rfl, reads_string hs⟩
  | list hxs ih =>
    obtain ⟨ss, hss, hreads⟩ := printItems_exact fun x hx => ih x hx (depth + 1)
    refine ⟨style.bracketed depth "[" "]" ss, ?_, ?_⟩
    · simp only [printAt, hss, bind, Except.bind, pure, Except.pure]
    · have htext := toList_bracketed hstyle depth '[' ']' ss
      exact htext ▸ reads_list hstyle.space hreads
  | object hkeys hhalves hes ih =>
    obtain ⟨ss, hss, hreads⟩ := printMembers_exact hstyle hhalves fun e he => ih e he (depth + 1)
    refine ⟨style.bracketed depth "\x7b" "\x7d" ss, ?_, ?_⟩
    · simp only [printAt, hss, bind, Except.bind, pure, Except.pure]
    · have htext := toList_bracketed hstyle depth '\x7b' '\x7d' ss
      exact htext ▸ reads_object hstyle.space hreads hkeys

end

theorem parse?_of_reads {s : String} {v : Value} (h : Reads ascii s.toList v) :
    parse? s = some v := by
  obtain ⟨c, r, hcs, hspace, -, hascii⟩ := h.exists_cons
  have hread := h.read (s.toList.length + 1) [] (Nat.le_succ _) (fun _ hc => by cases hc)
  have hhead : (s.toList.head? == some '\ufeff') = false := by
    rw [hcs]
    refine beq_eq_false_iff_ne.mpr fun heq => ?_
    rw [Option.some.inj heq] at hascii
    exact absurd hascii (by decide)
  have hskip : skipSpace s.toList = s.toList := by
    rw [hcs]
    exact skipSpace_cons hspace r
  rw [List.append_nil] at hread
  simp only [parse?, read, hhead, Bool.false_eq_true, if_false, hskip, hread, bind, Except.bind]
  rfl

/-- What is written for a value on one line is visible and is read back as the value. -/
theorem print_onOneLine (hstyle : style.OnOneLine gap) {v : Value}
    (h : Exact v) : ∃ s, print style v = .ok s ∧ Reads style.ascii s.toList v ∧
      parse? s = some v := by
  obtain ⟨s, hs, hread⟩ := printAt_exact hstyle h 0
  exact ⟨s, hs, hread, parse?_of_reads hread⟩

theorem onOneLine_stored : stored.OnOneLine [' '] := ⟨rfl, rfl, rfl, by simp⟩

theorem onOneLine_tolerant : tolerant.OnOneLine [' '] := ⟨rfl, rfl, rfl, by simp⟩

/-- What is stored for a value is read back as the value. -/
theorem print_stored {v : Value} (h : Exact v) :
    ∃ s, print stored v = .ok s ∧ Text.hasHalf s = false ∧ parse? s = some v := by
  obtain ⟨s, hs, hread, hparse⟩ := print_onOneLine onOneLine_stored h
  exact ⟨s, hs, hasHalf_of_visible hread.visible, hparse⟩

/-! What can be read. -/

/-- Values without doubles and without halves of surrogate pairs. -/
inductive Plain : Value → Prop
  | null : Plain .null
  | bool (b : Bool) : Plain (.bool b)
  | int (n : Int) : Plain (.int n)
  | text {s : String} : Text.hasHalf s = false → Plain (.text s)
  | list {xs : List Value} : (∀ x ∈ xs, Plain x) → Plain (.list xs)
  | object {es : Entries} : (∀ e ∈ es, Text.hasHalf e.1 = false) → (∀ e ∈ es, Plain e.2) →
      Plain (.object es)

theorem Exact.plain {v : Value} (h : Exact v) : Plain v := by
  induction h with
  | null => exact .null
  | bool b => exact .bool b
  | int _ => exact .int _
  | text hs => exact .text hs
  | list _ ih => exact .list ih
  | object _ hkeys _ ih => exact .object hkeys ih

theorem wholeDigits?_eq_some {cs ds r : List Char} (h : wholeDigits? cs = some (ds, r)) :
    ds ≠ [] ∧ ∀ d ∈ ds, d.isDigit = true := by
  unfold wholeDigits? at h
  split at h
  · cases h
    exact ⟨List.cons_ne_nil _ _, List.forall_mem_singleton.mpr (by decide)⟩
  · next c cs' _ =>
    split at h
    · next hc =>
      cases h
      refine ⟨List.cons_ne_nil _ _, fun d hd => ?_⟩
      rcases List.mem_cons.mp hd with rfl | hd
      · exact hc
      · exact List.mem_takeWhile_imp hd
    · cases h
  · cases h

/-- A number is read with no more digits than may be written. -/
theorem exact_of_readNumber {cs r : List Char} {v : Value} (h : readNumber cs = .ok (v, r))
    (hplain : Plain v) : Exact v := by
  rw [readNumber] at h
  split at h
  · cases h
  · next ds rest hwhole =>
    obtain ⟨hne, hdigits⟩ := wholeDigits?_eq_some hwhole
    dsimp only at h
    split at h
    · split at h
      · cases h
      · next hmax =>
        cases h
        have hlength : (digitsOf (Numeral.decimal ds)).length ≤ ds.length :=
          (Nat.length_toDigits_le_iff (by decide) (List.length_pos_iff.mpr hne)).mpr
            (Numeral.decimal_lt hdigits)
        rw [Numeral.natOf?_eq_decimal hne hdigits, Option.getD_some]
        refine .int (Nat.le_trans ?_ (Nat.not_lt.mp hmax))
        split
        · rwa [Int.natAbs_neg]
        · exact hlength
    · cases h
      cases hplain

theorem exact_of_word {cs r : List Char} {v : Value} (h : word? cs = some (v, r))
    (hplain : Plain v) : Exact v := by
  obtain ⟨⟨w, v'⟩, hfind, heq⟩ := Option.map_eq_some_iff.mp h
  have hmem := List.mem_of_find?_eq_some hfind
  cases heq
  simp only [words, List.mem_cons, List.not_mem_nil, or_false, Prod.mk.injEq] at hmem
  rcases hmem with ⟨-, rfl⟩ | ⟨-, rfl⟩ | ⟨-, rfl⟩ | ⟨-, rfl⟩ | ⟨-, rfl⟩ | ⟨-, rfl⟩
  · exact .null
  · exact .bool true
  · exact .bool false
  all_goals cases hplain

section

variable {n : Nat} {cs r : List Char}
  (hvalue : ∀ cs v r, readValue n cs = .ok (v, r) → Plain v → Exact v)
  (hitems : ∀ cs xs r, readItems n cs = .ok (xs, r) → ∀ x ∈ xs, Plain x → Exact x)
  (hmembers : ∀ cs es r, readMembers n cs = .ok (es, r) → ∀ e ∈ es, Plain e.2 → Exact e.2)

include hitems hmembers in
theorem exact_of_readValue {v : Value} (h : readValue (n + 1) cs = .ok (v, r))
    (hplain : Plain v) : Exact v := by
  unfold readValue at h
  split at h
  · obtain ⟨⟨s, r'⟩, -, h⟩ := exists_of_bind_eq_ok h
    cases h
    cases hplain with
    | text hs => exact .text hs
  · split at h
    · cases h
      exact .list fun x hx => absurd hx List.not_mem_nil
    · obtain ⟨⟨xs, r'⟩, hxs, h⟩ := exists_of_bind_eq_ok h
      cases h
      cases hplain with
      | list hall => exact .list fun x hx => hitems _ _ _ hxs x hx (hall x hx)
  · split at h
    · cases h
      exact .object List.nodup_nil (fun e he => absurd he List.not_mem_nil)
        fun e he => absurd he List.not_mem_nil
    · obtain ⟨⟨es, r'⟩, hes, h⟩ := exists_of_bind_eq_ok h
      cases h
      cases hplain with
      | object hkeys hall =>
        exact .object (Entries.nodup_keys_ofPairs es) hkeys fun e he =>
          hmembers _ _ _ hes e (Entries.mem_of_mem_ofPairs he) (hall e he)
  · split at h
    · next hword =>
      cases h
      exact exact_of_word hword hplain
    · exact exact_of_readNumber h hplain

include hvalue hitems in
theorem exact_of_readItems {xs : List Value} (h : readItems (n + 1) cs = .ok (xs, r)) :
    ∀ x ∈ xs, Plain x → Exact x := by
  rw [readItems] at h
  obtain ⟨⟨x, r'⟩, hx, h⟩ := exists_of_bind_eq_ok h
  dsimp only at h
  split at h
  · cases h
    intro y hy hplain
    rw [List.mem_singleton.mp hy] at hplain ⊢
    exact hvalue _ _ _ hx hplain
  · obtain ⟨⟨ys, r''⟩, hys, h⟩ := exists_of_bind_eq_ok h
    cases h
    intro y hy hplain
    rcases List.mem_cons.mp hy with rfl | hy
    · exact hvalue _ _ _ hx hplain
    · exact hitems _ _ _ hys y hy hplain
  · cases h

include hvalue hmembers in
theorem exact_of_readMembers {es : List (String × Value)}
    (h : readMembers (n + 1) cs = .ok (es, r)) : ∀ e ∈ es, Plain e.2 → Exact e.2 := by
  rw [readMembers] at h
  split at h
  · cases h
  · obtain ⟨⟨k, r'⟩, -, h⟩ := exists_of_bind_eq_ok h
    dsimp only at h
    split at h
    · obtain ⟨⟨v, r''⟩, hv, h⟩ := exists_of_bind_eq_ok h
      dsimp only at h
      split at h
      · cases h
        intro e he hplain
        rw [List.mem_singleton.mp he] at hplain ⊢
        exact hvalue _ _ _ hv hplain
      · obtain ⟨⟨fs, rest⟩, hfs, h⟩ := exists_of_bind_eq_ok h
        cases h
        intro e he hplain
        rcases List.mem_cons.mp he with rfl | he
        · exact hvalue _ _ _ hv hplain
        · exact hmembers _ _ _ hfs e he hplain
      · cases h
    · cases h

end

/-- Whatever is read is exact, as far as it is plain. -/
theorem exact_of_read (n : Nat) :
    (∀ cs v r, readValue n cs = .ok (v, r) → Plain v → Exact v) ∧
      (∀ cs xs r, readItems n cs = .ok (xs, r) → ∀ x ∈ xs, Plain x → Exact x) ∧
      ∀ cs es r, readMembers n cs = .ok (es, r) → ∀ e ∈ es, Plain e.2 → Exact e.2 := by
  induction n with
  | zero =>
    refine ⟨fun cs v r h => ?_, fun cs xs r h => ?_, fun cs es r h => ?_⟩
    · cases h
    · cases h
    · cases h
  | succ n ih =>
    obtain ⟨hvalue, hitems, hmembers⟩ := ih
    exact ⟨fun _ _ _ h hplain => exact_of_readValue hitems hmembers h hplain,
      fun _ _ _ h => exact_of_readItems hvalue hitems h,
      fun _ _ _ h => exact_of_readMembers hvalue hmembers h⟩

/-- What is read from a text is exact, as far as it is plain. -/
theorem exact_of_parse {s : String} {v : Value} (h : parse? s = some v) (hplain : Plain v) :
    Exact v := by
  cases hread : read s.toList with
  | error e =>
    rw [parse?, hread] at h
    cases h
  | ok w =>
    rw [parse?, hread] at h
    cases h
    rw [read] at hread
    split at hread
    · cases hread
    · obtain ⟨⟨w, r⟩, hvalue, hread⟩ := exists_of_bind_eq_ok hread
      dsimp only at hread
      split at hread
      · cases hread
        exact (exact_of_read _).1 _ _ _ hvalue hplain
      · cases hread

end Json
end ProcessTriggers
