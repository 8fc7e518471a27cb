import Mathlib.Data.List.Basic
import ProcessTriggers.Proofs.Digits
import ProcessTriggers.Text.Utf8

/-!
The ISO text of a point in time. It is read back as that point, also where it has another offset
than universal time or none. In universal time the bytes of two such texts are in the order of their
instants, although a text is shorter where there is no fraction of a second.
-/

namespace ProcessTriggers

namespace Text

theorem encodeUtf8_of_ascii {s : String} (h : ∀ c ∈ s.toList, c.toNat < 0x80) :
    (encodeUtf8 s).map UInt8.toNat = s.toList.map Char.toNat := by
  rw [encodeUtf8]
  generalize s.toList = cs at h
  induction cs with
  | nil => rfl
  | cons c cs ih =>
    have hc := h c List.mem_cons_self
    rw [List.flatMap_cons, List.map_append, ih fun d hd => h d (List.mem_cons_of_mem c hd),
      encodeChar, if_pos hc]
    have hbyte : c.toNat.toUInt8.toNat = c.toNat := Nat.mod_eq_of_lt (by omega)
    rw [List.map_singleton, hbyte]
    rfl

end Text

namespace Stamp

/-- A point in time in universal time, in the years that have four digits. -/
structure IsUtc (t : Stamp) : Prop where
  offset : t.offset = some 0
  inRange : t.InRange

/-- A whole number of seconds, less than a day in either direction. -/
structure IsOffset (o : Int) : Prop where
  whole : o % second = 0
  small : o.natAbs < day.natAbs

/-- A point in time whose text says all of it: in the years that have four digits, and with an
offset of whole seconds if it has one. -/
structure IsRegular (t : Stamp) : Prop where
  inRange : t.InRange
  offset : ∀ o ∈ t.offset, IsOffset o

theorem IsUtc.isRegular {t : Stamp} (h : t.IsUtc) : t.IsRegular where
  inRange := h.inRange
  offset o ho := by
    rw [h.offset] at ho
    cases ho
    exact ⟨by decide, by decide⟩

/-- A padded number as characters. -/
def field (width n : Nat) : List Char := (padded width n).toList

def dateChars (d : Date) : List Char :=
  field 4 d.year ++ '-' :: (field 2 d.month ++ '-' :: field 2 d.day)

/-- The fraction of a second, nothing where it is zero. -/
def fractionChars (us : Nat) : List Char := if us = 0 then [] else '.' :: field 6 us

def clockChars (h m s us : Nat) : List Char :=
  field 2 h ++ ':' :: (field 2 m ++ ':' :: (field 2 s ++ fractionChars us))

/-- The clock at some microseconds after midnight. -/
def timeChars (micro : Nat) : List Char :=
  clockChars (micro / 1000000 / 3600) (micro / 1000000 / 60 % 60) (micro / 1000000 % 60)
    (micro % 1000000)

def offsetSign (o : Int) : Char := if o < 0 then '-' else '+'

/-- Hours and minutes of an offset, with the seconds where they count. -/
def offsetClockChars (o : Int) : List Char :=
  if o % minute = 0 then
    field 2 (o.natAbs / 1000000 / 3600) ++ ':' :: field 2 (o.natAbs / 1000000 / 60 % 60)
  else timeChars o.natAbs

def zoneChars : Option Int → List Char
  | none => []
  | some o => offsetSign o :: offsetClockChars o

theorem toList_dateText (d : Date) : (dateText d).toList = dateChars d := by
  simp [dateText, dateChars, field]

theorem toList_clockText (micro : Nat) : (clockText micro).toList = timeChars micro := by
  have hfraction : (if micro % 1000000 = 0 then "" else "." ++ padded 6 (micro % 1000000)).toList =
      fractionChars (micro % 1000000) := by
    rw [fractionChars]
    split
    · rfl
    · rw [String.toList_append]
      rfl
  simp [clockText, timeChars, clockChars, field, hfraction]

theorem length_field {w n : Nat} (hw : 0 < w) (hn : n < 10 ^ w) :
    (field w n).length = w := length_padded hw hn

/-- Without its seconds a clock is two fields and the colon between them. -/
theorem take_clockChars {h m : Nat} (hh : h < 10 ^ 2) (hm : m < 10 ^ 2) (s us : Nat) :
    (clockChars h m s us).take 5 = field 2 h ++ ':' :: field 2 m := by
  have hlength : (field 2 h ++ ':' :: field 2 m).length = 5 := by
    rw [List.length_append, List.length_cons, length_field (by decide) hh,
      length_field (by decide) hm]
  rw [clockChars, ← List.cons_append, ← List.append_assoc, List.take_left' hlength]

theorem toList_offsetText {o : Int} (h : IsOffset o) :
    (offsetText o).toList = zoneChars (some o) := by
  have hday : day.natAbs = 86400000000 := by decide
  have hsmall := h.small
  have hsign : (if o < 0 then "-" else "+").toList = [offsetSign o] := by
    rw [offsetSign]
    split <;> rfl
  rw [offsetText, String.toList_append, hsign, zoneChars, offsetClockChars, List.singleton_append]
  split
  · rw [String.toList_ofList, toList_clockText, timeChars, take_clockChars (by omega) (by omega)]
  · rw [toList_clockText]

theorem toList_isoText {t : Stamp} (h : t.IsRegular) :
    t.isoText.toList =
      dateChars t.date ++ 'T' :: (timeChars t.timeOfDay ++ zoneChars t.offset) := by
  have hseparator : "T".toList = ['T'] := rfl
  have hoffset : ((t.offset.map offsetText).getD "").toList = zoneChars t.offset := by
    cases hoffset : t.offset with
    | none => rfl
    | some o => exact toList_offsetText (h.offset o hoffset)
  rw [isoText, render, String.toList_append, String.toList_append, String.toList_append,
    toList_dateText, toList_clockText, hseparator, hoffset, List.append_assoc, List.append_assoc,
    List.singleton_append]

/-! Reading. -/

theorem isDigit_of_mem_field {w n : Nat} : ∀ c ∈ field w n, c.isDigit = true :=
  isDigit_of_mem_padded

theorem takeDigits?_field {w n : Nat} (hw : 0 < w) (hn : n < 10 ^ w)
    (cs : List Char) : takeDigits? w (field w n ++ cs) = some (n, cs) :=
  takeDigits?_padded hw hn cs

/-- A number of two digits is two characters, neither of which is a letter or a mark. -/
theorem exists_field {n : Nat} (hn : n < 10 ^ 2) : ∃ a b, field 2 n = [a, b] ∧
    a.isDigit = true ∧ b.isDigit = true := by
  obtain ⟨a, b, hab⟩ := List.length_eq_two.mp (length_field (by decide) hn)
  have hdigit := isDigit_of_mem_field (w := 2) (n := n)
  rw [hab] at hdigit
  exact ⟨a, b, hab, hdigit a (by simp), hdigit b (by simp)⟩

/-- The fields of a date have no more digits than are written. -/
theorem fields_lt {d : Date} (h : d.IsValid) :
    d.year < 10 ^ 4 ∧ d.month < 10 ^ 2 ∧ d.day < 10 ^ 2 := by
  obtain ⟨-, hyear, -, hmonth, -, hday⟩ := h
  have hlong : Date.daysInMonth d.year d.month ≤ 31 := by
    unfold Date.daysInMonth
    split
    · split <;> decide
    all_goals decide
  exact ⟨Nat.lt_of_le_of_lt hyear (by decide), by omega, by omega⟩

theorem readDate?_chars {d : Date} (h : d.IsValid) : readDate? (dateChars d) = some d := by
  obtain ⟨hyear, hmonth, hday⟩ := fields_lt h
  obtain ⟨a, b, hab, ha, -⟩ := exists_field hmonth
  have hmark : a ≠ 'W' := by
    rintro rfl
    cases ha
  have hdayRead := takeDigits?_field (w := 2) (by decide) hday []
  have hmonthRead := takeDigits?_field (w := 2) (by decide) hmonth ('-' :: field 2 d.day)
  rw [hab] at hmonthRead
  rw [List.append_nil] at hdayRead
  simp only [readDate?, dateChars, takeDigits?_field (w := 4) (by decide) hyear, hab,
    Option.bind_eq_bind, Option.bind_some, List.head?_cons, BEq.rfl, if_true, List.drop_succ_cons,
    List.drop_zero, List.cons_append, List.nil_append] at hmonthRead ⊢
  split
  · next h =>
    cases h
    exact absurd rfl hmark
  · simp [hmonthRead, hdayRead, guard]

theorem length_dateChars {d : Date} (h : d.IsValid) : (dateChars d).length = 10 := by
  obtain ⟨hyear, hmonth, hday⟩ := fields_lt h
  simp only [dateChars, List.length_append, List.length_cons,
    length_field (w := 4) (by decide) hyear, length_field (w := 2) (by decide) hmonth,
    length_field (w := 2) (by decide) hday]

/-- A date with a time behind it is told from a week date. -/
theorem dateLength_chars {d : Date} (h : d.IsValid) (time : List Char) :
    dateLength (dateChars d ++ 'T' :: time) = 10 := by
  obtain ⟨hyear, hmonth, -⟩ := fields_lt h
  obtain ⟨a, b, hab, ha, -⟩ := exists_field hmonth
  have hlong : (dateChars d ++ 'T' :: time).length ≠ 7 := by
    rw [List.length_append, length_dateChars h]
    omega
  have hdrop : (dateChars d ++ 'T' :: time).drop 4 =
      '-' :: a :: (b :: '-' :: field 2 d.day ++ 'T' :: time) := by
    rw [dateChars, hab, List.append_assoc, List.drop_left' (length_field (by decide) hyear)]
    rfl
  rw [dateLength, if_neg hlong, hdrop]
  split
  · next h =>
    cases h
    cases ha
  · rfl
  · next h =>
    cases h
  · next _ hother _ =>
    exact absurd rfl (hother _)

theorem readSeconds?_field {s us : Nat} (hs : s < 60) (hus : us < 1000000) (h m : Nat) :
    readSeconds? h m true (field 2 s ++ fractionChars us) = some ⟨h, m, s, us, false⟩ := by
  rw [readSeconds?, takeDigits?_field (by decide) (by omega), fractionChars]
  by_cases hzero : us = 0
  · rw [if_pos hzero, hzero]
    rfl
  · have hlength := length_field (w := 6) (by decide) hus
    have hread := takeDigits?_field (w := 6) (by decide) hus []
    have hfraction : fraction? (field 6 us) = some (us, false) := by
      rw [List.append_nil] at hread
      rw [fraction?, hlength]
      simp [hread, guard]
    have hlast : isLast ('.' :: field 6 us) = false := by
      cases hfield : field 6 us with
      | nil =>
        rw [hfield] at hlength
        cases hlength
      | cons c cs => rfl
    rw [if_neg hzero]
    simp [hlast, hfraction]

/-- A clock is read back. -/
theorem readClock?_chars {h m s us : Nat} (hh : h < 24) (hm : m < 60) (hs : s < 60)
    (hus : us < 1000000) : readClock? (clockChars h m s us) = some ⟨h, m, s, us, false⟩ := by
  have hlast : ∀ {n : Nat} (cs : List Char), n < 60 →
      isLast (':' :: (field 2 n ++ cs)) = false := by
    intro n cs hn
    obtain ⟨a, b, hab, -, -⟩ := exists_field (n := n) (by omega)
    rw [hab]
    rfl
  have hminutes : readMinutes? h true (field 2 m ++ ':' :: (field 2 s ++ fractionChars us)) =
      some ⟨h, m, s, us, false⟩ := by
    rw [readMinutes?, takeDigits?_field (by decide) (by omega)]
    simp [hlast _ hs, readSeconds?_field hs hus]
  rw [clockChars, readClock?, takeDigits?_field (by decide) (by omega)]
  simp [hlast _ hm, hminutes]

/-- A clock is made of digits, colons and a point. -/
theorem forall_mem_clockChars {P : Char → Prop} (hdigit : ∀ c, c.isDigit = true → P c)
    (hcolon : P ':') (hpoint : P '.') {h m s us : Nat} : ∀ c ∈ clockChars h m s us, P c := by
  have hfield : ∀ {width n : Nat}, ∀ c ∈ field width n, P c :=
    fun c hc => hdigit c (isDigit_of_mem_field c hc)
  intro c hc
  simp only [clockChars, List.mem_append, List.mem_cons] at hc
  rcases hc with hc | rfl | hc | rfl | hc | hc
  · exact hfield c hc
  · exact hcolon
  · exact hfield c hc
  · exact hcolon
  · exact hfield c hc
  · rw [fractionChars] at hc
    split at hc
    · cases hc
    · rcases List.mem_cons.mp hc with rfl | hc
      · exact hpoint
      · exact hfield c hc

/-- No character of a clock marks the start of an offset. -/
theorem isOffsetMark_of_mem_clockChars {h m s us : Nat} :
    ∀ c ∈ clockChars h m s us, isOffsetMark c = false := by
  refine forall_mem_clockChars (P := (isOffsetMark · = false)) (fun c hdigit => ?_) rfl rfl
  cases hmark : isOffsetMark c with
  | false => rfl
  | true =>
    simp only [isOffsetMark, Bool.or_eq_true, beq_iff_eq] at hmark
    rcases hmark with (rfl | rfl) | rfl <;> cases hdigit

/-- Hours and minutes alone are a clock that shows a full minute. -/
theorem readClock?_minutes {h m : Nat} (hh : h < 24) (hm : m < 60) :
    readClock? (field 2 h ++ ':' :: field 2 m) = some ⟨h, m, 0, 0, false⟩ := by
  obtain ⟨a, b, hab, -, -⟩ := exists_field (n := m) (by omega)
  have hlast : isLast (':' :: field 2 m) = false := by
    rw [hab]
    rfl
  have hread := takeDigits?_field (w := 2) (n := m) (by decide) (by omega) []
  rw [List.append_nil] at hread
  rw [readClock?, takeDigits?_field (by decide) (by omega)]
  simp [hlast, readMinutes?, hread]

theorem readClock?_timeChars {micro : Nat} (h : micro < 86400000000) :
    readClock? (timeChars micro) = some ⟨micro / 1000000 / 3600, micro / 1000000 / 60 % 60,
      micro / 1000000 % 60, micro % 1000000, false⟩ :=
  readClock?_chars (by omega) (by omega) (by omega) (by omega)

/-- The seconds that are left out of an offset are none. -/
theorem readClock?_offsetClockChars {o : Int} (h : IsOffset o) :
    readClock? (offsetClockChars o) = some ⟨o.natAbs / 1000000 / 3600,
      o.natAbs / 1000000 / 60 % 60, o.natAbs / 1000000 % 60, 0, false⟩ := by
  have hsmall : o.natAbs < 86400000000 := h.small
  have hwhole : o % 1000000 = 0 := h.whole
  rw [offsetClockChars]
  split
  · next hminutes =>
    have hfull : o % 60000000 = 0 := hminutes
    have hseconds : o.natAbs / 1000000 % 60 = 0 := by omega
    rw [hseconds]
    exact readClock?_minutes (by omega) (by omega)
  · have hread := readClock?_timeChars hsmall
    have hfraction : o.natAbs % 1000000 = 0 := by omega
    rw [hfraction] at hread
    exact hread

/-- An offset is read back. -/
theorem readOffset?_zoneChars {o : Int} (h : IsOffset o) :
    readOffset? (zoneChars (some o)) = some o := by
  have hwhole : o % 1000000 = 0 := h.whole
  have hclock := readClock?_offsetClockChars h
  have hmicros : Reading.micros ⟨o.natAbs / 1000000 / 3600, o.natAbs / 1000000 / 60 % 60,
      o.natAbs / 1000000 % 60, 0, false⟩ = o.natAbs := by
    simp only [Reading.micros]
    omega
  have hsecond : second = 1000000 := rfl
  rw [zoneChars, offsetSign]
  split
  · next hneg =>
    have hread : readOffset? ('-' :: offsetClockChars o) =
        some (if (o.natAbs : Int) < second then 0 else -(o.natAbs : Int)) := by
      simp [readOffset?, hclock, hmicros, guard]
    rw [hread, if_neg (by omega)]
    exact congrArg some (by omega)
  · next hpos =>
    have hread : readOffset? ('+' :: offsetClockChars o) =
        some (if (o.natAbs : Int) < second then 0 else o.natAbs) := by
      simp [readOffset?, hclock, hmicros, guard]
    rw [hread]
    split
    · exact congrArg some (by omega)
    · exact congrArg some (by omega)

/-- A clock with an offset, or with none, is read back. -/
theorem readTime?_chars {micro : Nat} (h : micro < 86400000000) {offset : Option Int}
    (hoffset : ∀ o ∈ offset, IsOffset o) : readTime? (timeChars micro ++ zoneChars offset) =
      some (⟨micro / 1000000 / 3600, micro / 1000000 / 60 % 60, micro / 1000000 % 60,
        micro % 1000000, false⟩, offset) := by
  have hnoMark : ∀ c ∈ timeChars micro, isOffsetMark c = false := isOffsetMark_of_mem_clockChars
  have hread := readClock?_timeChars h
  obtain ⟨c, cs, hcs⟩ : ∃ c cs, timeChars micro = c :: cs := by
    obtain ⟨a, b, hab, -, -⟩ := exists_field (n := micro / 1000000 / 3600) (by omega)
    rw [timeChars, clockChars, hab]
    exact ⟨a, _, rfl⟩
  have hzone : (zoneChars offset).takeWhile (!isOffsetMark ·) = [] := by
    cases offset with
    | none => rfl
    | some o =>
      rw [zoneChars, offsetSign]
      split <;> rfl
  rw [hcs] at hnoMark hread ⊢
  have htake : (cs ++ zoneChars offset).takeWhile (!isOffsetMark ·) = cs := by
    rw [List.takeWhile_append_of_pos fun d hd => by
      rw [hnoMark d (List.mem_cons_of_mem c hd)]
      rfl, hzone, List.append_nil]
  have hdrop : (c :: (cs ++ zoneChars offset)).drop (c :: cs).length = zoneChars offset :=
    List.drop_left
  rw [readTime?]
  simp only [List.cons_append, List.take_succ_cons, List.take_zero, List.drop_succ_cons,
    List.drop_zero, List.head?_cons, Option.map_some, Option.getD_some,
    hnoMark c List.mem_cons_self, Bool.false_eq_true, if_false, List.nil_append, htake, hread,
    Option.bind_eq_bind, Option.bind_some]
  rw [hdrop]
  cases offset with
  | none => rfl
  | some o =>
    have hzone := readOffset?_zoneChars (hoffset o rfl)
    rw [zoneChars] at hzone ⊢
    simp only [hzone, Option.bind_some, Option.pure_def]

/-- The days and the rest of the microseconds of a point in time. -/
theorem InRange.parts {t : Stamp} (h : t.InRange) : ∃ n : Nat, t.wall = n ∧
    n / 86400000000 < 3652059 ∧ t.date = Date.ofDayNumber (n / 86400000000) ∧
      t.timeOfDay = n % 86400000000 := by
  obtain ⟨hpos, hlimit⟩ := h
  obtain ⟨n, hn⟩ := Int.eq_ofNat_of_zero_le hpos
  have hday : day = (86400000000 : Nat) := by decide
  have hbound : limit = ((3652059 * 86400000000 : Nat) : Int) := by decide
  refine ⟨n, hn, ?_, ?_, ?_⟩
  · rw [hn, hbound, Int.ofNat_lt] at hlimit
    exact Nat.div_lt_of_lt_mul (by omega)
  · rw [date, hn, hday, ← Int.ofNat_fdiv, Int.toNat_natCast]
  · rw [timeOfDay, hn, hday, Int.fmod_eq_emod_of_nonneg _ (by decide), ← Int.natCast_emod,
      Int.toNat_natCast]

theorem parseFields?_isoText {t : Stamp} (h : t.IsRegular) : parseFields? t.isoText.toList =
    some (t.date, ⟨t.timeOfDay / 1000000 / 3600, t.timeOfDay / 1000000 / 60 % 60,
      t.timeOfDay / 1000000 % 60, t.timeOfDay % 1000000, false⟩, t.offset) := by
  obtain ⟨n, -, hdays, hdate, htime⟩ := h.inRange.parts
  have hvalid : t.date.IsValid := hdate ▸ Date.isValid_ofDayNumber hdays
  have hmicro : t.timeOfDay < 86400000000 := htime ▸ Nat.mod_lt n (by decide)
  have htimeRead := readTime?_chars hmicro h.offset
  have hlength := length_dateChars hvalid
  rw [toList_isoText h]
  obtain ⟨c, cs, hcs⟩ : ∃ c cs, timeChars t.timeOfDay ++ zoneChars t.offset = c :: cs :=
    List.exists_cons_of_ne_nil (by simp [timeChars, clockChars])
  rw [hcs] at htimeRead ⊢
  have hlong : 7 ≤ (dateChars t.date ++ 'T' :: c :: cs).length := by
    rw [List.length_append, hlength]
    omega
  rw [parseFields?]
  simp only [guard, hlong, if_true, dateLength_chars hvalid, List.take_left' hlength,
    List.drop_left' hlength, readDate?_chars hvalid, Option.bind_eq_bind, Option.bind_some,
    Option.pure_def, htimeRead]

/-- A point in time is read back from its ISO text. -/
theorem parse_isoText {t : Stamp} (h : t.IsRegular) : parse t.isoText = .ok t := by
  obtain ⟨n, hn, hdays, hdate, htime⟩ := h.inRange.parts
  have hvalid : t.date.IsValid := hdate ▸ Date.isValid_ofDayNumber hdays
  have hmicro : t.timeOfDay < 86400000000 := htime ▸ Nat.mod_lt n (by decide)
  obtain ⟨hyear, -, hmonth, hmonth', hday, hday'⟩ := hvalid
  have hwall : wallOf t.date (t.timeOfDay / 1000000 / 3600) (t.timeOfDay / 1000000 / 60 % 60)
      (t.timeOfDay / 1000000 % 60) (t.timeOfDay % 1000000) = t.wall := by
    have hnumber : t.date.dayNumber = n / 86400000000 := hdate ▸ (Date.ofDayNumber_spec _).2
    have hlong : day = 86400000000 := by decide
    rw [wallOf, hnumber, hn, hlong, htime]
    omega
  have hsmall : ¬ (t.offset.map Int.natAbs).getD 0 ≥ day.natAbs := by
    cases hoffset : t.offset with
    | none => decide
    | some o => exact Nat.not_le.mpr (h.offset o hoffset).small
  rw [parse, parseFields?_isoText h]
  simp only [ofFields]
  rw [if_neg hsmall, if_neg (by omega), if_neg (by omega), if_neg (by omega), if_neg (by omega),
    if_neg (by omega), if_neg (by omega), hwall]

/-! Order. -/

theorem compare_cons_self (a : Nat) (as bs : List Nat) :
    compare (a :: as) (a :: bs) = compare as bs := by
  rw [List.compare_eq_compareLex, List.compareLex_cons_cons, Nat.compare_eq_eq.mpr rfl]
  rfl

/-- Fields of one width are compared before what follows. -/
theorem compare_field {width m n : Nat} (hwidth : 0 < width) (hm : m < 10 ^ width)
    (hn : n < 10 ^ width) (as bs : List Char) :
    compare ((field width m ++ as).map Char.toNat) ((field width n ++ bs).map Char.toNat) =
      (compare m n).then (compare (as.map Char.toNat) (bs.map Char.toNat)) := by
  have hfield : compare ((field width m).map Char.toNat) ((field width n).map Char.toNat) =
      compare m n := compare_padded hwidth hm hn
  have hlength : ((field width m).map Char.toNat).length =
      ((field width n).map Char.toNat).length := by
    rw [List.length_map, List.length_map, length_field hwidth hm, length_field hwidth hn]
  rw [List.map_append, List.map_append, compare_append hlength, hfield]

theorem compare_dateChars {d e : Date} (hd : d.IsValid) (he : e.IsValid) :
    compare ((dateChars d).map Char.toNat) ((dateChars e).map Char.toNat) =
      compare d.dayNumber e.dayNumber := by
  have hexists : ∀ {d : Date}, d.IsValid → d.Exists :=
    fun ⟨hyear, _, hmonth, hmonth', hday⟩ => ⟨hyear, ⟨hmonth, hmonth'⟩, hday⟩
  obtain ⟨hdYear, hdMonth, hdDay⟩ := fields_lt hd
  obtain ⟨heYear, heMonth, heDay⟩ := fields_lt he
  have hday : compare ((field 2 d.day).map Char.toNat) ((field 2 e.day).map Char.toNat) =
      compare d.day e.day := compare_padded (by decide) hdDay heDay
  rw [Date.compare_dayNumber (hexists hd) (hexists he), dateChars, dateChars,
    compare_field (by decide) hdYear heYear, List.map_cons, List.map_cons, compare_cons_self,
    compare_field (by decide) hdMonth heMonth, List.map_cons, List.map_cons, compare_cons_self,
    hday, Ordering.then_assoc]

/-- The point in front of a fraction comes after the sign of an offset. -/
theorem compare_fractionChars {us vs : Nat} (hus : us < 1000000) (hvs : vs < 1000000) :
    compare ((fractionChars us ++ zoneChars (some 0)).map Char.toNat)
      ((fractionChars vs ++ zoneChars (some 0)).map Char.toNat) = compare us vs := by
  have htail : zoneChars (some 0) = '+' :: "00:00".toList := by decide
  by_cases hu : us = 0
  · by_cases hv : vs = 0
    · rw [hu, hv, Nat.compare_eq_eq.mpr rfl]
      exact Std.compare_self
    · rw [Nat.compare_eq_lt.mpr (by omega), fractionChars, fractionChars, if_pos hu, if_neg hv,
        htail]
      rfl
  · by_cases hv : vs = 0
    · rw [Nat.compare_eq_gt.mpr (by omega), fractionChars, fractionChars, if_neg hu, if_pos hv,
        htail]
      rfl
    · rw [fractionChars, fractionChars, if_neg hu, if_neg hv, List.cons_append, List.cons_append,
        List.map_cons, List.map_cons, compare_cons_self, compare_field (by decide) hus hvs,
        Std.compare_self, Ordering.then_eq]

theorem compare_timeChars {m n : Nat} (hm : m < 86400000000) (hn : n < 86400000000) :
    compare ((timeChars m ++ zoneChars (some 0)).map Char.toNat)
      ((timeChars n ++ zoneChars (some 0)).map Char.toNat) = compare m n := by
  have hhour : ∀ {n : Nat}, n < 86400000000 → n / 1000000 / 3600 < 10 ^ 2 := by omega
  have htwo : ∀ n, n % 60 < 10 ^ 2 := by omega
  have hmicro : ∀ n, n % 1000000 < 1000000 := by omega
  rw [compare_divMod 1000000 m n, compare_divMod 60 (m / 1000000),
    compare_divMod 60 (m / 1000000 / 60), Nat.div_div_eq_div_mul (m / 1000000),
    Nat.div_div_eq_div_mul (n / 1000000)]
  simp only [timeChars, clockChars, List.append_assoc, List.cons_append]
  rw [compare_field (by decide) (hhour hm) (hhour hn), List.map_cons, List.map_cons,
    compare_cons_self, compare_field (by decide) (htwo _) (htwo _), List.map_cons, List.map_cons,
    compare_cons_self, compare_field (by decide) (htwo _) (htwo _),
    compare_fractionChars (hmicro m) (hmicro n)]
  simp only [Ordering.then_assoc]

/-- The text of a point in universal time. -/
theorem IsUtc.toList_isoText {t : Stamp} (h : t.IsUtc) :
    t.isoText.toList = dateChars t.date ++ 'T' :: (timeChars t.timeOfDay ++ zoneChars (some 0)) :=
  h.offset ▸ Stamp.toList_isoText h.isRegular

theorem toNat_lt_of_mem_isoText {t : Stamp} (h : t.IsUtc) :
    ∀ c ∈ t.isoText.toList, c.toNat < 0x80 := by
  have hdigit : ∀ c : Char, c.isDigit = true → c.toNat < 0x80 := fun c hc => by
    have := Numeral.isDigit_iff.mp hc
    omega
  have hfield : ∀ {width n : Nat}, ∀ c ∈ field width n, c.toNat < 0x80 :=
    fun c hc => hdigit c (isDigit_of_mem_field c hc)
  intro c hc
  rw [h.toList_isoText] at hc
  simp only [dateChars, List.mem_append, List.mem_cons] at hc
  rcases hc with (hc | rfl | hc | rfl | hc) | rfl | hc | hc
  · exact hfield c hc
  · decide
  · exact hfield c hc
  · decide
  · exact hfield c hc
  · decide
  · exact forall_mem_clockChars hdigit (by decide) (by decide) c hc
  · have hoffset : (zoneChars (some 0)).all (·.toNat < 0x80) = true := by decide
    exact of_decide_eq_true (List.all_eq_true.mp hoffset c hc)

/-- The bytes of ISO texts in universal time are in the order of the instants. -/
theorem compare_isoText {s t : Stamp} (hs : s.IsUtc) (ht : t.IsUtc) :
    compare ((Text.encodeUtf8 s.isoText).map UInt8.toNat)
      ((Text.encodeUtf8 t.isoText).map UInt8.toNat) = compare s.instant t.instant := by
  obtain ⟨m, hm, hmDays, hmDate, hmTime⟩ := hs.inRange.parts
  obtain ⟨n, hn, hnDays, hnDate, hnTime⟩ := ht.inRange.parts
  have hmValid : s.date.IsValid := hmDate ▸ Date.isValid_ofDayNumber hmDays
  have hnValid : t.date.IsValid := hnDate ▸ Date.isValid_ofDayNumber hnDays
  have hinstant : ∀ {t : Stamp}, t.IsUtc → t.instant = t.wall := by
    intro t ht
    rw [instant, ht.offset]
    exact Int.sub_zero _
  have hlength : ((dateChars s.date).map Char.toNat).length =
      ((dateChars t.date).map Char.toNat).length := by
    rw [List.length_map, List.length_map, length_dateChars hmValid, length_dateChars hnValid]
  rw [Text.encodeUtf8_of_ascii (toNat_lt_of_mem_isoText hs),
    Text.encodeUtf8_of_ascii (toNat_lt_of_mem_isoText ht), hs.toList_isoText, ht.toList_isoText,
    List.map_append, List.map_append, compare_append hlength, compare_dateChars hmValid hnValid,
    List.map_cons, List.map_cons, compare_cons_self, compare_timeChars (by omega) (by omega),
    hinstant hs, hinstant ht, hm, hn, hmDate, hnDate, (Date.ofDayNumber_spec _).2,
    (Date.ofDayNumber_spec _).2, hmTime, hnTime, ← compare_divMod]
  simp only [compare, compareOfLessAndEq, Int.ofNat_lt, Int.natCast_inj]

end Stamp
end ProcessTriggers
