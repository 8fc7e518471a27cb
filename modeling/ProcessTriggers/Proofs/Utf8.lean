import Mathlib.Data.List.Basic
import ProcessTriggers.Text.Encoding

/-!
Bytes in UTF-8. The bytes of a text are read back as the text, also by a reader that has to find out
the encoding first, as long as the text begins with a character of ASCII and holds no zero.
-/

namespace ProcessTriggers.Text

theorem toNat_toUInt8 {n : Nat} (h : n < 0x100) : n.toUInt8.toNat = n := Nat.mod_eq_of_lt h

/-! First bytes. -/

theorem leadByte?_one {b : UInt8} (h : b.toNat < 0x80) : leadByte? b = some (b.toNat, []) := by
  rw [leadByte?]
  exact if_pos h

theorem leadByte?_two {b : UInt8} (hlo : 0xc2 ≤ b.toNat) (hhi : b.toNat ≤ 0xdf) :
    leadByte? b = some (b.toNat - 0xc0, [(0x80, 0xbf)]) := by
  simp only [leadByte?]
  rw [if_neg (by omega), if_pos ⟨hlo, hhi⟩]

/-- The second of three bytes is narrowed for the first and for the last but two of their leads. -/
theorem leadByte?_three {b : UInt8} (hlo : 0xe0 ≤ b.toNat) (hhi : b.toNat ≤ 0xef) {m : Nat}
    (hm : 0x80 ≤ m ∧ m ≤ 0xbf) (hlong : b.toNat = 0xe0 → 0xa0 ≤ m)
    (hhalf : b.toNat = 0xed → m ≤ 0x9f) :
    ∃ lo hi, leadByte? b = some (b.toNat - 0xe0, [(lo, hi), (0x80, 0xbf)]) ∧ lo ≤ m ∧ m ≤ hi := by
  simp only [leadByte?]
  rw [if_neg (by omega), if_neg (by omega)]
  split
  · next h => exact ⟨0xa0, 0xbf, by rw [h], hlong h, hm.2⟩
  split
  · next h => exact ⟨0x80, 0x9f, by rw [h], hm.1, hhalf h⟩
  rw [if_pos (by omega)]
  exact ⟨0x80, 0xbf, rfl, hm⟩

theorem leadByte?_four {b : UInt8} (hlo : 0xf0 ≤ b.toNat) (hhi : b.toNat ≤ 0xf4) {m : Nat}
    (hm : 0x80 ≤ m ∧ m ≤ 0xbf) (hlong : b.toNat = 0xf0 → 0x90 ≤ m)
    (hlast : b.toNat = 0xf4 → m ≤ 0x8f) :
    ∃ lo hi, leadByte? b = some (b.toNat - 0xf0, [(lo, hi), (0x80, 0xbf), (0x80, 0xbf)]) ∧
      lo ≤ m ∧ m ≤ hi := by
  simp only [leadByte?]
  rw [if_neg (by omega), if_neg (by omega), if_neg (by omega), if_neg (by omega),
    if_neg (by omega)]
  split
  · next h => exact ⟨0x90, 0xbf, by rw [h], hlong h, hm.2⟩
  split
  · next h => exact ⟨0x80, 0x8f, by rw [h], hm.1, hlast h⟩
  rw [if_pos (by omega)]
  exact ⟨0x80, 0xbf, rfl, hm⟩

theorem followBytes_cons {lo hi : Nat} {b : UInt8} (h : lo ≤ b.toNat ∧ b.toNat ≤ hi) (acc : Nat)
    (ranges : List (Nat × Nat)) (bs : List UInt8) :
    followBytes acc ((lo, hi) :: ranges) (b :: bs) =
      followBytes (acc * 0x40 + b.toNat % 0x40) ranges bs := by
  rw [followBytes, if_pos h]

/-! Characters. -/

/-- A byte that follows a first one carries six bits. -/
def tailByte (n : Nat) : UInt8 := (0x80 + n % 0x40).toUInt8

theorem toNat_tailByte (n : Nat) : (tailByte n).toNat = 0x80 + n % 0x40 :=
  toNat_toUInt8 (by omega)

theorem tailByte_range (n : Nat) : 0x80 ≤ (tailByte n).toNat ∧ (tailByte n).toNat ≤ 0xbf := by
  rw [toNat_tailByte]
  omega

/-- The bytes of a character, which is the first that is read from them. -/
theorem encodeChar_spec (c : Char) : ∃ b bs, encodeChar c = b :: bs ∧
    (b.toNat < 0x80 ↔ c.toNat < 0x80) ∧ ∀ rest, decodeFirst b (bs ++ rest) = (some c, rest) := by
  have hvalid : c.toNat < 0xd800 ∨ 0xdfff < c.toNat ∧ c.toNat < 0x110000 := c.valid
  obtain ⟨n, hn⟩ : ∃ n, n = c.toNat := ⟨_, rfl⟩
  have hread : ∀ {b : UInt8} {bs rest : List UInt8} {acc m : Nat} {ranges : List (Nat × Nat)},
      leadByte? b = some (acc, ranges) → followBytes acc ranges bs = (some m, rest) → m = n →
        decodeFirst b bs = (some c, rest) := by
    rintro b bs rest acc _ ranges hlead hfollow rfl
    simp only [decodeFirst, hlead, hfollow, Option.map_some, hn, Char.ofNat_toNat]
  have hlast : n / Nat.pow 2 0 = n := Nat.div_one n
  rw [← hn] at hvalid ⊢
  simp only [encodeChar, ← hn, hlast]
  split
  · next hone =>
    have hb := toNat_toUInt8 (n := n) (by omega)
    refine ⟨_, [], rfl, by omega, fun rest => hread (leadByte?_one (by omega)) rfl hb⟩
  split
  · next hone htwo =>
    obtain ⟨b, hb⟩ : ∃ b, b = (0xc0 + n / 0x40).toUInt8 := ⟨_, rfl⟩
    have hlead := toNat_toUInt8 (n := 0xc0 + n / 0x40) (by omega)
    rw [← hb] at hlead ⊢
    refine ⟨b, [tailByte n], rfl, by omega, fun rest =>
      hread (leadByte?_two (by omega) (by omega)) ?_ rfl⟩
    rw [List.singleton_append, followBytes_cons (tailByte_range n), toNat_tailByte, hlead,
      followBytes]
    exact congrArg (fun m => (some m, rest)) (by omega)
  split
  · next hone htwo hthree =>
    obtain ⟨b, hb⟩ : ∃ b, b = (0xe0 + n / 0x1000).toUInt8 := ⟨_, rfl⟩
    have hlead := toNat_toUInt8 (n := 0xe0 + n / 0x1000) (by omega)
    rw [← hb] at hlead ⊢
    obtain ⟨lo, hi, hranges, hrange⟩ := leadByte?_three (b := b) (by omega) (by omega)
      (tailByte_range (n / 0x40)) (by rw [toNat_tailByte]; omega) (by rw [toNat_tailByte]; omega)
    refine ⟨b, [tailByte (n / 0x40), tailByte n], rfl, by omega, fun rest =>
      hread hranges ?_ rfl⟩
    rw [List.cons_append, List.singleton_append, followBytes_cons hrange,
      followBytes_cons (tailByte_range n), toNat_tailByte, toNat_tailByte, hlead, followBytes]
    exact congrArg (fun m => (some m, rest)) (by omega)
  · next hone htwo hthree =>
    obtain ⟨b, hb⟩ : ∃ b, b = (0xf0 + n / 0x40000).toUInt8 := ⟨_, rfl⟩
    have hlead := toNat_toUInt8 (n := 0xf0 + n / 0x40000) (by omega)
    rw [← hb] at hlead ⊢
    obtain ⟨lo, hi, hranges, hrange⟩ := leadByte?_four (b := b) (by omega) (by omega)
      (tailByte_range (n / 0x1000)) (by rw [toNat_tailByte]; omega)
      (by rw [toNat_tailByte]; omega)
    refine ⟨b, [tailByte (n / 0x1000), tailByte (n / 0x40), tailByte n], rfl, by omega,
      fun rest => hread hranges ?_ rfl⟩
    rw [List.cons_append, List.cons_append, List.singleton_append, followBytes_cons hrange,
      followBytes_cons (tailByte_range (n / 0x40)), followBytes_cons (tailByte_range n),
      toNat_tailByte, toNat_tailByte, toNat_tailByte, hlead, followBytes]
    exact congrArg (fun m => (some m, rest)) (by omega)

/-- Only the zero character is written with a zero byte. -/
theorem encodeChar_ne_zero {c : Char} (h : c.toNat ≠ 0) : ∀ b ∈ encodeChar c, b ≠ 0 := by
  have hvalid : c.toNat < 0xd800 ∨ 0xdfff < c.toNat ∧ c.toNat < 0x110000 := c.valid
  have hbyte : ∀ n, 0 < n → n < 0x100 → n.toUInt8 ≠ 0 := by
    intro n hpos hn hzero
    have hvalue := toNat_toUInt8 hn
    rw [hzero] at hvalue
    exact absurd hvalue (Nat.ne_of_lt hpos)
  intro b hb
  simp only [encodeChar] at hb
  split at hb
  · rw [List.mem_singleton.mp hb]
    exact hbyte _ (by omega) (by omega)
  split at hb
  · simp only [List.mem_cons, List.not_mem_nil, or_false] at hb
    rcases hb with rfl | rfl <;> exact hbyte _ (by omega) (by omega)
  split at hb
  · simp only [List.mem_cons, List.not_mem_nil, or_false] at hb
    rcases hb with rfl | rfl | rfl <;> exact hbyte _ (by omega) (by omega)
  · simp only [List.mem_cons, List.not_mem_nil, or_false] at hb
    rcases hb with rfl | rfl | rfl | rfl <;> exact hbyte _ (by omega) (by omega)

/-! Texts. -/

theorem decodeChars_encode (cs : List Char) :
    decodeChars (cs.flatMap encodeChar) = cs.map some := by
  induction cs with
  | nil => rw [List.flatMap_nil, decodeChars, List.map_nil]
  | cons c cs ih =>
    obtain ⟨b, bs, hbytes, -, hread⟩ := encodeChar_spec c
    rw [List.flatMap_cons, hbytes, List.cons_append, decodeChars, hread, ih, List.map_cons]

/-- The bytes of a text are read back. -/
theorem decodeUtf8?_encodeUtf8 (s : String) : decodeUtf8? (encodeUtf8 s) = some s := by
  have hall : ∀ cs : List Char, (cs.map some).mapM id = some cs := by
    intro cs
    induction cs with
    | nil => rfl
    | cons c cs ih => rw [List.map_cons, List.mapM_cons, ih]; rfl
  rw [decodeUtf8?, encodeUtf8, decodeChars_encode, hall, Option.map_some, String.ofList_toList]

/-- Bytes that begin with a character do not begin with a half. -/
theorem halfOf?_eq_none {a b c : UInt8} {r : List UInt8} {x : Char}
    (h : (decodeFirst a (b :: c :: r)).1 = some x) : halfOf? a b c = none := by
  refine if_neg fun hhalf => ?_
  obtain ⟨rfl, hlow, -⟩ := hhalf
  have hlead : leadByte? 0xed = some (0xd, [(0x80, 0x9f), (0x80, 0xbf)]) := by decide
  have hhigh : ¬(0x80 ≤ b.toNat ∧ b.toNat ≤ 0x9f) := fun hrange =>
    absurd (UInt8.le_iff_toNat_le.mp hlow) (Nat.not_le.mpr (Nat.lt_succ_of_le hrange.2))
  simp only [decodeFirst, hlead, followBytes, if_neg hhigh, Option.map_none] at h
  cases h

theorem decodeUtf8Halves?_cons {a : UInt8} {bs rest : List UInt8} {x : Char}
    (h : decodeFirst a bs = (some x, rest)) :
    decodeUtf8Halves? (a :: bs) = (decodeUtf8Halves? rest).map (x :: ·) := by
  have hplain : decodeUtf8Halves? (a :: bs) = do
      let y ← (decodeFirst a bs).1
      return y :: (← decodeUtf8Halves? (decodeFirst a bs).2) := by
    rcases bs with _ | ⟨b, _ | ⟨c, r⟩⟩
    · rw [decodeUtf8Halves?]
      intro _ _ _ heq
      cases heq
    · rw [decodeUtf8Halves?]
      intro _ _ _ heq
      cases heq
    · rw [decodeUtf8Halves?, halfOf?_eq_none (congrArg Prod.fst h)]
  rw [hplain, h]
  cases decodeUtf8Halves? rest <;> rfl

theorem decodeUtf8Halves?_encode (cs : List Char) :
    decodeUtf8Halves? (cs.flatMap encodeChar) = some cs := by
  induction cs with
  | nil => rw [List.flatMap_nil, decodeUtf8Halves?]
  | cons c cs ih =>
    obtain ⟨b, bs, hbytes, -, hread⟩ := encodeChar_spec c
    rw [List.flatMap_cons, hbytes, List.cons_append, decodeUtf8Halves?_cons (hread _), ih,
      Option.map_some]

/-! The encoding. -/

theorem mark?_eq_none {b : UInt8} (hpos : b ≠ 0) (hascii : b.toNat < 0x80) (bs : List UInt8) :
    mark? (b :: bs) = none := by
  unfold mark?
  split
  · next h => exact absurd (List.cons.inj h).1 hpos
  all_goals
    first
    | rfl
    | next h =>
      rw [(List.cons.inj h).1] at hascii
      exact absurd hascii (by decide)

theorem guess_eq_utf8 {bs : List UInt8} (h : ∀ b ∈ bs, b ≠ 0) : guess bs = .utf8 := by
  unfold guess
  split
  · next a b _ _ _ =>
    rw [if_neg (h a (by simp)), if_neg (h b (by simp))]
  · next a b =>
    rw [if_neg (h a (by simp)), if_neg (h b (by simp))]
  · rfl

/-- The encoding of a text that begins with a character of ASCII is found out. -/
theorem decodeDetected?_encodeUtf8 {s : String} {c : Char} {cs : List Char}
    (hs : s.toList = c :: cs) (hascii : c.toNat < 0x80) (hzero : ∀ d ∈ s.toList, d.toNat ≠ 0) :
    decodeDetected? (encodeUtf8 s) = some s := by
  obtain ⟨b, bs, hbytes, hfirst, -⟩ := encodeChar_spec c
  have hnonzero : ∀ b ∈ encodeUtf8 s, b ≠ 0 := by
    intro b hb
    obtain ⟨d, hd, hb⟩ := List.mem_flatMap.mp hb
    exact encodeChar_ne_zero (hzero d hd) b hb
  have hall : encodeUtf8 s = b :: (bs ++ cs.flatMap encodeChar) := by
    rw [encodeUtf8, hs, List.flatMap_cons, hbytes, List.cons_append]
  have hmark : mark? (encodeUtf8 s) = none := by
    rw [hall] at hnonzero ⊢
    exact mark?_eq_none (hnonzero b List.mem_cons_self) (hfirst.mpr hascii) _
  simp only [decodeDetected?, hmark, guess_eq_utf8 hnonzero, Option.getD_none, List.drop_zero]
  rw [encodeUtf8, decodeUtf8Halves?_encode, Option.map_some, String.ofList_toList]

end ProcessTriggers.Text
