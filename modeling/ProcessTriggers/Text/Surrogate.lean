/-!
Halves of surrogate pairs. Two of them together stand for one character beyond the basic plane. A
half that stands alone is no character, but a text may hold one: it is kept as a private character
at a fixed distance, and its number is read back from there.
-/

namespace ProcessTriggers.Text

def isHighHalf (n : Nat) : Bool := 0xd800 ≤ n && n < 0xdc00

def isLowHalf (n : Nat) : Bool := 0xdc00 ≤ n && n < 0xe000

/-- The character that a high and a low half stand for. -/
def joinHalves (high low : Nat) : Char :=
  Char.ofNat (0x10000 + (high - 0xd800) * 0x400 + (low - 0xdc00))

/-- The high and the low half of a number beyond the basic plane. -/
def splitHalves (n : Nat) : Nat × Nat :=
  (0xd800 + (n - 0x10000) / 0x400, 0xdc00 + (n - 0x10000) % 0x400)

/-- How far the private character of a half is from its number. -/
def halfShift : Nat := 0x100000

/-- The character with a number; for a half the one that it is kept as. -/
def charOf (n : Nat) : Char :=
  Char.ofNat (if isHighHalf n || isLowHalf n then n + halfShift else n)

/-- Whether a character keeps a half. -/
def isHalf (c : Char) : Bool := 0xd800 + halfShift ≤ c.toNat && c.toNat < 0xe000 + halfShift

/-- The number of a character, or of the half that it keeps. -/
def codePoint (c : Char) : Nat := if isHalf c then c.toNat - halfShift else c.toNat

/-- Whether a text holds a half that stands alone. -/
def hasHalf (s : String) : Bool := s.toList.any isHalf

theorem codePoint_eq_toNat {c : Char} (h : isHalf c = false) : codePoint c = c.toNat := by
  simp [codePoint, h]

theorem isHalf_eq_false_of_lt {c : Char} (h : c.toNat < 0x10000) : isHalf c = false := by
  have : ¬0xd800 + halfShift ≤ c.toNat := by unfold halfShift; omega
  simp [isHalf, this]

end ProcessTriggers.Text
