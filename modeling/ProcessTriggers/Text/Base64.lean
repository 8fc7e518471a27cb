/-!
Bytes written with sixty-four characters, each for six bits: four of them stand for three bytes, and
equals signs fill up the last four. Characters of any other kind are passed over.
-/

namespace ProcessTriggers.Text.Base64

/-- The six bits that a character stands for. -/
def sextet? (c : Char) : Option Nat :=
  let n := c.toNat
  if 'A' ≤ c ∧ c ≤ 'Z' then some (n - 65)
  else if 'a' ≤ c ∧ c ≤ 'z' then some (n - 71)
  else if '0' ≤ c ∧ c ≤ '9' then some (n + 4)
  else if c = '+' then some 62
  else if c = '/' then some 63
  else none

/-- The bytes that are written from a place among four characters on. `left` are the bits that no
byte has taken yet, and `fillers` counts the equals signs since the last character that counted;
enough of them end the text. None if the text ends among four characters. -/
def decodeFrom (place left fillers : Nat) : List Char → Option (List UInt8)
  | [] => if place = 0 then some [] else none
  | c :: r =>
    if c = '=' then
      if place < 2 then decodeFrom place left fillers r
      else if 4 ≤ place + fillers + 1 then some []
      else decodeFrom place left (fillers + 1) r
    else
      match sextet? c, place with
      | none, _ => decodeFrom place left fillers r
      | some d, 0 => decodeFrom 1 d 0 r
      | some d, 1 => (decodeFrom 2 (d % 16) 0 r).map ((left * 4 + d / 16).toUInt8 :: ·)
      | some d, 2 => (decodeFrom 3 (d % 4) 0 r).map ((left * 16 + d / 4).toUInt8 :: ·)
      | some d, _ => (decodeFrom 0 0 0 r).map ((left * 64 + d).toUInt8 :: ·)

def decode? (cs : List Char) : Option (List UInt8) := decodeFrom 0 0 0 cs

theorem sextet?_lt {c : Char} {n : Nat} (h : sextet? c = some n) : n < 64 := by
  simp only [sextet?, Char.le_def, UInt32.le_iff_toNat_le, Char.toNat] at h
  grind

end ProcessTriggers.Text.Base64
