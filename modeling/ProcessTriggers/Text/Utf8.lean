/-!
UTF-8. Encoding gives one to four bytes for a character; decoding either refuses ill-formed bytes
or puts one replacement character for each longest beginning of a sequence that is not completed.
-/

namespace ProcessTriggers.Text

def encodeChar (c : Char) : List UInt8 :=
  let n := c.toNat
  let tail (shift : Nat) : UInt8 := (0x80 + n / Nat.pow 2 shift % 0x40).toUInt8
  if n < 0x80 then [n.toUInt8]
  else if n < 0x800 then [(0xc0 + n / 0x40).toUInt8, tail 0]
  else if n < 0x10000 then [(0xe0 + n / 0x1000).toUInt8, tail 6, tail 0]
  else [(0xf0 + n / 0x40000).toUInt8, tail 12, tail 6, tail 0]

def encodeUtf8 (s : String) : List UInt8 := s.toList.flatMap encodeChar

/-- What a first byte announces: its own bits, and the range of each byte that must follow. The
second byte's range is narrowed where a sequence would be too long or denote a surrogate. -/
def leadByte? (b : UInt8) : Option (Nat × List (Nat × Nat)) :=
  let n := b.toNat
  let any := (0x80, 0xbf)
  if n < 0x80 then some (n, [])
  else if 0xc2 ≤ n ∧ n ≤ 0xdf then some (n - 0xc0, [any])
  else if n = 0xe0 then some (0, [(0xa0, 0xbf), any])
  else if n = 0xed then some (0xd, [(0x80, 0x9f), any])
  else if 0xe1 ≤ n ∧ n ≤ 0xef then some (n - 0xe0, [any, any])
  else if n = 0xf0 then some (0, [(0x90, 0xbf), any, any])
  else if n = 0xf4 then some (4, [(0x80, 0x8f), any, any])
  else if 0xf1 ≤ n ∧ n ≤ 0xf3 then some (n - 0xf0, [any, any, any])
  else none

/-- Takes the bytes that follow a first byte; none of the number when one is missing or out of its
range, with what is left after those that fitted. -/
def followBytes (acc : Nat) : List (Nat × Nat) → List UInt8 → Option Nat × List UInt8
  | [], bs => (some acc, bs)
  | _ :: _, [] => (none, [])
  | (lo, hi) :: ranges, b :: bs =>
    if lo ≤ b.toNat ∧ b.toNat ≤ hi then followBytes (acc * 0x40 + b.toNat % 0x40) ranges bs
    else (none, b :: bs)

theorem followBytes_length_le (acc : Nat) (ranges : List (Nat × Nat)) (bs : List UInt8) :
    (followBytes acc ranges bs).2.length ≤ bs.length := by
  fun_induction followBytes acc ranges bs <;> simp_all <;> omega

/-- The first character of some bytes, none where they begin ill-formed, and the bytes after it. -/
def decodeFirst (b : UInt8) (bs : List UInt8) : Option Char × List UInt8 :=
  match leadByte? b with
  | none => (none, bs)
  | some (acc, ranges) =>
    let (n, rest) := followBytes acc ranges bs
    (n.map Char.ofNat, rest)

theorem decodeFirst_length_le (b : UInt8) (bs : List UInt8) :
    (decodeFirst b bs).2.length ≤ bs.length := by
  unfold decodeFirst
  split
  · exact Nat.le_refl _
  · exact followBytes_length_le ..

/-- The characters of some bytes, none for each ill-formed beginning. -/
def decodeChars : List UInt8 → List (Option Char)
  | [] => []
  | b :: bs => (decodeFirst b bs).1 :: decodeChars (decodeFirst b bs).2
termination_by bs => bs.length
decreasing_by
  have := decodeFirst_length_le b bs
  simp
  omega

def decodeUtf8? (bs : List UInt8) : Option String := ((decodeChars bs).mapM id).map String.ofList

def decodeUtf8Replacing (bs : List UInt8) : String :=
  String.ofList ((decodeChars bs).map (·.getD '\ufffd'))

end ProcessTriggers.Text
