import ProcessTriggers.Text.Surrogate
import ProcessTriggers.Text.Utf8

/-!
Detecting the encoding of JSON bytes. A byte order mark tells it; without one the place of zero
bytes among the first four does, because a JSON text starts with ASCII characters. Halves of
surrogate pairs are taken wherever they stand.
-/

namespace ProcessTriggers.Text

inductive Encoding
  | utf8
  | utf16 (bigEndian : Bool)
  | utf32 (bigEndian : Bool)
  deriving DecidableEq

/-- The encoding and the length of a byte order mark. -/
def mark? : List UInt8 → Option (Encoding × Nat)
  | 0 :: 0 :: 0xfe :: 0xff :: _ => some (.utf32 true, 4)
  | 0xff :: 0xfe :: 0 :: 0 :: _ => some (.utf32 false, 4)
  | 0xfe :: 0xff :: _ => some (.utf16 true, 2)
  | 0xff :: 0xfe :: _ => some (.utf16 false, 2)
  | 0xef :: 0xbb :: 0xbf :: _ => some (.utf8, 3)
  | _ => none

/-- The encoding told by zero bytes. -/
def guess : List UInt8 → Encoding
  | a :: b :: c :: d :: _ =>
    if a = 0 then if b = 0 then .utf32 true else .utf16 true
    else if b = 0 then if c = 0 ∧ d = 0 then .utf32 false else .utf16 false
    else .utf8
  | [a, b] => if a = 0 then .utf16 true else if b = 0 then .utf16 false else .utf8
  | _ => .utf8

/-- The number written by bytes, the first of them the most or the least significant. -/
def unit (bigEndian : Bool) (bs : List UInt8) : Nat :=
  (if bigEndian then bs else bs.reverse).foldl (fun n b => n * 256 + b.toNat) 0

/-- The number of a half that is written in three bytes. -/
def halfOf? (a b c : UInt8) : Option Nat :=
  if a = 0xed ∧ 0xa0 ≤ b ∧ b ≤ 0xbf ∧ 0x80 ≤ c ∧ c ≤ 0xbf then
    some (0xd000 + (b.toNat - 0x80) * 0x40 + (c.toNat - 0x80))
  else none

def decodeUtf8Halves? : List UInt8 → Option (List Char)
  | [] => some []
  | a :: bs =>
    match bs with
    | b :: c :: r =>
      match halfOf? a b c with
      | some n => (decodeUtf8Halves? r).map (charOf n :: ·)
      | none => do
        let x ← (decodeFirst a (b :: c :: r)).1
        return x :: (← decodeUtf8Halves? (decodeFirst a (b :: c :: r)).2)
    | r => do
      let x ← (decodeFirst a r).1
      return x :: (← decodeUtf8Halves? (decodeFirst a r).2)
termination_by bs => bs.length
decreasing_by
  all_goals simp
  · omega
  · have := decodeFirst_length_le a (b :: c :: r)
    simp at this
    omega
  · have := decodeFirst_length_le a r
    omega

def decodeUtf32? (bigEndian : Bool) : List UInt8 → Option (List Char)
  | [] => some []
  | a :: b :: c :: d :: r => do
    let n := unit bigEndian [a, b, c, d]
    guard (n < 0x110000)
    return charOf n :: (← decodeUtf32? bigEndian r)
  | _ => none

def decodeUtf16? (bigEndian : Bool) : List UInt8 → Option (List Char)
  | [] => some []
  | [_] => none
  | a :: b :: r =>
    let n := unit bigEndian [a, b]
    match r with
    | c :: d :: r' =>
      let m := unit bigEndian [c, d]
      if isHighHalf n && isLowHalf m then (decodeUtf16? bigEndian r').map (joinHalves n m :: ·)
      else (decodeUtf16? bigEndian (c :: d :: r')).map (charOf n :: ·)
    | r => (decodeUtf16? bigEndian r).map (charOf n :: ·)

/-- The text of JSON bytes. The mark belongs to it only when it does not tell the encoding. -/
def decodeDetected? (bs : List UInt8) : Option String :=
  let (encoding, n) := (mark? bs).getD (guess bs, 0)
  let body := bs.drop n
  match encoding with
  | .utf8 => (decodeUtf8Halves? body).map String.ofList
  | .utf16 big => (decodeUtf16? big body).map String.ofList
  | .utf32 big => (decodeUtf32? big body).map String.ofList

end ProcessTriggers.Text
