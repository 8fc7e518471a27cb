import ProcessTriggers.Digest.Sha256

/-!
Keyed hashing with SHA-256: a message is hashed under the key, and the result once more.
-/

namespace ProcessTriggers.Hmac

/-- The length of a block of the hash function in bytes. -/
def blockSize : Nat := 64

/-- A key filled up to a block; one that is longer is hashed first. -/
def blockKey (key : List UInt8) : List UInt8 :=
  let k := if blockSize < key.length then Sha256.digest key else key
  k ++ List.replicate (blockSize - k.length) 0

def masked (key : List UInt8) (mask : UInt8) : List UInt8 := (blockKey key).map (· ^^^ mask)

def digest (key message : List UInt8) : List UInt8 :=
  Sha256.digest (masked key 0x5c ++ Sha256.digest (masked key 0x36 ++ message))

end ProcessTriggers.Hmac
