import ProcessTriggers.Digest.Hmac
import ProcessTriggers.Json.Printer
import ProcessTriggers.Text.Bytes

/-!
Signatures of webhook bodies: a marked hexadecimal digest of the body's bytes under a secret.
-/

namespace ProcessTriggers.Webhook

/-- What every signature starts with. -/
def signatureMark : String := "sha256="

/-- The bytes that are signed: bytes and text as they are, any other body as compact JSON. -/
def bodyBytes (body : Value) : Except Error (List UInt8) :=
  match body with
  | .bytes bs => .ok bs
  | .text s => Text.bytesOf s
  | v => do Text.bytesOf (← Json.print Json.compact v)

def hex (bs : List UInt8) : List Char := bs.flatMap fun b => Text.hexDigits 2 b.toNat

/-- The hexadecimal digest of a body under a secret. -/
def signatureDigits (secret : String) (body : Value) : Except Error (List Char) := do
  let key ← Text.bytesOf secret
  return hex (Hmac.digest key (← bodyBytes body))

def sign (secret : String) (body : Value) : Except Error String := do
  return signatureMark ++ String.ofList (← signatureDigits secret body)

end ProcessTriggers.Webhook
