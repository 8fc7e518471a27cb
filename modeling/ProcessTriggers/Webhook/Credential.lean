import ProcessTriggers.Text.Lowercase
import ProcessTriggers.Webhook.Signature

/-!
Credentials of a webhook call: a signature of the body, or else the secret itself. A trigger
without a secret accepts any caller.
-/

namespace ProcessTriggers.Webhook

inductive Rejection
  | signatureFormat
  | signature
  | secret
  | nothingGiven
  deriving DecidableEq

def Rejection.message : Rejection → String
  | .signatureFormat => "Invalid signature format. Expected: sha256=<hex>"
  | .signature => "Invalid webhook signature"
  | .secret => "Invalid webhook secret"
  | .nothingGiven => "Missing webhook authentication"

def Rejection.error (r : Rejection) : Error := .plain .webhookAuth r.message

/-- The text of a value that must be one to be used as the member `name` implies. -/
def asText (v : Value) (name : String) : Except Error String :=
  match v with
  | .text s => .ok s
  | v => .error (v.lacks name)

/-- A signature is the mark and the digits of the body's digest, in any letter case. -/
def checkSignature (secret body : Value) (signature : String) : Except Error Unit := do
  if !signatureMark.toList.isPrefixOf signature.toList then throw Rejection.signatureFormat.error
  let received := Text.lower (String.ofList (signature.toList.drop signatureMark.length))
  let received ← Text.bytesOf received
  let expected ← signatureDigits (← asText secret "encode") body
  if received ≠ Text.encodeUtf8 (String.ofList expected) then throw Rejection.signature.error

/-- Accepts a call or tells why it is rejected. A signature that is given decides alone. -/
def verify (secret body signature plainSecret : Value) : Except Error Unit := do
  if !secret.truthy then return
  if signature.truthy then
    match signature with
    | .bytes _ => throw .bytesNotText
    | v => checkSignature secret body (← asText v "startswith")
  else if plainSecret.truthy then
    let given ← Text.bytesOf (← asText plainSecret "encode")
    let expected ← Text.bytesOf (← asText secret "encode")
    if given ≠ expected then throw Rejection.secret.error
  else throw Rejection.nothingGiven.error

end ProcessTriggers.Webhook
