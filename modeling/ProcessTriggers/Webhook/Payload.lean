import ProcessTriggers.Json.Reader
import ProcessTriggers.Text.Encoding

/-!
The payload of a webhook body: the JSON value that bytes or a text hold. What is no JSON stays a
text.
-/

namespace ProcessTriggers.Webhook

def payload (body : Value) : Value :=
  match body with
  | .text s => (Json.parse? s).getD (.text s)
  | .bytes bs =>
    ((Text.decodeDetected? bs).bind Json.parse?).getD (.text (Text.decodeUtf8Replacing bs))
  | v => v

end ProcessTriggers.Webhook
