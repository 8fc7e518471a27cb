import ProcessTriggers.Proofs.JsonText
import ProcessTriggers.Proofs.Utf8
import ProcessTriggers.Webhook.Payload
import ProcessTriggers.Webhook.Signature

/-!
Bodies of webhook calls. The bytes that are signed for a JSON body are the UTF-8 of one text, and
the payload of these bytes, like that of the text, is the body.
-/

namespace ProcessTriggers.Webhook

/-- A body that is signed as JSON text and kept exactly by it. -/
structure IsJsonBody (v : Value) : Prop where
  exact : Json.Exact v
  noText : ∀ s, v ≠ .text s

theorem onOneLine_compact : Json.compact.OnOneLine [] := ⟨rfl, rfl, rfl, by simp⟩

variable {v : Value}

theorem IsJsonBody.bodyBytes_eq (h : IsJsonBody v) :
    bodyBytes v = (Json.print Json.compact v).bind Text.bytesOf := by
  cases h.exact with
  | text => exact absurd rfl (h.noText _)
  | _ => rfl

/-- The text of a JSON body, whose bytes are signed. -/
theorem IsJsonBody.exists_text (h : IsJsonBody v) : ∃ s, bodyBytes v = .ok (Text.encodeUtf8 s) ∧
    Text.decodeDetected? (Text.encodeUtf8 s) = some s ∧ Json.parse? s = some v := by
  obtain ⟨s, hprint, hreads, hparse⟩ := Json.print_onOneLine onOneLine_compact h.exact
  obtain ⟨c, cs, hs, -, -, hascii⟩ := hreads.exists_cons
  have hzero : ∀ d ∈ s.toList, d.toNat ≠ 0 := fun d hd => by
    have := (hreads.visible d hd).shown
    omega
  refine ⟨s, ?_, Text.decodeDetected?_encodeUtf8 hs hascii hzero, hparse⟩
  rw [h.bodyBytes_eq, hprint, Except.bind, Text.bytesOf, Json.hasHalf_of_visible hreads.visible]
  rfl

/-- The payload of the bytes that are signed for a JSON body is the body. -/
theorem payload_bodyBytes (h : IsJsonBody v) {bs : List UInt8} (hbytes : bodyBytes v = .ok bs) :
    payload (.bytes bs) = v := by
  obtain ⟨s, hencoded, hdetected, hparse⟩ := h.exists_text
  rw [← Except.ok.inj (hencoded.symm.trans hbytes), payload, hdetected, Option.bind_some, hparse,
    Option.getD_some]

end ProcessTriggers.Webhook
