import ProcessTriggers.Proofs.LetterCase
import ProcessTriggers.Proofs.PrintedText
import ProcessTriggers.Proofs.WebhookBodies
import ProcessTriggers.Webhook.Credential

/-!
Credentials of webhook calls. Under a secret a call is accepted exactly when its signature is the
mark and the digits of the body's digest, in any letter case, or when it gives no signature and the
secret itself. Only the bytes of the body matter for this.
-/

namespace ProcessTriggers.Webhook

/-! Bodies. -/

/-- Bodies that can be signed: bytes, and what JSON can express without halves of surrogate
pairs. -/
inductive Signable : Value → Prop
  | bytes (bs : List UInt8) : Signable (.bytes bs)
  | value {v : Value} : Json.Printable v → Signable v

/-- The bytes that stand for a body: its own, those of a text, or those of the compact JSON text
of any other value. -/
inductive HasBytes : Value → List UInt8 → Prop
  | bytes (bs : List UInt8) : HasBytes (.bytes bs) bs
  | text {s : String} : Text.hasHalf s = false → HasBytes (.text s) (Text.encodeUtf8 s)
  | json {v : Value} {s : String} : (∀ t, v ≠ .text t) → Json.print Json.compact v = .ok s →
      Text.hasHalf s = false → HasBytes v (Text.encodeUtf8 s)

theorem bytesOf_eq_ok {s : String} (h : Text.hasHalf s = false) :
    Text.bytesOf s = .ok (Text.encodeUtf8 s) := by
  rw [Text.bytesOf, h]
  rfl

theorem HasBytes.bodyBytes_eq {v : Value} {bs : List UInt8} (h : HasBytes v bs) :
    bodyBytes v = .ok bs := by
  cases h with
  | bytes => rfl
  | text hwhole => exact bytesOf_eq_ok hwhole
  | @json _ s hnoText hprint hwhole =>
    have hjson : bodyBytes v = (Json.print Json.compact v).bind Text.bytesOf := by
      cases v with
      | text t => exact absurd rfl (hnoText t)
      | bytes bs => cases hprint
      | _ => rfl
    rw [hjson, hprint]
    exact bytesOf_eq_ok hwhole

theorem Signable.hasBytes {v : Value} (h : Signable v) : ∃ bs, HasBytes v bs := by
  cases h with
  | bytes bs => exact ⟨bs, .bytes bs⟩
  | value hv =>
    by_cases htext : ∃ t, v = .text t
    · obtain ⟨t, rfl⟩ := htext
      cases hv with
      | text hwhole => exact ⟨_, .text hwhole⟩
    · obtain ⟨s, hprint, hwhole⟩ := Json.print_printable onOneLine_compact hv
      exact ⟨_, .json (fun t heq => htext ⟨t, heq⟩) hprint hwhole⟩

theorem signatureDigits_congr (secret : String) {v w : Value} (h : bodyBytes v = bodyBytes w) :
    signatureDigits secret v = signatureDigits secret w := by
  rw [signatureDigits, signatureDigits, h]

theorem verify_congr (secret : Value) {v w : Value} (h : bodyBytes v = bodyBytes w)
    (signature plainSecret : Value) :
    verify secret v signature plainSecret = verify secret w signature plainSecret := by
  have hcheck : ∀ s, checkSignature secret v s = checkSignature secret w s := fun s => by
    simp only [checkSignature, signatureDigits_congr _ h]
  simp only [verify, hcheck]

/-! Digits. -/

theorem hex_small (bs : List UInt8) : Text.Small (hex bs) := by
  have hdigit : ∀ n < 16, (Text.hexDigit n).toNat ≤ Text.lastDigit ∧
      (Text.hexDigit n).toLower = Text.hexDigit n := by decide
  intro c hc
  obtain ⟨b, -, hc⟩ := List.mem_flatMap.mp hc
  simp only [Text.hexDigits, List.nil_append, List.cons_append, List.mem_cons,
    List.not_mem_nil, or_false] at hc
  rcases hc with rfl | rfl
  · exact hdigit _ (Nat.mod_lt _ (by decide))
  · exact hdigit _ (Nat.mod_lt _ (by decide))

theorem signatureDigits_eq {secret : String} (hsecret : Text.hasHalf secret = false) {body : Value}
    {bs : List UInt8} (hbody : HasBytes body bs) : signatureDigits secret body =
      .ok (hex (Hmac.digest (Text.encodeUtf8 secret) bs)) := by
  simp only [signatureDigits, bytesOf_eq_ok hsecret, hbody.bodyBytes_eq]
  rfl

theorem encodeUtf8_injective {s t : String} (h : Text.encodeUtf8 s = Text.encodeUtf8 t) :
    s = t := by
  have hread := Text.decodeUtf8?_encodeUtf8 t
  rw [← h, Text.decodeUtf8?_encodeUtf8] at hread
  exact Option.some.inj hread

/-! Acceptance. -/

/-- Whether what a caller gives is genuine: a signature with the digits of a digest in any letter
case, or no signature and the secret. -/
def Genuine (secret digest : String) (signature plainSecret : Option String) : Prop :=
  (∃ received, signature = some (signatureMark ++ received) ∧
    Text.SameButCase received digest) ∨
      (signature = none ∨ signature = some "") ∧ plainSecret = some secret

/-- A text without halves is the only one with its bytes. -/
theorem bytesOf_eq_iff {t : String} (hwhole : Text.hasHalf t = false) (s : String) :
    Text.bytesOf s = .ok (Text.encodeUtf8 t) ↔ s = t := by
  constructor
  · intro h
    rw [Text.bytesOf] at h
    split at h
    · cases h
    · exact encodeUtf8_injective (Except.ok.inj h)
  · rintro rfl
    exact bytesOf_eq_ok hwhole

/-- The bytes of the small form of a text are those of small digits exactly when it differs from
them in letter case at most. -/
theorem lowered_bytes_iff {digits : List Char} (hdigits : Text.Small digits) (received : String) :
    Text.bytesOf (Text.lower received) = .ok (Text.encodeUtf8 (String.ofList digits)) ↔
      Text.SameButCase received (String.ofList digits) := by
  have hwhole : Text.hasHalf (String.ofList digits) = false := by
    refine Text.hasHalf_of_ascii fun c hc => ?_
    rw [String.toList_ofList] at hc
    exact Nat.lt_of_le_of_lt (hdigits c hc).1 (by decide)
  rw [← Text.lower_eq_iff hdigits, bytesOf_eq_iff hwhole]

/-- A comparison with what is expected passes when that is what there is. -/
theorem compare_ok_iff {α : Type} [DecidableEq α] (received : Except Error α) (expected : α)
    (r : Rejection) :
    received.bind (fun x => if x ≠ expected then Except.error r.error else .ok ()) = .ok () ↔
      received = .ok expected := by
  cases received with
  | error e => simp only [Except.bind, reduceCtorEq]
  | ok x => by_cases h : x = expected <;> simp [Except.bind, h]

theorem text_truthy {s : String} (h : s ≠ "") : (Value.text s).truthy = true := by
  simp [Value.truthy, h]

/-- Without a signature a call is accepted when it gives the secret. -/
theorem verify_unsigned_ok_iff {secret : String} (hsecret : secret ≠ "")
    (hwhole : Text.hasHalf secret = false) (body : Value) {signature : Value}
    (hnone : signature.truthy = false) (plainSecret : Option String) :
    verify (.text secret) body signature (.ofText? plainSecret) = .ok () ↔
      plainSecret = some secret := by
  have hmissing : ∀ given : Value, given.truthy = false →
      verify (.text secret) body signature given = .error Rejection.nothingGiven.error := by
    intro given hgiven
    unfold verify
    rw [text_truthy hsecret, hnone, hgiven]
    rfl
  cases plainSecret with
  | none => rw [Value.ofText?, hmissing _ rfl]; simp
  | some given =>
    rw [Value.ofText?, Option.some.injEq]
    by_cases hempty : given = ""
    · rw [hmissing _ (by rw [hempty]; rfl)]
      simp [hempty, hsecret.symm]
    · have hcompared : verify (.text secret) body signature (.text given) =
          (Text.bytesOf given).bind fun received => (Text.bytesOf secret).bind fun expected =>
            if received ≠ expected then .error Rejection.secret.error else .ok () := by
        unfold verify
        rw [text_truthy hsecret, hnone, text_truthy hempty]
        rfl
      rw [hcompared, bytesOf_eq_ok hwhole]
      exact (compare_ok_iff _ _ _).trans (bytesOf_eq_iff hwhole given)

section

variable {secret : String} {body : Value} {digits : List Char}
  (hsigned : signatureDigits secret body = .ok digits)
  (hdigits : Text.Small digits)

include hsigned hdigits

/-- A signature is accepted when it is the mark and the digits of the digest, in any letter case. -/
theorem checkSignature_ok_iff (signature : String) :
    checkSignature (.text secret) body signature = .ok () ↔
      ∃ received, signature = signatureMark ++ received ∧
        Text.SameButCase received (String.ofList digits) := by
  by_cases hmark : signatureMark.toList.isPrefixOf signature.toList = true
  · obtain ⟨rest, hrest⟩ := List.isPrefixOf_iff_prefix.mp hmark
    have hsignature : signature = signatureMark ++ String.ofList rest := by
      rw [← String.toList_inj, String.toList_append, String.toList_ofList, hrest]
    have hreceived : signature.toList.drop signatureMark.length = rest := by
      rw [← hrest]
      exact List.drop_left
    have hunique : ∀ received, signature = signatureMark ++ received →
        received = String.ofList rest := by
      intro received heq
      rw [hsignature, ← String.toList_inj, String.toList_append, String.toList_append] at heq
      exact String.toList_inj.mp (List.append_cancel_left heq).symm
    have hbytes := lowered_bytes_iff hdigits (String.ofList rest)
    have hcompared : checkSignature (.text secret) body signature =
        (Text.bytesOf (Text.lower (String.ofList rest))).bind fun received =>
          (signatureDigits secret body).bind fun expected =>
            if received ≠ Text.encodeUtf8 (String.ofList expected) then
              .error Rejection.signature.error
            else .ok () := by
      unfold checkSignature
      rw [hmark, hreceived]
      rfl
    have hcheck : checkSignature (.text secret) body signature = .ok () ↔
        Text.bytesOf (Text.lower (String.ofList rest)) =
          .ok (Text.encodeUtf8 (String.ofList digits)) := by
      rw [hcompared, hsigned]
      exact compare_ok_iff _ _ _
    rw [hcheck, hbytes]
    refine ⟨fun h => ⟨_, hsignature, h⟩, fun ⟨received, heq, h⟩ => ?_⟩
    rw [← hunique received heq]
    exact h
  · have hcheck : checkSignature (.text secret) body signature =
        .error Rejection.signatureFormat.error := by
      rw [Bool.not_eq_true] at hmark
      simp only [checkSignature, hmark, Bool.not_false, if_true]
      rfl
    rw [hcheck]
    refine ⟨nofun, fun ⟨received, heq, _⟩ => absurd ?_ hmark⟩
    rw [heq, String.toList_append]
    exact List.isPrefixOf_iff_prefix.mpr (List.prefix_append _ _)

/-- A call is accepted when its credentials are genuine. -/
theorem verify_ok_iff (hsecret : secret ≠ "") (hwhole : Text.hasHalf secret = false)
    (signature plainSecret : Option String) :
    verify (.text secret) body (.ofText? signature) (.ofText? plainSecret) = .ok () ↔
      Genuine secret (String.ofList digits) signature plainSecret := by
  have hmark : ∀ received, signatureMark ++ received ≠ "" := fun received h => by
    have := congrArg String.toList h
    simp [signatureMark] at this
  by_cases hunsigned : signature = none ∨ signature = some ""
  · have hfalsy : (Value.ofText? signature).truthy = false := by
      rcases hunsigned with rfl | rfl <;> rfl
    rw [verify_unsigned_ok_iff hsecret hwhole body hfalsy]
    refine ⟨fun h => .inr ⟨hunsigned, h⟩, ?_⟩
    rintro (⟨received, rfl, -⟩ | ⟨-, h⟩)
    · exact absurd hunsigned (by simpa using hmark received)
    · exact h
  · obtain ⟨given, rfl⟩ := Option.ne_none_iff_exists'.mp fun h => hunsigned (.inl h)
    have hgiven : given ≠ "" := fun h => hunsigned (.inr (congrArg some h))
    have hverify : verify (.text secret) body (.text given) (.ofText? plainSecret) =
        checkSignature (.text secret) body given := by
      unfold verify
      rw [text_truthy hsecret, text_truthy hgiven]
      rfl
    rw [Value.ofText?, hverify, checkSignature_ok_iff hsigned hdigits]
    constructor
    · rintro ⟨received, heq, hsame⟩
      exact .inl ⟨received, congrArg some heq, hsame⟩
    · rintro (⟨received, heq, hsame⟩ | ⟨hnone, -⟩)
      · exact ⟨received, Option.some.inj heq, hsame⟩
      · exact absurd hnone hunsigned

end

end ProcessTriggers.Webhook
