import AuthGate.Proofs.Text.Base64Canonical
import AuthGate.Proofs.Token.RoundTrip

namespace AuthGate

open Base64 (encode decode decode_eq_ok_iff)

namespace RawToken

/-- The parts that a text is taken apart into are the text again, and there are
three of them. -/
theorem of_ofText_eq_ok {raw : String} {token : RawToken} (h : ofText raw = .ok token) :
    raw = token.text ∧
      pieces '.' raw.toList =
        [token.header.toList, token.payload.toList, token.signature.toList] := by
  unfold ofText at h
  split at h
  · next header payload signature hpieces =>
    split at h
    · cases h
    · cases h
      simp only [String.toList_ofList]
      refine ⟨String.toList_inj.1 ?_, hpieces⟩
      have hraw := intercalate_pieces '.' raw.toList
      rw [hpieces] at hraw
      rw [toList_text, ← hraw]
      simp [List.intercalate_cons_cons, List.intercalate_singleton]
  · cases h

end RawToken

namespace TokenCodec

/-- What makes a codec accept the parts of a token: each is the only spelling of
its bytes, the header names the one algorithm, the payload states the claims, and
the signature is that of the text before it. -/
structure Accepts (codec : TokenCodec) (token : RawToken) (header payload : List UInt8)
    (claims : Claims) : Prop where
  header_eq : token.header = encode .urlSafe header
  algorithm : TokenHeader.ofBytes header = .ok "HS256"
  payload_eq : token.payload = encode .urlSafe payload
  stated : Claims.ofBytes payload = .ok claims
  times : claims.badTime? = none
  registered : RegisteredClaims.check payload = .ok ()
  signature_eq : token.signature = encode .urlSafe (codec.sign token.signed)

theorem parse_eq_ok_iff {raw : String} {claims : Claims} :
    parse raw = .ok claims ↔ ∃ token payload, RawToken.ofText raw = .ok token ∧
      token.payload = encode .urlSafe payload ∧ Claims.ofBytes payload = .ok claims ∧
      claims.badTime? = none := by
  unfold parse
  simp only [bind_eq_ok_iff, mapError_eq_ok_iff, decode_eq_ok_iff]
  constructor
  · rintro ⟨token, htoken, payload, hpayload, stated, hstated, h⟩
    split at h
    · cases h
    · next htimes =>
      cases h
      exact ⟨token, payload, htoken, hpayload, hstated, htimes⟩
  · rintro ⟨token, payload, htoken, hpayload, hstated, htimes⟩
    refine ⟨token, htoken, payload, hpayload, claims, hstated, ?_⟩
    rw [htimes]
    rfl

variable (codec : TokenCodec)

theorem checkSignature_eq_ok_iff {token : RawToken} :
    codec.checkSignature token = .ok () ↔ ∃ header payload,
      token.header = encode .urlSafe header ∧ TokenHeader.ofBytes header = .ok "HS256" ∧
      token.signature = encode .urlSafe (codec.sign token.signed) ∧
      token.payload = encode .urlSafe payload ∧ RegisteredClaims.check payload = .ok () := by
  unfold checkSignature
  simp only [bind_eq_ok_iff, mapError_eq_ok_iff, decode_eq_ok_iff, unless_throw_eq_ok_iff,
    Decidable.not_not]
  constructor
  · rintro ⟨header, hheader, _, hread, rfl, _, hsignature, rfl, payload, hpayload, hregistered⟩
    exact ⟨header, payload, hheader, hread, hsignature, hpayload, hregistered⟩
  · rintro ⟨header, payload, hheader, hread, hsignature, hpayload, hregistered⟩
    exact ⟨header, hheader, _, hread, rfl, _, hsignature, rfl, payload, hpayload, hregistered⟩

/-- A text verifies exactly if it is taken apart into parts that the codec
accepts. -/
theorem verify_eq_ok_iff {raw : String} {claims : Claims} :
    codec.verify raw = .ok claims ↔ ∃ token header payload,
      RawToken.ofText raw = .ok token ∧ codec.Accepts token header payload claims := by
  unfold verify
  simp only [bind_eq_ok_iff, mapError_eq_ok_iff, parse_eq_ok_iff]
  constructor
  · rintro ⟨_, ⟨token, payload, htoken, hpayload, hstated, htimes⟩, _, htoken', ⟨⟩, hsigned, ⟨⟩⟩
    rw [htoken] at htoken'
    cases htoken'
    obtain ⟨header, payload', hheader, hread, hsignature, hpayload', hregistered⟩ :=
      codec.checkSignature_eq_ok_iff.1 hsigned
    obtain rfl : payload = payload' :=
      Base64.encode_injective (hpayload.symm.trans hpayload')
    exact ⟨token, header, payload, htoken, hheader, hread, hpayload, hstated, htimes, hregistered,
      hsignature⟩
  · rintro ⟨token, header, payload, htoken, h⟩
    refine ⟨claims, ⟨token, payload, htoken, h.payload_eq, h.stated, h.times⟩, token, htoken, (),
      ?_, rfl⟩
    exact codec.checkSignature_eq_ok_iff.2
      ⟨header, payload, h.header_eq, h.algorithm, h.signature_eq, h.payload_eq, h.registered⟩

variable {codec}

/-- Parts that are accepted are settled by the bytes of the header and of the
payload. -/
theorem Accepts.token_eq {s t : RawToken} {header payload header' payload' : List UInt8}
    {claims claims' : Claims} (hs : codec.Accepts s header payload claims)
    (ht : codec.Accepts t header' payload' claims') (hheader : header = header')
    (hpayload : payload = payload') : s = t := by
  subst hheader hpayload
  have hfirst : s.header = t.header := hs.header_eq.trans ht.header_eq.symm
  have hsecond : s.payload = t.payload := hs.payload_eq.trans ht.payload_eq.symm
  have hsigned : s.signed = t.signed := by
    unfold RawToken.signed
    rw [hfirst, hsecond]
  have hthird : s.signature = t.signature := by
    rw [hs.signature_eq, ht.signature_eq, hsigned]
  cases s
  cases t
  cases hfirst
  cases hsecond
  cases hthird
  rfl

/-- An accepted token has one spelling. It has three parts, each written in the
one way that its bytes have; the header names the one algorithm, the last part is
the signature of all that comes before it, and the claims are those of the second
part. Another accepted text whose first two parts decode to the same bytes, if
only because they are the same, is the same text. -/
theorem accepted_spelling {raw : String} {claims : Claims}
    (hverify : codec.verify raw = .ok claims) :
    ∃ token : RawToken, RawToken.ofText raw = .ok token ∧
      raw = token.header ++ "." ++ token.payload ++ "." ++ token.signature ∧
      pieces '.' raw.toList =
        [token.header.toList, token.payload.toList, token.signature.toList] ∧
      (∃ header, token.header = encode .urlSafe header ∧
        TokenHeader.ofBytes header = .ok "HS256") ∧
      token.signature =
        encode .urlSafe (Sha256.hmac codec.secret (utf8 (token.header ++ "." ++ token.payload))) ∧
      (∃ payload, token.payload = encode .urlSafe payload ∧
        Claims.ofBytes payload = .ok claims) ∧
      ∀ (other : String) (token' : RawToken) (claims' : Claims),
        codec.verify other = .ok claims' → RawToken.ofText other = .ok token' →
        decode .urlSafe token'.header = decode .urlSafe token.header →
        decode .urlSafe token'.payload = decode .urlSafe token.payload → other = raw := by
  obtain ⟨token, header, payload, htoken, haccepts⟩ := codec.verify_eq_ok_iff.1 hverify
  obtain ⟨hraw, hpieces⟩ := RawToken.of_ofText_eq_ok htoken
  refine ⟨token, htoken, hraw, hpieces, ⟨header, haccepts.header_eq, haccepts.algorithm⟩,
    haccepts.signature_eq, ⟨payload, haccepts.payload_eq, haccepts.stated⟩, ?_⟩
  intro other token' claims' hverify' htoken' hheader hpayload
  obtain ⟨_, header', payload', hfound, haccepts'⟩ := codec.verify_eq_ok_iff.1 hverify'
  rw [htoken'] at hfound
  cases hfound
  rw [haccepts'.header_eq, haccepts.header_eq, Base64.decode_encode, Base64.decode_encode]
    at hheader
  rw [haccepts'.payload_eq, haccepts.payload_eq, Base64.decode_encode, Base64.decode_encode]
    at hpayload
  obtain rfl : token' = token :=
    haccepts'.token_eq haccepts (Except.ok.inj hheader) (Except.ok.inj hpayload)
  rw [hraw, (RawToken.of_ofText_eq_ok htoken').1]

/-- Of the texts with the header and the payload of an issued token only the token
itself is accepted. -/
theorem issued_spelling :
    let codec : TokenCodec := ⟨utf8 "0123456789abcdef0123456789abcdef", .seconds 3600⟩
    let claims := Claims.between "alice" "a" .epoch ⟨3_600_000_000_000, by decide, by decide⟩
    codec.verify (codec.compact claims) = .ok claims ∧
      ∀ (other : String) (token' : RawToken) (claims' : Claims),
        codec.verify other = .ok claims' → RawToken.ofText other = .ok token' →
        token'.header = encodePart TokenHeader.issued →
        token'.payload = encodePart claims.toJson → other = codec.compact claims := by
  intro codec claims
  have hverify : codec.verify (codec.compact claims) = .ok claims :=
    verify_compact_between _ _ _ _ _
  refine ⟨hverify, ?_⟩
  obtain ⟨token, htoken, -, -, -, -, -, hunique⟩ := accepted_spelling hverify
  rw [ofText_compact] at htoken
  cases htoken
  intro other token' claims' hverify' htoken' hheader hpayload
  exact hunique other token' claims' hverify' htoken' (congrArg _ hheader) (congrArg _ hpayload)

end TokenCodec

end AuthGate
