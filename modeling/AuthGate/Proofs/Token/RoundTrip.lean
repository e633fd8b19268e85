import AuthGate.Proofs.Text.Base64
import AuthGate.Proofs.Time.Instant
import AuthGate.Proofs.Token.Bearer
import AuthGate.Proofs.Token.Claims
import AuthGate.Proofs.Token.Parts
import AuthGate.Proofs.Token.Validity

namespace AuthGate

namespace Claims

variable (subject jti : String) (now expiry : Instant)

@[simp] theorem issuedAt_between : (between subject jti now expiry).issuedAt = now := by
  unfold issuedAt
  change (Instant.ofUnix? now.unixSeconds now.subsecNanos).getD .epoch = now
  rw [Instant.ofUnix?_unixSeconds, Option.getD_some]

@[simp] theorem expiresAt_between : (between subject jti now expiry).expiresAt = expiry := by
  unfold expiresAt
  change (Instant.ofUnix? expiry.unixSeconds expiry.subsecNanos).getD .epoch = expiry
  rw [Instant.ofUnix?_unixSeconds, Option.getD_some]

theorem badTime?_between : (between subject jti now expiry).badTime? = none := by
  unfold badTime?
  change (if (Instant.ofUnix? now.unixSeconds now.subsecNanos).isNone then _
    else if (Instant.ofUnix? expiry.unixSeconds expiry.subsecNanos).isNone then _ else _) = _
  rw [Instant.ofUnix?_unixSeconds, Instant.ofUnix?_unixSeconds]
  rfl

theorem fits_between : (between subject jti now expiry).Fits where
  iat := now.unixSeconds_range
  exp := expiry.unixSeconds_range
  iatNanos := Nat.lt_trans now.subsecNanos_lt (by decide)
  expNanos := Nat.lt_trans expiry.subsecNanos_lt (by decide)

end Claims

theorem mapError_ok {ε ε' α : Type} (f : ε → ε') (a : α) :
    (Except.ok a : Except ε α).mapError f = .ok a := rfl

namespace TokenCodec

variable (codec : TokenCodec) (claims : Claims)

/-- The parts of a token with its signature left out. -/
def unsignedParts : RawToken := ⟨encodePart TokenHeader.issued, encodePart claims.toJson, ""⟩

/-- The parts of the token that states given claims. -/
def parts : RawToken :=
  { unsignedParts claims with
    signature := Base64.encode .urlSafe (codec.sign (unsignedParts claims).signed) }

theorem compact_eq : codec.compact claims = (codec.parts claims).text := rfl

theorem decode_header :
    Base64.decode .urlSafe (codec.parts claims).header = .ok (utf8 TokenHeader.issued.render) :=
  Base64.decode_encode .urlSafe _

theorem decode_payload :
    Base64.decode .urlSafe (codec.parts claims).payload = .ok (utf8 claims.toJson.render) :=
  Base64.decode_encode .urlSafe _

theorem decode_signature :
    Base64.decode .urlSafe (codec.parts claims).signature =
      .ok (codec.sign (codec.parts claims).signed) := Base64.decode_encode .urlSafe _

theorem ofText_compact : RawToken.ofText (codec.compact claims) = .ok (codec.parts claims) := by
  have hdot : ∀ bytes, '.' ∉ (Base64.encode .urlSafe bytes).toList :=
    fun bytes h => (Base64.of_mem_encode h).1 rfl
  have hheader : (codec.parts claims).header ≠ "" := by
    intro h
    have hbytes : utf8 TokenHeader.issued.render = [] := (Base64.encode_eq_empty_iff _).1 h
    have hread := TokenHeader.ofBytes_issued
    rw [hbytes] at hread
    cases hread
  have hsignature : (codec.parts claims).signature ≠ "" := by
    intro h
    have hbytes := (Base64.encode_eq_empty_iff _).1 h
    have hlength := Sha256.length_hmac codec.secret (utf8 (unsignedParts claims).signed)
    rw [sign] at hbytes
    rw [hbytes] at hlength
    exact absurd hlength (by decide)
  exact RawToken.ofText_text (hdot _) (hdot _) (hdot _) hheader hsignature

/-- A token has no blanks, so that a header can carry it. -/
theorem unpadded_compact : Unpadded (codec.compact claims).toList := by
  have hblank : ∀ bytes, ∀ c ∈ (Base64.encode .urlSafe bytes).toList, isBlank c = false :=
    fun bytes c h => (Base64.of_mem_encode h).2
  refine unpadded_of_forall fun c hc => ?_
  rw [compact_eq, RawToken.toList_text, List.mem_append, List.mem_cons, List.mem_append,
    List.mem_cons] at hc
  rcases hc with hheader | rfl | hpayload | rfl | hsignature
  · exact hblank _ c hheader
  · rfl
  · exact hblank _ c hpayload
  · rfl
  · exact hblank _ c hsignature

theorem compact_ne_empty : codec.compact claims ≠ "" := by
  intro h
  have hlist := (codec.parts claims).toList_text
  rw [← compact_eq, h] at hlist
  exact absurd hlist.symm (by simp)

variable {claims}

theorem parse_compact (hfits : claims.Fits) (htimes : claims.badTime? = none) :
    parse (codec.compact claims) = .ok claims := by
  unfold parse
  rw [ofText_compact]
  simp only [mapError_ok, bind, Except.bind, decode_payload, Claims.ofBytes_render hfits, htimes]
  rfl

theorem checkSignature_parts (hfits : claims.Fits) :
    codec.checkSignature (codec.parts claims) = .ok () := by
  unfold checkSignature
  simp [bind, Except.bind, mapError_ok, decode_header, decode_payload, decode_signature,
    TokenHeader.ofBytes_issued, RegisteredClaims.check_render hfits]

/-- A token verifies under the codec that has put it together. -/
theorem verify_compact (hfits : claims.Fits) (htimes : claims.badTime? = none) :
    codec.verify (codec.compact claims) = .ok claims := by
  unfold verify
  rw [codec.parse_compact hfits htimes, ofText_compact]
  simp only [mapError_ok, bind, Except.bind, codec.checkSignature_parts hfits]
  rfl

theorem verify_compact_between (subject jti : String) (now expiry : Instant) :
    codec.verify (codec.compact (.between subject jti now expiry)) =
      .ok (.between subject jti now expiry) :=
  codec.verify_compact (Claims.fits_between ..) (Claims.badTime?_between ..)

theorem issue_of_add? {now expiry : Instant} (h : now.add? codec.ttl = some expiry)
    (subject jti : String) :
    codec.issue subject jti now =
      .ok (codec.compact (.between subject jti now expiry), .between subject jti now expiry) := by
  unfold issue
  rw [h]

/-- Issuing fails only for an expiry that the calendar does not have. Otherwise
the claims say to the nanosecond what was asked for, and the token gives them
back: with and without its signature at any time, and as valid up to but not at
its expiry. No assumption is made about the secret, the subject and the
identifier, or about the sign of the times. -/
theorem issue_round_trip (subject jti : String) (now : Instant) :
    ((∃ reason, codec.issue subject jti now = .error (.encoding reason)) ↔
        ¬ ∃ expiry : Instant, expiry.nanos = now.nanos + codec.ttl.nanos) ∧
      ∀ expiry : Instant, expiry.nanos = now.nanos + codec.ttl.nanos →
        ∃ token claims, codec.issue subject jti now = .ok (token, claims) ∧
          claims.sub = subject ∧ claims.jti = jti ∧
          claims.issuedAt = now ∧ claims.expiresAt = expiry ∧
          parse token = .ok claims ∧ codec.verify token = .ok claims ∧
          ∀ t, codec.validate token t = if t < expiry then .ok claims else .error .expired := by
  have hexpiry : ∀ expiry : Instant, now.add? codec.ttl = some expiry ↔
      expiry.nanos = now.nanos + codec.ttl.nanos := by
    intro expiry
    rw [Instant.add?, Instant.ofNanos?_eq_some, eq_comm]
  constructor
  · constructor
    · rintro ⟨reason, herror⟩ ⟨expiry, h⟩
      rw [codec.issue_of_add? ((hexpiry expiry).2 h)] at herror
      cases herror
    · intro hnone
      cases hadd : now.add? codec.ttl with
      | none =>
        refine ⟨"expiry is out of range", ?_⟩
        unfold issue
        rw [hadd]
        rfl
      | some expiry => exact absurd ⟨expiry, (hexpiry expiry).1 hadd⟩ hnone
  · intro expiry h
    have hverify := codec.verify_compact_between subject jti now expiry
    have hparse := codec.parse_compact (Claims.fits_between subject jti now expiry)
      (Claims.badTime?_between ..)
    refine ⟨_, _, codec.issue_of_add? ((hexpiry expiry).2 h) subject jti, rfl, rfl,
      Claims.issuedAt_between .., Claims.expiresAt_between .., hparse, hverify, fun t => ?_⟩
    rw [codec.validate_of_verify hverify, Claims.expiresAt_between]

end TokenCodec

end AuthGate
