import AuthGate.Proofs.Service.Run
import AuthGate.Proofs.Token.Agreement
import AuthGate.Proofs.Token.Bearer

namespace AuthGate

namespace AuthService

/-- There is no authorization header, or the scheme that it names is another one. -/
def Bearerless (authorization : Option String) : Prop :=
  ∀ header, authorization = some header → authorizationScheme header ≠ "bearer".toList

/-- An authorization header that presents a bearer token. -/
def Presents (authorization : Option String) (raw : String) : Prop :=
  ∃ header, authorization = some header ∧ bearerToken header = .ok (some raw)

variable (service : AuthService)

/-- The authorization header presents a token that is not revoked and valid, and its
claims state the identity. -/
def Credits (authorization : Option String) (now : Instant) (identity : Identity) : Prop :=
  ∃ raw claims, Presents authorization raw ∧ (service.registry.isRevoked raw now).2 = false ∧
    service.codec.validate raw now = .ok claims ∧
    identity = ⟨claims.sub, claims.jti, .utc claims.expiresAt⟩

/-- All that an authorization header can come to, with the questions that it puts. -/
inductive Decision (authorization : Option String) (now : Instant) :
    BearerOutcome → List BearerCheck → Prop
  | anonymous (bearerless : Bearerless authorization) : Decision authorization now .anonymous []
  | malformed {header : String} {defect : Malformation} (sent : authorization = some header)
      (invalid : bearerToken header = .error defect) :
      Decision authorization now (.rejected (.malformedToken defect)) []
  | revoked {raw : String} (presents : Presents authorization raw)
      (revoked : (service.registry.isRevoked raw now).2 = true) :
      Decision authorization now (.rejected .tokenRevoked) [.revocation]
  | accepted {raw : String} {claims : Claims} (presents : Presents authorization raw)
      (unrevoked : (service.registry.isRevoked raw now).2 = false)
      (valid : service.codec.validate raw now = .ok claims) :
      Decision authorization now (.authenticated (.ofClaims claims)) [.revocation, .validation]
  | refused {raw : String} {error : TokenError} (presents : Presents authorization raw)
      (unrevoked : (service.registry.isRevoked raw now).2 = false)
      (invalid : service.codec.validate raw now = .error error) :
      Decision authorization now (.rejected (.ofToken error)) [.revocation, .validation]

theorem decision_evaluate (authorization : Option String) (now : Instant) :
    service.Decision authorization now (service.evaluate authorization now).value.2.1
      (service.evaluate authorization now).value.2.2 := by
  cases authorization with
  | none => exact .anonymous nofun
  | some header =>
    cases hbearer : bearerToken header with
    | error defect =>
      rw [service.evaluate_eq_of_malformed hbearer]
      exact .malformed rfl hbearer
    | ok token? =>
      cases token? with
      | none =>
        rw [service.evaluate_eq_of_other_scheme hbearer]
        refine .anonymous ?_
        rintro _ ⟨⟩
        exact (bearerToken_eq_none_iff header).1 hbearer
      | some raw =>
        have hpresents : Presents (some header) raw := ⟨header, rfl, hbearer⟩
        rw [service.value_evaluate_of_bearer hbearer]
        dsimp only
        cases hrevoked : (service.registry.isRevoked raw now).2 with
        | true => exact .revoked hpresents hrevoked
        | false =>
          cases hvalidate : service.codec.validate raw now with
          | error error => exact .refused hpresents hrevoked hvalidate
          | ok claims => exact .accepted hpresents hrevoked hvalidate

/-- A header that credits an identity authenticates the request as just this. -/
theorem evaluate_of_credits {authorization : Option String} {now : Instant} {identity : Identity}
    (h : service.Credits authorization now identity) :
    (service.evaluate authorization now).value.2.1 = .authenticated identity := by
  obtain ⟨raw, claims, ⟨header, rfl, hbearer⟩, hunrevoked, hvalid, rfl⟩ := h
  rw [service.value_evaluate_of_bearer hbearer]
  dsimp only
  rw [hunrevoked, hvalid]
  rfl

/-- A bearer token that verifies, has not expired and is not revoked is accepted. -/
theorem evaluate_of_verify {raw : String} {claims : Claims} {now : Instant} (hne : raw ≠ "")
    (hunpadded : Unpadded raw.toList) (hverify : service.codec.verify raw = .ok claims)
    (hvalid : now < claims.expiresAt)
    (hunrevoked : (service.registry.isRevoked raw now).2 = false) :
    (service.evaluate (some ("Bearer " ++ raw)) now).value.2.1 =
      .authenticated ⟨claims.sub, claims.jti, .utc claims.expiresAt⟩ := by
  have hpresents : Presents (some ("Bearer " ++ raw)) raw :=
    ⟨_, rfl, bearerToken_of_unpadded hne hunpadded⟩
  have hvalidate := service.codec.validate_eq_ok_iff.2 ⟨hverify, hvalid⟩
  exact service.evaluate_of_credits ⟨raw, claims, hpresents, hunrevoked, hvalidate, rfl⟩

namespace Decision

variable {service} {authorization : Option String} {now : Instant} {outcome : BearerOutcome}
  {checks : List BearerCheck}

theorem checks_of_not_presents (h : service.Decision authorization now outcome checks)
    (hnone : ∀ raw, ¬ Presents authorization raw) : checks = [] := by
  cases h with
  | anonymous bearerless => rfl
  | malformed sent invalid => rfl
  | revoked presents => exact absurd presents (hnone _)
  | accepted presents => exact absurd presents (hnone _)
  | refused presents => exact absurd presents (hnone _)

end Decision

/-- Nothing is asked of a request without a bearer token. Of one with a token it is asked
once whether that is revoked, and then, if it is not, whether it is valid. -/
theorem checks_evaluate (authorization : Option String) (now : Instant) :
    (∀ raw, Presents authorization raw → (service.evaluate authorization now).value.2.2 =
      if (service.registry.isRevoked raw now).2 then [.revocation]
      else [.revocation, .validation]) ∧
    ((∀ raw, ¬ Presents authorization raw) →
      (service.evaluate authorization now).value.2.2 = []) := by
  refine ⟨?_, (service.decision_evaluate authorization now).checks_of_not_presents⟩
  rintro raw ⟨header, rfl, hbearer⟩
  rw [service.value_evaluate_of_bearer hbearer]
  dsimp only
  split <;> rfl

variable {request : BearerRequest} {raw : String} {now : Instant}

end AuthService

end AuthGate
