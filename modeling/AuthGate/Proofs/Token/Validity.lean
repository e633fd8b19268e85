import AuthGate.Token.Codec

namespace AuthGate

theorem Claims.isExpiredAt_eq (claims : Claims) (now : Instant) :
    claims.isExpiredAt now = !decide (now < claims.expiresAt) := by
  simp only [isExpiredAt, Instant.le_def, Instant.lt_def, ← decide_not, Int.not_lt]

namespace TokenCodec

variable (codec : TokenCodec)

/-- Of a token that verifies, validation only asks whether its expiry is still to
come. -/
theorem validate_of_verify {raw : String} {claims : Claims}
    (hverify : codec.verify raw = .ok claims) (now : Instant) :
    codec.validate raw now = if now < claims.expiresAt then .ok claims else .error .expired := by
  unfold validate
  rw [hverify]
  by_cases h : now < claims.expiresAt
  · simp only [bind, Except.bind, claims.isExpiredAt_eq, h, decide_true, Bool.not_true,
      Bool.false_eq_true, if_false, if_true]
    rfl
  · simp only [bind, Except.bind, claims.isExpiredAt_eq, h, decide_false, Bool.not_false, if_true,
      if_false]
    rfl

end TokenCodec

end AuthGate
