import AuthGate.Proofs.Revocation.Held
import AuthGate.Proofs.Service.Run
import AuthGate.Proofs.Token.RoundTrip

namespace AuthGate.AuthService

variable (service : AuthService)

/-- A run in which some logout of a token has succeeded. -/
def LoggedOut (turns : List Turn) (raw : String) : Prop :=
  ∃ before now after, turns = before ++ ⟨.logout raw, now⟩ :: after ∧
    ((service.run before).logout raw now).value.2 = true

/-- Whether a logout succeeds depends on the token and the clock only, and not on
what came before it in the run. -/
theorem loggedOut_iff (turns : List Turn) (raw : String) :
    service.LoggedOut turns raw ↔ ∃ turn ∈ turns, turn.operation = .logout raw ∧
      ∃ claims, service.codec.verify raw = .ok claims ∧ turn.now < claims.expiresAt := by
  constructor
  · rintro ⟨before, now, after, rfl, hlogout⟩
    rw [value_logout_snd_iff, codec_run] at hlogout
    exact ⟨⟨.logout raw, now⟩, by simp, rfl, hlogout⟩
  · rintro ⟨⟨operation, now⟩, hmem, rfl, hvalid⟩
    obtain ⟨before, after, rfl⟩ := List.append_of_mem hmem
    refine ⟨before, now, after, rfl, ?_⟩
    rw [value_logout_snd_iff, codec_run]
    exact hvalid

theorem registry_authenticate (credentials : CredentialCheck) (username password jti : String)
    (now : Instant) :
    (service.authenticate credentials username password jti now).value.1.registry =
      service.registry := by
  rw [value_authenticate_fst, value_settle_fst]
  split
  · rfl
  · split
    · rfl
    · split <;> rfl

end AuthGate.AuthService
