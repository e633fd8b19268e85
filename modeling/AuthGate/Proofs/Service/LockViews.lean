import AuthGate.Proofs.Lockout.History
import AuthGate.Proofs.Service.Attempt

namespace AuthGate

namespace LockInfo

variable (info : LockInfo) (now : Instant)

/-- The time left on a lock is what the deadline lies ahead, if there is one. -/
theorem nanos_remaining : ((info.remaining now).nanos : Int) =
    info.lockUntil.elim 0 fun deadline => max 0 (deadline.nanos - now.nanos) := by
  unfold remaining
  cases info.lockUntil with
  | none => rfl
  | some deadline => exact now.nanos_remaining deadline

/-- What is known of a lock says that it holds exactly as long as there is time left. -/
theorem isLockedAt_iff_remaining : info.isLockedAt now = true ↔ .zero < info.remaining now := by
  have hnanos := info.nanos_remaining now
  have hpositive : (.zero < info.remaining now) ↔ 0 < (info.remaining now).nanos := Iff.rfl
  rw [hpositive]
  unfold isLockedAt
  cases hdeadline : info.lockUntil with
  | none =>
    rw [hdeadline, Option.elim_none] at hnanos
    exact ⟨fun h => absurd h Bool.false_ne_true, fun h => by omega⟩
  | some deadline =>
    rw [hdeadline, Option.elim_some] at hnanos
    rw [decide_eq_true_eq, Instant.lt_def]
    omega

end LockInfo

namespace LockoutTracker

/-- A tracker and what it tells of an account agree about the lock at every instant. -/
theorem isLocked_eq_isLockedAt_info (t : LockoutTracker) (username : String) (now : Instant) :
    t.isLocked username now = (t.info username).isLockedAt now := by
  rw [isLocked_eq]
  rfl

end LockoutTracker

namespace AuthService

variable {service : AuthService}

/-- A login is answered that its account is locked with the time that is left of the lock, unless
the store itself gives such an answer. -/
theorem lt_of_result_eq_accountLocked {credentials : CredentialCheck}
    {username password jti : String} {now : Instant} {remaining : Duration}
    (hresult : (service.authenticate credentials username password jti now).value.2.result =
      some (.error (.accountLocked remaining))) :
    remaining = service.tracker.remaining username now ∧ .zero < remaining ∨
      service.tracker.isLocked username now = false ∧
        credentials username password = .failed (.accountLocked remaining) := by
  cases hlocked : service.tracker.isLocked username now with
  | true =>
    rw [service.value_authenticate_of_isLocked hlocked] at hresult
    obtain rfl := AuthError.accountLocked.inj (Except.error.inj (Option.some.inj hresult))
    rw [LockoutTracker.isLocked_eq_isLockedAt_info, LockInfo.isLockedAt_iff_remaining] at hlocked
    exact .inl ⟨rfl, hlocked⟩
  | false =>
    obtain ⟨-, hsettled⟩ := service.settled_authenticate hlocked credentials password jti
    by_cases hanswer : credentials username password = .failed (.accountLocked remaining)
    · exact .inr ⟨rfl, hanswer⟩
    · exact absurd hresult (hsettled.ne_accountLocked hanswer)

end AuthService

/-- All views of a lock agree, whatever a tracker has been through and in whatever order the
clock has been read. At every instant an account is locked exactly if there is time left, which
is what its deadline lies ahead, to the nanosecond; what is known of the lock and the tracker
itself say the same. Every record that is held counts a failure, knows when the last one was,
and has a deadline exactly if the count has reached the threshold. A login that finds the
account locked is answered with the time left, so that this is never zero; only a store that
gives such an answer itself could add others. -/
theorem LockoutTracker.views_agree (policy : LockoutPolicy) (calls : List TrackerCall) :
    let t := (LockoutTracker.new policy).handleAll calls
    (∀ (username : String) (now : Instant),
      let info := t.info username
      (info.isLockedAt now = true ↔ .zero < info.remaining now) ∧
      ((info.remaining now).nanos : Int) =
        info.lockUntil.elim 0 (fun deadline => max 0 (deadline.nanos - now.nanos)) ∧
      t.isLocked username now = info.isLockedAt now ∧
      t.remaining username now = info.remaining now) ∧
    (∀ (username : String) (r : FailureRecord), t.record? username = some r → r.Kept policy) ∧
    ∀ (service : AuthService), service.tracker = t →
      ∀ (credentials : CredentialCheck) (username password jti : String) (now : Instant),
        let login := (service.authenticate credentials username password jti now).value
        (t.isLocked username now = true →
          login = (service, ⟨some (.error (.accountLocked (t.remaining username now))), []⟩)) ∧
        ∀ remaining, login.2.result = some (.error (.accountLocked remaining)) →
          .zero < remaining ∨ credentials username password = .failed (.accountLocked remaining) := by
  intro t
  have hpolicy : t.policy = policy := policy_handleAll _ _
  have hkept : t.KeepsRecords := (keepsRecords_new policy).handleAll calls
  refine ⟨fun username now => ?_, fun username r hrecord => ?_, ?_⟩
  · exact ⟨(t.info username).isLockedAt_iff_remaining now, (t.info username).nanos_remaining now,
      t.isLocked_eq_isLockedAt_info username now, rfl⟩
  · exact hpolicy ▸ hkept username r hrecord
  · rintro service hservice credentials username password jti now login
    rw [← hservice]
    refine ⟨fun hlocked => ?_, fun remaining hresult => ?_⟩
    · exact service.value_authenticate_of_isLocked hlocked credentials password jti
    · exact (AuthService.lt_of_result_eq_accountLocked hresult).imp And.right And.right

end AuthGate
