import AuthGate.Proofs.Service.Budget
import AuthGate.Proofs.Service.Grant

namespace AuthGate

/-- A failure leaves a trace in the record of an account that is not locked. Where the
count is at its largest already, the trace is the lock. -/
theorem FailureRecord.fail_ne_of_not_isLockedAt {p : LockoutPolicy} (husable : p.Usable)
    {r : FailureRecord} {now : Instant} (hopen : r.isLockedAt now = false)
    (hend : now < .farFuture) : r.fail p now ≠ r := by
  intro hsame
  have hlocks := FailureRecord.isLockedAt_fail_iff husable r hend
  have hcount : min (r.failures + 1) maxFailures = r.failures :=
    congrArg FailureRecord.failures hsame
  have hthreshold := p.threshold_le_maxFailures
  rw [hsame, hopen] at hlocks
  exact Bool.false_ne_true (hlocks.2 (.inr (by omega)))

theorem StoreAnswer.isRefusal_iff (answer : StoreAnswer) :
    answer.isRefusal = true ↔ answer = .verdict false ∨ answer = .failed .userNotFound := by
  cases answer with
  | silent => simp [isRefusal]
  | verdict accepted => cases accepted <;> simp [isRefusal]
  | failed error => cases error <;> simp [isRefusal]

theorem StoreAnswer.isRefusal_failed {error : AuthError} (hknown : error ≠ .userNotFound) :
    (failed error).isRefusal = false := by
  rw [Bool.eq_false_iff, ne_eq, isRefusal_iff]
  rintro (h | h) <;> cases h
  exact hknown rfl

namespace AuthService

/-- A state differs from an earlier one in the record of one account at most. -/
structure ConfinedTo (username : String) (before after : AuthService) : Prop where
  codec : after.codec = before.codec
  registry : after.registry = before.registry
  policy : after.tracker.policy = before.tracker.policy
  others : ∀ name, name ≠ username → after.tracker.record? name = before.tracker.record? name

/-- All that a login can come to once the credential store has answered, or as long as it
has not. -/
inductive Settled (service : AuthService) (username jti : String) (now : Instant) :
    StoreAnswer → AuthService → Option (Except AuthError Session) → Prop
  | refused {answer : StoreAnswer} (refusal : answer.isRefusal = true) :
      Settled service username jti now answer
        { service with tracker := (service.tracker.recordFailure username now).value.1 }
        (some (.error .invalidCredentials))
  | accepted :
      Settled service username jti now (.verdict true)
        { service with tracker := (service.tracker.clear username now).value }
        (some (service.grant username jti now).value.2)
  | failed {error : AuthError} (known : error ≠ .userNotFound) :
      Settled service username jti now (.failed error) service (some (.error error))
  | silent : Settled service username jti now .silent service none

variable (service : AuthService) {username jti : String} {now : Instant}

theorem settled_settle (username jti : String) (answer : StoreAnswer) (now : Instant) :
    service.Settled username jti now answer (service.settle username jti answer now).value.1
      (service.settle username jti answer now).value.2 := by
  rw [value_settle_fst]
  cases answer with
  | silent => exact .silent
  | verdict accepted =>
    cases accepted with
    | false => exact .refused rfl
    | true => exact .accepted
  | failed error =>
    by_cases hunknown : error = .userNotFound
    · subst hunknown
      exact .refused rfl
    · rw [StoreAnswer.isRefusal_failed hunknown, if_neg Bool.false_ne_true]
      have hresult : (service.settle username jti (.failed error) now).value.2 =
          some (.error error) := by
        cases error <;> first | rfl | exact absurd rfl hunknown
      rw [hresult]
      exact .failed hunknown

theorem confinedTo_authenticate (credentials : CredentialCheck) (username password jti : String)
    (now : Instant) : ConfinedTo username service
      (service.authenticate credentials username password jti now).value.1 := by
  rw [value_authenticate_fst]
  split
  · exact ⟨rfl, rfl, rfl, fun _ _ => rfl⟩
  · obtain ⟨tracker, hsettled, hpolicy, hothers⟩ := service.exists_tracker_settle username jti
      (credentials username password) now
    rw [hsettled]
    exact ⟨rfl, rfl, hpolicy, hothers⟩

/-- Of the store, a login looks at the answer to its own question only. -/
theorem authenticate_congr {credentials other : CredentialCheck} {password : String}
    (hsame : other username password = credentials username password) (jti : String)
    (now : Instant) : service.authenticate other username password jti now =
      service.authenticate credentials username password jti now := by
  have hverify : other.verify username password = credentials.verify username password := by
    unfold CredentialCheck.verify
    rw [hsame]
  unfold authenticate authenticateBy
  rw [hverify]

/-- A token is granted unless its expiry is out of range. -/
theorem eq_of_grant_eq_error {username jti : String} {now : Instant} {error : AuthError}
    (h : (service.grant username jti now).value.2 = .error error) :
    error = .ofToken .expiryOutOfRange := by
  cases hadd : now.add? service.codec.ttl with
  | none =>
    rw [service.value_grant_of_add?_eq_none hadd] at h
    exact (Except.error.inj h).symm
  | some expiry =>
    rw [service.value_grant_of_add? hadd] at h
    cases h

namespace Settled

variable {service} {answer : StoreAnswer} {after : AuthService}
  {result : Option (Except AuthError Session)}

/-- The record of an open account takes a failure exactly when the store refuses. -/
theorem record?_eq_fail_iff (h : service.Settled username jti now answer after result)
    (husable : service.tracker.policy.Usable)
    (hopen : service.tracker.isLocked username now = false) (hend : now < .farFuture) :
    after.tracker.record? username =
        some ((service.tracker.record username).fail service.tracker.policy now) ↔
      answer.isRefusal = true := by
  rw [LockoutTracker.isLocked_eq] at hopen
  have hfail := FailureRecord.fail_ne_of_not_isLockedAt husable hopen hend
  -- a record that is kept cannot be the one with a further failure
  have hkept : service.tracker.record? username ≠
      some ((service.tracker.record username).fail service.tracker.policy now) := by
    intro hrecord
    have hsame := service.tracker.record_eq_getD username
    rw [hrecord, Option.getD_some] at hsame
    exact hfail hsame.symm
  cases h with
  | refused refusal =>
    refine iff_of_true ?_ refusal
    rw [LockoutTracker.record?_recordFailure, if_pos rfl]
  | accepted =>
    refine iff_of_false ?_ Bool.false_ne_true
    rw [LockoutTracker.record?_clear, if_pos rfl]
    nofun
  | failed known =>
    rw [StoreAnswer.isRefusal_failed known]
    exact iff_of_false hkept Bool.false_ne_true
  | silent => exact iff_of_false hkept Bool.false_ne_true

theorem verdict_of_record?_eq_none (h : service.Settled username jti now answer after result)
    (hheld : service.tracker.record? username ≠ none)
    (hremoved : after.tracker.record? username = none) : answer = .verdict true := by
  cases h with
  | refused refusal =>
    rw [LockoutTracker.record?_recordFailure, if_pos rfl] at hremoved
    cases hremoved
  | accepted => rfl
  | failed known => exact absurd hremoved hheld
  | silent => exact absurd hremoved hheld

theorem record?_of_verdict (h : service.Settled username jti now answer after result)
    (haccepted : answer = .verdict true) : after.tracker.record? username = none := by
  cases h with
  | refused refusal =>
    rw [haccepted] at refusal
    cases refusal
  | accepted => rw [LockoutTracker.record?_clear, if_pos rfl]
  | failed known => cases haccepted
  | silent => cases haccepted

theorem result_of_isRefusal (h : service.Settled username jti now answer after result)
    (hrefused : answer.isRefusal = true) : result = some (.error .invalidCredentials) := by
  cases h with
  | refused refusal => rfl
  | accepted => cases hrefused
  | failed known =>
    rw [StoreAnswer.isRefusal_failed known] at hrefused
    cases hrefused
  | silent => cases hrefused

theorem eq_of_failed (h : service.Settled username jti now answer after result)
    {error : AuthError} (hanswer : answer = .failed error) (hknown : error ≠ .userNotFound) :
    after = service ∧ result = some (.error error) := by
  cases h with
  | refused refusal =>
    rw [hanswer, StoreAnswer.isRefusal_failed hknown] at refusal
    cases refusal
  | accepted => cases hanswer
  | failed known =>
    cases hanswer
    exact ⟨rfl, rfl⟩
  | silent => cases hanswer

theorem eq_of_silent (h : service.Settled username jti now answer after result)
    (hanswer : answer = .silent) : after = service ∧ result = none := by
  cases h with
  | refused refusal =>
    rw [hanswer] at refusal
    cases refusal
  | accepted => cases hanswer
  | failed known => cases hanswer
  | silent => exact ⟨rfl, rfl⟩

theorem verdict_of_ok (h : service.Settled username jti now answer after result)
    {session : Session} (hgranted : result = some (.ok session)) : answer = .verdict true := by
  cases h with
  | refused refusal => cases hgranted
  | accepted => rfl
  | failed known => cases hgranted
  | silent => cases hgranted

theorem ne_userNotFound (h : service.Settled username jti now answer after result) :
    result ≠ some (.error .userNotFound) := by
  cases h with
  | refused refusal => nofun
  | accepted => exact fun h => nomatch service.eq_of_grant_eq_error (Option.some.inj h)
  | failed known => exact fun h => known (Except.error.inj (Option.some.inj h))
  | silent => nofun

/-- Once the store has been asked, no login is answered that its account is locked. -/
theorem ne_accountLocked (h : service.Settled username jti now answer after result)
    {remaining : Duration} (hanswer : answer ≠ .failed (.accountLocked remaining)) :
    result ≠ some (.error (.accountLocked remaining)) := by
  cases h with
  | refused refusal => nofun
  | accepted => exact fun h => nomatch service.eq_of_grant_eq_error (Option.some.inj h)
  | failed known =>
    intro h
    obtain rfl := Except.error.inj (Option.some.inj h)
    exact hanswer rfl
  | silent => nofun

end Settled

/-- A login of an account that is locked asks no store and leaves no trace but its event. -/
theorem authenticate_of_isLocked (hlocked : service.tracker.isLocked username now = true)
    (credentials : CredentialCheck) (password jti : String) :
    let login := (service.authenticate credentials username password jti now).value
    login.2.queries = [] ∧ login.1 = service ∧
      (∀ other, service.authenticate other username password jti now =
        service.authenticate credentials username password jti now) ∧
      ∀ verify : String → String → Asking CredentialQuery StoreAnswer,
        (service.authenticateBy verify username password jti now).transcript =
          (service.authenticateBy credentials.verify username password jti now).transcript := by
  intro login
  have hlogin : login = _ := service.value_authenticate_of_isLocked hlocked credentials password jti
  refine ⟨?_, ?_, fun other => ?_, fun verify => ?_⟩
  · rw [hlogin]
  · rw [hlogin]
  · rw [service.authenticate_eq_of_isLocked hlocked, service.authenticate_eq_of_isLocked hlocked]
  · rw [service.authenticateBy_of_isLocked hlocked, service.authenticateBy_of_isLocked hlocked]

/-- A login of an account that is not locked ends as the store's answer says. -/
theorem settled_authenticate (hopen : service.tracker.isLocked username now = false)
    (credentials : CredentialCheck) (password jti : String) :
    let login := (service.authenticate credentials username password jti now).value
    login.2.queries = [⟨username, password⟩] ∧
      service.Settled username jti now (credentials username password) login.1 login.2.result := by
  intro login
  have hlogin := service.value_authenticate_of_not_isLocked hopen credentials password jti
  have hsettled := service.settled_settle username jti (credentials username password) now
  rw [show login = _ from hlogin]
  exact ⟨rfl, hsettled⟩

/-- All that a login does, in any state that a subsystem with valid settings comes to. It
touches the record of its own account at most. If the account is locked, the store is not
asked, whatever the store would do if it was, and what is logged is the same under every
store. Otherwise it is asked once, about this name and password: a refusal adds one failure
to the record, an acceptance removes it, and any other error, or no answer at all, changes
nothing. A token is granted on an acceptance only, and nobody is told that an account is
unknown. -/
theorem authenticate_effect {settings : AuthSettings} {built : Logged AuthService}
    (hbuild : build settings = .ok built) (turns : List Turn) (credentials : CredentialCheck)
    (username password jti : String) {now : Instant} (hend : now < .farFuture) :
    let before := built.value.run turns
    let answer := credentials username password
    let login := (before.authenticate credentials username password jti now).value
    let after := login.1
    let attempt := login.2
    let record := before.tracker.record username
    ConfinedTo username before after ∧
    (before.tracker.isLocked username now = true →
      attempt.queries = [] ∧ after = before ∧
      (∀ other, before.authenticate other username password jti now =
        before.authenticate credentials username password jti now) ∧
      ∀ verify : String → String → Asking CredentialQuery StoreAnswer,
        (before.authenticateBy verify username password jti now).transcript =
          (before.authenticateBy credentials.verify username password jti now).transcript) ∧
    (before.tracker.isLocked username now = false →
      attempt.queries = [⟨username, password⟩] ∧
      (∀ other : CredentialCheck, other username password = answer →
        before.authenticate other username password jti now =
          before.authenticate credentials username password jti now) ∧
      (after.tracker.record? username = some (record.fail settings.lockout now) ↔
        answer = .verdict false ∨ answer = .failed .userNotFound) ∧
      (answer = .verdict false ∨ answer = .failed .userNotFound →
        (after.tracker.info username).attempts = min (record.failures + 1) maxFailures ∧
        attempt.result = some (.error .invalidCredentials)) ∧
      (answer = .verdict true → after.tracker.record? username = none) ∧
      (before.tracker.record? username ≠ none → after.tracker.record? username = none →
        answer = .verdict true) ∧
      (∀ error, answer = .failed error → error ≠ .userNotFound →
        after = before ∧ attempt.result = some (.error error)) ∧
      (answer = .silent → after = before ∧ attempt.result = none)) ∧
    (∀ session, attempt.result = some (.ok session) →
      attempt.queries = [⟨username, password⟩] ∧ answer = .verdict true) ∧
    attempt.result ≠ some (.error .userNotFound) := by
  intro before answer login after attempt record
  have husable : before.tracker.policy.Usable := by
    rw [policy_run_of_build hbuild]
    exact usable_of_build hbuild
  have hconfined : ConfinedTo username before after :=
    before.confinedTo_authenticate credentials username password jti now
  cases hlocked : before.tracker.isLocked username now with
  | true =>
    have hresult : attempt.result = some (.error (.accountLocked _)) :=
      congrArg (fun login => login.2.result)
        (before.value_authenticate_of_isLocked hlocked credentials password jti)
    refine ⟨hconfined, fun _ => before.authenticate_of_isLocked hlocked credentials password jti,
      nofun, ?_, ?_⟩
    · intro session hgranted
      rw [hresult] at hgranted
      cases hgranted
    · rw [hresult]
      nofun
  | false =>
    obtain ⟨hasked, hsettled⟩ :=
      before.settled_authenticate hlocked credentials password jti
    have hfail := hsettled.record?_eq_fail_iff husable hlocked hend
    rw [policy_run_of_build hbuild, StoreAnswer.isRefusal_iff] at hfail
    refine ⟨hconfined, nofun, fun _ => ⟨hasked, ?_, hfail, ?_, ?_, ?_, ?_, ?_⟩, ?_,
      hsettled.ne_userNotFound⟩
    · exact fun other hsame => before.authenticate_congr hsame jti now
    · intro hrefused
      have hrecord := hfail.2 hrefused
      refine ⟨?_, hsettled.result_of_isRefusal ((StoreAnswer.isRefusal_iff answer).2 hrefused)⟩
      rw [LockoutTracker.info_attempts, LockoutTracker.record_eq_getD, hrecord]
      rfl
    · exact hsettled.record?_of_verdict
    · exact hsettled.verdict_of_record?_eq_none
    · exact fun error hanswer hknown => hsettled.eq_of_failed hanswer hknown
    · exact hsettled.eq_of_silent
    · exact fun session hgranted => ⟨hasked, hsettled.verdict_of_ok hgranted⟩

/-- Where the store is out of order, a login leaves the one failure of its account. -/
theorem login_during_outage :
    let settings := { AuthSettings.default with
      token := ⟨"0123456789abcdef0123456789abcdef", .seconds 3600⟩ }
    let wrong : Turn := ⟨.authenticate (fun _ _ => .verdict false) "alice" "guess" "a", .epoch⟩
    let outage : CredentialCheck := fun _ _ => .failed (.storage "connection refused")
    ∃ built, build settings = .ok built ∧ Instant.epoch < .farFuture ∧
      let before := built.value.run [wrong]
      let login := (before.authenticate outage "alice" "wonderland" "b" .epoch).value
      before.tracker.isLocked "alice" .epoch = false ∧
        login.2.queries = [⟨"alice", "wonderland"⟩] ∧
        (login.1.tracker.info "alice").attempts = 1 ∧ login.1 = before ∧
        login.2.result = some (.error (.storage "connection refused")) := by
  intro settings wrong outage
  obtain ⟨built, hbuild⟩ : ∃ built, build settings = .ok built := ⟨_, rfl⟩
  have hend : Instant.epoch < .farFuture := by decide
  have hopen : (built.value.run [wrong]).tracker.isLocked "alice" .epoch = false := by
    rw [value_build hbuild]
    decide +kernel
  have hcount : ((built.value.run [wrong]).tracker.info "alice").attempts = 1 := by
    rw [value_build hbuild]
    decide +kernel
  obtain ⟨-, -, hsettled, -, -⟩ :=
    authenticate_effect hbuild [wrong] outage "alice" "wonderland" "b" hend
  obtain ⟨hasked, -, -, -, -, -, hfailed, -⟩ := hsettled hopen
  obtain ⟨hsame, hresult⟩ := hfailed _ rfl nofun
  refine ⟨built, hbuild, hend, hopen, hasked, ?_, hsame, hresult⟩
  rw [hsame]
  exact hcount

end AuthService

end AuthGate
