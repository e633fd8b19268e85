import AuthGate.Proofs.Lockout.Records
import AuthGate.Proofs.Token.Validity
import AuthGate.Service

namespace AuthGate

/-- Something that is asked of the subsystem. A credential store may change its
mind between two logins, so every login brings the store as it is then. -/
inductive Operation where
  | authenticate (credentials : CredentialCheck) (username password jti : String)
  | logout (raw : String)
  | evaluate (header : Option String)
  | process (request : BearerRequest)
  | sweep (idle : Duration)

/-- An operation with the reading of the clock that it is carried out at. -/
structure Turn where
  operation : Operation
  now : Instant

namespace StoreAnswer

/-- Whether the store refuses a name with its password: the password is wrong or
the name is unknown. -/
def isRefusal : StoreAnswer → Bool
  | verdict false | failed .userNotFound => true
  | _ => false

/-- Whether the store accepts a name with its password. -/
def isAcceptance : StoreAnswer → Bool
  | verdict true => true
  | _ => false

end StoreAnswer

namespace BearerOutcome

end BearerOutcome

theorem BearerRequest.value_identify (request : BearerRequest) (outcome : BearerOutcome) :
    (request.identify outcome).value = { request with identity := outcome.identity? } := by
  cases outcome <;> rfl

namespace Asking

variable {κ α : Type}

/-- Asking adds one question behind those that have been put. -/
theorem run_ask (question : κ) (answer : Logged α) (asked : List κ) :
    (ask question answer).run asked = do return (← answer, asked ++ [question]) := rfl

end Asking

namespace BearerPipeline

variable {m : Type → Type} [Monad m] (pipeline : BearerPipeline m) {header : String}

theorem evaluate_of_other_scheme (hbearer : bearerToken header = .ok none) :
    pipeline.evaluate (some header) = pure .anonymous := by
  rw [evaluate, Option.map_some, hbearer]

theorem evaluate_of_malformed {defect : Malformation}
    (hbearer : bearerToken header = .error defect) :
    pipeline.evaluate (some header) = pure (.rejected (.malformedToken defect)) := by
  rw [evaluate, Option.map_some, hbearer]

/-- A bearer token is decided about in three steps at most: its revocation, the time, and its
validity. -/
theorem evaluate_of_bearer {raw : String} (hbearer : bearerToken header = .ok (some raw)) :
    pipeline.evaluate (some header) = do
      if ← pipeline.isRevoked raw then return .rejected .tokenRevoked
      else return .ofValidation (← pipeline.validate raw (← pipeline.clock)) := by
  rw [evaluate, Option.map_some, hbearer]

end BearerPipeline

namespace AuthService

variable (service : AuthService)

/-- The subsystem after one turn. -/
def step (turn : Turn) : AuthService :=
  match turn.operation with
  | .authenticate credentials username password jti =>
    (service.authenticate credentials username password jti turn.now).value.1
  | .logout raw => (service.logout raw turn.now).value.1
  | .evaluate header => (service.evaluate header turn.now).value.1
  | .process request => (service.process request turn.now).value.1
  | .sweep idle => (service.sweep idle turn.now).value

@[simp] theorem step_authenticate (credentials : CredentialCheck) (username password jti : String)
    (now : Instant) : service.step ⟨.authenticate credentials username password jti, now⟩ =
      (service.authenticate credentials username password jti now).value.1 := rfl

@[simp] theorem step_logout (raw : String) (now : Instant) :
    service.step ⟨.logout raw, now⟩ = (service.logout raw now).value.1 := rfl

@[simp] theorem step_evaluate (header : Option String) (now : Instant) :
    service.step ⟨.evaluate header, now⟩ = (service.evaluate header now).value.1 := rfl

@[simp] theorem step_process (request : BearerRequest) (now : Instant) :
    service.step ⟨.process request, now⟩ = (service.process request now).value.1 := rfl

@[simp] theorem step_sweep (idle : Duration) (now : Instant) :
    service.step ⟨.sweep idle, now⟩ = (service.sweep idle now).value := rfl

/-- The subsystem after a run. -/
def run (turns : List Turn) : AuthService := turns.foldl step service

@[simp] theorem run_nil : service.run [] = service := rfl

@[simp] theorem run_cons (turn : Turn) (turns : List Turn) :
    service.run (turn :: turns) = (service.step turn).run turns := rfl

theorem run_append (earlier later : List Turn) :
    service.run (earlier ++ later) = (service.run earlier).run later := List.foldl_append

theorem defect?_of_build {settings : AuthSettings} {built : Logged AuthService}
    (hbuild : build settings = .ok built) : settings.defect? = none := by
  unfold build at hbuild
  split at hbuild
  · cases hbuild
  · next hdefect => exact hdefect

theorem value_build {settings : AuthSettings} {built : Logged AuthService}
    (hbuild : build settings = .ok built) : built.value = ofSettings settings := by
  unfold build at hbuild
  split at hbuild
  · cases hbuild
  · cases hbuild
    rfl

/-- A login does not tell one refusal of the store from another. -/
theorem settle_of_isRefusal {answer : StoreAnswer} (hrefused : answer.isRefusal = true)
    (username jti : String) (now : Instant) :
    service.settle username jti answer now = service.settle username jti (.verdict false) now := by
  cases answer with
  | silent => cases hrefused
  | verdict accepted =>
    cases accepted with
    | false => rfl
    | true => cases hrefused
  | failed error => cases error <;> first | rfl | cases hrefused

/-- What a login leaves of the failures of all accounts, once the store has
answered: a refusal counts, an acceptance clears, and anything else changes
nothing. -/
theorem value_settle_fst (username jti : String) (answer : StoreAnswer) (now : Instant) :
    (service.settle username jti answer now).value.1 =
      if answer.isRefusal then
        { service with tracker := (service.tracker.recordFailure username now).value.1 }
      else if answer.isAcceptance then
        { service with tracker := (service.tracker.clear username now).value }
      else service := by
  have hgrant : (service.grant username jti now).value.1 =
      { service with tracker := (service.tracker.clear username now).value } := by
    unfold grant
    rw [Logged.value_bind]
    dsimp only
    rw [Logged.value_bind]
    split <;> rfl
  cases answer with
  | silent => rfl
  | verdict accepted =>
    cases accepted with
    | false => rfl
    | true => exact hgrant
  | failed error => cases error <;> rfl

theorem checkLock_of_isLocked {username : String} {now : Instant}
    (hlocked : service.tracker.isLocked username now = true) :
    service.checkLock username now =
      ⟨.error (.accountLocked (service.tracker.remaining username now)),
        [.loginLocked username (service.tracker.remaining username now)]⟩ := by
  unfold checkLock
  rw [if_pos hlocked]
  rfl

theorem checkLock_of_not_isLocked {username : String} {now : Instant}
    (hopen : service.tracker.isLocked username now = false) :
    service.checkLock username now = pure (.ok ()) := by
  unfold checkLock
  rw [hopen]
  rfl

/-- A locked account is rejected without any change, and nothing that a store could do in
answer is done. -/
theorem authenticateBy_of_isLocked {κ : Type} {username : String} {now : Instant}
    (hlocked : service.tracker.isLocked username now = true)
    (verify : String → String → Asking κ StoreAnswer) (password jti : String) :
    (service.authenticateBy verify username password jti now).transcript =
      ⟨((service, some (.error (.accountLocked (service.tracker.remaining username now)))), []),
        [.loginLocked username (service.tracker.remaining username now)]⟩ := by
  unfold authenticateBy
  rw [service.checkLock_of_isLocked hlocked]
  rfl

theorem authenticateBy_of_not_isLocked {κ : Type} {username : String} {now : Instant}
    (hopen : service.tracker.isLocked username now = false)
    (verify : String → String → Asking κ StoreAnswer) (password jti : String) :
    service.authenticateBy verify username password jti now = (do
      service.settle username jti (← verify username password) now) := by
  unfold authenticateBy
  rw [service.checkLock_of_not_isLocked hopen]
  rfl

theorem authenticate_eq_of_isLocked {username : String} {now : Instant}
    (hlocked : service.tracker.isLocked username now = true)
    (credentials : CredentialCheck) (password jti : String) :
    service.authenticate credentials username password jti now =
      ⟨(service, ⟨some (.error (.accountLocked (service.tracker.remaining username now))), []⟩),
        [.loginLocked username (service.tracker.remaining username now)]⟩ := by
  unfold authenticate
  rw [service.authenticateBy_of_isLocked hlocked]
  rfl

/-- A login of an account that is not locked asks the store once, and is settled by its
answer. -/
theorem authenticate_eq_of_not_isLocked {username : String} {now : Instant}
    (hopen : service.tracker.isLocked username now = false)
    (credentials : CredentialCheck) (password jti : String) :
    service.authenticate credentials username password jti now = do
      let settled ← service.settle username jti (credentials username password) now
      return (settled.1, ⟨settled.2, [⟨username, password⟩]⟩) := by
  have hasked : (do
      let answer ← credentials.verify username password
      service.settle username jti answer now : Asking CredentialQuery _).transcript = (do
      let settled ← service.settle username jti (credentials username password) now
      return (settled, [⟨username, password⟩])) := rfl
  unfold authenticate
  rw [service.authenticateBy_of_not_isLocked hopen, hasked, bind_assoc]
  rfl

theorem value_authenticate_of_isLocked {username : String} {now : Instant}
    (hlocked : service.tracker.isLocked username now = true) (credentials : CredentialCheck)
    (password jti : String) :
    (service.authenticate credentials username password jti now).value =
      (service,
        ⟨some (.error (.accountLocked (service.tracker.remaining username now))), []⟩) := by
  rw [service.authenticate_eq_of_isLocked hlocked]

theorem value_authenticate_of_not_isLocked {username : String} {now : Instant}
    (hopen : service.tracker.isLocked username now = false) (credentials : CredentialCheck)
    (password jti : String) :
    (service.authenticate credentials username password jti now).value =
      let settled := (service.settle username jti (credentials username password) now).value
      (settled.1, ⟨settled.2, [⟨username, password⟩]⟩) := by
  rw [service.authenticate_eq_of_not_isLocked hopen]
  rfl

/-- The subsystem after a login. -/
theorem value_authenticate_fst (credentials : CredentialCheck) (username password jti : String)
    (now : Instant) :
    (service.authenticate credentials username password jti now).value.1 =
      if service.tracker.isLocked username now then service
      else (service.settle username jti (credentials username password) now).value.1 := by
  cases hlocked : service.tracker.isLocked username now with
  | true => rw [value_authenticate_of_isLocked _ hlocked, if_pos rfl]
  | false =>
    rw [value_authenticate_of_not_isLocked _ hlocked]
    rfl

/-- A logout succeeds for a token that verifies and has not expired, and for no
other. Then the token is revoked until its expiry. -/
theorem value_logout_of_verify {raw : String} {claims : Claims} {now : Instant}
    (hverify : service.codec.verify raw = .ok claims) (hvalid : now < claims.expiresAt) :
    (service.logout raw now).value =
      ({ service with registry := (service.registry.revoke raw claims.expiresAt now).value },
        true) := by
  have hexpired : claims.isExpiredAt now = false := by
    rw [Claims.isExpiredAt_eq, decide_eq_true hvalid, Bool.not_true]
  unfold logout
  rw [hverify]
  dsimp only
  rw [hexpired]
  rfl

theorem value_logout_of_not_verify {raw : String} {now : Instant}
    (hinvalid : ∀ claims, service.codec.verify raw = .ok claims → ¬ now < claims.expiresAt) :
    (service.logout raw now).value = (service, false) := by
  unfold logout
  cases hverify : service.codec.verify raw with
  | error error => rfl
  | ok claims =>
    have hexpired : claims.isExpiredAt now = true := by
      rw [Claims.isExpiredAt_eq, decide_eq_false (hinvalid claims hverify), Bool.not_false]
    dsimp only
    rw [hexpired]
    rfl

/-- A logout says exactly whether it has found a token to revoke. -/
theorem value_logout_snd_iff (raw : String) (now : Instant) :
    (service.logout raw now).value.2 = true ↔
      ∃ claims, service.codec.verify raw = .ok claims ∧ now < claims.expiresAt := by
  by_cases h : ∃ claims, service.codec.verify raw = .ok claims ∧ now < claims.expiresAt
  · obtain ⟨claims, hverify, hvalid⟩ := h
    rw [service.value_logout_of_verify hverify hvalid]
    exact ⟨fun _ => ⟨claims, hverify, hvalid⟩, fun _ => rfl⟩
  · have hinvalid : ∀ claims, service.codec.verify raw = .ok claims → ¬ now < claims.expiresAt :=
      fun claims hverify hvalid => h ⟨claims, hverify, hvalid⟩
    rw [service.value_logout_of_not_verify hinvalid]
    exact ⟨fun hfalse => (Bool.false_ne_true hfalse).elim, fun hexists => absurd hexists h⟩

/-- A logout touches nothing but the registry. -/
theorem value_logout_fst (raw : String) (now : Instant) :
    ((service.logout raw now).value.1 = service ∧
      ∀ claims, service.codec.verify raw = .ok claims → ¬ now < claims.expiresAt) ∨
      ∃ claims, service.codec.verify raw = .ok claims ∧ now < claims.expiresAt ∧
        (service.logout raw now).value.1 = { service with
          registry := (service.registry.revoke raw claims.expiresAt now).value } := by
  by_cases h : ∃ claims, service.codec.verify raw = .ok claims ∧ now < claims.expiresAt
  · obtain ⟨claims, hverify, hvalid⟩ := h
    exact .inr ⟨claims, hverify, hvalid, by rw [service.value_logout_of_verify hverify hvalid]⟩
  · have hinvalid : ∀ claims, service.codec.verify raw = .ok claims → ¬ now < claims.expiresAt :=
      fun claims hverify hvalid => h ⟨claims, hverify, hvalid⟩
    exact .inl ⟨by rw [service.value_logout_of_not_verify hinvalid], hinvalid⟩

theorem conclude_pure {α : Type} (result : α) :
    service.conclude (pure result) = pure (service, result, []) := rfl

theorem evaluate_eq_of_other_scheme {header : String} (hbearer : bearerToken header = .ok none)
    (now : Instant) :
    service.evaluate (some header) now = pure (service, .anonymous, []) := by
  unfold evaluate
  rw [BearerPipeline.evaluate_of_other_scheme _ hbearer, conclude_pure]

theorem evaluate_eq_of_malformed {header : String} {defect : Malformation}
    (hbearer : bearerToken header = .error defect) (now : Instant) :
    service.evaluate (some header) now =
      pure (service, .rejected (.malformedToken defect), []) := by
  unfold evaluate
  rw [BearerPipeline.evaluate_of_malformed _ hbearer, conclude_pure]

theorem run_isRevoked (raw : String) (now : Instant) :
    ((pipeline now).isRevoked raw).run service = .ask .revocation (pure
      ((service.registry.isRevoked raw now).2,
        { service with registry := (service.registry.isRevoked raw now).1 })) := rfl

theorem run_validate (raw : String) (now time : Instant) :
    ((pipeline now).validate raw time).run service = do
      return (← Asking.ask BearerCheck.validation (service.validate raw time), service) := rfl

/-- A revoked token is rejected when its revocation has been asked about. What a pipeline
would do to validate it is not done, nor is the time read for that. -/
theorem conclude_evaluate_of_revoked {header raw : String}
    (hbearer : bearerToken header = .ok (some raw)) {now : Instant}
    (hrevoked : (service.registry.isRevoked raw now).2 = true)
    {other : BearerPipeline Deciding} (hlookup : other.isRevoked = (pipeline now).isRevoked) :
    service.conclude (other.evaluate (some header)) =
      pure ({ service with registry := (service.registry.isRevoked raw now).1 },
        .rejected .tokenRevoked, [.revocation]) := by
  unfold conclude
  rw [BearerPipeline.evaluate_of_bearer _ hbearer, hlookup, StateT.run_bind, run_isRevoked,
    hrevoked]
  rfl

/-- A token that is not revoked is validated once, when nothing but its revocation has been
asked about, and what validates it may be anything. -/
theorem conclude_evaluate_of_not_revoked {header raw : String}
    (hbearer : bearerToken header = .ok (some raw)) {now : Instant}
    (hunrevoked : (service.registry.isRevoked raw now).2 = false)
    (validate : String → Instant → Deciding (Except TokenError Claims)) :
    service.conclude (BearerPipeline.evaluate { pipeline now with validate } (some header)) = do
      let validated ← ((validate raw now).run
        { service with registry := (service.registry.isRevoked raw now).1 }).run [.revocation]
      return (validated.1.2, .ofValidation validated.1.1, validated.2) := by
  unfold conclude
  rw [BearerPipeline.evaluate_of_bearer _ hbearer, StateT.run_bind, run_isRevoked, hunrevoked]
  simp only [Bool.false_eq_true, if_false, StateT.run_bind, Asking.transcript, Asking.run_ask,
    pure_bind, bind_assoc]
  rfl

theorem evaluate_eq_of_revoked {header raw : String} (hbearer : bearerToken header = .ok (some raw))
    {now : Instant} (hrevoked : (service.registry.isRevoked raw now).2 = true) :
    service.evaluate (some header) now =
      pure ({ service with registry := (service.registry.isRevoked raw now).1 },
        .rejected .tokenRevoked, [.revocation]) :=
  service.conclude_evaluate_of_revoked hbearer hrevoked rfl

theorem evaluate_eq_of_not_revoked {header raw : String}
    (hbearer : bearerToken header = .ok (some raw)) {now : Instant}
    (hunrevoked : (service.registry.isRevoked raw now).2 = false) :
    service.evaluate (some header) now = do
      let result ← service.validate raw now
      return ({ service with registry := (service.registry.isRevoked raw now).1 },
        .ofValidation result, [.revocation, .validation]) := by
  -- the validation runs in the subsystem as the lookup has left it, which has the same codec
  refine (service.conclude_evaluate_of_not_revoked hbearer hunrevoked
    (pipeline now).validate).trans ?_
  simp only [run_validate, StateT.run_bind, Asking.run_ask, bind_assoc, pure_bind]
  rfl

/-- What is logged between two questions leaves the subsystem and the questions as they are. -/
theorem run_liftM {α : Type} (computation : Logged α) (checks : List BearerCheck) :
    ((liftM computation : Deciding α).run service).run checks = (do
      return ((← computation, service), checks)) := by
  simp only [liftM, MonadLiftT.monadLift, MonadLift.monadLift, StateT.run_lift, StateT.run_bind,
    StateT.run_pure, bind_assoc, pure_bind]

/-- To decide about a request is to decide about its header, and to log what this leads to. -/
theorem processBy_eq (pipeline : BearerPipeline Deciding) (request : BearerRequest) :
    service.processBy pipeline request = do
      let decided ← service.conclude (pipeline.evaluate request.authorization)
      let carried ← request.identify decided.2.1
      return (decided.1, carried, decided.2) := by
  unfold processBy BearerPipeline.process conclude
  simp only [StateT.run_bind, StateT.run_pure, Asking.transcript, run_liftM, bind_assoc, pure_bind]

/-- A header with a bearer token is decided by two questions, the second of which
is put only about tokens that are not revoked. -/
theorem value_evaluate_of_bearer {header raw : String}
    (hbearer : bearerToken header = .ok (some raw)) (now : Instant) :
    (service.evaluate (some header) now).value =
      let (registry, revoked) := service.registry.isRevoked raw now
      ({ service with registry },
        if revoked then (.rejected .tokenRevoked, [.revocation])
        else (.ofValidation (service.codec.validate raw now), [.revocation, .validation])) := by
  dsimp only
  cases hrevoked : (service.registry.isRevoked raw now).2 with
  | true =>
    rw [service.evaluate_eq_of_revoked hbearer hrevoked]
    rfl
  | false =>
    rw [service.evaluate_eq_of_not_revoked hbearer hrevoked, Logged.value_bind, value_validate]
    rfl

/-- A decision about a header leaves at most an entry of the registry that it has
found expired, and only one of the token presented. -/
theorem value_evaluate_fst (header : Option String) (now : Instant) :
    (service.evaluate header now).value.1 = service ∨
      ∃ raw, header.map bearerToken = some (.ok (some raw)) ∧
        (service.evaluate header now).value.1 =
          { service with registry := (service.registry.isRevoked raw now).1 } := by
  cases header with
  | none => exact .inl rfl
  | some header =>
    cases hbearer : bearerToken header with
    | error defect => exact .inl (by rw [service.evaluate_eq_of_malformed hbearer]; rfl)
    | ok token? =>
      cases token? with
      | none => exact .inl (by rw [service.evaluate_eq_of_other_scheme hbearer]; rfl)
      | some raw =>
        right
        refine ⟨raw, by rw [Option.map_some, hbearer], ?_⟩
        rw [service.value_evaluate_of_bearer hbearer]

/-- A request that has been processed carries the identity of the outcome, and no
other one. -/
theorem value_process (request : BearerRequest) (now : Instant) :
    (service.process request now).value =
      let (after, outcome, checks) := (service.evaluate request.authorization now).value
      (after, { request with identity := outcome.identity? }, outcome, checks) := by
  unfold process
  rw [processBy_eq, Logged.value_bind, Logged.value_bind, BearerRequest.value_identify]
  rfl

theorem value_process_fst (request : BearerRequest) (now : Instant) :
    (service.process request now).value.1 =
      (service.evaluate request.authorization now).value.1 := by
  rw [value_process]

theorem value_sweep (idle : Duration) (now : Instant) :
    (service.sweep idle now).value =
      { service with
        registry := (service.registry.purgeExpired now).value.1
        tracker := (service.tracker.purgeStale idle now).value.1 } := by
  unfold sweep
  rw [Logged.value_bind, Logged.value_bind]
  obtain ⟨⟨tracker, records⟩, _⟩ := service.tracker.purgeStale idle now
  dsimp only
  split <;> rfl

/-- No turn changes what signs tokens. -/
theorem codec_step (turn : Turn) : (service.step turn).codec = service.codec := by
  obtain ⟨operation, now⟩ := turn
  cases operation with
  | authenticate credentials username password jti =>
    simp only [step_authenticate, value_authenticate_fst, value_settle_fst]
    split
    · rfl
    · split
      · rfl
      · split <;> rfl
  | logout raw =>
    rcases service.value_logout_fst raw now with ⟨h, -⟩ | ⟨_, _, _, h⟩ <;>
      simp only [step_logout, h]
  | evaluate header =>
    rcases service.value_evaluate_fst header now with h | ⟨_, -, h⟩ <;>
      simp only [step_evaluate, h]
  | process request =>
    rcases service.value_evaluate_fst request.authorization now with h | ⟨_, -, h⟩ <;>
      simp only [step_process, value_process_fst, h]
  | sweep idle => simp only [step_sweep, value_sweep]

theorem codec_run (turns : List Turn) : (service.run turns).codec = service.codec := by
  induction turns generalizing service with
  | nil => rfl
  | cons turn turns ih => rw [run_cons, ih, codec_step]

end AuthService

end AuthGate
