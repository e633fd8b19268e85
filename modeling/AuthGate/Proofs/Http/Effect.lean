import AuthGate.Http.App
import AuthGate.Proofs.Revocation.Held
import AuthGate.Proofs.Service.Lock

namespace AuthGate

namespace HttpRequest

/-- A request submits a login: it is made to the login resource in the right way,
carries a document no longer than the limit, and this reads as the login. -/
structure Submits (request : HttpRequest) (limit : Nat) (login : LoginRequest) : Prop where
  path : request.path = "/auth/login"
  method : request.method = "POST"
  mediaType : (request.header "content-type").any MediaType.isJson = true
  size : request.body.length ≤ limit
  body : LoginRequest.ofSymbols (symbols request.body) = .ok login

/-- The authorization header of a request yields a bearer token. -/
def Presents (request : HttpRequest) (raw : String) : Prop :=
  (request.header "authorization").map bearerToken = some (.ok (some raw))

end HttpRequest

theorem LoginRequest.ofRequest_eq_ok_iff (limit : Nat) (request : HttpRequest)
    (login : LoginRequest) : ofRequest limit request = .ok login ↔
      (request.header "content-type").any MediaType.isJson = true ∧
        request.body.length ≤ limit ∧ ofSymbols (symbols request.body) = .ok login := by
  unfold ofRequest
  cases hmedia : (request.header "content-type").any MediaType.isJson with
  | false => simp
  | true =>
    by_cases hsize : limit < request.body.length
    · simp [hsize, Nat.not_le.2 hsize]
    · have hfits : request.body.length ≤ limit := Nat.not_lt.1 hsize
      cases hbody : ofSymbols (symbols request.body) with
      | ok read => simp [hsize, hfits]
      | error failure =>
        -- both refusals of a body are responses, and none of them is a login
        cases hmismatch : failure.cause.isMismatch <;> simp [hsize, hmismatch]

theorem Route.ofPath?_eq_some_iff (path : String) (route : Route) :
    ofPath? path = some route ↔ path = match route with
      | root => "/"
      | health => "/healthz"
      | session => "/auth/session"
      | login => "/auth/login"
      | logout => "/auth/logout" := by
  unfold ofPath?
  constructor
  · intro h
    iterate 5 (split at h; · next hpath => cases h; exact hpath)
    cases h
  · rintro rfl
    cases route <;> rfl

theorem HttpResponse.value_reportError (error : AuthError) :
    (reportError error).value = ofError error := by
  unfold reportError
  split <;> rfl

/-- A request passes as its outcome says. -/
theorem AuthService.value_letThrough (service : AuthService) (request : BearerRequest)
    (now : Instant) :
    (service.letThrough request now).value =
      let (after, outcome, _) := (service.evaluate request.authorization now).value
      (after, { request with identity := outcome.identity? }, match outcome with
        | .rejected error => .ended (.ofError error)
        | _ => .handled outcome.identity?) := by
  unfold letThrough
  rw [Logged.value_bind, value_process]
  dsimp only
  cases (service.evaluate request.authorization now).value.2.1 with
  | anonymous => rfl
  | authenticated identity => rfl
  | rejected error => rw [Logged.value_bind, HttpResponse.value_reportError]; rfl

namespace App

/-- All that a request may make of the subsystem. A login submitted may change the
record of its account. The logout of a token that verifies and has not expired
retains the key of this token until its own expiry. Where the caller's identity is
looked at, the entry of the token presented is dropped if it has expired. Nothing
else is touched. -/
inductive Effect (app : App) (request : HttpRequest) (now : Instant) : AuthService → Prop
  | nothing : Effect app request now app.service
  | login {login : LoginRequest} {tracker : LockoutTracker}
      (submits : request.Submits app.server.bodyLimitBytes.toNat login)
      (policy : tracker.policy = app.service.tracker.policy)
      (others : ∀ name, name ≠ login.username →
        tracker.record? name = app.service.tracker.record? name) :
      Effect app request now { app.service with tracker }
  | logout {raw : String} {claims : Claims}
      (path : request.path = "/auth/logout") (method : request.method = "POST")
      (presents : request.Presents raw) (verify : app.service.codec.verify raw = .ok claims)
      (valid : now < claims.expiresAt) :
      Effect app request now { app.service with
        registry := app.service.registry.retain (revocationKey raw) claims.expiresAt }
  | lookup {raw : String} {expiry : Instant}
      (path : request.path = "/" ∨ request.path = "/auth/session")
      (presents : request.Presents raw)
      (held : app.service.registry.entries[revocationKey raw]? = some expiry)
      (expired : expiry ≤ now) :
      Effect app request now { app.service with
        registry := ⟨app.service.registry.entries.erase (revocationKey raw)⟩ }

variable (app : App) (request : HttpRequest) (jti : String) (now : Instant)

theorem value_answerIdentified_fst (respond : Option Identity → HttpResponse) :
    (app.answerIdentified request now respond).value.1 =
      (app.service.evaluate (request.header "authorization") now).value.1 := by
  unfold answerIdentified
  rw [Logged.value_bind, AuthService.value_letThrough]
  dsimp only
  split <;> rfl

theorem answerLogin_of_error {response : HttpResponse}
    (hread : LoginRequest.ofRequest app.server.bodyLimitBytes.toNat request = .error response) :
    app.answerLogin request jti now = pure (app.service, some response) := by
  unfold answerLogin
  rw [hread]

theorem value_answerLogin_fst {login : LoginRequest}
    (hread : LoginRequest.ofRequest app.server.bodyLimitBytes.toNat request = .ok login) :
    (app.answerLogin request jti now).value.1 =
      (app.service.authenticate app.credentials login.username login.password jti now).value.1 := by
  unfold answerLogin
  rw [hread]
  dsimp only
  rw [Logged.value_bind]
  split <;> rfl

theorem value_answerLogout_fst_of_presents {raw : String} (hpresents : request.Presents raw) :
    (app.answerLogout request now).value.1 = (app.service.logout raw now).value.1 := by
  unfold answerLogout
  rw [hpresents]
  rfl

theorem value_answerLogout_fst_of_not_presents (hnone : ∀ raw, ¬ request.Presents raw) :
    (app.answerLogout request now).value.1 = app.service := by
  unfold answerLogout
  split
  · next raw hpresents => exact absurd hpresents (hnone raw)
  · rfl

/-- A request changes the subsystem as its answer does, or not at all. -/
theorem value_handle_fst : (app.handle request jti now).value.1 = app.service ∨
    (app.handle request jti now).value.1 =
      (app.answer (Route.ofPath? request.path) request jti now).value.1 := by
  unfold handle
  dsimp only
  split
  · exact .inl rfl
  · right
    rw [Logged.value_bind]
    split
    · next h => rw [h]; rfl
    · next h => rw [h]; rfl

variable {app request} {now}

theorem effect_answerIdentified
    (hpath : request.path = "/" ∨ request.path = "/auth/session")
    (respond : Option Identity → HttpResponse) :
    app.Effect request now (app.answerIdentified request now respond).value.1 := by
  rw [value_answerIdentified_fst]
  obtain hsame | ⟨raw, hpresents, hlookup⟩ :=
    app.service.value_evaluate_fst (request.header "authorization") now
  · rw [hsame]
    exact .nothing
  · rw [hlookup]
    obtain hheld | ⟨expiry, hentry, hexpired, hdropped⟩ :=
      app.service.registry.isRevoked_fst raw now
    · rw [hheld]
      exact .nothing
    · rw [hdropped]
      exact .lookup hpath hpresents hentry hexpired

/-- A login touches the record of its own account at most, whether or not it
succeeds. -/
theorem effect_answerLogin (hpath : request.path = "/auth/login")
    (hmethod : request.method = "POST") (jti : String) :
    app.Effect request now (app.answerLogin request jti now).value.1 := by
  cases hread : LoginRequest.ofRequest app.server.bodyLimitBytes.toNat request with
  | error response =>
    rw [answerLogin_of_error _ _ _ _ hread]
    exact .nothing
  | ok login =>
    obtain ⟨hmedia, hsize, hbody⟩ := (LoginRequest.ofRequest_eq_ok_iff _ _ _).1 hread
    rw [value_answerLogin_fst _ _ _ _ hread, AuthService.value_authenticate_fst]
    split
    · exact .nothing
    · obtain ⟨tracker, hsettled, hpolicy, hothers⟩ := app.service.exists_tracker_settle
        login.username jti (app.credentials login.username login.password) now
      rw [hsettled]
      exact .login ⟨hpath, hmethod, hmedia, hsize, hbody⟩ hpolicy hothers

theorem effect_answerLogout (hpath : request.path = "/auth/logout")
    (hmethod : request.method = "POST") :
    app.Effect request now (app.answerLogout request now).value.1 := by
  by_cases hpresents : ∃ raw, request.Presents raw
  · obtain ⟨raw, hpresents⟩ := hpresents
    rw [value_answerLogout_fst_of_presents _ _ _ hpresents]
    obtain ⟨hsame, -⟩ | ⟨claims, hverify, hvalid, hrevoked⟩ :=
      app.service.value_logout_fst raw now
    · rw [hsame]
      exact .nothing
    · rw [hrevoked, app.service.registry.value_revoke_of_lt raw hvalid]
      exact .logout hpath hmethod hpresents hverify hvalid
  · rw [value_answerLogout_fst_of_not_presents _ _ _ fun raw h => hpresents ⟨raw, h⟩]
    exact .nothing

theorem effect_answer (jti : String) :
    app.Effect request now
      (app.answer (Route.ofPath? request.path) request jti now).value.1 := by
  cases hroute : Route.ofPath? request.path with
  | none => exact .nothing
  | some route =>
    have hpath := (Route.ofPath?_eq_some_iff _ _).1 hroute
    cases route with
    | root =>
      exact effect_answerIdentified (.inl hpath) fun identity =>
        if !Route.root.accepts request.method then .empty 405 else app.rootResponse identity
    | session =>
      exact effect_answerIdentified (.inr hpath) fun identity =>
        if !Route.session.accepts request.method then .empty 405 else sessionResponse identity
    | health => exact .nothing
    | login =>
      unfold answer
      dsimp only
      split
      · next haccepted => exact effect_answerLogin hpath (of_decide_eq_true haccepted) jti
      · exact .nothing
    | logout =>
      unfold answer
      dsimp only
      split
      · next haccepted => exact effect_answerLogout hpath (of_decide_eq_true haccepted)
      · exact .nothing

theorem effect_handle (jti : String) :
    app.Effect request now (app.handle request jti now).value.1 := by
  obtain hsame | hanswer := app.value_handle_fst request jti now
  · rw [hsame]
    exact .nothing
  · rw [hanswer]
    exact effect_answer jti

theorem Effect.eq_service {after : AuthService} (heffect : app.Effect request now after)
    (hlogin : ∀ login, ¬ request.Submits app.server.bodyLimitBytes.toNat login)
    (hlogout : request.path ≠ "/auth/logout") (hroot : request.path ≠ "/")
    (hsession : request.path ≠ "/auth/session") : after = app.service := by
  cases heffect with
  | nothing => rfl
  | login submits => exact absurd submits (hlogin _)
  | logout path => exact absurd path hlogout
  | lookup path => exact (path.elim hroot hsession).elim

/-- As long as the credential store is silent, a login leaves no trace. -/
theorem value_answer_fst_of_silent {login : LoginRequest}
    (hsubmits : request.Submits app.server.bodyLimitBytes.toNat login)
    (hsilent : app.credentials login.username login.password = .silent) (jti : String) :
    (app.answer (Route.ofPath? request.path) request jti now).value.1 = app.service := by
  have hread : LoginRequest.ofRequest app.server.bodyLimitBytes.toNat request = .ok login :=
    (LoginRequest.ofRequest_eq_ok_iff _ _ _).2
      ⟨hsubmits.mediaType, hsubmits.size, hsubmits.body⟩
  have hroute : Route.ofPath? request.path = some .login :=
    (Route.ofPath?_eq_some_iff _ _).2 hsubmits.path
  unfold answer
  rw [hroute]
  dsimp only
  split
  · rw [value_answerLogin_fst _ _ _ _ hread, AuthService.value_authenticate_fst, hsilent]
    split <;> rfl
  · rfl

/-- A request has no other effect than that of its kind. A request to the login
resource that does not submit a login, a login that the credential store leaves
waiting, and a request for an unknown path change nothing at all. It holds in any
state, for any store, and also when the server lets no request through. -/
theorem handle_effect (app : App) (request : HttpRequest) (jti : String) (now : Instant) :
    let limit := app.server.bodyLimitBytes.toNat
    let after := (app.handle request jti now).value.1
    app.Effect request now after ∧
    (request.path = "/auth/login" → (∀ login, ¬ request.Submits limit login) →
      after = app.service) ∧
    (∀ login, request.Submits limit login →
      app.credentials login.username login.password = .silent → after = app.service) ∧
    (Route.ofPath? request.path = none → after = app.service) := by
  intro limit after
  refine ⟨effect_handle jti, ?_, ?_, ?_⟩
  · intro hpath hnone
    apply (effect_handle jti).eq_service hnone <;> rw [hpath] <;> decide
  · intro login hsubmits hsilent
    obtain hsame | hanswer := app.value_handle_fst request jti now
    · exact hsame
    · exact hanswer.trans (value_answer_fst_of_silent hsubmits hsilent jti)
  · intro hunknown
    have hpath : ∀ route, Route.ofPath? request.path ≠ some route := by simp [hunknown]
    apply (effect_handle jti).eq_service
    · intro login hsubmits
      exact hpath .login ((Route.ofPath?_eq_some_iff _ _).2 hsubmits.path)
    · exact fun h => hpath .logout ((Route.ofPath?_eq_some_iff _ _).2 h)
    · exact fun h => hpath .root ((Route.ofPath?_eq_some_iff _ _).2 h)
    · exact fun h => hpath .session ((Route.ofPath?_eq_some_iff _ _).2 h)

end App

end AuthGate
