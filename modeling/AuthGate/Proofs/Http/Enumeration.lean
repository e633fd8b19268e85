import AuthGate.Proofs.Http.Effect

namespace AuthGate

/-- Two credential stores that differ in one account only. The first one knows it
with a password, to the second one its name is unknown. -/
structure DifferIn (username password : String) (known unknown : CredentialCheck) : Prop where
  knows : ∀ attempt, known username attempt = .verdict (attempt = password)
  ignores : ∀ attempt, unknown username attempt = .failed .userNotFound
  others : ∀ name, name ≠ username → known name = unknown name

namespace AuthService

variable (service : AuthService)

variable {username password : String} {known unknown : CredentialCheck}

/-- Where both stores refuse, a login ends alike: in what it answers, and in what it
counts and logs. -/
theorem settle_known_eq_unknown (hdiffer : DifferIn username password known unknown)
    {name attempt : String} (hwrong : name = username → attempt ≠ password) (jti : String)
    (now : Instant) :
    service.settle name jti (known name attempt) now =
      service.settle name jti (unknown name attempt) now := by
  by_cases hname : name = username
  · subst hname
    have hrefused : (unknown name attempt).isRefusal = true := by
      rw [hdiffer.ignores]
      rfl
    rw [hdiffer.knows, decide_eq_false (hwrong rfl), service.settle_of_isRefusal hrefused]
  · rw [hdiffer.others name hname]

theorem authenticate_known_eq_unknown (hdiffer : DifferIn username password known unknown)
    {name attempt : String} (hwrong : name = username → attempt ≠ password) (jti : String)
    (now : Instant) :
    service.authenticate known name attempt jti now =
      service.authenticate unknown name attempt jti now := by
  cases hlocked : service.tracker.isLocked name now with
  | true =>
    rw [service.authenticate_eq_of_isLocked hlocked, service.authenticate_eq_of_isLocked hlocked]
  | false =>
    rw [service.authenticate_eq_of_not_isLocked hlocked,
      service.authenticate_eq_of_not_isLocked hlocked,
      service.settle_known_eq_unknown hdiffer hwrong]

end AuthService

/-- A request with the identifier that a token issued for it gets, and the reading
of the clock when it is handled. -/
structure Visit where
  request : HttpRequest
  jti : String
  now : Instant

namespace App

/-- What is seen of a server that handles requests one after the other: the
state that each of them leaves, the response to it, and all that it logs. -/
def serve (app : App) : List Visit → List (Logged (AuthService × HttpResponse))
  | [] => []
  | visit :: visits =>
    let outcome := app.handle visit.request visit.jti visit.now
    outcome :: { app with service := outcome.value.1 }.serve visits

variable (app : App) {username password : String} {known unknown : CredentialCheck}

theorem answerLogin_known_eq_unknown (hdiffer : DifferIn username password known unknown)
    {request : HttpRequest} (hwrong : ∀ login,
      LoginRequest.ofRequest app.server.bodyLimitBytes.toNat request = .ok login →
        login.username = username → login.password ≠ password) (jti : String) (now : Instant) :
    { app with credentials := known }.answerLogin request jti now =
      { app with credentials := unknown }.answerLogin request jti now := by
  unfold answerLogin
  dsimp only
  cases hread : LoginRequest.ofRequest app.server.bodyLimitBytes.toNat request with
  | error response => rfl
  | ok login =>
    dsimp only
    rw [app.service.authenticate_known_eq_unknown hdiffer (hwrong login hread)]

/-- A single request is answered alike, and logged alike. Only the login resource
asks the credential store. -/
theorem handle_known_eq_unknown (hdiffer : DifferIn username password known unknown)
    {request : HttpRequest} (hwrong : ∀ login,
      request.Submits app.server.bodyLimitBytes.toNat login →
        login.username = username → login.password ≠ password) (jti : String) (now : Instant) :
    { app with credentials := known }.handle request jti now =
      { app with credentials := unknown }.handle request jti now := by
  have hanswer : { app with credentials := known }.answer (Route.ofPath? request.path)
      request jti now = { app with credentials := unknown }.answer (Route.ofPath? request.path)
        request jti now := by
    cases hroute : Route.ofPath? request.path with
    | none => rfl
    | some route =>
      cases route with
      | root => rfl
      | health => rfl
      | session => rfl
      | logout => rfl
      | login =>
        unfold answer
        dsimp only
        split
        · next haccepted =>
          refine answerLogin_known_eq_unknown app hdiffer (fun login hread => ?_) jti now
          obtain ⟨hmedia, hsize, hbody⟩ := (LoginRequest.ofRequest_eq_ok_iff _ _ _).1 hread
          exact hwrong login ⟨(Route.ofPath?_eq_some_iff _ _).1 hroute,
            of_decide_eq_true haccepted, hmedia, hsize, hbody⟩
        · rfl
  unfold handle
  dsimp only
  rw [hanswer]

theorem serve_known_eq_unknown (hdiffer : DifferIn username password known unknown)
    {visits : List Visit} (hwrong : ∀ visit ∈ visits, ∀ login,
      visit.request.Submits app.server.bodyLimitBytes.toNat login →
        login.username = username → login.password ≠ password) :
    { app with credentials := known }.serve visits =
      { app with credentials := unknown }.serve visits := by
  induction visits generalizing app with
  | nil => rfl
  | cons visit visits ih =>
    obtain ⟨hfirst, hrest⟩ := List.forall_mem_cons.1 hwrong
    have hhandle := app.handle_known_eq_unknown hdiffer hfirst visit.jti visit.now
    have htail := ih { app with
      service := ({ app with credentials := unknown }.handle visit.request visit.jti
        visit.now).value.1 } hrest
    unfold serve
    rw [hhandle]
    exact congrArg _ htail

/-- Nobody who does not have the password of an account can find out whether the
account exists: from whatever state the server starts, with whatever requests and
readings of the clock. Nor does it help to have other requests handled, or the clock
move on, while a login waits for the credential store. -/
theorem unknown_account_indistinguishable (hdiffer : DifferIn username password known unknown)
    {visits : List Visit} (hwrong : ∀ visit ∈ visits, ∀ login,
      visit.request.Submits app.server.bodyLimitBytes.toNat login →
        login.username = username → login.password ≠ password) :
    { app with credentials := known }.serve visits =
        { app with credentials := unknown }.serve visits ∧
      ∀ (meanwhile : AuthService) (name attempt jti : String) (answered : Instant),
        (name = username → attempt ≠ password) →
          meanwhile.settle name jti (known name attempt) answered =
            meanwhile.settle name jti (unknown name attempt) answered :=
  ⟨app.serve_known_eq_unknown hdiffer hwrong, fun meanwhile _ _ jti answered hguess =>
    meanwhile.settle_known_eq_unknown hdiffer hguess jti answered⟩

/-- Two guesses at a password, and a third one that finds the account locked, where
there is such an account and where there is not. -/
theorem guesses_at_unknown_account :
    let service := AuthService.ofSettings { AuthSettings.default with
      token := ⟨"0123456789abcdef0123456789abcdef", .seconds 3600⟩
      lockout := { LockoutPolicy.default with maxFailedAttempts := 2 } }
    let known : CredentialCheck := fun name attempt =>
      if name = "alice" then .verdict (attempt = "wonderland") else .failed .userNotFound
    let unknown : CredentialCheck := fun _ _ => .failed .userNotFound
    let app : App := ⟨service, unknown, .default, "f00d"⟩
    let guess : HttpRequest := ⟨"POST", "/auth/login", [("Content-Type", "application/json")],
      utf8 "\x7b\"username\":\"alice\",\"password\":\"guess\"\x7d"⟩
    let visits : List Visit := [⟨guess, "a", .epoch⟩, ⟨guess, "b", .epoch⟩, ⟨guess, "c", .epoch⟩]
    DifferIn "alice" "wonderland" known unknown ∧
      (∀ visit ∈ visits, ∀ login, visit.request.Submits app.server.bodyLimitBytes.toNat login →
        login.username = "alice" → login.password ≠ "wonderland") ∧
      (serve { app with credentials := known } visits).map (fun outcome =>
        outcome.value.2.status) = [401, 401, 429] ∧
      { app with credentials := known }.serve visits =
        { app with credentials := unknown }.serve visits := by
  intro service known unknown app guess visits
  have hdiffer : DifferIn "alice" "wonderland" known unknown :=
    ⟨fun _ => if_pos rfl, fun _ => rfl, fun name hne => funext fun _ => if_neg hne⟩
  have hbody : (LoginRequest.ofSymbols (symbols guess.body)).toOption =
      some ⟨"alice", "guess"⟩ := by
    decide +kernel
  have hwrong : ∀ visit ∈ visits, ∀ login,
      visit.request.Submits app.server.bodyLimitBytes.toNat login →
        login.username = "alice" → login.password ≠ "wonderland" := by
    intro visit hmem login hsubmits _
    have hguess : visit.request = guess := by
      simp only [visits, List.mem_cons, List.not_mem_nil, or_false] at hmem
      rcases hmem with rfl | rfl | rfl <;> rfl
    rw [← hguess, hsubmits.body] at hbody
    obtain rfl := Option.some.inj hbody
    decide
  have hstatus : (serve { app with credentials := known } visits).map (fun outcome =>
      outcome.value.2.status) = [401, 401, 429] := by
    decide +kernel
  exact ⟨hdiffer, hwrong, hstatus, (app.unknown_account_indistinguishable hdiffer hwrong).1⟩

end App

end AuthGate
