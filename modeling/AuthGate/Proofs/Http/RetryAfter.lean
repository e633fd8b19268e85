import AuthGate.Password.Store
import AuthGate.Proofs.Http.Identification
import AuthGate.Proofs.Service.Attempt

namespace AuthGate

namespace Duration

/-- Whole seconds that are rounded up cover a span, -/
theorem nanos_le_ceilSecs {d : Duration} (hroom : d.secs < 0xffff_ffff_ffff_ffff) :
    d.nanos ≤ d.ceilSecs * 1_000_000_000 := by
  have hparts := d.secs_add_subsecNanos
  have hsubsec : d.subsecNanos < 1_000_000_000 := Nat.mod_lt _ (by decide)
  unfold ceilSecs
  split <;> omega

/-- and one second less does not. -/
theorem ceilSecs_sub_one_lt (d : Duration) :
    ((d.ceilSecs : Int) - 1) * 1_000_000_000 < d.nanos := by
  have hparts := d.secs_add_subsecNanos
  unfold ceilSecs
  split <;> omega

end Duration

/-- A lock never lasts longer than the calendar. -/
theorem Instant.secs_remaining_lt (now limit : Instant) :
    (now.remaining limit).secs < 0xffff_ffff_ffff_ffff := by
  have hlower := now.lower
  have hupper := limit.upper
  have hnanos : (now.remaining limit).nanos = (limit.nanos - now.nanos).toNat := rfl
  unfold Duration.secs
  rw [hnanos]
  omega

/-- A credential store leaves locks to the subsystem: it may fail for any reason but that
an account is locked. -/
def CredentialCheck.LeavesLocks (credentials : CredentialCheck) : Prop :=
  ∀ username password remaining,
    credentials username password ≠ .failed (.accountLocked remaining)

theorem CredentialStore.leavesLocks_check {scheme : PasswordScheme}
    (store : CredentialStore scheme) : CredentialCheck.LeavesLocks store.check := by
  intro username password remaining
  unfold check verify
  cases store.kept[username]? with
  | none => nofun
  | some stored =>
    dsimp only
    cases scheme.verify password stored with
    | ok accepted => exact StoreAnswer.noConfusion
    | error defect => exact fun h => nomatch StoreAnswer.failed.inj h

namespace AuthService

variable (service : AuthService)

/-- A record that takes no failure and is not cleared stays as it is, or is swept out. -/
theorem record?_run_of_quiet {turns : List Turn} {username : String}
    (hrefuses : service.occurrences (refuses username) turns = 0)
    (haccepts : service.occurrences (accepts username) turns = 0) :
    (service.run turns).tracker.record? username = service.tracker.record? username ∨
      (service.run turns).tracker.record? username = none := by
  induction turns generalizing service with
  | nil => exact .inl rfl
  | cons turn turns ih =>
    obtain ⟨hrefuse, hrefuses⟩ := (service.occurrences_cons_eq_zero_iff _ _ _).1 hrefuses
    obtain ⟨haccept, haccepts⟩ := (service.occurrences_cons_eq_zero_iff _ _ _).1 haccepts
    have hstep := service.record?_step turn username
    rw [hrefuse, haccept, if_neg Bool.false_ne_true, Bool.false_or] at hstep
    rw [run_cons]
    obtain hsame | hnone := ih _ hrefuses haccepts
    · rw [hsame, hstep]
      split
      · exact .inr rfl
      · exact .inl rfl
    · exact .inr hnone

/-- An account whose lock has passed stays open until its next failure. -/
theorem isLocked_run_eq_false_of_quiet {turns : List Turn} {username : String} {limit now : Instant}
    (hlimit : (service.tracker.info username).lockUntil = some limit) (hpassed : limit ≤ now)
    (hrefuses : service.occurrences (refuses username) turns = 0)
    (haccepts : service.occurrences (accepts username) turns = 0) :
    (service.run turns).tracker.isLocked username now = false := by
  obtain hsame | hnone := service.record?_run_of_quiet hrefuses haccepts
  · rw [LockoutTracker.isLocked_eq_of_record?_eq hsame, Bool.eq_false_iff, ne_eq,
      LockoutTracker.isLocked_iff]
    rintro ⟨held, hheld, hbefore⟩
    obtain rfl := Option.some.inj (hlimit.symm.trans hheld)
    exact Int.not_lt.2 hpassed hbefore
  · rw [LockoutTracker.isLocked_eq_any, hnone]
    rfl

end AuthService

namespace App

/-- The response to a login that has ended. -/
def respond : Except AuthError Session → HttpResponse
  | .ok session => loginResponse session
  | .error error => .ofError error

theorem status_respond_iff (result : Except AuthError Session) :
    (respond result).status = 429 ↔
      ∃ remaining, result = .error (.accountLocked remaining) := by
  cases result with
  | ok session => exact ⟨nofun, nofun⟩
  | error error =>
    have hstatus : (respond (.error error)).status = HttpResponse.statusOf error := rfl
    rw [hstatus]
    cases error <;> simp [HttpResponse.statusOf]

variable (app : App) {request : HttpRequest} {login : LoginRequest} (jti : String) (now : Instant)

theorem value_answerLogin
    (hread : LoginRequest.ofRequest app.server.bodyLimitBytes.toNat request = .ok login) :
    let outcome := (app.service.authenticate app.credentials login.username login.password
      jti now).value
    (app.answerLogin request jti now).value = (outcome.1, outcome.2.result.map respond) := by
  intro outcome
  unfold answerLogin
  rw [hread]
  dsimp only
  rw [Logged.value_bind]
  split
  · next hresult =>
    rw [show outcome.2.result = none from hresult]
    rfl
  · next session hresult =>
    rw [show outcome.2.result = some (.ok session) from hresult]
    rfl
  · next error hresult =>
    rw [show outcome.2.result = some (.error error) from hresult, Logged.value_bind,
      HttpResponse.value_reportError]
    rfl

/-- A request that submits a login has the effect and the response of this login. -/
theorem value_handle_login (hroom : app.server.maxConcurrentRequests ≠ 0)
    (hsubmits : request.Submits app.server.bodyLimitBytes.toNat login) :
    let outcome := (app.service.authenticate app.credentials login.username login.password
      jti now).value
    (app.handle request jti now).value = (outcome.1,
      { (outcome.2.result.map respond).getD (.error 408 "timeout" "request timed out") with
        allow := none }) := by
  intro outcome
  have hroute : Route.ofPath? request.path = some .login :=
    (Route.ofPath?_eq_some_iff _ _).2 hsubmits.path
  have hread : LoginRequest.ofRequest app.server.bodyLimitBytes.toNat request = .ok login :=
    (LoginRequest.ofRequest_eq_ok_iff _ _ _).2
      ⟨hsubmits.mediaType, hsubmits.size, hsubmits.body⟩
  have hanswer : (app.answer (some .login) request jti now).value =
      (outcome.1, outcome.2.result.map respond) := by
    unfold answer
    rw [hsubmits.method]
    exact app.value_answerLogin jti now hread
  unfold handle
  rw [hroute, hsubmits.method]
  dsimp only
  rw [if_neg hroom, Logged.value_bind, hanswer]
  cases outcome.2.result with
  | none => rfl
  | some result => rfl

/-- A server that lets no request through turns logins away for that reason alone. -/
theorem status_handle_of_no_room (hroom : app.server.maxConcurrentRequests = 0) :
    (app.handle request jti now).value.2.status = 503 := by
  unfold handle
  dsimp only
  rw [if_pos hroom]
  rfl

/-- The response with status 429 to a login says that its account is locked. -/
theorem status_handle_login_iff (hstore : CredentialCheck.LeavesLocks app.credentials)
    (hsubmits : request.Submits app.server.bodyLimitBytes.toNat login) :
    (app.handle request jti now).value.2.status = 429 ↔
      app.server.maxConcurrentRequests ≠ 0 ∧
        app.service.tracker.isLocked login.username now = true := by
  by_cases hroom : app.server.maxConcurrentRequests = 0
  · rw [app.status_handle_of_no_room jti now hroom]
    exact iff_of_false (by decide) fun h => h.1 hroom
  · rw [app.value_handle_login jti now hroom hsubmits]
    dsimp only
    cases hlocked : app.service.tracker.isLocked login.username now with
    | true =>
      rw [app.service.value_authenticate_of_isLocked hlocked]
      exact iff_of_true rfl ⟨hroom, rfl⟩
    | false =>
      refine iff_of_false ?_ fun h => Bool.false_ne_true h.2
      obtain ⟨-, hsettled⟩ := app.service.settled_authenticate hlocked app.credentials
        login.password jti
      cases hresult : (app.service.authenticate app.credentials login.username login.password
        jti now).value.2.result with
      | none => decide
      | some result =>
        rw [Option.map_some, Option.getD_some, status_respond_iff]
        rintro ⟨remaining, rfl⟩
        exact hsettled.ne_accountLocked (hstore _ _ remaining) hresult

/-- A login of an account that is locked is turned away without any change, for the time
that the lock lasts, in whole seconds. -/
theorem value_handle_of_lockUntil {limit : Instant}
    (hroom : app.server.maxConcurrentRequests ≠ 0)
    (hsubmits : request.Submits app.server.bodyLimitBytes.toNat login)
    (hlimit : (app.service.tracker.info login.username).lockUntil = some limit)
    (hbefore : now < limit) :
    (app.handle request jti now).value.1 = app.service ∧
      (app.handle request jti now).value.2.retryAfter =
        some (now.remaining limit).ceilSecs := by
  have hlocked : app.service.tracker.isLocked login.username now = true :=
    (LockoutTracker.isLocked_iff _ _ _).2 ⟨limit, hlimit, hbefore⟩
  rw [app.value_handle_login jti now hroom hsubmits,
    app.service.value_authenticate_of_isLocked hlocked,
    LockoutTracker.remaining_of_lockUntil _ hlimit]
  exact ⟨rfl, rfl⟩

/-- A login that is turned away because its account is locked is told to wait for some
seconds, one at least. Up to one second before they have passed, the account stays locked,
whatever is asked of the subsystem. Once they have passed, it is open until its next
failure, and no further login of it is turned away. It holds from any state, for any policy
and up to the end of the calendar. -/
theorem retry_after_tight {app : App} {request : HttpRequest} {login : LoginRequest}
    (hstore : CredentialCheck.LeavesLocks app.credentials)
    (hsubmits : request.Submits app.server.bodyLimitBytes.toNat login) {jti : String}
    {now : Instant} (hthrottled : (app.handle request jti now).value.2.status = 429) :
    let username := login.username
    let after := (app.handle request jti now).value.1
    ∃ seconds, (app.handle request jti now).value.2.retryAfter = some seconds ∧ 1 ≤ seconds ∧
      ∀ (turns : List Turn) (later : Instant),
        (∀ turn ∈ turns, turn.now ≤ later) →
        after.occurrences (AuthService.refuses username) turns = 0 →
        after.occurrences (AuthService.accepts username) turns = 0 →
        let held := after.run turns
        (later.nanos ≤ now.nanos + ((seconds : Int) - 1) * 1_000_000_000 →
          held.tracker.isLocked username later = true) ∧
        (now.nanos + (seconds : Int) * 1_000_000_000 ≤ later.nanos →
          held.tracker.isLocked username later = false ∧
          ∀ (credentials : CredentialCheck) (next : HttpRequest) (password identifier : String),
            credentials.LeavesLocks →
            next.Submits app.server.bodyLimitBytes.toNat ⟨username, password⟩ →
            ({ app with service := held, credentials }.handle next identifier
              later).value.2.status ≠ 429) := by
  intro username after
  obtain ⟨hroom, hlocked⟩ := (app.status_handle_login_iff jti now hstore hsubmits).1 hthrottled
  obtain ⟨limit, hlimit, hbefore⟩ := (LockoutTracker.isLocked_iff _ _ _).1 hlocked
  obtain ⟨hafter, hretry⟩ := app.value_handle_of_lockUntil jti now hroom hsubmits hlimit hbefore
  have hspan := Instant.nanos_remaining_of_lt hbefore
  have hcovers := Duration.nanos_le_ceilSecs (now.secs_remaining_lt limit)
  have htight := (now.remaining limit).ceilSecs_sub_one_lt
  have hpositive := Instant.lt_def.1 hbefore
  refine ⟨_, hretry, by omega, ?_⟩
  intro turns later hclock hrefuses haccepts held
  have hheld : held = app.service.run turns := congrArg (AuthService.run · turns) hafter
  rw [show after = app.service from hafter] at hrefuses haccepts
  rw [hheld]
  refine ⟨fun hearly => ?_, fun hpassed => ?_⟩
  · have hstill : later < limit := Instant.lt_def.2 (by omega)
    have hrun := app.service.record?_run_of_isLocked
      ((LockoutTracker.isLocked_iff _ _ _).2 ⟨limit, hlimit, hstill⟩) hclock
    rw [LockoutTracker.isLocked_eq_of_record?_eq hrun]
    exact (LockoutTracker.isLocked_iff _ _ _).2 ⟨limit, hlimit, hstill⟩
  · have hopen : (app.service.run turns).tracker.isLocked username later = false :=
      app.service.isLocked_run_eq_false_of_quiet hlimit (Instant.le_def.2 (by omega)) hrefuses
        haccepts
    refine ⟨hopen, fun credentials next password identifier hleaves hnext hagain => ?_⟩
    have hturned := (status_handle_login_iff
      { app with service := app.service.run turns, credentials } identifier later hleaves hnext).1
        hagain
    rw [hopen] at hturned
    exact Bool.false_ne_true hturned.2

/-- An account is locked for a quarter of an hour, and half a second later it is told to
wait for 900 seconds. A sweep that keeps nothing idle and the failure of somebody else do not
open it half a second before its time, and half a second after it the right password is let
in. -/
theorem wait_of_locked_account :
    let settings := { AuthSettings.default with
      token := ⟨"0123456789abcdef0123456789abcdef", .seconds 3600⟩
      lockout := { LockoutPolicy.default with maxFailedAttempts := 2 } }
    let store : CredentialCheck := fun name attempt =>
      if name = "alice" then .verdict (attempt = "wonderland") else .failed .userNotFound
    let wrong : Turn := ⟨.authenticate store "alice" "guess" "a", .epoch⟩
    let app : App :=
      ⟨(AuthService.ofSettings settings).run [wrong, wrong], store, .default, "f00d"⟩
    let limit := app.server.bodyLimitBytes.toNat
    let post (body : List UInt8) : HttpRequest :=
      ⟨"POST", "/auth/login", [("Content-Type", "application/json")], body⟩
    let login (password : String) : HttpRequest :=
      post (utf8 ("\x7b\"username\":\"alice\",\"password\":\"" ++ password ++ "\"\x7d"))
    let now : Instant := ⟨500_000_000, by decide, by decide⟩
    let after := (app.handle (login "guess") "b" now).value.1
    let early : Instant := ⟨899_500_000_000, by decide, by decide⟩
    let late : Instant := ⟨900_500_000_000, by decide, by decide⟩
    let turns (stop : Instant) : List Turn :=
      [⟨.sweep .zero, now⟩, ⟨.authenticate store "bob" "guess" "c", stop⟩]
    store.LeavesLocks ∧ (login "guess").Submits limit ⟨"alice", "guess"⟩ ∧
      (app.handle (login "guess") "b" now).value.2.status = 429 ∧
      (app.handle (login "guess") "b" now).value.2.retryAfter = some 900 ∧
      (after.run (turns early)).tracker.isLocked "alice" early = true ∧
      (after.run (turns late)).tracker.isLocked "alice" late = false ∧
      ({ app with service := after.run (turns late) }.handle (login "wonderland") "d"
        late).value.2.status ≠ 429 := by
  intro settings store wrong app limit post login now after early late turns
  have hleaves : CredentialCheck.LeavesLocks store := by
    intro name attempt remaining
    unfold store
    split <;> nofun
  have hpath : ∀ body, (post body).path = "/auth/login" := by
    have hempty : (post []).path = "/auth/login" := by decide
    exact fun _ => hempty
  have hsubmits : ∀ password, (LoginRequest.ofSymbols (symbols (login password).body)).toOption =
      some ⟨"alice", password⟩ → (login password).body.length ≤ limit →
        (login password).Submits limit ⟨"alice", password⟩ := by
    intro password hbody hsize
    exact ⟨hpath _, rfl, rfl, hsize, ok_of_toOption_eq_some hbody⟩
  have hguess := hsubmits "guess" (by decide +kernel) (by decide +kernel)
  have hright := hsubmits "wonderland" (by decide +kernel) (by decide +kernel)
  have hstatus : (app.handle (login "guess") "b" now).value.2.status = 429 := by decide +kernel
  have hseconds : (app.handle (login "guess") "b" now).value.2.retryAfter = some 900 := by
    decide +kernel
  obtain ⟨seconds, hretry, -, hwait⟩ := retry_after_tight hleaves hguess hstatus
  obtain rfl := Option.some.inj (hseconds.symm.trans hretry)
  obtain ⟨hlocked, -⟩ := hwait (turns early) early (by decide) (by decide +kernel)
    (by decide +kernel)
  obtain ⟨-, hopen⟩ := hwait (turns late) late (by decide) (by decide +kernel) (by decide +kernel)
  obtain ⟨hunlocked, hlogin⟩ := hopen (by decide)
  exact ⟨hleaves, hguess, hstatus, hseconds, hlocked (by decide), hunlocked,
    hlogin store (login "wonderland") "wonderland" "d" hleaves hright⟩

end App

end AuthGate
