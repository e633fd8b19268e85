import AuthGate.Proofs.Lockout.Window
import AuthGate.Proofs.Service.Lock

namespace AuthGate

namespace LoginAttempt

/-- The login has been refused for wrong credentials. -/
def isWrong : LoginAttempt → Bool
  | ⟨some (.error .invalidCredentials), _⟩ => true
  | _ => false

/-- The login has been granted. -/
def isGranted : LoginAttempt → Bool
  | ⟨some (.ok _), _⟩ => true
  | _ => false

end LoginAttempt

namespace AuthService

/-! ### What a turn does to one account -/

section Events

variable (username : String) (service : AuthService) (turn : Turn)

/-- How a login of an account goes that is made in a turn, and what the credential
store says about it. -/
def attempt? : Option (LoginAttempt × StoreAnswer) :=
  match turn.operation with
  | .authenticate credentials name password jti =>
    if name = username then
      some ((service.authenticate credentials name password jti turn.now).value.2,
        credentials name password)
    else none
  | _ => none

/-- A login of the account is rejected for wrong credentials because the store has
refused it. -/
def refuses : Bool :=
  (service.attempt? username turn).any fun (attempt, answer) =>
    attempt.isWrong && answer.isRefusal

/-- The store is asked about a login of the account and accepts it. -/
def accepts : Bool :=
  (service.attempt? username turn).any fun (attempt, answer) =>
    attempt.consulted && answer.isAcceptance

/-- A login of the account is granted. -/
def grants : Bool := (service.attempt? username turn).any fun (attempt, _) => attempt.isGranted

/-- A sweep takes away the record of the account. -/
def drops : Bool :=
  match turn.operation with
  | .sweep _ =>
    (service.tracker.record? username).isSome &&
      ((service.step turn).tracker.record? username).isNone
  | _ => false

end Events

/-- In how many turns of a run something happens. -/
def occurrences (event : AuthService → Turn → Bool) (service : AuthService) : List Turn → Nat
  | [] => 0
  | turn :: turns =>
    (if event service turn then 1 else 0) + occurrences event (service.step turn) turns

theorem usable_of_build {settings : AuthSettings} {built : Logged AuthService}
    (hbuild : build settings = .ok built) : settings.lockout.Usable :=
  AuthSettings.usable_of_defect? (defect?_of_build hbuild)

variable (service : AuthService)

theorem value_settle_snd_of_isRefusal {answer : StoreAnswer} (hrefused : answer.isRefusal = true)
    (username jti : String) (now : Instant) :
    (service.settle username jti answer now).value.2 = some (.error .invalidCredentials) := by
  rw [service.settle_of_isRefusal hrefused]
  rfl

theorem attempt?_of_isLocked {username : String} {now : Instant}
    (hlocked : service.tracker.isLocked username now = true) (credentials : CredentialCheck)
    (password jti : String) :
    service.attempt? username ⟨.authenticate credentials username password jti, now⟩ =
      some (⟨some (.error (.accountLocked (service.tracker.remaining username now))), []⟩,
        credentials username password) := by
  unfold attempt?
  dsimp only
  rw [if_pos rfl, service.value_authenticate_of_isLocked hlocked]

theorem attempt?_of_not_isLocked {username : String} {now : Instant}
    (hopen : service.tracker.isLocked username now = false) (credentials : CredentialCheck)
    (password jti : String) :
    service.attempt? username ⟨.authenticate credentials username password jti, now⟩ =
      some (⟨(service.settle username jti (credentials username password) now).value.2,
        [⟨username, password⟩]⟩, credentials username password) := by
  unfold attempt?
  dsimp only
  rw [if_pos rfl, service.value_authenticate_of_not_isLocked hopen]

theorem attempt?_of_ne {username name : String} (hne : name ≠ username)
    (credentials : CredentialCheck) (password jti : String) (now : Instant) :
    service.attempt? username ⟨.authenticate credentials name password jti, now⟩ = none :=
  if_neg hne

/-- An open account counts a login for which the store refuses, and no other one. -/
theorem refuses_of_not_isLocked {username : String} {now : Instant}
    (hopen : service.tracker.isLocked username now = false) (credentials : CredentialCheck)
    (password jti : String) :
    service.refuses username ⟨.authenticate credentials username password jti, now⟩ =
      (credentials username password).isRefusal := by
  unfold refuses
  rw [service.attempt?_of_not_isLocked hopen, Option.any_some]
  dsimp only
  cases hrefused : (credentials username password).isRefusal with
  | false => exact Bool.and_false _
  | true =>
    rw [service.value_settle_snd_of_isRefusal hrefused]
    rfl

theorem isLocked_eq_false_of_refuses {username : String} {turn : Turn}
    (hrefuses : service.refuses username turn = true) :
    service.tracker.isLocked username turn.now = false := by
  obtain ⟨operation, now⟩ := turn
  cases operation with
  | authenticate credentials name password jti =>
    by_cases hname : name = username
    · subst hname
      cases hlocked : service.tracker.isLocked name now with
      | false => rfl
      | true =>
        unfold refuses at hrefuses
        rw [service.attempt?_of_isLocked hlocked] at hrefuses
        cases hrefuses
    · unfold refuses at hrefuses
      rw [service.attempt?_of_ne hname] at hrefuses
      cases hrefuses
  | logout raw => cases hrefuses
  | evaluate header => cases hrefuses
  | process request => cases hrefuses
  | sweep idle => cases hrefuses

/-- All that a turn can do to the record of an account: a refused login counts as
a failure, an accepted one clears it, and a sweep may drop it. -/
theorem record?_step (turn : Turn) (username : String) :
    (service.step turn).tracker.record? username =
      if service.refuses username turn then
        some ((service.tracker.record username).fail service.tracker.policy turn.now)
      else if service.accepts username turn || service.drops username turn then none
      else service.tracker.record? username := by
  obtain ⟨operation, now⟩ := turn
  cases operation with
  | authenticate credentials name password jti =>
    have hdrops : service.drops username ⟨.authenticate credentials name password jti, now⟩ =
        false := rfl
    rw [step_authenticate, value_authenticate_fst, hdrops, Bool.or_false]
    by_cases hname : name = username
    · subst hname
      cases hlocked : service.tracker.isLocked name now with
      | true =>
        unfold refuses accepts
        rw [service.attempt?_of_isLocked hlocked]
        rfl
      | false =>
        have haccepts : service.accepts name ⟨.authenticate credentials name password jti, now⟩ =
            (credentials name password).isAcceptance := by
          unfold accepts
          rw [service.attempt?_of_not_isLocked hlocked]
          exact Bool.true_and _
        rw [service.refuses_of_not_isLocked hlocked, haccepts, if_neg Bool.false_ne_true,
          value_settle_fst]
        split
        · rw [LockoutTracker.record?_recordFailure, if_pos rfl]
        · split
          · rw [LockoutTracker.record?_clear, if_pos rfl]
          · rfl
    · unfold refuses accepts
      rw [service.attempt?_of_ne hname]
      split
      · rfl
      · exact service.record?_settle_of_ne hname _ _ _
  | logout raw =>
    rw [step_logout, tracker_logout]
    rfl
  | evaluate header =>
    rw [step_evaluate, tracker_evaluate]
    rfl
  | process request =>
    rw [step_process, value_process_fst, tracker_evaluate]
    rfl
  | sweep idle =>
    have hrefuses : service.refuses username ⟨.sweep idle, now⟩ = false := rfl
    have haccepts : service.accepts username ⟨.sweep idle, now⟩ = false := rfl
    rw [hrefuses, haccepts, if_neg Bool.false_ne_true, Bool.false_or]
    unfold drops
    dsimp only
    rw [step_sweep, value_sweep, LockoutTracker.record?_purgeStale]
    cases service.tracker.record? username with
    | none => rfl
    | some r => cases hstale : r.isStale now idle <;> simp [hstale]

theorem policy_step (turn : Turn) : (service.step turn).tracker.policy = service.tracker.policy := by
  obtain ⟨operation, now⟩ := turn
  cases operation with
  | authenticate credentials name password jti =>
    rw [step_authenticate, value_authenticate_fst, value_settle_fst]
    split
    · rfl
    · split
      · rfl
      · split
        · exact LockoutTracker.policy_clear _ _ _
        · rfl
  | logout raw => rw [step_logout, tracker_logout]
  | evaluate header => rw [step_evaluate, tracker_evaluate]
  | process request => rw [step_process, value_process_fst, tracker_evaluate]
  | sweep idle => rw [step_sweep, value_sweep, LockoutTracker.policy_purgeStale]

theorem policy_run (turns : List Turn) :
    (service.run turns).tracker.policy = service.tracker.policy := by
  induction turns generalizing service with
  | nil => rfl
  | cons turn turns ih => rw [run_cons, ih, policy_step]

theorem occurrences_cons (event : AuthService → Turn → Bool) (turn : Turn) (turns : List Turn) :
    service.occurrences event (turn :: turns) =
      (if event service turn then 1 else 0) + (service.step turn).occurrences event turns := rfl

theorem occurrences_cons_eq_zero_iff (event : AuthService → Turn → Bool) (turn : Turn)
    (turns : List Turn) : service.occurrences event (turn :: turns) = 0 ↔
      event service turn = false ∧ (service.step turn).occurrences event turns = 0 := by
  rw [occurrences_cons]
  cases event service turn <;> simp

variable {service}

theorem record_step_of_refuses {username : String} {turn : Turn}
    (hrefuses : service.refuses username turn = true) :
    (service.step turn).tracker.record username =
      (service.tracker.record username).fail service.tracker.policy turn.now := by
  rw [LockoutTracker.record_eq_getD, record?_step, if_pos hrefuses, Option.getD_some]

theorem record?_step_of_not_refuses {username : String} {turn : Turn}
    (hrefuses : service.refuses username turn = false)
    (haccepts : service.accepts username turn = false)
    (hdrops : service.drops username turn = false) :
    (service.step turn).tracker.record? username = service.tracker.record? username := by
  rw [record?_step, hrefuses, haccepts, hdrops, if_neg Bool.false_ne_true, Bool.or_false,
    if_neg Bool.false_ne_true]

/-! ### The budget of an account -/

/-- What a run may take of the allowance of an account: every refused login takes
a part of it, and as long as its record is neither cleared nor dropped, nothing
adds to it. -/
theorem occurrences_refuses_le_allowance (husable : service.tracker.policy.Usable)
    {turns : List Turn} {username : String} {now stop : Int}
    (hsorted : turns.Pairwise (·.now ≤ ·.now))
    (hclock : ∀ turn ∈ turns, now ≤ turn.now.nanos ∧ turn.now.nanos ≤ stop)
    (hend : stop < Instant.farFuture.nanos)
    (haccepts : service.occurrences (accepts username) turns = 0)
    (hdrops : service.occurrences (drops username) turns = 0) :
    service.occurrences (refuses username) turns ≤
      service.tracker.policy.allowance (service.tracker.record username) now stop := by
  induction turns generalizing service now with
  | nil => exact Nat.zero_le _
  | cons turn turns ih =>
    -- the rest of the run is measured from the time of this turn
    obtain ⟨hfirst, hrest⟩ := List.pairwise_cons.1 hsorted
    obtain ⟨hstart, hlast⟩ := hclock turn (List.mem_cons_self ..)
    obtain ⟨haccept, haccepts⟩ := (service.occurrences_cons_eq_zero_iff _ _ _).1 haccepts
    obtain ⟨hdrop, hdrops⟩ := (service.occurrences_cons_eq_zero_iff _ _ _).1 hdrops
    have hlater : ∀ later ∈ turns, turn.now.nanos ≤ later.now.nanos ∧ later.now.nanos ≤ stop :=
      fun later hmem => ⟨hfirst later hmem, (hclock later (List.mem_cons_of_mem _ hmem)).2⟩
    have hleft := ih (by rw [policy_step]; exact husable) hrest hlater haccepts hdrops
    rw [policy_step] at hleft
    have hwait := husable.allowance_anti (service.tracker.record username) stop hstart
    rw [occurrences_cons]
    cases hrefuse : service.refuses username turn with
    | true =>
      have hopen : (service.tracker.record username).isLockedAt turn.now = false := by
        rw [← LockoutTracker.isLocked_eq]
        exact service.isLocked_eq_false_of_refuses hrefuse
      have htaken := husable.allowance_fail hopen hlast hend
      rw [record_step_of_refuses hrefuse] at hleft
      rw [if_pos rfl]
      omega
    | false =>
      have hsame := record?_step_of_not_refuses hrefuse haccept hdrop
      rw [LockoutTracker.record_eq_getD, hsame, ← LockoutTracker.record_eq_getD] at hleft
      rw [if_neg Bool.false_ne_true]
      omega

theorem policy_run_of_build {settings : AuthSettings} {built : Logged AuthService}
    (hbuild : build settings = .ok built) (turns : List Turn) :
    (built.value.run turns).tracker.policy = settings.lockout := by
  rw [policy_run, value_build hbuild]
  rfl

/-- Before the end of the calendar, no reading is past its last nanosecond. -/
theorem clock_of_stretch {stretch : List Turn} {first last : Instant}
    (hstretch : ∀ turn ∈ stretch, first ≤ turn.now ∧ turn.now ≤ last ∧ turn.now < .farFuture) :
    ∀ turn ∈ stretch, first.nanos ≤ turn.now.nanos ∧
      turn.now.nanos ≤ min last.nanos (Instant.farFuture.nanos - 1) := by
  intro turn hmem
  obtain ⟨hfirst, hlast, hend⟩ := hstretch turn hmem
  rw [Instant.le_def] at hfirst hlast
  rw [Instant.lt_def] at hend
  exact ⟨hfirst, Int.le_min.2 ⟨hlast, by omega⟩⟩

/-- In any stretch of a run, from any state of a subsystem with valid settings: if
the store accepts no login of an account that it is asked about, and no sweep drops
its record, then the refused logins of the account are no more than the threshold
and one for every whole lockout duration in between, on either curve. -/
theorem refused_logins_le_budget {settings : AuthSettings} {built : Logged AuthService}
    (hbuild : build settings = .ok built) (earlier : List Turn) {stretch : List Turn}
    {username : String} {first last : Instant} (hsorted : stretch.Pairwise (·.now ≤ ·.now))
    (hstretch : ∀ turn ∈ stretch, first ≤ turn.now ∧ turn.now ≤ last ∧ turn.now < .farFuture)
    (haccepts : (built.value.run earlier).occurrences (accepts username) stretch = 0)
    (hdrops : (built.value.run earlier).occurrences (drops username) stretch = 0) :
    (built.value.run earlier).occurrences (refuses username) stretch ≤
      settings.lockout.maxFailedAttempts.toNat +
        ((last.nanos - first.nanos) / settings.lockout.lockoutDuration.nanos).toNat := by
  cases stretch with
  | nil => exact Nat.zero_le _
  | cons turn turns =>
    have husable := usable_of_build hbuild
    have hclock := clock_of_stretch hstretch
    obtain ⟨hfirst, hlast⟩ := hclock turn (List.mem_cons_self ..)
    have hquotient := Int.ediv_le_ediv (Int.natCast_pos.2 husable.duration)
      (Int.sub_le_sub_right (Int.min_le_left last.nanos (Instant.farFuture.nanos - 1)) first.nanos)
    rw [← policy_run_of_build hbuild earlier] at husable hquotient ⊢
    have hcounted := occurrences_refuses_le_allowance husable hsorted hclock (by omega)
      haccepts hdrops
    have hbudget := husable.allowance_le
      ((built.value.run earlier).tracker.record username) (Int.le_trans hfirst hlast)
    omega

/-- Three wrong passwords within a quarter of an hour use up the budget of a policy
that locks for that long after two. Nobody else's login and no sweep in between
adds to it. -/
theorem third_refusal_after_lockout :
    let settings := { AuthSettings.default with
      token := ⟨"0123456789abcdef0123456789abcdef", .seconds 3600⟩
      lockout := { LockoutPolicy.default with maxFailedAttempts := 2 } }
    let wrong : Operation := .authenticate (fun _ _ => .verdict false) "alice" "guess" "a"
    let stop : Instant := ⟨900_000_000_000, by decide, by decide⟩
    let stretch : List Turn := [⟨wrong, .epoch⟩, ⟨.sweep (.seconds 86400), .epoch⟩,
      ⟨wrong, .epoch⟩, ⟨wrong, .epoch⟩,
      ⟨.authenticate (fun _ _ => .failed .userNotFound) "bob" "guess" "b", .epoch⟩, ⟨wrong, stop⟩]
    ∃ built, build settings = .ok built ∧ stretch.Pairwise (·.now ≤ ·.now) ∧
      (∀ turn ∈ stretch, .epoch ≤ turn.now ∧ turn.now ≤ stop ∧ turn.now < .farFuture) ∧
      (built.value.run []).occurrences (accepts "alice") stretch = 0 ∧
      (built.value.run []).occurrences (drops "alice") stretch = 0 ∧
      (built.value.run []).occurrences (refuses "alice") stretch = 3 ∧
      (built.value.run []).occurrences (refuses "alice") stretch ≤
        settings.lockout.maxFailedAttempts.toNat +
          ((stop.nanos - Instant.epoch.nanos) / settings.lockout.lockoutDuration.nanos).toNat := by
  intro settings wrong stop stretch
  obtain ⟨built, hbuild⟩ : ∃ built, build settings = .ok built := ⟨_, rfl⟩
  have hinitial : built.value.run [] = ofSettings settings := by
    rw [value_build hbuild]
    rfl
  have hsorted : stretch.Pairwise (·.now ≤ ·.now) := by decide
  have hstretch : ∀ turn ∈ stretch,
      .epoch ≤ turn.now ∧ turn.now ≤ stop ∧ turn.now < .farFuture := by decide
  have haccepts : (built.value.run []).occurrences (accepts "alice") stretch = 0 := by
    rw [hinitial]
    decide +kernel
  have hdrops : (built.value.run []).occurrences (drops "alice") stretch = 0 := by
    rw [hinitial]
    decide +kernel
  have hcount : (built.value.run []).occurrences (refuses "alice") stretch = 3 := by
    rw [hinitial]
    decide +kernel
  exact ⟨built, hbuild, hsorted, hstretch, haccepts, hdrops, hcount,
    refused_logins_le_budget hbuild [] hsorted hstretch haccepts hdrops⟩

/-- That no login is successful is not enough. Where a token would outlive the
calendar, a login with the right password fails, but clears the record before. -/
theorem refused_logins_over_budget :
    let settings := { AuthSettings.default with
      token := ⟨"0123456789abcdef0123456789abcdef", .seconds 0xffff_ffff_ffff_ffff⟩
      lockout := { LockoutPolicy.default with maxFailedAttempts := 2 } }
    let wrong : Turn := ⟨.authenticate (fun _ _ => .verdict false) "alice" "guess" "a", .epoch⟩
    let right : Turn := ⟨.authenticate (fun _ _ => .verdict true) "alice" "secret" "b", .epoch⟩
    let stretch := [wrong, right, wrong, right, wrong]
    ∃ built, build settings = .ok built ∧
      built.value.occurrences (grants "alice") stretch = 0 ∧
      built.value.occurrences (drops "alice") stretch = 0 ∧
      settings.lockout.maxFailedAttempts.toNat + ((Instant.epoch.nanos - Instant.epoch.nanos) /
        settings.lockout.lockoutDuration.nanos).toNat <
          built.value.occurrences (refuses "alice") stretch := by
  intro settings wrong right stretch
  obtain ⟨built, hbuild⟩ : ∃ built, build settings = .ok built := ⟨_, rfl⟩
  refine ⟨built, hbuild, ?_⟩
  rw [value_build hbuild]
  decide +kernel

end AuthService

end AuthGate
