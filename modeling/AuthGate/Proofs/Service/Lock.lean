import AuthGate.Proofs.Service.Run
import AuthGate.Proofs.Time.Instant

namespace AuthGate

namespace AuthService

variable (service : AuthService)

theorem tracker_logout (raw : String) (now : Instant) :
    (service.logout raw now).value.1.tracker = service.tracker := by
  rcases service.value_logout_fst raw now with ⟨h, -⟩ | ⟨_, _, _, h⟩ <;> rw [h]

theorem tracker_evaluate (header : Option String) (now : Instant) :
    (service.evaluate header now).value.1.tracker = service.tracker := by
  rcases service.value_evaluate_fst header now with h | ⟨_, -, h⟩ <;> rw [h]

/-- Settling the login of one account leaves the records of all others alone. -/
theorem record?_settle_of_ne {name username : String} (hne : name ≠ username) (jti : String)
    (answer : StoreAnswer) (now : Instant) :
    (service.settle name jti answer now).value.1.tracker.record? username =
      service.tracker.record? username := by
  rw [value_settle_fst]
  split
  · rw [LockoutTracker.record?_recordFailure, if_neg hne]
  · split
    · rw [LockoutTracker.record?_clear, if_neg hne]
    · rfl

/-- The end of a login leaves everything but the tracker as it is, and of that the
policy and the records of all other accounts. -/
theorem exists_tracker_settle (username jti : String) (answer : StoreAnswer) (now : Instant) :
    ∃ tracker : LockoutTracker,
      (service.settle username jti answer now).value.1 = { service with tracker } ∧
        tracker.policy = service.tracker.policy ∧
        ∀ name, name ≠ username → tracker.record? name = service.tracker.record? name := by
  have hothers := fun name (hne : name ≠ username) =>
    service.record?_settle_of_ne hne.symm jti answer now
  rw [value_settle_fst] at hothers ⊢
  by_cases hrefused : answer.isRefusal = true
  · simp only [hrefused, if_true] at hothers ⊢
    exact ⟨_, rfl, LockoutTracker.policy_recordFailure _ _ _, hothers⟩
  · by_cases haccepted : answer.isAcceptance = true
    · simp only [hrefused, haccepted, if_true] at hothers ⊢
      exact ⟨_, rfl, LockoutTracker.policy_clear _ _ _, hothers⟩
    · simp only [hrefused, haccepted] at hothers ⊢
      exact ⟨service.tracker, rfl, rfl, hothers⟩

/-- No turn changes the record of an account that is locked when it is carried
out. A sweep in particular cannot drop it, however short the idle time. -/
theorem record?_step_of_isLocked {turn : Turn} {username : String}
    (hlocked : service.tracker.isLocked username turn.now = true) :
    (service.step turn).tracker.record? username = service.tracker.record? username := by
  obtain ⟨operation, now⟩ := turn
  cases operation with
  | authenticate credentials name password jti =>
    rw [step_authenticate, value_authenticate_fst]
    split
    · rfl
    · next hopen =>
      have hne : name ≠ username := by
        rintro rfl
        exact hopen hlocked
      exact service.record?_settle_of_ne hne _ _ _
  | logout raw => rw [step_logout, tracker_logout]
  | evaluate header => rw [step_evaluate, tracker_evaluate]
  | process request => rw [step_process, value_process_fst, tracker_evaluate]
  | sweep idle =>
    rw [step_sweep, value_sweep]
    exact LockoutTracker.record?_purgeStale_of_isLocked _ hlocked idle

/-- The record of an account that is still locked at the end of a run has not
changed in the course of it. -/
theorem record?_run_of_isLocked {turns : List Turn} {username : String} {now : Instant}
    (hlocked : service.tracker.isLocked username now = true)
    (hclock : ∀ turn ∈ turns, turn.now ≤ now) :
    (service.run turns).tracker.record? username = service.tracker.record? username := by
  induction turns generalizing service with
  | nil => rfl
  | cons turn turns ih =>
    have hfirst := LockoutTracker.isLocked_of_le hlocked (hclock turn (List.mem_cons_self ..))
    have hstep := service.record?_step_of_isLocked hfirst
    have hstill : (service.step turn).tracker.isLocked username now = true := by
      rw [LockoutTracker.isLocked_eq_of_record?_eq hstep]
      exact hlocked
    rw [run_cons, ih _ hstill fun turn hmem => hclock turn (List.mem_cons_of_mem _ hmem), hstep]

/-- As long as an account is locked, a run of any turns leaves its lock as it is,
and a login of it is rejected with the time left, whatever the store would say. -/
theorem authenticate_run_of_lockUntil {turns : List Turn} {username : String} {now limit : Instant}
    (hlimit : (service.tracker.info username).lockUntil = some limit) (hbefore : now < limit)
    (hclock : ∀ turn ∈ turns, turn.now ≤ now) :
    (service.run turns).tracker.info username = service.tracker.info username ∧
      ∀ (credentials : CredentialCheck) (password jti : String),
        ((service.run turns).authenticate credentials username password jti now).value =
          (service.run turns, ⟨some (.error (.accountLocked (now.remaining limit))), []⟩) := by
  have hlocked : service.tracker.isLocked username now = true := by
    rw [LockoutTracker.isLocked_iff]
    exact ⟨limit, hlimit, hbefore⟩
  have hrun := service.record?_run_of_isLocked hlocked hclock
  have hinfo := LockoutTracker.info_eq_of_record?_eq hrun
  have hstill : (service.run turns).tracker.isLocked username now = true := by
    rw [LockoutTracker.isLocked_eq_of_record?_eq hrun]
    exact hlocked
  refine ⟨hinfo, fun credentials password jti => ?_⟩
  rw [value_authenticate_of_isLocked _ hstill,
    LockoutTracker.remaining_of_lockUntil _ (hinfo ▸ hlimit)]

/-- A login counts as a failure of the account: it is not locked, so that the
store is asked, and the store refuses. -/
def Fails (credentials : CredentialCheck) (username password : String) (now : Instant) : Prop :=
  service.tracker.isLocked username now = false ∧ (credentials username password).isRefusal = true

variable {service}

theorem tracker_step_of_fails {credentials : CredentialCheck} {username password : String}
    {now : Instant} (hfails : service.Fails credentials username password now) (jti : String) :
    (service.step ⟨.authenticate credentials username password jti, now⟩).tracker =
      (service.tracker.recordFailure username now).value.1 := by
  obtain ⟨hopen, hrefused⟩ := hfails
  rw [step_authenticate, value_authenticate_fst, hopen, if_neg Bool.false_ne_true,
    value_settle_fst, hrefused, if_pos rfl]

/-- A failure that brings the count to the threshold sets a deadline, which is not
before the end of the window for that count. -/
theorem lockUntil_recordFailure {t : LockoutTracker} {username : String} {start : Instant}
    (hreached : t.policy.maxFailedAttempts.toNat ≤
      ((t.recordFailure username start).value.1.info username).attempts) :
    ∃ window limit,
      t.policy.window ((t.recordFailure username start).value.1.info username).attempts =
        some window ∧
      ((t.recordFailure username start).value.1.info username).lockUntil = some limit ∧
      start.deadline window ≤ limit := by
  obtain ⟨window, hwindow⟩ := t.policy.exists_window hreached
  refine ⟨window, _, hwindow, ?_, FailureRecord.le_extend (t.record username).lockedUntil _⟩
  rw [LockoutTracker.info_attempts, LockoutTracker.record_recordFailure] at hwindow
  rw [LockoutTracker.info_lockUntil, LockoutTracker.record_recordFailure]
  exact FailureRecord.lockedUntil_fail_of_window hwindow

/-- A failure that brings the count of an account to the threshold locks it at
least until the window for that count has passed. Before then nothing that is
asked of the subsystem changes what is known of the lock, and every further
login is rejected with the time that the lock still lasts, without a question to
the credential store and without any change. It holds from any state, of any
policy, and up to the end of the calendar. -/
theorem locked_until_deadline {credentials : CredentialCheck} {username password jti : String}
    {start : Instant} {failed : AuthService}
    (hfails : service.Fails credentials username password start)
    (hfailed : service.step ⟨.authenticate credentials username password jti, start⟩ = failed)
    (hreached : failed.tracker.policy.maxFailedAttempts.toNat ≤
      (failed.tracker.info username).attempts) :
    ∃ window limit,
      failed.tracker.policy.window (failed.tracker.info username).attempts = some window ∧
      (failed.tracker.info username).lockUntil = some limit ∧ start.deadline window ≤ limit ∧
      ∀ (turns : List Turn) (now : Instant), (∀ turn ∈ turns, turn.now ≤ now) →
        now < start.deadline window →
        (failed.run turns).tracker.info username = failed.tracker.info username ∧
        (∀ (credentials : CredentialCheck) (password jti : String),
          ((failed.run turns).authenticate credentials username password jti now).value =
            (failed.run turns, ⟨some (.error (.accountLocked (now.remaining limit))), []⟩)) ∧
        ((now.remaining limit).nanos : Int) = limit.nanos - now.nanos ∧
        (start.deadline window).nanos - now.nanos ≤ (now.remaining limit).nanos ∧
        0 < (start.deadline window).nanos - now.nanos := by
  have htracker := tracker_step_of_fails hfails jti
  rw [hfailed] at htracker
  rw [htracker, LockoutTracker.policy_recordFailure] at hreached
  obtain ⟨window, limit, hwindow, hlimit, hlater⟩ := lockUntil_recordFailure hreached
  rw [← htracker] at hwindow hlimit
  refine ⟨window, limit, ?_, hlimit, hlater, ?_⟩
  · rw [htracker, LockoutTracker.policy_recordFailure, ← htracker]
    exact hwindow
  · intro turns now hclock hnow
    have hbefore : now < limit := Int.lt_of_lt_of_le hnow hlater
    obtain ⟨hinfo, hrejected⟩ := failed.authenticate_run_of_lockUntil hlimit hbefore hclock
    have hspan := Instant.nanos_remaining_of_lt hbefore
    rw [Instant.le_def] at hlater
    rw [Instant.lt_def] at hnow
    exact ⟨hinfo, hrejected, hspan, by omega, by omega⟩

/-- Two wrong passwords lock an account for a quarter of an hour. A sweep that
keeps nothing idle and the login of somebody else do not let the right password
in a second before that. -/
theorem right_password_before_deadline :
    let policy := { LockoutPolicy.default with maxFailedAttempts := 2, escalation := .exponential }
    let wrong : Operation := .authenticate (fun _ _ => .verdict false) "alice" "guess" "a"
    let ready : AuthService :=
      (ofSettings { AuthSettings.default with lockout := policy }).step ⟨wrong, .epoch⟩
    let failed := ready.step ⟨wrong, .epoch⟩
    let later := failed.run [⟨.sweep .zero, .epoch⟩,
      ⟨.authenticate (fun _ _ => .verdict true) "bob" "secret" "b", .epoch⟩]
    let now : Instant := ⟨899_000_000_000, by decide, by decide⟩
    ready.Fails (fun _ _ => .verdict false) "alice" "guess" .epoch ∧
      failed.tracker.policy.maxFailedAttempts.toNat ≤ (failed.tracker.info "alice").attempts ∧
      (later.authenticate (fun _ _ => .verdict true) "alice" "secret" "c" now).value =
        (later, ⟨some (.error (.accountLocked (.seconds 1))), []⟩) := by
  intro policy wrong ready failed later now
  have hfails : ready.Fails (fun _ _ => .verdict false) "alice" "guess" .epoch := ⟨rfl, rfl⟩
  have hreached :
      failed.tracker.policy.maxFailedAttempts.toNat ≤ (failed.tracker.info "alice").attempts := by
    decide
  refine ⟨hfails, hreached, ?_⟩
  have hquarter : failed.tracker.policy.window (failed.tracker.info "alice").attempts =
      some (.seconds 900) := by decide +kernel
  have hdeadline : (failed.tracker.info "alice").lockUntil =
      some ⟨900_000_000_000, by decide, by decide⟩ := by decide +kernel
  obtain ⟨window, limit, hwindow, hlimit, -, hrun⟩ := locked_until_deadline hfails rfl hreached
  obtain rfl := Option.some.inj (hquarter.symm.trans hwindow)
  obtain rfl := Option.some.inj (hdeadline.symm.trans hlimit)
  have hclock : (Instant.epoch ≤ now) := by decide
  obtain ⟨-, hrejected, -⟩ := hrun [⟨.sweep .zero, .epoch⟩,
    ⟨.authenticate (fun _ _ => .verdict true) "bob" "secret" "b", .epoch⟩] now
    (by simpa using hclock) (by decide)
  have hleft : now.remaining ⟨900_000_000_000, by decide, by decide⟩ = .seconds 1 := by decide
  rw [hleft] at hrejected
  exact hrejected _ _ _

end AuthService

end AuthGate
