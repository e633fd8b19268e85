import AuthGate.Proofs.Service.Budget

namespace AuthGate

namespace FailureRecord

/-- No sweep that keeps records for an idle time drops this one up to a moment. -/
def Lasts (r : FailureRecord) (idle : Duration) (stop : Int) : Prop :=
  ∀ now : Instant, now.nanos ≤ stop → r.isStale now idle = false

variable {p : LockoutPolicy} {now : Instant} {stop : Int}

/-- A record lasts for the idle time after its last failure. -/
theorem lasts_fail_of_idle {idle : Duration} (r : FailureRecord)
    (hidle : stop < now.nanos + idle.nanos) (hend : stop < Instant.farFuture.nanos) :
    (r.fail p now).Lasts idle stop := by
  intro later hlater
  have hlimit : later < now.deadline idle := by
    rw [Instant.lt_def]
    obtain hpassed | hfar := now.deadline_eq_or idle
    · omega
    · rw [hfar]
      omega
  have hleft : later.remaining (now.deadline idle) ≠ .zero :=
    mt Instant.remaining_eq_zero_iff.1 (Int.not_le.2 hlimit)
  have hlast : (r.fail p now).lastFailure = some now := rfl
  simp only [isStale, hlast, hleft, decide_false, Bool.and_false]

theorem lasts_of_isLockedAt {r : FailureRecord} {idle : Duration}
    (hlocked : ∀ later : Instant, later.nanos ≤ stop → r.isLockedAt later = true) :
    r.Lasts idle stop :=
  fun later hlater => isStale_eq_false_of_isLockedAt (hlocked later hlater)

/-- Under a policy that locks at the first failure, or that keeps idle records no
shorter than it locks, a failure leaves a record that lasts for the lockout
duration. -/
theorem lasts_fail (husable : p.Usable) (r : FailureRecord)
    (hkeeps : p.maxFailedAttempts = 1 ∨ p.lockoutDuration ≤ p.idleRecordTtl)
    (hshort : stop < now.nanos + p.lockoutDuration.nanos)
    (hend : stop < Instant.farFuture.nanos) : (r.fail p now).Lasts p.idleRecordTtl stop := by
  obtain hone | hidle := hkeeps
  · have hreached : p.maxFailedAttempts.toNat ≤ (r.fail p now).failures := by
      have hcounted : (r.fail p now).failures = min (r.failures + 1) maxFailures := rfl
      rw [hone, hcounted]
      exact Nat.le_min.2 ⟨Nat.le_add_left 1 _, by decide⟩
    obtain ⟨limit, hlocked, hlong⟩ := exists_lockedUntil_fail husable hreached
    refine lasts_of_isLockedAt fun later hlater => ?_
    rw [isLockedAt_iff]
    refine ⟨limit, hlocked, ?_⟩
    rw [Instant.lt_def]
    obtain hduration | hfar := hlong
    · omega
    · rw [Instant.le_def] at hfar
      omega
  · rw [Duration.le_def] at hidle
    exact r.lasts_fail_of_idle (by omega) hend

end FailureRecord

namespace AuthService

variable {service : AuthService} {username : String} {start stop : Int}

/-- All sweeps of a run are for the same idle time. -/
def SweepsWith (idle : Duration) (turns : List Turn) : Prop :=
  ∀ turn ∈ turns, ∀ used, turn.operation = .sweep used → used = idle

theorem drops_eq_false_of_lasts {r : FailureRecord} {turn : Turn} {idle : Duration}
    (hrecord : service.tracker.record? username = some r) (hlasts : r.Lasts idle stop)
    (hnow : turn.now.nanos ≤ stop) (hsweep : ∀ used, turn.operation = .sweep used → used = idle) :
    service.drops username turn = false := by
  obtain ⟨operation, now⟩ := turn
  cases operation with
  | sweep used =>
    obtain rfl := hsweep used rfl
    have hkept := hlasts now hnow
    unfold drops
    dsimp only
    rw [step_sweep, value_sweep, LockoutTracker.record?_purgeStale, hrecord, Option.filter_some,
      hkept]
    rfl
  | authenticate credentials name password jti => rfl
  | logout raw => rfl
  | evaluate header => rfl
  | process request => rfl

theorem drops_eq_false_of_refuses {turn : Turn} (hrefuses : service.refuses username turn = true) :
    service.drops username turn = false := by
  obtain ⟨operation, now⟩ := turn
  cases operation with
  | sweep used => cases hrefuses
  | authenticate credentials name password jti => rfl
  | logout raw => rfl
  | evaluate header => rfl
  | process request => rfl

/-- Within a lockout duration, no sweep drops a record that lasts: further failures
only make it last longer. -/
theorem occurrences_drops_eq_zero (husable : service.tracker.policy.Usable)
    (hkeeps : service.tracker.policy.maxFailedAttempts = 1 ∨
      service.tracker.policy.lockoutDuration ≤ service.tracker.policy.idleRecordTtl)
    {turns : List Turn} {r : FailureRecord}
    (hrecord : service.tracker.record? username = some r)
    (hlasts : r.Lasts service.tracker.policy.idleRecordTtl stop)
    (hclock : ∀ turn ∈ turns, start ≤ turn.now.nanos ∧ turn.now.nanos ≤ stop)
    (hshort : stop < start + service.tracker.policy.lockoutDuration.nanos)
    (hend : stop < Instant.farFuture.nanos)
    (hsweeps : SweepsWith service.tracker.policy.idleRecordTtl turns)
    (haccepts : service.occurrences (accepts username) turns = 0) :
    service.occurrences (drops username) turns = 0 := by
  induction turns generalizing service r with
  | nil => rfl
  | cons turn turns ih =>
    obtain ⟨hstart, hlast⟩ := hclock turn (List.mem_cons_self ..)
    obtain ⟨haccept, haccepts⟩ := (service.occurrences_cons_eq_zero_iff _ _ _).1 haccepts
    have hdrop : service.drops username turn = false :=
      drops_eq_false_of_lasts hrecord hlasts hlast (hsweeps turn (List.mem_cons_self ..))
    rw [occurrences_cons_eq_zero_iff]
    refine ⟨hdrop, ?_⟩
    -- the record after the turn, whether it is a new failure or the old record, lasts again
    have hnext : ∃ r, (service.step turn).tracker.record? username = some r ∧
        r.Lasts service.tracker.policy.idleRecordTtl stop := by
      cases hrefuse : service.refuses username turn with
      | true =>
        rw [record?_step, if_pos hrefuse]
        exact ⟨_, rfl, FailureRecord.lasts_fail husable _ hkeeps (by omega) hend⟩
      | false =>
        rw [record?_step_of_not_refuses hrefuse haccept hdrop]
        exact ⟨r, hrecord, hlasts⟩
    obtain ⟨r', hrecord', hlasts'⟩ := hnext
    rw [← policy_step service turn] at husable hkeeps hlasts' hshort hsweeps
    exact ih husable hkeeps hrecord' hlasts'
      (fun later hmem => hclock later (List.mem_cons_of_mem _ hmem)) hshort
      (fun later hmem => hsweeps later (List.mem_cons_of_mem _ hmem)) haccepts

/-- Within less than a lockout duration, the refused logins of an account are no
more than the threshold, if its records outlast its locks. Up to the first one
nothing is counted, so that sweeps may drop what they like, and from it on the
record stays. -/
theorem occurrences_refuses_le_threshold (husable : service.tracker.policy.Usable)
    (hkeeps : service.tracker.policy.maxFailedAttempts = 1 ∨
      service.tracker.policy.lockoutDuration ≤ service.tracker.policy.idleRecordTtl)
    {turns : List Turn} (hsorted : turns.Pairwise (·.now ≤ ·.now))
    (hclock : ∀ turn ∈ turns, start ≤ turn.now.nanos ∧ turn.now.nanos ≤ stop)
    (hshort : stop < start + service.tracker.policy.lockoutDuration.nanos)
    (hend : stop < Instant.farFuture.nanos)
    (hsweeps : SweepsWith service.tracker.policy.idleRecordTtl turns)
    (haccepts : service.occurrences (accepts username) turns = 0) :
    service.occurrences (refuses username) turns ≤
      service.tracker.policy.maxFailedAttempts.toNat := by
  induction turns generalizing service with
  | nil => exact Nat.zero_le _
  | cons turn turns ih =>
    obtain ⟨hstart, hlast⟩ := hclock turn (List.mem_cons_self ..)
    have hrest : ∀ later ∈ turns, start ≤ later.now.nanos ∧ later.now.nanos ≤ stop :=
      fun later hmem => hclock later (List.mem_cons_of_mem _ hmem)
    have hsweeps' : SweepsWith service.tracker.policy.idleRecordTtl turns :=
      fun later hmem => hsweeps later (List.mem_cons_of_mem _ hmem)
    obtain ⟨-, haccepts'⟩ := (service.occurrences_cons_eq_zero_iff _ _ _).1 haccepts
    cases hrefuse : service.refuses username turn with
    | true =>
      -- from here on no record is dropped, and the whole stretch keeps to the budget
      have hfailed : (service.step turn).tracker.record? username =
          some ((service.tracker.record username).fail service.tracker.policy turn.now) := by
        rw [record?_step, if_pos hrefuse]
      have hlasts : ((service.tracker.record username).fail service.tracker.policy turn.now).Lasts
          service.tracker.policy.idleRecordTtl stop :=
        FailureRecord.lasts_fail husable _ hkeeps (by omega) hend
      have hdrops : service.occurrences (drops username) (turn :: turns) = 0 := by
        rw [occurrences_cons_eq_zero_iff]
        refine ⟨drops_eq_false_of_refuses hrefuse, ?_⟩
        have hpolicy := service.policy_step turn
        exact occurrences_drops_eq_zero (hpolicy ▸ husable) (hpolicy ▸ hkeeps) hfailed
          (hpolicy ▸ hlasts) hrest (hpolicy ▸ hshort) hend (hpolicy ▸ hsweeps') haccepts'
      have hcounted := occurrences_refuses_le_allowance husable hsorted hclock hend haccepts hdrops
      have hbudget := husable.allowance_le (service.tracker.record username)
        (Int.le_trans hstart hlast)
      have hnone : (stop - start) / service.tracker.policy.lockoutDuration.nanos = 0 :=
        Int.ediv_eq_zero_of_lt (by omega) (by omega)
      rw [hnone] at hbudget
      exact Nat.le_trans hcounted hbudget
    | false =>
      rw [occurrences_cons, hrefuse, if_neg Bool.false_ne_true, Nat.zero_add]
      rw [← policy_step service turn] at husable hkeeps hshort hsweeps' ⊢
      exact ih husable hkeeps (List.pairwise_cons.1 hsorted).2 hrest hshort hsweeps' haccepts'

/-- A subsystem with valid settings that locks at the first failure, or keeps idle
records no shorter than it locks: in any stretch of a run that is shorter than the
lockout duration, with any sweeps that use the configured idle time, the refused
logins of an account are no more than the threshold, if the store accepts none. -/
theorem refused_logins_le_threshold {settings : AuthSettings} {built : Logged AuthService}
    (hbuild : build settings = .ok built)
    (hkeeps : settings.lockout.maxFailedAttempts = 1 ∨
      settings.lockout.lockoutDuration ≤ settings.lockout.idleRecordTtl)
    (earlier : List Turn) {stretch : List Turn} {first last : Instant}
    (hsorted : stretch.Pairwise (·.now ≤ ·.now))
    (hstretch : ∀ turn ∈ stretch, first ≤ turn.now ∧ turn.now ≤ last ∧ turn.now < .farFuture)
    (hshort : last.nanos - first.nanos < settings.lockout.lockoutDuration.nanos)
    (hsweeps : SweepsWith settings.lockout.idleRecordTtl stretch)
    (haccepts : (built.value.run earlier).occurrences (accepts username) stretch = 0) :
    (built.value.run earlier).occurrences (refuses username) stretch ≤
      settings.lockout.maxFailedAttempts.toNat := by
  have husable := usable_of_build hbuild
  rw [← policy_run_of_build hbuild earlier] at husable hkeeps hshort hsweeps ⊢
  exact occurrences_refuses_le_threshold husable hkeeps hsorted (clock_of_stretch hstretch)
    (by omega) (by omega) hsweeps haccepts

/-- An idle time longer than the lock keeps the count over a sweep. -/
theorem refused_logins_over_long_idle :
    let settings := { AuthSettings.default with
      token := ⟨"0123456789abcdef0123456789abcdef", .seconds 3600⟩
      lockout := { LockoutPolicy.default with
        maxFailedAttempts := 2, idleRecordTtl := .seconds 1800 } }
    let wrong : Operation := .authenticate (fun _ _ => .verdict false) "alice" "guess" "a"
    let last : Instant := ⟨600_000_000_000, by decide, by decide⟩
    let stretch : List Turn :=
      [⟨wrong, .epoch⟩, ⟨.sweep (.seconds 1800), last⟩, ⟨wrong, last⟩, ⟨wrong, last⟩]
    ∃ built, build settings = .ok built ∧
      settings.lockout.lockoutDuration ≤ settings.lockout.idleRecordTtl ∧
      stretch.Pairwise (·.now ≤ ·.now) ∧
      (∀ turn ∈ stretch, .epoch ≤ turn.now ∧ turn.now ≤ last ∧ turn.now < .farFuture) ∧
      last.nanos - Instant.epoch.nanos < settings.lockout.lockoutDuration.nanos ∧
      SweepsWith settings.lockout.idleRecordTtl stretch ∧
      (built.value.run []).occurrences (accepts "alice") stretch = 0 ∧
      (built.value.run []).occurrences (refuses "alice") stretch ≤
        settings.lockout.maxFailedAttempts.toNat := by
  intro settings wrong last stretch
  obtain ⟨built, hbuild⟩ : ∃ built, build settings = .ok built := ⟨_, rfl⟩
  have hkeeps : settings.lockout.lockoutDuration ≤ settings.lockout.idleRecordTtl := by decide
  have hsorted : stretch.Pairwise (·.now ≤ ·.now) := by decide
  have hstretch : ∀ turn ∈ stretch,
      .epoch ≤ turn.now ∧ turn.now ≤ last ∧ turn.now < .farFuture := by decide
  have hshort : last.nanos - Instant.epoch.nanos < settings.lockout.lockoutDuration.nanos := by
    decide
  have hsweeps : SweepsWith settings.lockout.idleRecordTtl stretch := by
    simp [SweepsWith, stretch, wrong, settings]
  have haccepts : (built.value.run []).occurrences (accepts "alice") stretch = 0 := by
    rw [run_nil, value_build hbuild]
    decide +kernel
  exact ⟨built, hbuild, hkeeps, hsorted, hstretch, hshort, hsweeps, haccepts,
    refused_logins_le_threshold hbuild (.inr hkeeps) [] hsorted hstretch hshort hsweeps haccepts⟩

/-- With an idle time shorter than the lock, valid settings do not keep to the
threshold: a sweep ten minutes after the first failure forgets it, and two more are
let through. -/
theorem sweep_forgets_failure :
    let settings := { AuthSettings.default with
      token := ⟨"0123456789abcdef0123456789abcdef", .seconds 3600⟩
      lockout := { LockoutPolicy.default with
        maxFailedAttempts := 2, idleRecordTtl := .seconds 600 } }
    let wrong : Operation := .authenticate (fun _ _ => .verdict false) "alice" "guess" "a"
    let last : Instant := ⟨600_000_000_000, by decide, by decide⟩
    let stretch : List Turn :=
      [⟨wrong, .epoch⟩, ⟨.sweep (.seconds 600), last⟩, ⟨wrong, last⟩, ⟨wrong, last⟩]
    ∃ built, build settings = .ok built ∧
      last.nanos - Instant.epoch.nanos < settings.lockout.lockoutDuration.nanos ∧
      SweepsWith settings.lockout.idleRecordTtl stretch ∧
      built.value.occurrences (grants "alice") stretch = 0 ∧
      settings.lockout.maxFailedAttempts.toNat <
        built.value.occurrences (refuses "alice") stretch := by
  intro settings wrong last stretch
  obtain ⟨built, hbuild⟩ : ∃ built, build settings = .ok built := ⟨_, rfl⟩
  have hsweeps : SweepsWith settings.lockout.idleRecordTtl stretch := by
    simp [SweepsWith, stretch, wrong, settings]
  refine ⟨built, hbuild, by decide, hsweeps, ?_⟩
  rw [value_build hbuild]
  decide +kernel

end AuthService

end AuthGate
