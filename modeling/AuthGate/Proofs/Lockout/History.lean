import AuthGate.Proofs.Lockout.Records

namespace AuthGate

/-- A call of a tracker, with the reading of the clock that it makes. Readings may
also go back. -/
inductive TrackerCall where
  | recordFailure (username : String) (now : Instant)
  | clear (username : String) (now : Instant)
  | purgeStale (idle : Duration) (now : Instant)

namespace LockoutTracker

/-- The tracker after one call. -/
def handle (t : LockoutTracker) : TrackerCall → LockoutTracker
  | .recordFailure username now => (t.recordFailure username now).value.1
  | .clear username now => (t.clear username now).value
  | .purgeStale idle now => (t.purgeStale idle now).value.1

/-- The tracker after a sequence of calls. -/
def handleAll (t : LockoutTracker) (calls : List TrackerCall) : LockoutTracker :=
  calls.foldl handle t

/-- The failures of an account after one more call, first to last. They start
afresh where the account is cleared and where a purge drops its record. -/
def remember (t : LockoutTracker) (username : String) (failures : List Instant) :
    TrackerCall → List Instant
  | .recordFailure name now => if name = username then failures ++ [now] else failures
  | .clear name _ => if name = username then [] else failures
  | .purgeStale idle now =>
    if (t.record? username).isSome ∧ ((t.purgeStale idle now).value.1.record? username).isNone
    then [] else failures

/-- The failures of an account in a sequence of calls since it was last cleared
or dropped. -/
def failuresOf (t : LockoutTracker) (username : String) (failures : List Instant) :
    List TrackerCall → List Instant
  | [] => failures
  | call :: calls => (t.handle call).failuresOf username (t.remember username failures call) calls

theorem policy_handle (t : LockoutTracker) (call : TrackerCall) :
    (t.handle call).policy = t.policy := by
  cases call with
  | recordFailure username now => exact t.policy_recordFailure username now
  | clear username now => exact t.policy_clear username now
  | purgeStale idle now => exact t.policy_purgeStale idle now

theorem policy_handleAll (t : LockoutTracker) (calls : List TrackerCall) :
    (t.handleAll calls).policy = t.policy := by
  induction calls generalizing t with
  | nil => rfl
  | cons call calls ih => exact (ih (t.handle call)).trans (t.policy_handle call)

end LockoutTracker

/-- What holds of every record that a tracker keeps: it counts a failure, knows when the last
one was, and has a deadline exactly if the count has reached the threshold. -/
structure FailureRecord.Kept (p : LockoutPolicy) (r : FailureRecord) : Prop where
  counted : 0 < r.failures
  dated : r.lastFailure.isSome
  lockedUntil_isSome_iff : r.lockedUntil.isSome ↔ p.maxFailedAttempts.toNat ≤ r.failures

/-- A failure leaves such a record, if there was no deadline below the threshold before. The
empty record may lack one at the threshold, since a policy may have none. -/
theorem FailureRecord.kept_fail {p : LockoutPolicy} {r : FailureRecord}
    (hearly : r.lockedUntil.isSome → p.maxFailedAttempts.toNat ≤ r.failures) (now : Instant) :
    (r.fail p now).Kept p where
  counted := by
    change 0 < min (r.failures + 1) maxFailures
    unfold maxFailures
    omega
  dated := rfl
  lockedUntil_isSome_iff := by
    have hcount : (r.fail p now).failures = min (r.failures + 1) maxFailures := rfl
    have hthreshold := p.threshold_le_maxFailures
    cases hwindow : p.window (r.fail p now).failures with
    | none =>
      have hbelow := (p.window_eq_none_iff _).1 hwindow
      rw [lockedUntil_fail_of_no_window hwindow]
      exact iff_of_false (fun h => absurd (hearly h) (by omega)) (Nat.not_le.2 hbelow)
    | some window =>
      rw [lockedUntil_fail_of_window hwindow]
      exact iff_of_true rfl (LockoutPolicy.threshold_le_of_window hwindow)

namespace LockoutTracker

/-- All records of a tracker are as its policy has them. -/
def KeepsRecords (t : LockoutTracker) : Prop :=
  ∀ username r, t.record? username = some r → r.Kept t.policy

theorem keepsRecords_new (policy : LockoutPolicy) : (new policy).KeepsRecords := by
  intro username r hrecord
  have hnone : (new policy).record? username = none := Std.ExtTreeMap.getElem?_empty
  rw [hnone] at hrecord
  cases hrecord

theorem KeepsRecords.record {t : LockoutTracker} (h : t.KeepsRecords) (username : String)
    (hlocked : (t.record username).lockedUntil.isSome) :
    t.policy.maxFailedAttempts.toNat ≤ (t.record username).failures := by
  rw [record_eq_getD] at hlocked ⊢
  cases hrecord : t.record? username with
  | none =>
    rw [hrecord] at hlocked
    cases hlocked
  | some r =>
    rw [hrecord] at hlocked
    exact (h username r hrecord).lockedUntil_isSome_iff.1 hlocked

theorem KeepsRecords.handle {t : LockoutTracker} (h : t.KeepsRecords) (call : TrackerCall) :
    (t.handle call).KeepsRecords := by
  intro username r hrecord
  rw [policy_handle]
  cases call with
  | recordFailure name now =>
    rw [LockoutTracker.handle, record?_recordFailure] at hrecord
    split at hrecord
    · cases hrecord
      exact FailureRecord.kept_fail (h.record name) now
    · exact h username r hrecord
  | clear name now =>
    rw [LockoutTracker.handle, record?_clear] at hrecord
    split at hrecord
    · cases hrecord
    · exact h username r hrecord
  | purgeStale idle now =>
    rw [LockoutTracker.handle, record?_purgeStale, Option.filter_eq_some_iff] at hrecord
    exact h username r hrecord.1

theorem KeepsRecords.handleAll {t : LockoutTracker} (h : t.KeepsRecords)
    (calls : List TrackerCall) : (t.handleAll calls).KeepsRecords := by
  induction calls generalizing t with
  | nil => exact h
  | cons call calls ih => exact ih (h.handle call)

end LockoutTracker

namespace LockoutPolicy

/-- The deadlines that a history of failures sets: one for every failure whose
number has reached the threshold, at the end of the window for that number.
Numbers past the largest count open the window of the largest. -/
def SetsDeadline (p : LockoutPolicy) (failures : List Instant) (deadline : Instant) : Prop :=
  ∃ number start window, 1 ≤ number ∧ p.maxFailedAttempts.toNat ≤ number ∧
    failures[number - 1]? = some start ∧ p.window (min number maxFailures) = some window ∧
    deadline = start.deadline window

/-- What a history of failures shows of an account: a count, and the latest of
the deadlines that the history sets. -/
structure Shows (p : LockoutPolicy) (failures : List Instant) (attempts : Nat)
    (lockUntil : Option Instant) : Prop where
  attempts_eq : attempts = min failures.length maxFailures
  lockUntil_eq_none_iff :
    lockUntil = none ↔ failures.length < p.maxFailedAttempts.toNat ∨ failures.length = 0
  latest : ∀ deadline, lockUntil = some deadline →
    p.SetsDeadline failures deadline ∧ ∀ other, p.SetsDeadline failures other → other ≤ deadline

theorem shows_nil (p : LockoutPolicy) : p.Shows [] 0 none where
  attempts_eq := rfl
  lockUntil_eq_none_iff := by simp
  latest := by simp

/-- One more failure adds the deadline of its own window, if its number has
reached the threshold, and takes none away. -/
theorem setsDeadline_concat (p : LockoutPolicy) (failures : List Instant) (now deadline : Instant) :
    p.SetsDeadline (failures ++ [now]) deadline ↔ p.SetsDeadline failures deadline ∨
      ∃ window, p.window (min (failures.length + 1) maxFailures) = some window ∧
        deadline = now.deadline window := by
  constructor
  · rintro ⟨number, start, window, hpos, hreached, hstart, hwindow, rfl⟩
    by_cases hlast : number - 1 < failures.length
    · rw [List.getElem?_append_left hlast] at hstart
      exact .inl ⟨number, start, window, hpos, hreached, hstart, hwindow, rfl⟩
    · rw [List.getElem?_append_right (by omega), List.getElem?_singleton] at hstart
      split at hstart
      · next hzero =>
        cases hstart
        have hnumber : number = failures.length + 1 := by omega
        exact .inr ⟨window, hnumber ▸ hwindow, rfl⟩
      · cases hstart
  · rintro (⟨number, start, window, hpos, hreached, hstart, hwindow, rfl⟩ | ⟨window, hwindow, rfl⟩)
    · obtain ⟨hlt, -⟩ := List.getElem?_eq_some_iff.1 hstart
      refine ⟨number, start, window, hpos, hreached, ?_, hwindow, rfl⟩
      rwa [List.getElem?_append_left hlt]
    · have hreached := threshold_le_of_window hwindow
      exact ⟨failures.length + 1, now, window, by omega, by omega, by simp, hwindow, rfl⟩

/-- A record that shows its history shows it again after one more failure. -/
theorem Shows.fail {p : LockoutPolicy} {failures : List Instant} {r : FailureRecord}
    (h : p.Shows failures r.failures r.lockedUntil) (now : Instant) :
    p.Shows (failures ++ [now]) (r.fail p now).failures (r.fail p now).lockedUntil := by
  have hcount : (r.fail p now).failures = min (failures.length + 1) maxFailures := by
    change min (r.failures + 1) maxFailures = _
    rw [h.attempts_eq]
    omega
  have hthreshold := p.threshold_le_maxFailures
  cases hwindow : p.window (min (failures.length + 1) maxFailures) with
  | none =>
    have hbelow := (p.window_eq_none_iff _).1 hwindow
    have hlocked : (r.fail p now).lockedUntil = r.lockedUntil := by
      rw [← hcount] at hwindow
      exact FailureRecord.lockedUntil_fail_of_no_window hwindow
    refine ⟨by simpa using hcount, ?_, ?_⟩
    · have hnone : r.lockedUntil = none := h.lockUntil_eq_none_iff.2 (.inl (by omega))
      simp only [hlocked, hnone, List.length_append, List.length_singleton, true_iff]
      exact .inl (by omega)
    · intro deadline hdeadline
      rw [hlocked, h.lockUntil_eq_none_iff.2 (.inl (by omega))] at hdeadline
      cases hdeadline
  | some window =>
    have hreached := threshold_le_of_window hwindow
    have hlocked : (r.fail p now).lockedUntil =
        some (FailureRecord.extend r.lockedUntil (now.deadline window)) := by
      rw [← hcount] at hwindow
      exact FailureRecord.lockedUntil_fail_of_window hwindow
    refine ⟨by simpa using hcount, ?_, ?_⟩
    · simp only [hlocked, List.length_append, List.length_singleton, reduceCtorEq, false_iff,
        Nat.add_eq_zero_iff, Nat.succ_ne_self, and_false, or_false]
      omega
    · intro deadline hdeadline
      rw [hlocked] at hdeadline
      obtain rfl : FailureRecord.extend r.lockedUntil (now.deadline window) = deadline :=
        Option.some.inj hdeadline
      constructor
      · rw [setsDeadline_concat]
        rcases FailureRecord.extend_eq_or r.lockedUntil (now.deadline window) with hnew | hheld
        · exact .inr ⟨window, hwindow, hnew⟩
        · exact .inl (h.latest _ hheld).1
      · intro other hother
        rw [setsDeadline_concat] at hother
        rcases hother with hother | ⟨window', hwindow', rfl⟩
        · cases hheld : r.lockedUntil with
          | none =>
            obtain ⟨number, start, _, hpos, hnumber, hstart, -, -⟩ := hother
            obtain ⟨hlt, -⟩ := List.getElem?_eq_some_iff.1 hstart
            have := h.lockUntil_eq_none_iff.1 hheld
            omega
          | some held =>
            exact Int.le_trans ((h.latest held hheld).2 other hother)
              (FailureRecord.held_le_extend held _)
        · rw [hwindow] at hwindow'
          cases hwindow'
          exact FailureRecord.le_extend _ _

end LockoutPolicy

namespace LockoutTracker

/-- One call keeps the record of an account and its history of failures in
agreement. Of a record that is not there the history is whatever shows nothing. -/
theorem shows_handle {t : LockoutTracker} {username : String} {failures : List Instant}
    (h : t.policy.Shows failures (t.info username).attempts (t.info username).lockUntil)
    (call : TrackerCall) :
    t.policy.Shows (t.remember username failures call) ((t.handle call).info username).attempts
      ((t.handle call).info username).lockUntil := by
  have hempty := t.policy.shows_nil
  simp only [info_attempts, info_lockUntil, record_eq_getD] at h ⊢
  cases call with
  | recordFailure name now =>
    simp only [handle, remember, record?_recordFailure]
    split
    · next hname =>
      subst hname
      exact h.fail now
    · exact h
  | clear name now =>
    simp only [handle, remember, record?_clear]
    split
    · exact hempty
    · exact h
  | purgeStale idle now =>
    simp only [handle, remember, record?_purgeStale]
    cases hrecord : t.record? username with
    | none => simpa [hrecord] using h
    | some r =>
      rw [hrecord] at h
      cases hstale : r.isStale now idle with
      | true =>
        simp only [Option.filter, hstale, Option.isSome_some, Bool.not_true, Bool.false_eq_true,
          if_false, Option.isNone_none, and_self, if_true, Option.getD_none]
        exact hempty
      | false => simpa [hstale, Option.filter] using h

theorem shows_handleAll {t : LockoutTracker} {username : String} {failures : List Instant}
    (h : t.policy.Shows failures (t.info username).attempts (t.info username).lockUntil)
    (calls : List TrackerCall) :
    t.policy.Shows (t.failuresOf username failures calls)
      ((t.handleAll calls).info username).attempts
      ((t.handleAll calls).info username).lockUntil := by
  induction calls generalizing t failures with
  | nil => exact h
  | cons call calls ih =>
    have hstep := shows_handle h call
    rw [← t.policy_handle call] at hstep ⊢
    exact ih hstep

/-- A tracker holds exactly what the history of an account's failures shows: the
count, the latest deadline, and the lock until then. An outcome shows the
history that includes its own failure, and its deadline is never before the one
held until then. The readings of the clock may come in any order. -/
theorem info_shows_history (policy : LockoutPolicy) (username : String) (calls : List TrackerCall) :
    let t := (LockoutTracker.new policy).handleAll calls
    let failures := (LockoutTracker.new policy).failuresOf username [] calls
    policy.Shows failures (t.info username).attempts (t.info username).lockUntil ∧
    (∀ now, t.isLocked username now = true ↔
      ∃ deadline, (t.info username).lockUntil = some deadline ∧ now < deadline) ∧
    ∀ now,
      let after := (t.recordFailure username now).value.1
      let outcome := (t.recordFailure username now).value.2
      policy.Shows (failures ++ [now]) outcome.attempts outcome.lockedUntil ∧
      outcome.attempts = (after.info username).attempts ∧
      outcome.lockedUntil = (after.info username).lockUntil ∧
      ∀ held, (t.info username).lockUntil = some held →
        ∃ deadline, outcome.lockedUntil = some deadline ∧ held ≤ deadline := by
  intro t failures
  have hpolicy : t.policy = policy := policy_handleAll _ _
  have hshows : policy.Shows failures (t.info username).attempts (t.info username).lockUntil :=
    shows_handleAll (t := .new policy) policy.shows_nil calls
  refine ⟨hshows, t.isLocked_iff username, ?_⟩
  intro now after outcome
  have hafter : after.record username = (t.record username).fail t.policy now :=
    t.record_recordFailure username now
  have hattempts : outcome.attempts = (after.info username).attempts := by
    rw [info_attempts, hafter]
    rfl
  have hlock : outcome.lockedUntil = (after.info username).lockUntil := by
    rw [info_lockUntil, hafter]
    rfl
  refine ⟨?_, hattempts, hlock, ?_⟩
  · rw [hattempts, hlock, info_attempts, info_lockUntil, hafter, hpolicy]
    exact hshows.fail now
  · intro held hheld
    rw [hlock, info_lockUntil, hafter]
    exact FailureRecord.le_lockedUntil_fail hheld

end LockoutTracker

end AuthGate
