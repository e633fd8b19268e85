import AuthGate.Proofs.Lockout.History
import AuthGate.Proofs.Lockout.Window
import Mathlib.Data.List.Count

namespace AuthGate

theorem FailureRecord.isLockedAt_fail_of_isLockedAt {p : LockoutPolicy} {r : FailureRecord}
    {now moment : Instant} (hlocked : r.isLockedAt moment = true) :
    (r.fail p now).isLockedAt moment = true := by
  rw [isLockedAt_iff] at hlocked ⊢
  obtain ⟨held, hheld, hlater⟩ := hlocked
  obtain ⟨deadline, hdeadline, hle⟩ := le_lockedUntil_fail hheld
  exact ⟨deadline, hdeadline, Int.lt_of_lt_of_le hlater hle⟩

namespace LockoutTracker

variable {t : LockoutTracker} {username : String} {now : Instant}

theorem eq_of_record?_eq {s t : LockoutTracker} (hpolicy : s.policy = t.policy)
    (hrecord : ∀ username, s.record? username = t.record? username) : s = t := by
  obtain ⟨policy, records⟩ := s
  obtain ⟨_, records'⟩ := t
  obtain rfl : policy = _ := hpolicy
  apply congrArg (mk policy)
  exact Std.ExtTreeMap.ext_getElem? fun {username} => hrecord username

/-- The tracker after failures that are counted one after the other at one instant. -/
def recordAll (t : LockoutTracker) (now : Instant) (names : List String) : LockoutTracker :=
  names.foldl (fun t name => (t.recordFailure name now).value.1) t

/-- The outcomes of these failures, each with its account. -/
def outcomes (t : LockoutTracker) (now : Instant) : List String → List (String × FailureOutcome)
  | [] => []
  | name :: names =>
    (name, (t.recordFailure name now).value.2) ::
      outcomes (t.recordFailure name now).value.1 now names

theorem recordAll_cons (name : String) (names : List String) :
    t.recordAll now (name :: names) = (t.recordFailure name now).value.1.recordAll now names := rfl

/-- Failures of two accounts can be counted in either order. -/
theorem recordFailure_comm (t : LockoutTracker) (first second : String) (now : Instant) :
    ((t.recordFailure first now).value.1.recordFailure second now).value.1 =
      ((t.recordFailure second now).value.1.recordFailure first now).value.1 := by
  by_cases hsame : first = second
  · rw [hsame]
  · refine eq_of_record?_eq ?_ fun username => ?_
    · simp only [policy_recordFailure]
    rw [record?_recordFailure, record?_recordFailure, record?_recordFailure, record?_recordFailure,
      record_recordFailure_of_ne _ hsame, record_recordFailure_of_ne _ (Ne.symm hsame)]
    simp only [policy_recordFailure]
    by_cases hfirst : first = username
    · subst hfirst
      rw [if_neg (Ne.symm hsame), if_pos rfl, if_pos rfl]
    · rw [if_neg hfirst, if_neg hfirst]

theorem recordAll_eq_of_perm {names order : List String} (hperm : order.Perm names) :
    t.recordAll now order = t.recordAll now names :=
  hperm.foldl_eq' (fun first _ second _ t => t.recordFailure_comm first second now) t

theorem failures_recordFailure_self (t : LockoutTracker) (username : String) (now : Instant) :
    ((t.recordFailure username now).value.1.record username).failures =
      min ((t.record username).failures + 1) maxFailures := by
  rw [record_recordFailure]
  rfl

/-- A batch counts every failure in it. -/
theorem failures_recordAll (hle : (t.record username).failures ≤ maxFailures) (now : Instant)
    (names : List String) :
    ((t.recordAll now names).record username).failures =
      min ((t.record username).failures + names.count username) maxFailures := by
  induction names generalizing t with
  | nil => exact (Nat.min_eq_left hle).symm
  | cons name names ih =>
    rw [recordAll_cons]
    by_cases hname : name = username
    · subst hname
      have hcounted := t.failures_recordFailure_self name now
      rw [ih (by omega), hcounted, List.count_cons_self]
      omega
    · have hsame : (t.recordFailure name now).value.1.record username = t.record username :=
        t.record_recordFailure_of_ne hname now
      rw [← hsame] at hle
      rw [ih hle, hsame, List.count_cons_of_ne hname]

/-- After a batch an account is locked if it was before, or if a failure in the batch
has brought it to the threshold or past it. -/
theorem isLocked_recordAll_iff (husable : t.policy.Usable) (hend : now < .farFuture)
    (hle : (t.record username).failures ≤ maxFailures) (names : List String) :
    (t.recordAll now names).isLocked username now = true ↔
      t.isLocked username now = true ∨ username ∈ names ∧
        t.policy.maxFailedAttempts.toNat ≤ ((t.recordAll now names).record username).failures := by
  induction names generalizing t with
  | nil => simp [recordAll]
  | cons name names ih =>
    rw [recordAll_cons, List.mem_cons]
    by_cases hname : name = username
    · subst hname
      have hcounted := t.failures_recordFailure_self name now
      have hle' : ((t.recordFailure name now).value.1.record name).failures ≤ maxFailures := by
        omega
      have htotal := failures_recordAll hle' now names
      have hstep : (t.recordFailure name now).value.1.isLocked name now = true ↔
          t.isLocked name now = true ∨ t.policy.maxFailedAttempts.toNat ≤
            ((t.recordFailure name now).value.1.record name).failures := by
        rw [isLocked_eq, isLocked_eq, record_recordFailure]
        exact FailureRecord.isLockedAt_fail_iff husable _ hend
      have husable' : (t.recordFailure name now).value.1.policy.Usable := husable
      rw [ih husable' hle', hstep, policy_recordFailure, or_assoc]
      -- the failures of the rest come on top of the first one, if there are any
      apply or_congr_right
      by_cases hmem : name ∈ names
      · simp only [hmem, true_and, or_true]
        omega
      · rw [List.count_eq_zero_of_not_mem hmem] at htotal
        simp only [hmem, false_and, or_false, true_and]
        omega
    · have hsame : (t.recordFailure name now).value.1.record username = t.record username :=
        t.record_recordFailure_of_ne hname now
      have husable' : (t.recordFailure name now).value.1.policy.Usable := husable
      rw [← hsame] at hle
      rw [ih husable' hle, isLocked_eq, isLocked_eq, hsame, policy_recordFailure]
      simp only [Ne.symm hname, false_or]

/-- Within a batch the outcomes tell of a lock of an account as often as it is locked:
once if it is locked in the end only, and else never. -/
theorem countP_newlyLocked (t : LockoutTracker) (username : String) (now : Instant)
    (names : List String) :
    (t.outcomes now names).countP (FailureOutcome.locks username) +
        (if t.isLocked username now then 1 else 0) =
      if (t.recordAll now names).isLocked username now then 1 else 0 := by
  induction names generalizing t with
  | nil => exact Nat.zero_add _
  | cons name names ih =>
    rw [recordAll_cons, ← ih, outcomes, List.countP_cons, Nat.add_assoc]
    apply congrArg
    by_cases hname : name = username
    · subst hname
      have hhead : FailureOutcome.locks name (name, (t.recordFailure name now).value.2) =
          (!t.isLocked name now && (t.recordFailure name now).value.1.isLocked name now) := by
        rw [← newlyLocked_recordFailure]
        simp [FailureOutcome.locks]
      have hstays : t.isLocked name now = true →
          (t.recordFailure name now).value.1.isLocked name now = true := by
        rw [isLocked_eq, isLocked_eq, record_recordFailure]
        exact FailureRecord.isLockedAt_fail_of_isLockedAt
      rw [hhead]
      cases hbefore : t.isLocked name now with
      | true => rw [hstays hbefore]; rfl
      | false => exact Nat.add_zero _
    · have hhead : FailureOutcome.locks username (name, (t.recordFailure name now).value.2) =
          false := by
        simp [FailureOutcome.locks, hname]
      rw [hhead, isLocked_eq, isLocked_eq, t.record_recordFailure_of_ne hname now]
      exact Nat.zero_add _

/-- The failures of an account never exceed the largest count. -/
theorem failures_handleAll_le (policy : LockoutPolicy) (calls : List TrackerCall)
    (username : String) :
    (((new policy).handleAll calls).record username).failures ≤ maxFailures := by
  have hnew : (new policy).policy.Shows [] ((new policy).info username).attempts
      ((new policy).info username).lockUntil := policy.shows_nil
  have hshows := shows_handleAll hnew calls
  rw [← info_attempts, hshows.attempts_eq]
  exact Nat.min_le_right _ _

/-- A batch of failures at one instant leaves the same tracker in whatever order they
are counted. From any state that a tracker can come to, each account gains as many
failures as the batch has of it, up to the largest count. Under valid settings and
before the end of the calendar, exactly one of the failures of an account newly
locks it, if it was not locked before and has come to the threshold or past it, and
else none. -/
theorem batch_of_failures {settings : AuthSettings} (hvalid : settings.defect? = none)
    (calls : List TrackerCall) {now : Instant} (hend : now < .farFuture) (names : List String) :
    let t := (new settings.lockout).handleAll calls
    let after := t.recordAll now names
    (∀ order : List String, order.Perm names → t.recordAll now order = after) ∧
    ∀ username,
      (after.info username).attempts =
        min ((t.info username).attempts + names.count username) maxFailures ∧
      (t.outcomes now names).countP (FailureOutcome.locks username) =
        if username ∈ names ∧ t.isLocked username now = false ∧
          settings.lockout.maxFailedAttempts.toNat ≤ (after.info username).attempts
        then 1 else 0 := by
  intro t after
  have hpolicy : t.policy = settings.lockout := policy_handleAll _ _
  have husable : t.policy.Usable := hpolicy ▸ AuthSettings.usable_of_defect? hvalid
  refine ⟨fun order hperm => recordAll_eq_of_perm hperm, fun username => ?_⟩
  have hle : (t.record username).failures ≤ maxFailures := failures_handleAll_le _ calls username
  refine ⟨failures_recordAll hle now names, ?_⟩
  have hreports := t.countP_newlyLocked username now names
  have hlocked : after.isLocked username now = true ↔ t.isLocked username now = true ∨
      username ∈ names ∧ t.policy.maxFailedAttempts.toNat ≤ (after.info username).attempts :=
    isLocked_recordAll_iff husable hend hle names
  rw [hpolicy] at hlocked
  cases hbefore : t.isLocked username now with
  | true =>
    have hstill := hlocked.2 (.inl hbefore)
    rw [hbefore, hstill] at hreports
    simp only [Bool.true_eq_false, false_and, and_false, if_false]
    omega
  | false =>
    rw [hbefore] at hreports hlocked
    simp only [Bool.false_eq_true, false_or] at hlocked
    simp only [true_and, ← hlocked]
    rw [if_neg Bool.false_ne_true, Nat.add_zero] at hreports
    exact hreports

/-- An account with one failure that locks at two of them takes three more at once, with
one of somebody else among them: four are counted, and one of the three tells of the
lock. -/
theorem three_failures_at_once :
    let settings := { AuthSettings.default with
      token := ⟨"0123456789abcdef0123456789abcdef", .seconds 3600⟩
      lockout := { LockoutPolicy.default with maxFailedAttempts := 2 } }
    let now : Instant := ⟨1_000_000_000, by decide, by decide⟩
    let names := ["alice", "bob", "alice", "alice"]
    let t := (new settings.lockout).handleAll [.recordFailure "alice" .epoch]
    let after := t.recordAll now names
    settings.defect? = none ∧ now < .farFuture ∧ t.recordAll now names.reverse = after ∧
      (after.info "alice").attempts = 4 ∧
      (t.outcomes now names).countP (FailureOutcome.locks "alice") = 1 ∧
      (t.outcomes now names).countP (FailureOutcome.locks "bob") = 0 := by
  intro settings now names t after
  have hvalid : settings.defect? = none := by decide +kernel
  have hend : now < .farFuture := by decide
  obtain ⟨horder, hcounts⟩ :=
    batch_of_failures hvalid [.recordFailure "alice" .epoch] hend names
  obtain ⟨halice, hlock⟩ := hcounts "alice"
  obtain ⟨-, hnone⟩ := hcounts "bob"
  have hfour : min ((t.info "alice").attempts + names.count "alice") maxFailures = 4 := by
    decide +kernel
  have hlocks : "alice" ∈ names ∧ t.isLocked "alice" now = false ∧
      settings.lockout.maxFailedAttempts.toNat ≤ (after.info "alice").attempts := by
    decide +kernel
  have hbelow : ¬ settings.lockout.maxFailedAttempts.toNat ≤ (after.info "bob").attempts := by
    decide +kernel
  exact ⟨hvalid, hend, horder _ names.reverse_perm, halice.trans hfour,
    hlock.trans (if_pos hlocks), hnone.trans (if_neg fun h => hbelow h.2.2)⟩

end LockoutTracker

end AuthGate
