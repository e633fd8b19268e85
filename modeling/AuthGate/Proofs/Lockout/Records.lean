import AuthGate.Lockout.Tracker

namespace AuthGate

namespace LockoutPolicy

/-- A window opens exactly when the count has reached the threshold, on either
curve. -/
theorem window_eq_none_iff (p : LockoutPolicy) (failures : Nat) :
    p.window failures = none ↔ failures < p.maxFailedAttempts.toNat := by
  unfold window
  split
  · next h => exact ⟨fun _ => h, fun _ => rfl⟩
  · next h => exact ⟨fun hnone => (Option.some_ne_none _ hnone).elim, fun hlt => absurd hlt h⟩

theorem exists_window (p : LockoutPolicy) {failures : Nat}
    (hreached : p.maxFailedAttempts.toNat ≤ failures) :
    ∃ window, p.window failures = some window := by
  cases h : p.window failures with
  | none =>
    have hlt := (p.window_eq_none_iff failures).1 h
    omega
  | some window => exact ⟨window, rfl⟩

theorem threshold_le_of_window {p : LockoutPolicy} {failures : Nat} {window : Duration}
    (h : p.window failures = some window) : p.maxFailedAttempts.toNat ≤ failures := by
  rw [← Nat.not_lt, ← p.window_eq_none_iff, h]
  exact Option.some_ne_none window

/-- The threshold is a number of 32 bits, so a count that stops at the largest of
them never stops short of it. -/
theorem threshold_le_maxFailures (p : LockoutPolicy) : p.maxFailedAttempts.toNat ≤ maxFailures := by
  have := p.maxFailedAttempts.toNat_lt
  unfold maxFailures
  omega

end LockoutPolicy

namespace FailureRecord

theorem isLockedAt_iff (r : FailureRecord) (now : Instant) :
    r.isLockedAt now = true ↔ ∃ deadline, r.lockedUntil = some deadline ∧ now < deadline := by
  unfold isLockedAt
  cases r.lockedUntil with
  | none => simp
  | some deadline => simp

theorem le_extend (held : Option Instant) (deadline : Instant) :
    deadline ≤ extend held deadline := by
  unfold extend
  cases held with
  | none => exact Int.le_refl _
  | some held =>
    dsimp only
    split
    · next h => exact Int.le_of_lt h
    · exact Int.le_refl _

theorem held_le_extend (held deadline : Instant) : held ≤ extend (some held) deadline := by
  unfold extend
  dsimp only
  split
  · exact Int.le_refl _
  · next h => exact Int.not_lt.1 h

/-- The later deadline is one of the two that were compared. -/
theorem extend_eq_or (held : Option Instant) (deadline : Instant) :
    extend held deadline = deadline ∨ held = some (extend held deadline) := by
  unfold extend
  cases held with
  | none => exact .inl rfl
  | some held =>
    dsimp only
    split
    · exact .inr rfl
    · exact .inl rfl

theorem lockedUntil_fail_of_no_window {policy : LockoutPolicy} {r : FailureRecord} {now : Instant}
    (hwindow : policy.window (r.fail policy now).failures = none) :
    (r.fail policy now).lockedUntil = r.lockedUntil := by
  unfold fail at hwindow ⊢
  dsimp only at hwindow ⊢
  rw [hwindow]

theorem lockedUntil_fail_of_window {policy : LockoutPolicy} {r : FailureRecord} {now : Instant}
    {window : Duration} (hwindow : policy.window (r.fail policy now).failures = some window) :
    (r.fail policy now).lockedUntil = some (extend r.lockedUntil (now.deadline window)) := by
  unfold fail at hwindow ⊢
  dsimp only at hwindow ⊢
  rw [hwindow]

/-- A further failure never moves a deadline earlier, whatever the clock shows. -/
theorem le_lockedUntil_fail {policy : LockoutPolicy} {r : FailureRecord} {held now : Instant}
    (hheld : r.lockedUntil = some held) :
    ∃ deadline, (r.fail policy now).lockedUntil = some deadline ∧ held ≤ deadline := by
  unfold fail
  dsimp only
  split
  · exact ⟨held, hheld, Int.le_refl _⟩
  · next window _ =>
    rw [hheld]
    exact ⟨_, rfl, held_le_extend held _⟩

/-- A locked record is never stale, however long ago its last failure is. -/
theorem isStale_eq_false_of_isLockedAt {r : FailureRecord} {now : Instant} {idle : Duration}
    (hlocked : r.isLockedAt now = true) : r.isStale now idle = false := by
  simp [isStale, hlocked]

end FailureRecord

/-- An outcome is that an account is newly locked. -/
def FailureOutcome.locks (username : String) : String × FailureOutcome → Bool
  | (name, outcome) => name = username && outcome.newlyLocked

namespace LockoutTracker

variable (t : LockoutTracker)

/-- The record of an account, if it has one. What a tracker answers about an
account depends on nothing else. -/
def record? (username : String) : Option FailureRecord := t.records[username]?

theorem record_eq_getD (username : String) :
    t.record username = (t.record? username).getD .empty := rfl

theorem isLocked_eq (username : String) (now : Instant) :
    t.isLocked username now = (t.record username).isLockedAt now := by
  unfold isLocked record
  cases t.records[username]? with
  | none => rfl
  | some r => rfl

theorem isLocked_eq_any (username : String) (now : Instant) :
    t.isLocked username now = (t.record? username).any (·.isLockedAt now) := by
  unfold isLocked record?
  cases t.records[username]? with
  | none => rfl
  | some r => rfl

@[simp] theorem info_attempts (username : String) :
    (t.info username).attempts = (t.record username).failures := rfl

@[simp] theorem info_lockUntil (username : String) :
    (t.info username).lockUntil = (t.record username).lockedUntil := rfl

theorem isLocked_iff (username : String) (now : Instant) :
    t.isLocked username now = true ↔
      ∃ deadline, (t.info username).lockUntil = some deadline ∧ now < deadline := by
  rw [isLocked_eq, FailureRecord.isLockedAt_iff]
  rfl

theorem isLocked_of_le {t : LockoutTracker} {username : String} {before now : Instant}
    (hlocked : t.isLocked username now = true) (hle : before ≤ now) :
    t.isLocked username before = true := by
  rw [isLocked_iff] at hlocked ⊢
  obtain ⟨deadline, hdeadline, hlt⟩ := hlocked
  exact ⟨deadline, hdeadline, Int.lt_of_le_of_lt hle hlt⟩

theorem remaining_of_lockUntil {username : String} {deadline : Instant}
    (h : (t.info username).lockUntil = some deadline) (now : Instant) :
    t.remaining username now = now.remaining deadline := by
  unfold remaining LockInfo.remaining
  rw [h]

/-- There is time left exactly until an account is unlocked. -/
theorem remaining_eq_zero_iff (username : String) (now : Instant) :
    t.remaining username now = .zero ↔ t.isLocked username now = false := by
  rw [isLocked_eq]
  unfold remaining LockInfo.remaining FailureRecord.isLockedAt
  rw [info_lockUntil]
  cases (t.record username).lockedUntil with
  | none => exact iff_of_true rfl rfl
  | some deadline =>
    dsimp only
    rw [Instant.remaining_eq_zero_iff, decide_eq_false_iff_not]
    exact Int.not_lt.symm

theorem info_eq_of_record?_eq {s t : LockoutTracker} {username : String}
    (h : s.record? username = t.record? username) : s.info username = t.info username := by
  simp only [info, record_eq_getD, h]

theorem isLocked_eq_of_record?_eq {s t : LockoutTracker} {username : String}
    (h : s.record? username = t.record? username) (now : Instant) :
    s.isLocked username now = t.isLocked username now := by
  rw [isLocked_eq, isLocked_eq, record_eq_getD, record_eq_getD, h]

theorem value_recordFailure (username : String) (now : Instant) :
    (t.recordFailure username now).value =
      ({ t with records := t.records.insert username ((t.record username).fail t.policy now) },
        outcome (t.record username) ((t.record username).fail t.policy now) now) := rfl

theorem value_clear (username : String) (now : Instant) :
    (t.clear username now).value = { t with records := t.records.erase username } := by
  unfold clear
  split <;> rfl

theorem value_purgeStale (idle : Duration) (now : Instant) :
    (t.purgeStale idle now).value.1 =
      { t with records := t.records.filter fun _ r => !r.isStale now idle } := by
  unfold purgeStale
  dsimp only
  split <;> rfl

@[simp] theorem policy_recordFailure (username : String) (now : Instant) :
    (t.recordFailure username now).value.1.policy = t.policy := rfl

@[simp] theorem policy_clear (username : String) (now : Instant) :
    (t.clear username now).value.policy = t.policy := by rw [value_clear]

@[simp] theorem policy_purgeStale (idle : Duration) (now : Instant) :
    (t.purgeStale idle now).value.1.policy = t.policy := by rw [value_purgeStale]

/-- A failure touches the record of its own account only. -/
theorem record?_recordFailure (name username : String) (now : Instant) :
    (t.recordFailure name now).value.1.record? username =
      if name = username then some ((t.record name).fail t.policy now) else t.record? username := by
  rw [value_recordFailure]
  simp only [record?, Std.ExtTreeMap.getElem?_insert, Std.LawfulEqCmp.compare_eq_iff_eq]

theorem record_recordFailure (username : String) (now : Instant) :
    (t.recordFailure username now).value.1.record username =
      (t.record username).fail t.policy now := by
  rw [record_eq_getD, record?_recordFailure, if_pos rfl, Option.getD_some]

theorem record_recordFailure_of_ne {name username : String} (hne : name ≠ username)
    (now : Instant) : (t.recordFailure name now).value.1.record username = t.record username := by
  rw [record_eq_getD, record?_recordFailure, if_neg hne, ← record_eq_getD]

/-- A failure says whether it has locked its account. -/
theorem newlyLocked_recordFailure (username : String) (now : Instant) :
    (t.recordFailure username now).value.2.newlyLocked =
      (!t.isLocked username now && (t.recordFailure username now).value.1.isLocked username now) := by
  rw [isLocked_eq, isLocked_eq, record_recordFailure]
  rfl

/-- Clearing touches the record of its own account only. -/
theorem record?_clear (name username : String) (now : Instant) :
    (t.clear name now).value.record? username =
      if name = username then none else t.record? username := by
  rw [value_clear]
  simp only [record?, Std.ExtTreeMap.getElem?_erase, Std.LawfulEqCmp.compare_eq_iff_eq]

/-- A purge decides about every record by itself. -/
theorem record?_purgeStale (idle : Duration) (now : Instant) (username : String) :
    (t.purgeStale idle now).value.1.record? username =
      (t.record? username).filter fun r => !r.isStale now idle := by
  rw [value_purgeStale]
  simp only [record?, Std.ExtTreeMap.getElem?_filter']

/-- A purge cannot drop the record of a locked account, however short the idle time. -/
theorem record?_purgeStale_of_isLocked {username : String} {now : Instant}
    (hlocked : t.isLocked username now = true) (idle : Duration) :
    (t.purgeStale idle now).value.1.record? username = t.record? username := by
  rw [isLocked_eq_any, Option.any_eq_true] at hlocked
  obtain ⟨r, hrecord, hlocked⟩ := hlocked
  have hkept : r.isStale now idle = false := FailureRecord.isStale_eq_false_of_isLockedAt hlocked
  rw [record?_purgeStale, hrecord, Option.filter_some, hkept, Bool.not_false, if_pos rfl]

end LockoutTracker

end AuthGate
