import AuthGate.Event
import Std.Data.ExtTreeMap

namespace AuthGate

/-- The largest number of failures that is counted. -/
def maxFailures : Nat := 0xffff_ffff

/-- What is remembered about the failed logins of one account. An account
without a record has had no failures and is not locked. -/
structure FailureRecord where
  failures : Nat
  lockedUntil : Option Instant
  lastFailure : Option Instant
deriving DecidableEq

namespace FailureRecord

/-- The record that stands for no failures. -/
def empty : FailureRecord := ⟨0, none, none⟩

/-- Whether the account is locked at an instant. At its deadline it no longer is. -/
def isLockedAt (r : FailureRecord) (now : Instant) : Bool :=
  match r.lockedUntil with
  | none => false
  | some deadline => now < deadline

/-- The later of a deadline held and a new one. -/
def extend (held : Option Instant) (deadline : Instant) : Instant :=
  match held with
  | none => deadline
  | some held => if deadline < held then held else deadline

/-- The record after one more failure. A window that the policy opens may move
the deadline later, never earlier. -/
def fail (policy : LockoutPolicy) (r : FailureRecord) (now : Instant) : FailureRecord :=
  let failures := min (r.failures + 1) maxFailures
  ⟨failures,
    match policy.window failures with
    | none => r.lockedUntil
    | some window => some (extend r.lockedUntil (now.deadline window)),
    some now⟩

/-- Whether a record may be dropped: it is not locked, and its last failure is
an idle time or longer ago. -/
def isStale (r : FailureRecord) (now : Instant) (idle : Duration) : Bool :=
  !r.isLockedAt now && match r.lastFailure with
    | none => true
    | some last => now.remaining (last.deadline idle) = .zero

end FailureRecord

/-- What a failed login has led to. -/
structure FailureOutcome where
  attempts : Nat
  lockedUntil : Option Instant
  newlyLocked : Bool
deriving DecidableEq

/-- What is known about the lock of an account. -/
structure LockInfo where
  username : String
  attempts : Nat
  lockUntil : Option Instant
deriving DecidableEq

namespace LockInfo

/-- Whether the account is locked at an instant. -/
def isLockedAt (info : LockInfo) (now : Instant) : Bool :=
  match info.lockUntil with
  | none => false
  | some deadline => now < deadline

/-- The time left until the account is unlocked. -/
def remaining (info : LockInfo) (now : Instant) : Duration :=
  match info.lockUntil with
  | none => .zero
  | some deadline => now.remaining deadline

end LockInfo

/-- The failed logins of all accounts, under one policy. -/
structure LockoutTracker where
  policy : LockoutPolicy
  records : Std.ExtTreeMap String FailureRecord

namespace LockoutTracker

/-- A tracker that has seen no failure. -/
def new (policy : LockoutPolicy) : LockoutTracker := ⟨policy, ∅⟩

/-- The record of an account. -/
def record (t : LockoutTracker) (username : String) : FailureRecord :=
  t.records[username]?.getD .empty

/-- The number of accounts with a record. -/
def size (t : LockoutTracker) : Nat := t.records.size

/-- What a record that has just taken a failure shows. -/
def outcome (before after : FailureRecord) (now : Instant) : FailureOutcome :=
  ⟨after.failures, after.lockedUntil, !before.isLockedAt now && after.isLockedAt now⟩

/-- The event of a failure. Only the one that locks an account is a warning. -/
def failureEvent (username : String) (o : FailureOutcome) : Event :=
  if o.newlyLocked then .accountLocked username o.attempts o.lockedUntil
  else .failureRecorded username o.attempts

/-- Counts a failed login of an account. -/
def recordFailure (t : LockoutTracker) (username : String) (now : Instant) :
    Logged (LockoutTracker × FailureOutcome) := do
  let before := t.record username
  let after := before.fail t.policy now
  let o := outcome before after now
  Logged.emit (failureEvent username o)
  return ({ t with records := t.records.insert username after }, o)

/-- Forgets the failures of an account and with them its lock. -/
def clear (t : LockoutTracker) (username : String) (now : Instant) : Logged LockoutTracker := do
  if (t.record username).isLockedAt now then Logged.emit (.lockCleared username)
  return { t with records := t.records.erase username }

/-- Whether an account is locked. -/
def isLocked (t : LockoutTracker) (username : String) (now : Instant) : Bool :=
  match t.records[username]? with
  | none => false
  | some r => r.isLockedAt now

/-- What is known about the lock of an account. -/
def info (t : LockoutTracker) (username : String) : LockInfo :=
  let r := t.record username
  ⟨username, r.failures, r.lockedUntil⟩

/-- The time left until an account is unlocked. -/
def remaining (t : LockoutTracker) (username : String) (now : Instant) : Duration :=
  (t.info username).remaining now

/-- Drops the records that are not locked and have been idle, and counts them. -/
def purgeStale (t : LockoutTracker) (idle : Duration) (now : Instant) :
    Logged (LockoutTracker × Nat) := do
  let kept := t.records.filter fun _ r => !r.isStale now idle
  let removed := t.records.size - kept.size
  if 0 < removed then Logged.emit (.recordsPurged removed kept.size)
  return ({ t with records := kept }, removed)

end LockoutTracker

end AuthGate
