import AuthGate.Json.Value
import AuthGate.Schema.Format
import AuthGate.Text.Outline

namespace AuthGate

/-- How the lock window grows with further failures. -/
inductive Escalation where
  | fixed
  | exponential
deriving DecidableEq

namespace Escalation

/-- The curves by the names they have in a configuration. -/
def variants : List (String × Escalation) := [("fixed", fixed), ("exponential", exponential)]

/-- The name of a curve in a configuration. -/
def name : Escalation → String
  | fixed => "fixed"
  | exponential => "exponential"

/-- The name of a curve for people. -/
def label : Escalation → String
  | fixed => "Fixed"
  | exponential => "Exponential"

end Escalation

/-- When repeated failed logins lock an account, for how long, and how long an
idle record is kept. -/
structure LockoutPolicy where
  maxFailedAttempts : UInt32
  lockoutDuration : Duration
  escalation : Escalation
  maxLockoutDuration : Duration
  idleRecordTtl : Duration
deriving DecidableEq

namespace LockoutPolicy

/-- Five failures lock for a quarter of an hour; idle records last a day. -/
def default : LockoutPolicy where
  maxFailedAttempts := 5
  lockoutDuration := .seconds 900
  escalation := .fixed
  maxLockoutDuration := .seconds 86400
  idleRecordTtl := .seconds 86400

/-- The factor of the window after `excess` failures past the threshold. It
doubles with every failure and stops at the largest number of 32 bits. -/
def growth (excess : Nat) : Nat := if excess < 32 then 1 <<< excess else 0xffff_ffff

/-- The window that the failure with number `failures` opens. Below the
threshold there is none. On the exponential curve it is capped, also where the
uncapped window would be no span. -/
def window (p : LockoutPolicy) (failures : Nat) : Option Duration :=
  if failures < p.maxFailedAttempts.toNat then none
  else some (match p.escalation with
    | .fixed => p.lockoutDuration
    | .exponential =>
      let excess := failures - p.maxFailedAttempts.toNat
      min ((p.lockoutDuration.scale? (growth excess)).getD p.maxLockoutDuration)
        p.maxLockoutDuration)

/-- How a policy is read. -/
def shape {m : Type → Type} [Monad m] {ν : Type} (format : Format m ν) :
    Shape m ν LockoutPolicy where
  name := "LockoutConfig"
  initial := default
  fields := [
    ⟨"max_failed_attempts", false, fun v p => do
      return { p with maxFailedAttempts := .ofNat (← format.natural .bits32 v) }⟩,
    ⟨"lockout_duration", false, fun v p => do
      return { p with lockoutDuration := ← format.span v }⟩,
    ⟨"escalation", false, fun v p => do
      return { p with escalation := ← format.choice "LockoutEscalation" Escalation.variants v }⟩,
    ⟨"max_lockout_duration", false, fun v p => do
      return { p with maxLockoutDuration := ← format.span v }⟩,
    ⟨"idle_record_ttl", false, fun v p => do
      return { p with idleRecordTtl := ← format.span v }⟩]

/-- A policy as a document. -/
def toJson (p : LockoutPolicy) : Json.Value :=
  .object [("max_failed_attempts", .natural p.maxFailedAttempts.toNat),
    ("lockout_duration", .text p.lockoutDuration.render),
    ("escalation", .text p.escalation.name),
    ("max_lockout_duration", .text p.maxLockoutDuration.render),
    ("idle_record_ttl", .text p.idleRecordTtl.render)]

/-- A policy for people. -/
def describe (p : LockoutPolicy) : String :=
  outline "LockoutConfig" [("max_failed_attempts", toString p.maxFailedAttempts.toNat),
    ("lockout_duration", p.lockoutDuration.renderBrief),
    ("escalation", p.escalation.label),
    ("max_lockout_duration", p.maxLockoutDuration.renderBrief),
    ("idle_record_ttl", p.idleRecordTtl.renderBrief)] false

end LockoutPolicy

end AuthGate
