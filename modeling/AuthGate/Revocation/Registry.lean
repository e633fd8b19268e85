import AuthGate.Event
import AuthGate.Token.Codec
import Std.Data.ExtTreeMap

namespace AuthGate

/-- The tokens revoked before their expiry: for the digest of each, the instant
until which it has to be remembered. -/
structure RevocationRegistry where
  entries : Std.ExtTreeMap String Instant

namespace RevocationRegistry

/-- A registry without revoked tokens. -/
def empty : RevocationRegistry := ⟨∅⟩

/-- The number of tokens remembered. -/
def size (r : RevocationRegistry) : Nat := r.entries.size

/-- Remembers a key at least until an instant. -/
def retain (r : RevocationRegistry) (key : String) (expiry : Instant) : RevocationRegistry :=
  ⟨r.entries.alter key fun held => some (match held with
    | none => expiry
    | some held => if held < expiry then expiry else held)⟩

/-- Forgets a key whose instant has been reached. -/
def dropExpired (r : RevocationRegistry) (key : String) (now : Instant) : RevocationRegistry :=
  match r.entries[key]? with
  | none => r
  | some expiry => if expiry ≤ now then ⟨r.entries.erase key⟩ else r

/-- Whether a key is remembered past an instant. -/
def holds (r : RevocationRegistry) (key : String) (now : Instant) : Bool :=
  match r.entries[key]? with
  | none => false
  | some expiry => now < expiry

/-- Revokes a token until its expiry. An expired token needs no revocation. -/
def revoke (r : RevocationRegistry) (raw : String) (expiry now : Instant) :
    Logged RevocationRegistry := do
  let key := revocationKey raw
  if expiry ≤ now then
    Logged.emit (.revocationSkipped (String.ofList (key.toList.take 12)))
    return r
  else return r.retain key expiry

/-- Whether a token is revoked. An entry that has expired is dropped. -/
def isRevoked (r : RevocationRegistry) (raw : String) (now : Instant) :
    RevocationRegistry × Bool :=
  let key := revocationKey raw
  if r.holds key now then (r, true) else (r.dropExpired key now, false)

/-- Drops the entries that have expired, and counts them. -/
def purgeExpired (r : RevocationRegistry) (now : Instant) :
    Logged (RevocationRegistry × Nat) := do
  let kept := r.entries.filter fun _ expiry => now < expiry
  let removed := r.entries.size - kept.size
  if 0 < removed then Logged.emit (.revocationsPurged removed kept.size)
  return (⟨kept⟩, removed)

end RevocationRegistry

end AuthGate
