import AuthGate.Password.Scheme
import AuthGate.Service
import Std.Data.ExtTreeMap

namespace AuthGate

/-- Accounts with what is kept of their passwords. -/
structure CredentialStore (scheme : PasswordScheme) where
  kept : Std.ExtTreeMap String String

namespace CredentialStore

variable {scheme : PasswordScheme}

/-- A store without accounts. -/
def empty : CredentialStore scheme := ⟨∅⟩

/-- Adds an account, or replaces its password. -/
def set (store : CredentialStore scheme) (username password : String) (salt : List UInt8) :
    CredentialStore scheme :=
  ⟨store.kept.insert username (scheme.keep salt password)⟩

/-- Removes an account, and says whether there was one. -/
def remove (store : CredentialStore scheme) (username : String) :
    CredentialStore scheme × Bool :=
  (⟨store.kept.erase username⟩, store.kept.contains username)

/-- The number of accounts. -/
def size (store : CredentialStore scheme) : Nat := store.kept.size

/-- Whether there is no account. -/
def isEmpty (store : CredentialStore scheme) : Bool := store.kept.isEmpty

/-- Whether a password is the one of an account. -/
def verify (store : CredentialStore scheme) (username password : String) :
    Except AuthError Bool :=
  match store.kept[username]? with
  | none => .error .userNotFound
  | some stored => (scheme.verify password stored).mapError
      fun defect => .storage s!"stored hash is invalid: {defect.message}"

/-- A store of names with passwords, each with the salt for it. Of accounts of
one name the last one counts. -/
def ofUsers (users : List (String × String × List UInt8)) : CredentialStore scheme :=
  users.foldl (fun store (username, password, salt) => store.set username password salt) empty

/-- The answers of a store. -/
def check (store : CredentialStore scheme) : CredentialCheck := fun username password =>
  match store.verify username password with
  | .ok accepted => .verdict accepted
  | .error error => .failed error

end CredentialStore

end AuthGate
