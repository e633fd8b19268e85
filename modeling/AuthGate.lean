import AuthGate.Json.Tree
import AuthGate.Main
import AuthGate.Proofs.Lockout.History
import AuthGate.Proofs.Service.Lock
import AuthGate.Proofs.Service.Logout
import AuthGate.Proofs.Text.Base64Canonical
import AuthGate.Proofs.Token.Spelling
import AuthGate.Proofs.Interleaving.Revocation
import AuthGate.Proofs.Lockout.Window
import AuthGate.Proofs.Service.Budget
import AuthGate.Proofs.Service.Sweep
import AuthGate.Proofs.Revocation.History
import AuthGate.Proofs.Http.Effect
import AuthGate.Proofs.Http.Enumeration
import AuthGate.Proofs.Interleaving.Login
import AuthGate.Proofs.Service.Entries
import AuthGate.Proofs.Lockout.Transition
import AuthGate.Proofs.Lockout.Batch
import AuthGate.Proofs.Service.Isolation
import AuthGate.Proofs.Token.Agreement
import AuthGate.Proofs.Http.Identification
import AuthGate.Proofs.Service.Grant
import AuthGate.Proofs.Service.Attempt
import AuthGate.Proofs.Lockout.Escalation
import AuthGate.Proofs.Http.RetryAfter
import AuthGate.Proofs.Settings.Override
import AuthGate.Proofs.Http.Authorization
import AuthGate.Proofs.Lockout.Purge
import AuthGate.Proofs.Time.Span
import AuthGate.Proofs.Json.List
import AuthGate.Proofs.Settings.RoundTrip
import AuthGate.Proofs.Password.Scheme
import AuthGate.Proofs.Password.History
import AuthGate.Proofs.Service.LockViews
import AuthGate.Proofs.Lockout.Deadline
import AuthGate.Proofs.Http.Session
