import AuthGate.Http.App
import AuthGate.Http.Wire
import AuthGate.Logging.Line
import AuthGate.Startup
import AuthGate.Token.Identifier
import Std.Async.TCP
import Std.Internal.UV.System
import Std.Time.DateTime.Timestamp

open AuthGate

namespace AuthGate.Program

/-- The reading of the clock of the machine. -/
def readClock : IO Instant := do
  let t ← Std.Time.Timestamp.now
  return (Instant.ofNanos? t.toNanosecondsSinceUnixEpoch.val).getD .epoch

/-- Sixteen random bytes. -/
def randomBytes : IO (List UInt8) := do return (← IO.getRandomBytes 16).toList

/-- Writes events to the log. -/
def write (events : List Event) : IO Unit := do
  let now ← readClock
  for e in events do IO.println (e.stampedLine now)
  (← IO.getStdout).flush

/-- The contents of a file as a text, if there is such a file. Bytes that belong
to no character are replaced. -/
def readText? (path : String) : IO (Option String) := do
  try
    let bytes ← IO.FS.readBinFile path
    return some (String.ofList ((symbols bytes.toList).map fun s => s.char?.getD '\ufffd'))
  catch
    | .noFileOrDirectory .. => return none
    | error => throw error

/-- The address of a socket. -/
def socketAddress (a : SocketAddress) : Std.Net.SocketAddress :=
  match a.ip with
  | .v4 a1 a2 a3 a4 => .v4 ⟨⟨#v[.ofNat a1, .ofNat a2, .ofNat a3, .ofNat a4]⟩, a.port⟩
  | .v6 groups =>
    let group (i : Nat) : UInt16 := .ofNat (groups.getD i 0)
    .v6 ⟨⟨#v[group 0, group 1, group 2, group 3, group 4, group 5, group 6, group 7]⟩, a.port⟩

/-- What the system says when it does not let a server listen, by number. -/
def listenErrors : List (Nat × String) :=
  [(13, "Permission denied"), (98, "Address already in use"),
    (99, "Cannot assign requested address")]

/-- The wording of an error in listening. The event loop counts errors of the system
below zero. -/
def listenReason (error : IO.Error) : String :=
  let code : UInt32 := match error with
    | .permissionDenied _ code _ => code
    | .resourceBusy code _ => code
    | .unsupportedOperation code _ => code
    | _ => 0
  match listenErrors.find? (·.1 = (0 - code).toNat) with
  | some (number, text) => s!"{text} (os error {number})"
  | none => toString error

/-- Receives the bytes of a request until it is complete. -/
partial def receive (client : Std.Async.TCP.Socket.Client) (sofar : List UInt8) :
    IO RequestBytes := do
  match ← (client.recv? 65536).block with
  | none => return .malformed
  | some bytes =>
    let bytes := sofar ++ bytes.toList
    match HttpRequest.ofBytes bytes with
    | .incomplete => receive client bytes
    | read => return read

/-- Serves one connection after the other. Expired state is swept out between
two of them. -/
partial def serve (socket : Std.Async.TCP.Socket.Server) (filter : LogFilter)
    (sweeper : Sweeper) (app : App) : IO Unit := do
  let client ← socket.accept.block
  let request ← receive client []
  let now ← readClock
  let jti := tokenIdentifier (← randomBytes)
  let turn : Logged (Sweeper × AuthService × HttpResponse) := do
    let (sweeper, service) ← sweeper.tick app.service now
    match request with
    | .complete request =>
      return (sweeper, ← { app with service }.handle request jti now)
    | _ => return (sweeper, service, .empty 400)
  write (turn.events.filter filter.admits)
  let (sweeper, service, response) := turn.value
  try client.send response.toBytes.toByteArray |>.block catch _ => pure ()
  serve socket filter sweeper { app with service }

/-- Listens at the address of the settings and serves. -/
def run (ready : Startup.Ready) : IO Unit := do
  let settings := ready.settings
  let socket ← Std.Async.TCP.Socket.Server.mk
  socket.bind (socketAddress settings.address)
  socket.listen 128
  serve socket ready.filter (.ofSettings settings.auth)
    ⟨ready.server.service, ready.server.credentials.check, settings.server, "unknown"⟩

/-- Ends the program with a report, of whose events some have been written. -/
def finish (report : Report) (written : Nat) : IO UInt32 := do
  for line in report.errors do IO.eprintln line
  write (report.events.drop written)
  return .ofNat report.exitCode

end AuthGate.Program

open AuthGate.Program in
/-- Starts the server with the settings that the arguments and the environment
lead to. -/
def main (arguments : List String) : IO UInt32 := do
  let given := (← Std.Internal.UV.System.osEnviron).toList
  let (environment, defect) := match ← readText? ".env" with
    | some file => EnvironmentFile.load file given
    | none => (given, none)
  if let some defect := defect then IO.eprintln defect.warning
  let path := SettingsPath.choose arguments environment
  let startup : Startup := ⟨environment, path, ← readText? path.path, saltOf (← randomBytes)⟩
  match startup.prepare with
  | .error report =>
    finish report 0
  | .ok ready =>
    write ready.events
    try
      run ready
      return 0
    catch error =>
      finish (ready.unserved (listenReason error)) ready.events.length
