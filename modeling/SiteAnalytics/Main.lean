import SiteAnalytics.CommandLine.Basic
import SiteAnalytics.Http.Wire
import SiteAnalytics.Json.Writer
import SiteAnalytics.Store.Client
import Std.Async.DNS
import Std.Async.TCP
import Std.Time

/-!
# The program

Reads arguments, settings, the request file and the clock, sends requests to the column store and
prints the outcome. Everything else is decided elsewhere. Connections are not encrypted, so a store
behind an encrypted address cannot be reached.
-/

namespace SiteAnalytics.Program

open Std.Async Std.Net

/-- The reading of the clock in UTC. -/
def now : IO DateTime := do
  let nanos := (← Std.Time.Timestamp.now).toNanosecondsSinceUnixEpoch.val
  return ⟨nanos / nanosPerSecond, (nanos % nanosPerSecond).toNat⟩

/-- The settings that are there. -/
def environment : IO (String → Option String) := do
  let entries ← Config.variableNames.mapM fun name => do return (name, ← IO.getEnv name)
  return fun name => (entries.lookup name).join

/-- The text of a file, if it can be read. -/
def contents? (path : String) : IO (Option String) := do
  try return some (← IO.FS.readFile path)
  catch _ => return none

/-- What is left to arrive on a connection. -/
partial def receive (socket : TCP.Socket.Client) (soFar : ByteArray) : Async ByteArray := do
  match ← socket.recv? 65536 with
  | some chunk => receive socket (soFar ++ chunk)
  | none => return soFar

/-- The address of a host with a port. -/
def socketAddress (address : IPAddr) (port : UInt16) : SocketAddress :=
  match address with
  | .v4 addr => .v4 { addr, port }
  | .v6 addr => .v6 { addr, port }

/-- Sends a request to one address and takes the answer. -/
def exchange (address : SocketAddress) (r : HttpRequest) : Async ByteArray := do
  let socket ← TCP.Socket.Client.mk
  socket.connect address
  socket.send r.wire.toUTF8
  receive socket ByteArray.empty

/-- Sends a request and reads the answer, if there is one. -/
def send (r : HttpRequest) : IO (Option HttpResponse) := do
  if r.server.secure then return none
  try
    let port := r.server.port.getD 80
    let addresses ← (DNS.getAddrInfo r.server.lookupName (toString port)).block
    match addresses[0]? with
    | none => return none
    | some address =>
      let answer ← (exchange (socketAddress address (UInt16.ofNat port)) r).block
      return (String.fromUTF8? answer).bind HttpResponse.read?
  catch _ => return none

/-- Carries out a call. -/
def outcome (arguments : List String) : IO Outcome := do
  match Call.arguments arguments with
  | .error e => return .notCalled e
  | .ok (command, path) =>
    match Call.prepare command path (← environment) (← contents? path) with
    | .error e => return .notCalled e
    | .ok call =>
      let task := call.run (← now)
      let result ← task.run.runWith (Client.query call.config send)
        (Client.execute call.config send)
      match result with
      | .ok j => return .answered j
      | .error e => return .refused e

end SiteAnalytics.Program

open SiteAnalytics in
/-- Carries out the call that the arguments describe. -/
def main (arguments : List String) : IO UInt32 := do
  let outcome ← Program.outcome arguments
  match outcome with
  | .notCalled e => IO.eprintln e.message
  | .refused .outOfCalendar => IO.eprintln EngineError.outOfCalendar.message
  | .refused e => IO.eprintln (Outcome.errorJson e).render
  | .answered j => IO.println j.pretty
  return UInt32.ofNat outcome.status
