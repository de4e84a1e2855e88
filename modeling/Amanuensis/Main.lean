import Amanuensis.CommandLine.Live
import Amanuensis.Http.Frame
import Std.Async.DNS
import Std.Async.Signal
import Std.Async.TCP
/-!
# The program

What the command line needs of the world: files, variables, a clock, signals
and connections. Whatever is decided is decided by the runs of
`CommandLine`; here their messages are sent, their lines are printed when
they are due, and the user's interruptions are passed on to them.
-/


namespace Amanuensis

namespace Program

open Std.Async

/-! ## Sources of settings -/

/-- The files of a list that can be read. -/
def readFiles (paths : List String) : IO (List (String × String)) :=
  paths.filterMapM fun (path : String) => do
    try
      return some (path, ← IO.FS.readFile path)
    catch _ => return none

/-- The files that settings may come from. -/
def readSettings : IO Settings.Files := do
  let paths := Settings.defaultNames.flatMap fun name =>
    name :: Settings.endings.map fun e => name ++ "." ++ e.1
  return ⟨(← IO.currentDir).toString, ← readFiles paths, []⟩

/-- The variables of the environment. -/
def readEnvironment : IO (List (String × String)) := do
  let listing ← try IO.FS.readFile "/proc/self/environ" catch _ => pure ""
  return (listing.splitOn "\x00").filterMap fun entry =>
    match Url.cutFirst (· = '=') entry.toList with
    | (name, some value) => some (String.ofList name, String.ofList value)
    | (_, none) => none

/-! ## Connections -/

/-- Reads from a connection until it is clear what came of the message. -/
partial def receive (socket : TCP.Socket.Client) (done : List UInt8) : Async Http.Exchange := do
  let more ← socket.recv? 65536
  let bytes := done ++ (more.map fun b => b.toList).getD []
  match Http.Exchange.ofBytes? more.isNone bytes with
  | some x => return x
  | none => receive socket bytes

/-- A connection to a server. -/
def connect (host : String) (port : UInt16) : Async TCP.Socket.Client := do
  let addresses ← DNS.getAddrInfo host (toString port)
  for address in addresses do
    let peer : Std.Net.SocketAddress :=
      match address with
      | .v4 a => .v4 ⟨a, port⟩
      | .v6 a => .v6 ⟨a, port⟩
    try
      let socket ← TCP.Socket.Client.mk
      socket.connect peer
      return socket
    catch _ => continue
  throw (IO.userError "no connection")

/-- The name of a host as a connection takes it. -/
def hostName (host : List Char) : String := String.ofList (host.filter fun c => c ≠ '[' && c ≠ ']')

/-- Sends a message and waits for what comes of it. -/
def exchange (m : Http.Message) : Async Http.Exchange := do
  match m.url.scheme, m.url.authority with
  | "http", some a =>
    try
      let socket ← connect (hostName a.host) (a.port.getD 80).toUInt16
      socket.send ⟨m.frame.toArray⟩
      receive socket []
    catch _ => return .refused
  | _, _ => return .refused

/-! ## Signals -/

/-- Those that are awaited, and the reason that each one gives. -/
abbrev Alarms := List (AsyncTask Int × Shutdown.Reason)

def setAlarms : IO Alarms := do
  let interrupted ← (← Signal.Waiter.mk .sigint false).wait
  let terminated ← (← Signal.Waiter.mk .sigterm false).wait
  return [(interrupted, .user), (terminated, .signal)]

/-- The reason of an alarm that has gone off. -/
def ringing : Alarms → IO (Option Shutdown.Reason)
  | [] => return none
  | (alarm, reason) :: rest => do
    if ← IO.hasFinished alarm then return some reason else ringing rest

/-! ## Runs -/

/-- What does not change during a run. -/
structure World where
  startedAt : Nat
  alarms : Alarms

def World.now (w : World) : IO Instant := return (← IO.monoNanosNow) - w.startedAt

/-- How many moves a run may take. -/
def moves : Nat := 1000000000

/-- Prints the lines that are due and not printed yet, and says how many
have been printed. -/
def printDue (r : Invocation.Report) (printed : Nat) (now : Instant) : IO Nat := do
  let due := ((CommandLine.progressLines r.trace).drop printed).takeWhile fun line => line.2 ≤ now
  for line in due do
    IO.eprintln line.1
  return printed + due.length

/-- How a wait ends. -/
inductive Wake (α : Type) where
  | due
  | came (a : α)
  | interrupted (i : CommandLine.Interruption)

/-- Waits for an instant, for an event and for an interruption. -/
partial def wait {α : Type} (w : World) (r : Invocation.Report) (printed : Nat) (time : Instant)
    (event : IO (Option α)) : IO (Nat × Wake α) := do
  let now ← w.now
  match ← ringing w.alarms with
  | some reason => return (printed, .interrupted ⟨reason, now⟩)
  | none =>
    let printed ← printDue r printed (min now time)
    match ← event with
    | some a => return (printed, .came a)
    | none =>
      if time ≤ now then return (printed, .due)
      else
        IO.sleep 2
        wait w r printed time event

/-- What has come of a message, if anything has. -/
def arrival (task : AsyncTask Http.Exchange) : IO (Option Http.Exchange) := do
  if ← IO.hasFinished task then
    try
      return some (← task.block)
    catch _ => return some .refused
  else return none

/-- Nothing to wait for. -/
def noEvent : IO (Option Unit) := return none

/-- Prints what is left of a run and gives its exit code. -/
def finish (l : CommandLine.Live) (r : Invocation.Report) (printed : Nat) : IO UInt32 := do
  let result := CommandLine.resultOf l.interruption r
  let shown := ((CommandLine.progressLines r.trace).take printed).map fun line => line.1 ++ "\n"
  IO.eprint (String.ofList (result.err.toList.drop (String.join shown).length))
  IO.print result.out
  return result.exit.toUInt32

/-- Goes on with a run to its end. -/
partial def follow (w : World) (l : CommandLine.Live) (printed : Nat) : IO UInt32 := do
  let r := l.report moves
  match l.next r with
  | none =>
    if l.interruption.isSome then finish l r printed
    else
      match ← wait w r printed r.moment.now noEvent with
      | (printed, .interrupted i) => follow w (l.interrupt i) printed
      | (printed, _) => finish l r printed
  | some s =>
    match ← wait w r printed s.time noEvent with
    | (printed, .interrupted i) => follow w (l.interrupt i) printed
    | (printed, _) =>
      let sentAt ← w.now
      let task ← (exchange s.message).toIO
      match ← wait w r printed (l.patience r s) (arrival task) with
      | (printed, .interrupted i) => follow w (l.interrupt i) printed
      | (printed, .due) => follow w (l.learn s .silent 0) printed
      | (printed, .came x) => follow w (l.learn s x ((← w.now) - sentAt)) printed

/-- Runs the program in a world. -/
def run (args : List String) : IO UInt32 := do
  let sources : Settings.Sources := ⟨← readSettings, none, ← readEnvironment⟩
  match CommandLine.prepare sources args with
  | .error e =>
    IO.eprint (CommandLine.Result.failed [] e).err
    return 1
  | .ok (settings, request) =>
    let w : World := ⟨← IO.monoNanosNow, ← setAlarms⟩
    follow w (.start settings request) 0

end Program

end Amanuensis

def main (args : List String) : IO UInt32 := Amanuensis.Program.run args
