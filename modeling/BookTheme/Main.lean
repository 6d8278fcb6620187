import BookTheme.Contents.Http
import BookTheme.Contents.Reply
import BookTheme.Log.Filter
import BookTheme.Update
import Std.Async.DNS
import Std.Async.TCP

/-! # The command line program

The host of a real run: files are those of the machine, requests go over the network, events go to the error
output. Only plain http addresses can be reached; a request for another address has no reply.
-/
namespace BookTheme.Machine
open BookTheme.Files
open Std.Async

/-- The number of a reason. Some operations give it with a minus, as a word. -/
def number (code : UInt32) : Nat := if code < 0x80000000 then code.toNat else (-code).toNat

def osErrorOf : IO.Error → OsError
  | .noFileOrDirectory _ code _
  | .permissionDenied _ code _
  | .alreadyExists _ code _
  | .invalidArgument _ code _
  | .resourceExhausted _ code _
  | .inappropriateType _ code _
  | .noSuchThing _ code _
  | .interrupted _ code _
  | .otherError code _
  | .resourceBusy code _
  | .resourceVanished code _
  | .unsupportedOperation code _
  | .hardwareFault code _
  | .unsatisfiedConstraints code _
  | .illegalOperation code _
  | .protocolError code _
  | .timeExpired code _ => .ofNumber (number code)
  | .unexpectedEof => .unnumbered "unexpected end of file"
  | .userError text => .unnumbered text

def onPath {α : Type} (path : Text) (act : String → IO α) : IO (Except OsError α) := do
  if path.any (· = '\x00') then return .error .nulInName
  try return .ok (← act (String.ofList path)) catch e => return .error (osErrorOf e)

def disk : Disk IO where
  read path := onPath path fun name => return (← IO.FS.readBinFile name).toList
  makeDir path := onPath path fun name => IO.FS.createDir name
  isDir path := do
    match ← onPath (path ++ "/.".toList) fun name => IO.FS.readBinFile name with
    | .error .isADirectory => return true
    | _ => return false
  write path content := onPath path fun name => IO.FS.writeBinFile name ⟨content.toArray⟩

partial def receive (socket : TCP.Socket.Client) (received : ByteArray) : Async ByteArray := do
  match ← socket.recv? 65536 with
  | some part => receive socket (received ++ part)
  | none => return received

def exchange (r : Contents.Http.Request) : Async Contents.Outcome := do
  let found ← DNS.getAddrInfo (String.ofList r.url.host) (toString r.url.portNumber)
  let portNumber := UInt16.ofNat r.url.portNumber
  match found[0]? with
  | none => return .noReply "io: host not found".toList
  | some ip =>
    let socket ← TCP.Socket.Client.mk
    socket.connect <| match ip with
      | .v4 addr => .v4 ⟨addr,portNumber⟩
      | .v6 addr => .v6 ⟨addr,portNumber⟩
    socket.send ⟨(Utf8.encode r.text).toArray⟩
    return Contents.Reply.outcomeOf (← receive socket .empty).toList

def ask (s : Source) : IO Contents.Outcome := do
  match Contents.Http.Request.ofSource s with
  | .error fault => return .noReply fault.message.toList
  | .ok r =>
    if r.url.secure then return .noReply "no transport for this address".toList
    try (exchange r).block catch e => return .noReply ("io: " ++ (osErrorOf e).message).toList

/-- The longest time, in milliseconds, that one call can sleep. -/
def longestSleep : Nat := UInt32.size / 2

def sleep (millis : Nat) : IO Unit := do
  (millis / longestSleep).forM fun _ _ => IO.sleep (.ofNat longestSleep)
  IO.sleep (.ofNat (millis % longestSleep))

def host (filter : Log.Filter) : Host IO where
  disk := disk
  client :=
    { get := ask
      pause := fun delay => sleep delay.toMillis
      log := fun event => if filter.shows event then IO.eprintln event.entry else return () }
  print text := IO.print text

end BookTheme.Machine

open BookTheme in
def main (arguments : List String) : IO UInt32 := do
  let arguments := arguments.map (·.toList)
  let verbose := ((CommandLine.parse arguments).toOption.map (·.verbose)).getD false
  let filter := Log.Filter.forRun ((← IO.getEnv "RUST_LOG").map (·.toList)) verbose
  let home := (← IO.appDir).toString.toList
  let ending ← Update.run (Machine.host filter) home arguments
  match ending.complaint? with
  | some complaint => IO.eprintln complaint
  | none => pure ()
  return ending.exitCode.toUInt32
