import Std.Async.DNS
import Std.Async.TCP
import Std.Async.Timer
import LogSteward.Command.Run
import LogSteward.Rest.Wire
import LogSteward.Tls.Acceptance

/-!
# The program

Reads the command line, the environment and the files that a task needs, carries the task's requests
to the store, and writes what the task printed and its log.  Requests go over plain HTTP; an address
that asks for an encrypted connection is not served.
-/

namespace LogSteward.Program

open Rest Std.Async

/-- The failure of the operating system to read a file or a directory. -/
def fileError (e : IO.Error) : FileError :=
  let code : Option UInt32 := match e with
    | .noFileOrDirectory _ code _ => some code
    | .inappropriateType _ code _ => some code
    | _ => none
  match code with
  | some 2 => .notFound
  | some 20 => .notADirectory
  | some 21 => .isADirectory
  | _ => .other (toString e)

/-- Reads a file. -/
def readFile (path : String) : IO (Except FileError Octets) := do
  try
    return .ok (← IO.FS.readBinFile path).toList
  catch e => return .error (fileError e)

/-- Reads a secret below a directory. -/
def readSecret (root name : String) : IO (Except ReadFailure (Option Secret)) := do
  let place := (← IO.currentDir) / root / name
  let entries ←
    try pure (Except.ok (← place.readDir))
    catch e => pure (Except.error (fileError e))
  match entries with
  | .error .notFound => return .ok none
  | .error e => return .error ⟨Mount.shown name, e⟩
  | .ok entries =>
    let mut found := #[]
    for entry in entries do
      if entry.fileName.startsWith "." then continue
      try
        if (← entry.path.metadata).type == .file then
          found := found.push (entry.fileName, (← IO.FS.readBinFile entry.path).toList)
      catch e => return .error ⟨Mount.shown (FileTree.join name entry.fileName), fileError e⟩
    return .ok (some (Secret.ofList name found.toList))

/-- A random name in the form of a UUID of version 4. -/
def freshName : IO String := do
  let octets := (← IO.getRandomBytes 16).toList.map UInt8.toNat
  let digits := octets.flatMap fun b => [Json.hexDigit (b / 16), Json.hexDigit b]
  let digits := (digits.set 12 '4').modify 16 fun c => Json.hexDigit (8 + c.toNat % 4)
  let group (start length : Nat) := String.ofList ((digits.drop start).take length)
  return "-".intercalate [group 0 8, group 8 4, group 12 4, group 16 4, group 20 12]

/-- What an invocation finds where the program runs, as far as it needs it. -/
def surroundings (i : Invocation) : IO Surroundings := do
  let passwords := match i.task with
    | .provision _ name => [name]
    | _ => []
  let environment ← (Invocation.logVariable :: passwords).mapM fun v => return (v, ← IO.getEnv v)
  let settings := match i.task with
    | .applyPolicies path | .planPolicies path => path
    | _ => none
  let files ← (settings.toList ++ i.authorityFile.toList).mapM fun path => do
    return (path, ← readFile path)
  let names := match i.task with
    | .planPolicies _ => []
    | _ =>
      [ Secret.administrator, Secret.internalAuthority, Secret.externalAuthority
      , Secret.clientIdentity ]
  let secrets ← names.mapM fun name => do
    return (name, ← readSecret i.secretsDir name)
  return {
    lookUp := fun v => (environment.lookup v).join
    readFile := fun path => (files.lookup path).getD (.error .notFound)
    secretsIn := fun _ name => (secrets.lookup name).getD (.ok none)
    library := .rsa
    passId := ← freshName }

/-! ### The log -/

def levelName : Verbosity → String
  | .off => "OFF"
  | .error => "ERROR"
  | .warn => "WARN"
  | .info => "INFO"
  | .debug => "DEBUG"
  | .trace => "TRACE"

def fieldJson : FieldValue → Json
  | .text s | .shown s => .text s
  | .number n => .number n
  | .truth b => .flag b

def fieldText (name : String) (v : FieldValue) : String :=
  name ++ "=" ++ match v with
    | .text s => Json.quoted s
    | .shown words => words
    | .number n => toString n
    | .truth b => toString b

/-- A line for each event, without the time. -/
def style : LogStyle where
  line format _ span e :=
    let said (fields : List (String × FieldValue)) := fields.map fun (k, v) => (k, fieldJson v)
    match format with
    | .json =>
      let within := span.toList.map fun s =>
        ("span", Json.object (said s.fields ++ [("name", .text s.name)]))
      (Json.object
        ([ ("level", .text (levelName e.level))
         , ("fields", .object (("message", .text e.message) :: said e.fields))
         , ("target", .text e.target) ] ++ within)).compact
    | .pretty =>
      let fields := e.fields ++ (span.map Span.fields).getD []
      " ".intercalate (levelName e.level :: (e.target ++ ":") :: e.message ::
        fields.map fun (k, v) => fieldText k v)
  inside filter span :=
    (filter.filter fun d => d.isAboutSpans && d.isAbout span.site).foldl
      (fun v d => if v.rank < d.level.rank then d.level else v) .off

/-! ### Requests -/

/-- Everything that comes over a connection until it is closed. -/
partial def receiveAll (socket : TCP.Socket.Client) (sofar : ByteArray) : Async ByteArray := do
  match ← socket.recv? 65536 with
  | some more => receiveAll socket (sofar ++ more)
  | none => return sofar

/-- Carries a request to its host. -/
def carry (r : Request) : Async (Except String Reply) := do
  let host := r.address.host.getD ""
  let port := r.address.port.getD 80
  let some place := (← DNS.getAddrInfo host (toString port))[0]? | return .error "unknown host"
  let socket ← TCP.Socket.Client.mk
  socket.connect <| match place with
    | .v4 addr => .v4 { addr, port := port.toUInt16 }
    | .v6 addr => .v6 { addr, port := port.toUInt16 }
  socket.send ⟨r.toOctets.toArray⟩
  match Reply.ofOctets? (← receiveAll socket .empty).toList with
  | some reply => return .ok reply
  | none => return .error "the connection was closed without a reply"

/-- Carries a request to its host, for as many seconds at most. -/
def deliver (seconds : UInt64) (r : Request) : IO (Except String Reply) := do
  if r.address.scheme ≠ "http" then return .error "only plain HTTP is served"
  try
    Async.block <| Async.race (carry r) do
      sleep (.ofNat (seconds.toNat * 1000))
      return .error "the time for the request is over"
  catch e => return .error (toString e)

/-- Carries out a computation over HTTP. -/
def perform (seconds : UInt64) : Exchange α → IO α
  | .done a => return a
  | .ask q next => do perform seconds (next (← deliver seconds q))

/-- Runs the program on the words of a command line: the status with which it ends. -/
def run (words : List String) : IO UInt32 := do
  let named ← (Flag.all.filterMap Flag.standIn?).mapM fun v => return (v, ← IO.getEnv v)
  match Invocation.ofWords (fun v => (named.lookup v).join) words with
  | .error e =>
    (← IO.getStderr).putStr (e.message ++ "\n")
    return e.exitStatus.toUInt32
  | .ok i =>
    let pass ← perform i.timeout (i.pass (← surroundings i))
    IO.print (pass.stdout style)
    (← IO.getStderr).putStr pass.ending.complaint
    return pass.ending.exitStatus.toUInt32

end LogSteward.Program

def main (words : List String) : IO UInt32 :=
  LogSteward.Program.run words
