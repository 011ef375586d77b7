import Switchboard.Content.MediaType
import Switchboard.Message

/-!
# Failures

`TransportFailure` says why a transport could not do its work, `CallFailure` why a call has no
result. Both carry causes; their wording is in one function each, and `describe` is the form with
all fields that reports of a failure's inner state show.
-/

namespace Switchboard

open Switchboard.Json Switchboard.Text

/-- A failure of the system below a transport. -/
inductive SystemError where
  /-- The system's own failure: its number, kind and text. -/
  | system (code : Nat) (kind text : String)
  /-- A failure that the library or its caller words. -/
  | reported (kind text : String)
  /-- A fixed text for a kind of failure. -/
  | fixed (kind text : String)
  deriving DecidableEq, Repr

namespace SystemError

def message : SystemError → String
  | .system code _ text => s!"{text} (os error {code})"
  | .reported _ text => text
  | .fixed _ text => text

def describe : SystemError → String
  | .system code kind text =>
    s!"Os \x7b code: {code}, kind: {kind}, message: " ++ Quoted.quote text ++ " \x7d"
  | .reported kind text => s!"Custom \x7b kind: {kind}, error: " ++ Quoted.quote text ++ " \x7d"
  | .fixed kind text => s!"Error \x7b kind: {kind}, message: " ++ Quoted.quote text ++ " \x7d"

def notFound : SystemError := .system 2 "NotFound" "No such file or directory"
def permissionDenied : SystemError := .system 13 "PermissionDenied" "Permission denied"
def brokenPipe : SystemError := .system 32 "BrokenPipe" "Broken pipe"
def nulByte : SystemError := .fixed "InvalidInput" "nul byte found in provided data"

end SystemError

inductive TransportFailure where
  | executableNotFound (command : String) (source : SystemError)
  | launch (command message : String) (source : SystemError)
  | write (source : SystemError)
  | closed (reason : String)
  | notStarted
  deriving DecidableEq, Repr

namespace TransportFailure

def message : TransportFailure → String
  | .executableNotFound command _ => "generator executable not found: " ++ command
  | .launch command message _ =>
    "failed to launch generator process '" ++ command ++ "': " ++ message
  | .write source => "failed to write to generator process: " ++ source.message
  | .closed reason => "transport closed: " ++ reason
  | .notStarted => "transport has not been started"

/-- The failure of the system that a transport's failure wraps. -/
def source? : TransportFailure → Option SystemError
  | .executableNotFound _ source => some source
  | .launch _ _ source => some source
  | .write source => some source
  | .closed _ => none
  | .notStarted => none

/-- Whether no process came to be. -/
def isLaunchFailure : TransportFailure → Bool
  | .executableNotFound .. => true
  | .launch .. => true
  | _ => false

def describe : TransportFailure → String
  | .executableNotFound command source =>
    "ExecutableNotFound \x7b command: " ++ Quoted.quote command ++ ", source: " ++
      source.describe ++ " \x7d"
  | .launch command message source =>
    "ProcessLaunch \x7b command: " ++ Quoted.quote command ++ ", message: " ++
      Quoted.quote message ++ ", source: " ++ source.describe ++ " \x7d"
  | .write source => "Write \x7b source: " ++ source.describe ++ " \x7d"
  | .closed reason => "Closed \x7b reason: " ++ Quoted.quote reason ++ " \x7d"
  | .notStarted => "NotStarted"

end TransportFailure

inductive CallFailure where
  | transport (failure : TransportFailure)
  | remote (code : Int) (message : String) (data : Option Value)
  | timeout (id : Int) (millis : Nat)
  | invalidState (message : String)
  | codec (message : String)
  | cancelled (id : Int)
  deriving Repr

mutual

/-- A document with its constructors spelled out. -/
def describeValue : Value → String
  | .null => "Null"
  | .bool b => s!"Bool({b})"
  | .number n => "Number(" ++ String.ofList n.chars ++ ")"
  | .string s => "String(" ++ Quoted.quote s ++ ")"
  | .array items => "Array [" ++ String.intercalate ", " (describeItems items) ++ "]"
  | .object members =>
    "Object \x7b" ++ String.intercalate ", " (describeMembers members) ++ "\x7d"

def describeItems : List Value → List String
  | [] => []
  | v :: rest => describeValue v :: describeItems rest

def describeMembers : List (String × Value) → List String
  | [] => []
  | m :: rest => describeMember m :: describeMembers rest

def describeMember : String × Value → String
  | (k, v) => Quoted.quote k ++ ": " ++ describeValue v

end

namespace CallFailure

/-- A failure that the peer reports. -/
def ofErrorObject (e : ErrorObject) : CallFailure := .remote e.code e.message e.data

/-- A document that could not be read or written. -/
def ofJson (e : Json.Error) : CallFailure := .codec e.message

/-- Content that could not be written. -/
def ofContent (e : Content.Error) : CallFailure := .codec e.message

/-- The failure of every call that is open when the transport closes. -/
def closed (reason : String) : CallFailure := .transport (.closed reason)

def message : CallFailure → String
  | .transport failure => failure.message
  | .remote code message _ => s!"generator returned error {code}: {message}"
  | .timeout id millis => s!"request {id} timed out after {millis}ms"
  | .invalidState message => "invalid request state: " ++ message
  | .codec message => "JSON codec error: " ++ message
  | .cancelled id => s!"request {id} was cancelled"

/-- Whether the call failed because the transport closed. -/
def isClosed : CallFailure → Bool
  | .transport (.closed _) => true
  | _ => false

/-- The code of the peer's error. -/
def remoteCode? : CallFailure → Option Int
  | .remote code _ _ => some code
  | _ => none

def describe : CallFailure → String
  | .transport failure => "Transport(" ++ failure.describe ++ ")"
  | .remote code message data =>
    let shown := match data with
      | none => "None"
      | some v => "Some(" ++ describeValue v ++ ")"
    s!"Remote \x7b code: {code}, message: " ++ Quoted.quote message ++
      ", data: " ++ shown ++ " \x7d"
  | .timeout id millis => s!"RequestTimeout \x7b id: {id}, timeout_ms: {millis} \x7d"
  | .invalidState message => "InvalidRequestState \x7b message: " ++ Quoted.quote message ++ " \x7d"
  | .codec message => "Codec \x7b message: " ++ Quoted.quote message ++ " \x7d"
  | .cancelled id => s!"Cancelled \x7b id: {id} \x7d"

end CallFailure

end Switchboard
