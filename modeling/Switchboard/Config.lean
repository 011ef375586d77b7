import Switchboard.Json.Decoder
import Switchboard.Timespan
import Switchboard.Text.Blank
import Switchboard.Text.Path

/-!
# Configuration of the generator process

Which program is started, how long it is given, what happens to its error output and whether a call
may restart it. `ProcessConfig.document` and `ProcessConfig.decoder` are the two directions of its
document, in which spans are whole milliseconds and missing members have their defaults.
-/

namespace Switchboard

open Switchboard.Json

/-! ### Choices -/

/-- A type whose values are named choices. -/
class Choice (α : Type) where
  /-- All values with their names, the ones shown in messages in this order. -/
  all : List (String × α)
  name : α → String

namespace Choice

/-- The value with a name, whatever the case of its letters. -/
def parse? {α : Type} [Choice α] (text : String) : Option α :=
  ((all : List (String × α)).find? fun (n, _) => Text.sameFolded n.toList text.toList).map Prod.snd

/-- What is said of a text that names no value. -/
def parseError : String := "Matching variant not found"

/-- Reads a name in its exact spelling. -/
def decoder {α : Type} [Choice α] : Decoder α := .choice all

def document {α : Type} [Choice α] (a : α) : Value := .string (name a)

end Choice

/-- What becomes of the process's error output. -/
inductive StderrPolicy where
  | log
  | discard
  | inherit
  deriving DecidableEq, Repr, Inhabited

instance : Choice StderrPolicy where
  all := [("log", .log), ("discard", .discard), ("inherit", .inherit)]
  name
    | .log => "log"
    | .discard => "discard"
    | .inherit => "inherit"

/-- Whether a call may replace a process that ended. -/
inductive RestartPolicy where
  | manual
  | onDemand
  deriving DecidableEq, Repr, Inhabited

instance : Choice RestartPolicy where
  all := [("manual", .manual), ("on_demand", .onDemand)]
  name
    | .manual => "manual"
    | .onDemand => "on_demand"

def RestartPolicy.describe : RestartPolicy → String
  | .manual => "Manual"
  | .onDemand => "OnDemand"

/-! ### The process -/

structure ProcessConfig where
  executable : String
  args : List String
  workingDir : Option String
  requestTimeout : Option Timespan
  shutdownGrace : Timespan
  stderr : StderrPolicy
  restart : RestartPolicy
  maxLineBytes : Nat
  deriving DecidableEq, Repr

namespace ProcessConfig

def default : ProcessConfig where
  executable := "kiota"
  args := ["rpc"]
  workingDir := none
  requestTimeout := none
  shutdownGrace := .ofMillis 200
  stderr := .log
  restart := .manual
  maxLineBytes := 64 * 1024 * 1024

instance : Inhabited ProcessConfig := ⟨default⟩

/-- A program with its arguments and otherwise the defaults. -/
def new (executable : String) (args : List String) : ProcessConfig :=
  { default with executable, args }

/-- Whether two configurations are the same, however their paths are written. -/
def same (c d : ProcessConfig) : Bool :=
  Text.Path.same c.executable d.executable &&
    (match c.workingDir, d.workingDir with
      | some p, some q => Text.Path.same p q
      | p, q => p == q) &&
    { c with executable := d.executable, workingDir := d.workingDir } == d

/-- Program and arguments with blanks between them. -/
def commandLine (c : ProcessConfig) : String := String.intercalate " " (c.executable :: c.args)

def millisDocument (t : Timespan) : Value := .number (.int t.cappedMillis)

/-- The members in the order in which they are written. -/
def document (c : ProcessConfig) : Value :=
  .object
    [("executable", .string c.executable),
     ("args", .array (c.args.map .string)),
     ("working_dir", (c.workingDir.map Value.string).getD .null),
     ("request_timeout_ms", (c.requestTimeout.map millisDocument).getD .null),
     ("shutdown_grace_ms", millisDocument c.shutdownGrace),
     ("stderr", Choice.document c.stderr),
     ("restart", Choice.document c.restart),
     ("max_line_bytes", .number (.int c.maxLineBytes))]

def millisDecoder : Decoder Timespan := (Decoder.word maxWord64 "u64").map .ofMillis

/-- Each member may be missing and then has its default. -/
def fields : List (Json.Field ProcessConfig) :=
  [.optional "executable" (.text "path string") fun v c => { c with executable := v },
   .optional "args" (.list .string) fun v c => { c with args := v },
   .optional "working_dir" (.option (.text "path string")) fun v c => { c with workingDir := v },
   .optional "request_timeout_ms" (.option millisDecoder) fun v c => { c with requestTimeout := v },
   .optional "shutdown_grace_ms" millisDecoder fun v c => { c with shutdownGrace := v },
   .optional "stderr" Choice.decoder fun v c => { c with stderr := v },
   .optional "restart" Choice.decoder fun v c => { c with restart := v },
   .optional "max_line_bytes" (.word maxWord64 "usize") fun v c => { c with maxLineBytes := v }]

def decoder : Decoder ProcessConfig := .record "struct ProcessConfig" fields default

end ProcessConfig

/-- What a client needs to know of the configuration. -/
structure ClientOptions where
  requestTimeout : Option Timespan
  restart : RestartPolicy
  deriving DecidableEq, Repr, Inhabited

namespace ClientOptions

def default : ClientOptions := { requestTimeout := none, restart := .manual }

def ofConfig (c : ProcessConfig) : ClientOptions :=
  { requestTimeout := c.requestTimeout, restart := c.restart }

def describe (o : ClientOptions) : String :=
  let timeout := match o.requestTimeout with
    | none => "None"
    | some t => "Some(" ++ t.describe ++ ")"
  "ClientOptions \x7b request_timeout: " ++ timeout ++
    ", restart: " ++ o.restart.describe ++ " \x7d"

end ClientOptions

end Switchboard
