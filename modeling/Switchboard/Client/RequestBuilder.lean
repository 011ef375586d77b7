import Switchboard.Client.Handle
import Switchboard.Content.Registry

/-!
# Building requests

A builder collects the method, the named parameters and the type of the result of one call. A
parameter that cannot be encoded spoils the call only when the builder is executed; a builder can be
executed once.
-/

namespace Switchboard.Client

open Switchboard.Json Switchboard.Number

/-! ### Parameters -/

/-- The key of a record that is given as a parameter. -/
inductive ParamKey where
  | text (key : String)
  | int (key : Int)
  /-- A key that no document can have. -/
  | compound
  deriving DecidableEq, Repr

/-- A value that is given as a parameter. -/
inductive Param where
  | document (value : Value)
  | float (value : Binary64)
  /-- A natural number that may not fit 64 bits. -/
  | natural (value : Nat)
  | record (members : List (ParamKey × Value))
  /-- A value whose encoding fails. -/
  | failing (message : String)
  deriving Repr

def ParamKey.name : ParamKey → Except String String
  | .text s => .ok s
  | .int i => .ok (String.ofList (intChars i))
  | .compound => .error (Fault.message .keyNotString)

/-- The document of a parameter. A double that is not finite becomes null. -/
def Param.encode : Param → Except String Value
  | .document v => .ok v
  | .float x => .ok (if x.isFinite then .number (.float x) else .null)
  | .natural n =>
    if n ≤ maxWord64 then .ok (.number (.int n)) else .error (Fault.message .numberOutOfRange)
  | .record members => do
    let named ← members.mapM fun (k, v) => do
      let name ← k.name
      .ok (name, v)
    .ok (.object (Members.ofList named))
  | .failing message => .error message

/-- The document that a session of writes makes of a structured parameter. -/
def encodeObject (steps : List Content.Write) (factory : Content.Factory) : Except String Value :=
  let content : Except Content.Error String := do
    let writer ← factory.openWriter Content.jsonType
    let writer ← writer.writeAll steps
    writer.content
  match content with
  | .error e => .error e.message
  | .ok text =>
    match Value.parse text with
    | .ok v => .ok v
    | .error e => .error e.message

/-! ### The builder -/

structure RequestBuilder where
  method : Option String
  params : Members
  /-- What is wrong with the first parameter that could not be encoded. -/
  deferred : Option String
  executed : Bool
  deriving Repr, Inhabited

namespace RequestBuilder

def empty : RequestBuilder := { method := none, params := [], deferred := none, executed := false }

def setMethod (b : RequestBuilder) (name : String) : RequestBuilder :=
  { b with method := some name }

/-- A builder whose method is set. -/
def ofMethod (name : String) : RequestBuilder := empty.setMethod name

/-- Puts an encoded value under a key, or takes note of the failure to encode it. -/
def put (b : RequestBuilder) (key : String) : Except String Value → RequestBuilder
  | .ok v => { b with params := b.params.insert key v }
  | .error message =>
    { b with
      deferred := b.deferred.or (some s!"parameter '{key}' could not be encoded: {message}") }

def param (b : RequestBuilder) (key : String) (value : Param) : RequestBuilder :=
  b.put key value.encode

def paramObject (b : RequestBuilder) (key : String) (steps : List Content.Write)
    (factory : Content.Factory) : RequestBuilder :=
  b.put key (encodeObject steps factory)

def alreadyExecuted : CallFailure := .invalidState "request builder was already executed"

def noMethod : CallFailure := .invalidState "no method name was set"

/-- The call of a builder: its method and parameters, if they can be sent. The first try uses up the
method, and a failure of a parameter or the parameters. -/
def finish (b : RequestBuilder) : RequestBuilder × Except CallFailure (String × Value) :=
  if b.executed then (b, .error alreadyExecuted)
  else
    let spent := { b with executed := true, method := none }
    match b.method with
    | none => (spent, .error noMethod)
    | some method =>
      if Text.isBlankText method.toList then (spent, .error noMethod)
      else match b.deferred with
        | some message => ({ spent with deferred := none }, .error (.codec message))
        | none => ({ spent with params := [] }, .ok (method, .object b.params))

/-- Opens the call of a builder on a client. -/
def execute {α σ : Type} [Transport σ] (b : RequestBuilder) (decoder : Decoder α) (s : State σ) :
    RequestBuilder × State σ × Option (Except CallFailure (Handle α)) :=
  match b.finish with
  | (b, .error failure) => (b, s, some (.error failure))
  | (b, .ok (method, params)) =>
    let (s, handle) := s.call method params decoder
    (b, s, handle)

/-- Opens the call of a builder and waits for its result. -/
def call {α σ : Type} [Transport σ] (b : RequestBuilder) (decoder : Decoder α) (s : State σ) :
    RequestBuilder × State σ × Option (Except CallFailure α) :=
  match b.execute decoder s with
  | (b, s, none) => (b, s, none)
  | (b, s, some (.error failure)) => (b, s, some (.error failure))
  | (b, s, some (.ok handle)) =>
    let (s, result) := handle.wait s
    (b, s, result)

/-- The builder as reports show it. -/
def describe (b : RequestBuilder) : String :=
  let method := match b.method with
    | none => "None"
    | some m => "Some(" ++ Text.Quoted.quote m ++ ")"
  "RequestBuilder \x7b method: " ++ method ++ ", params: \x7b" ++
    String.intercalate ", " (describeMembers b.params) ++
    s!"\x7d, executed: {b.executed}, .. \x7d"

end RequestBuilder

end Switchboard.Client
