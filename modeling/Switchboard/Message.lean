import Switchboard.Json.Decoder

/-!
# Messages

Requests go out as one line each. Every line that comes in is one document, which `Message.parse`
sorts into a response to a call, a request of the peer or a notification; everything else is refused
with the first reason in a fixed order.
-/

namespace Switchboard

open Switchboard.Json

def protocolVersion : String := "2.0"

/-! ### Requests -/

/-- A call as it is sent. -/
structure Request where
  id : Int
  method : String
  params : Value
  deriving Repr

namespace Request

/-- The members in the order in which they are written. -/
def document (r : Request) : Value :=
  .object [("jsonrpc", .string protocolVersion), ("id", .number (.int r.id)),
    ("method", .string r.method), ("params", r.params)]

/-- The line of a request, without its line break. -/
def line (r : Request) : String := r.document.render

end Request

/-! ### Error objects -/

/-- What a peer says about a call that failed there. -/
structure ErrorObject where
  code : Int
  message : String
  data : Option Value
  deriving Repr, Inhabited

namespace ErrorObject

def document (e : ErrorObject) : Value :=
  .object ([("code", .number (.int e.code)), ("message", .string e.message)] ++
    match e.data with
    | some v => [("data", v)]
    | none => [])

/-- Code and message have to be there; data may be missing, and null is the same as missing. -/
def decoder : Decoder ErrorObject :=
  .record "struct JsonRpcError"
    [.needed "code" .int64 fun code e => { e with code },
     .needed "message" .string fun message e => { e with message },
     .optional "data" (.option .value) fun data e => { e with data }]
    { code := 0, message := "", data := none }

end ErrorObject

/-! ### Incoming lines -/

/-- What a response carries: the result of the call, or the peer's error. -/
inductive Payload where
  | result (value : Value)
  | error (object : ErrorObject)
  deriving Repr

inductive Message where
  | response (id : Option Int) (payload : Payload)
  | request (id : Value) (method : String)
  | notification (method : String) (params : Option Value)
  deriving Repr

/-- Why a line is no message. -/
inductive MessageFault where
  | invalidJson (error : Json.Error)
  | notObject
  | unsupportedVersion (version : Option Value)
  | invalidMethod
  | unclassifiable
  | invalidId (id : Value)
  | ambiguousPayload
  | missingPayload
  | invalidError (fault : Fault)
  deriving Repr

/-- A version as a report shows it. -/
def describeVersion : Option Value → String
  | none => "None"
  | some v => "Some(" ++ Text.Quoted.quote v.render ++ ")"

def MessageFault.message : MessageFault → String
  | .invalidJson error => "invalid JSON: " ++ error.message
  | .notObject => "message is not a JSON object"
  | .unsupportedVersion v => "unsupported protocol version: " ++ describeVersion v
  | .invalidMethod => "method must be a string"
  | .unclassifiable => "message has neither method nor id"
  | .invalidId id => "response id must be an integer or null, got " ++ id.render
  | .ambiguousPayload => "response carries both result and error"
  | .missingPayload => "response carries neither result nor error"
  | .invalidError fault => "invalid error object: " ++ fault.message

namespace Message

/-- The document a line holds, if it is a record of the supported version. -/
def checkVersion (ms : Members) : Except MessageFault Unit :=
  match ms.get? "jsonrpc" with
  | some (.string v) =>
    if v = protocolVersion then .ok () else .error (.unsupportedVersion (some (.string v)))
  | other => .error (.unsupportedVersion other)

/-- The id of a response: null, or an integer with a sign that fits 64 bits. -/
def responseId : Value → Except MessageFault (Option Int)
  | .null => .ok none
  | .number (.int i) =>
    if fitsInt64 i then .ok (some i) else .error (.invalidId (.number (.int i)))
  | id => .error (.invalidId id)

/-- The payload of a response: exactly one of the two. -/
def payload : (result error : Option Value) → Except MessageFault Payload
  | some v, none => .ok (.result v)
  | none, some v =>
    match ErrorObject.decoder.ofValue v with
    | .ok e => .ok (.error e)
    | .error fault => .error (.invalidError fault)
  | some _, some _ => .error .ambiguousPayload
  | none, none => .error .missingPayload

/-- What a record with the right version is. -/
def ofMembers (ms : Members) : Except MessageFault Message :=
  match ms.get? "method" with
  | some (.string method) =>
    match ms.get? "id" with
    | some id => .ok (.request id method)
    | none => .ok (.notification method (ms.get? "params"))
  | some _ => .error .invalidMethod
  | none =>
    match ms.get? "id" with
    | none => .error .unclassifiable
    | some id => do
      let id ← responseId id
      let payload ← payload (ms.get? "result") (ms.get? "error")
      .ok (.response id payload)

/-- The message a document is. -/
def ofValue : Value → Except MessageFault Message
  | .object ms => do
    let () ← checkVersion ms
    ofMembers ms
  | _ => .error .notObject

/-- The message a line holds. -/
def parse (line : String) : Except MessageFault Message :=
  match Value.parse line with
  | .ok v => ofValue v
  | .error e => .error (.invalidJson e)

end Message

end Switchboard
