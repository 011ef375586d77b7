import Switchboard.Content.MediaType
import Switchboard.Json.Printer

/-!
# Writers

A writer turns a session of writes into content. The document writer collects keyed writes in a
record; a write without a key replaces the whole document. The text writer takes one scalar without
a key. A write that fails leaves its writer as it was.
-/

namespace Switchboard.Content

open Switchboard.Number Switchboard.Json

/-- A value that is written in one piece. -/
inductive Datum where
  | string (value : String)
  | bool (value : Bool)
  | int (value : Int)
  | float (value : Binary64)
  | null
  | strings (values : List String)
  deriving Repr

/-- One write of a session. An object is itself a session, and one that stops at its first failure;
`fail` is the failure of an object that cannot be written. -/
inductive Write where
  | value (key : Option String) (datum : Datum)
  | object (key : Option String) (steps : List Write)
  | fail (error : Error)
  deriving Repr, Inhabited

def jsonType : String := "application/json"
def textType : String := "text/plain"

/-! ### Documents -/

/-- A document being written: the keyed values, and the value that replaces them all. -/
structure DocumentWriter where
  members : Members
  root : Option Value
  deriving Repr, Inhabited

namespace DocumentWriter

def empty : DocumentWriter := { members := [], root := none }

/-- The document as it stands. -/
def document (w : DocumentWriter) : Value := w.root.getD (.object w.members)

def put (w : DocumentWriter) (key : Option String) (v : Value) : DocumentWriter :=
  match key with
  | some name => { w with members := w.members.insert name v }
  | none => { w with root := some v }

/-- The value of a datum. A document has no number that is not finite. -/
def encode : Datum → Except Error Value
  | .string s => .ok (.string s)
  | .bool b => .ok (.bool b)
  | .int i => .ok (.number (.int i))
  | .float x =>
    if x.isFinite then .ok (.number (.float x))
    else .error (.unsupportedValue jsonType ("non-finite number " ++ Layout.plain.render x))
  | .null => .ok .null
  | .strings values => .ok (.array (values.map .string))

mutual

def write (w : DocumentWriter) : Write → Except Error DocumentWriter
  | .value key datum => do
    let v ← encode datum
    .ok (w.put key v)
  | .object key steps => do
    let nested ← writeAll empty steps
    .ok (w.put key nested.document)
  | .fail error => .error error

/-- The session of an object, up to its first failure. -/
def writeAll (w : DocumentWriter) : List Write → Except Error DocumentWriter
  | [] => .ok w
  | step :: steps => do
    let w ← write w step
    writeAll w steps

end

/-- The text of the document as it stands. The writer goes on, so the parts are looked at where they
are. -/
def content (w : DocumentWriter) : String :=
  let document := match w.root with
    | some v => v
    | none => .object w.members
  document.render

theorem content_eq_render (w : DocumentWriter) : w.content = w.document.render := by
  obtain ⟨members, root⟩ := w
  cases root <;> rfl

end DocumentWriter

/-! ### Plain text -/

/-- A text being written: at most one value. -/
structure TextWriter where
  value : Option String
  deriving Repr, Inhabited

namespace TextWriter

def empty : TextWriter := { value := none }

def unsupported {α : Type} (message : String) : Except Error α :=
  .error (.unsupportedValue textType message)

def put (w : TextWriter) (key : Option String) (text : String) : Except Error TextWriter :=
  match key, w.value with
  | some name, _ => unsupported ("keyed value '" ++ name ++ "'")
  | none, some _ => unsupported "more than one value"
  | none, none => .ok { value := some text }

def write (w : TextWriter) : Write → Except Error TextWriter
  | .value key (.string s) => w.put key s
  | .value key (.bool b) => w.put key (toString b)
  | .value key (.int i) => w.put key (String.ofList (intChars i))
  | .value key (.float x) => w.put key (Layout.plain.render x)
  | .value key .null => w.put key "null"
  | .value _ (.strings _) => unsupported "collections"
  | .object _ _ => unsupported "objects"
  | .fail error => .error error

def content (w : TextWriter) : Except Error String :=
  match w.value with
  | some s => .ok s
  | none => unsupported "an empty payload"

end TextWriter

/-! ### Either -/

/-- The two forms of content. -/
inductive Form where
  | json
  | text
  deriving DecidableEq, Repr

def Form.contentType : Form → String
  | .json => jsonType
  | .text => textType

inductive Writer where
  | json (writer : DocumentWriter)
  | text (writer : TextWriter)
  deriving Repr, Inhabited

namespace Writer

def ofForm : Form → Writer
  | .json => .json .empty
  | .text => .text .empty

def write (w : Writer) (step : Write) : Except Error Writer :=
  match w with
  | .json d => .json <$> d.write step
  | .text t => .text <$> t.write step

/-- The content as it stands; asking for it changes nothing. -/
def content : Writer → Except Error String
  | .json d => .ok d.content
  | .text t => t.content

/-- The session of an object on the writer, up to its first failure. -/
def writeAll (w : Writer) (steps : List Write) : Except Error Writer := steps.foldlM write w

end Writer

end Switchboard.Content
