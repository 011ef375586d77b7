import Switchboard.Content.Writer

/-!
# Sessions

A session is what a caller does with a document writer: it writes, and it may look at the content in
between. The caller goes on after a failure, with the writer that it left. An object is written by a
session of its own on a fresh writer, which stops at its first failure. A writer of either form is
written to in the same way.
-/

namespace Switchboard.Content

/-- What is done with a writer. -/
inductive Act where
  | value (key : Option String) (datum : Datum)
  | object (key : Option String) (acts : List Act)
  /-- The failure of an object that cannot be written. -/
  | fail (error : Error)
  /-- Asks for the content so far. -/
  | look
  deriving Repr, Inhabited

/-- What an act answers that does not fail. -/
inductive Reply where
  | written
  | content (text : String)
  deriving DecidableEq, Repr, Inhabited

namespace DocumentWriter

mutual

/-- Does one act. The writer that is left comes with what is answered, also if that is a failure. -/
def perform (w : DocumentWriter) : Act → DocumentWriter × Except Error Reply
  | .value key datum =>
    match encode datum with
    | .ok v => (w.put key v, .ok .written)
    | .error error => (w, .error error)
  | .object key acts =>
    match performAll empty acts with
    | (nested, .ok ()) => (w.put key nested.document, .ok .written)
    | (_, .error error) => (w, .error error)
  | .fail error => (w, .error error)
  | .look => (w, .ok (.content w.content))

/-- The session of an object, up to its first failure. -/
def performAll (w : DocumentWriter) : List Act → DocumentWriter × Except Error Unit
  | [] => (w, .ok ())
  | act :: acts =>
    match perform w act with
    | (next, .ok _) => performAll next acts
    | (next, .error error) => (next, .error error)

end

/-- The session of a caller that goes on after failures: the writer that is left, and what each act
answered. -/
def session (w : DocumentWriter) : List Act → DocumentWriter × List (Except Error Reply)
  | [] => (w, [])
  | act :: acts =>
    let (next, reply) := w.perform act
    let (last, replies) := session next acts
    (last, reply :: replies)

end DocumentWriter

namespace Writer

/-- A write of a caller that goes on after failures, with the writer as it was. -/
def attempt (w : Writer) (step : Write) : Writer :=
  match w.write step with
  | .ok next => next
  | .error _ => w

/-- The writes of such a caller. -/
def attempts (w : Writer) (steps : List Write) : Writer := steps.foldl attempt w

end Writer

mutual

/-- The write that an act is, if it is one; the looks within an object are left out. -/
def Act.write? : Act → Option Write
  | .value key datum => some (.value key datum)
  | .object key acts => some (.object key (Act.writes acts))
  | .fail error => some (.fail error)
  | .look => none

/-- The writes of a session. -/
def Act.writes : List Act → List Write
  | [] => []
  | act :: acts => act.write?.toList ++ Act.writes acts

end

end Switchboard.Content
