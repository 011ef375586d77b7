import Switchboard.Client.Call

/-!
# The table of open calls

The table gives out ids in ascending order, each once, and holds the open calls in that order. A
closed table holds none and takes none; it keeps the first reason for which it was closed until it
is reopened.
-/

namespace Switchboard.Client

structure Table where
  nextId : Int
  entries : List Entry
  closed : Option String
  deriving Repr, Inhabited

namespace Table

def empty : Table := { nextId := 1, entries := [], closed := none }

def size (t : Table) : Nat := t.entries.length

/-- The open call with an id. -/
def find? (t : Table) (id : Int) : Option Entry := t.entries.find? (·.id == id)

/-- Opens a call under the next id, or gives the reason why the table is closed. -/
def register (t : Table) (method : String) (createdAt : Nat) (timeout : Option Timespan)
    (callback : Callback) : Except String (Int × Table) :=
  match t.closed with
  | some reason => .error reason
  | none =>
    let e : Entry := { id := t.nextId, method, createdAt, timeout, callback }
    .ok (t.nextId, { t with nextId := t.nextId + 1, entries := t.entries ++ [e] })

/-- The open call with an id and the table without it. -/
def take (t : Table) (id : Int) : Option (Entry × Table) :=
  (t.find? id).map fun e => (e, { t with entries := t.entries.filter (·.id != id) })

/-- The overdue calls at an instant and the table without them. -/
def splitOverdue (t : Table) (now : Nat) : List Entry × Table :=
  (t.entries.filter (·.isOverdue now),
    { t with entries := t.entries.filter (!·.isOverdue now) })

/-- Whether the deadlines of all open calls can be told. -/
def isTimely (t : Table) : Bool := t.entries.all Entry.isTimely

/-- Takes out the overdue calls. It fails at a call whose deadline cannot be told. -/
def takeExpired (t : Table) (now : Nat) : Option (List Entry × Table) :=
  if t.isTimely then some (t.splitOverdue now) else none

/-- All open calls and the closed table. -/
def close (t : Table) (reason : String) : List Entry × Table :=
  (t.entries, { t with entries := [], closed := t.closed.or (some reason) })

def reopen (t : Table) : Table := { t with closed := none }

end Table

end Switchboard.Client
