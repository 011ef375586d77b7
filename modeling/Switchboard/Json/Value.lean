import Switchboard.Number.Binary64

/-!
# Documents

A document is null, a Boolean, a number, a text, a list or a record of members. A record is the list
of its members in the order in which they are written. A record that was read, or built member by
member with `insert`, has its names in ascending order and each once.
-/

namespace Switchboard.Json

open Switchboard.Number

/-- A number of a document: an integer that fits 64 bits, signed or not, or a finite double. -/
inductive Number where
  | int (value : Int)
  | float (value : Binary64)
  deriving DecidableEq, Repr, Inhabited

inductive Value where
  | null
  | bool (value : Bool)
  | number (value : Number)
  | string (value : String)
  | array (items : List Value)
  | object (members : List (String × Value))
  deriving Repr, Inhabited

/-- The members of a record. -/
abbrev Members := List (String × Value)

namespace Members

/-- The value under a name. -/
def get? : Members → String → Option Value
  | [], _ => none
  | (k, v) :: rest, name => if k = name then some v else get? rest name

def contains (ms : Members) (name : String) : Bool := (ms.get? name).isSome

/-- The members with a value put under a name: the place is that of the name in ascending order,
and a value that was there is replaced. -/
def insert : Members → String → Value → Members
  | [], name, v => [(name, v)]
  | (k, w) :: rest, name, v =>
    if k = name then (k, v) :: rest
    else if name < k then (name, v) :: (k, w) :: rest
    else (k, w) :: insert rest name v

/-- The record with the given members, the last of one name winning. -/
def ofList (ms : List (String × Value)) : Members :=
  ms.foldl (fun acc (k, v) => acc.insert k v) []

end Members

namespace Value

/-- The integer a value is, if it is one. -/
def int? : Value → Option Int
  | .number (.int i) => some i
  | _ => none

def string? : Value → Option String
  | .string s => some s
  | _ => none

end Value

/-- The least and greatest integers of 64 bits with a sign. -/
def minInt64 : Int := -9223372036854775808
def maxInt64 : Int := 9223372036854775807

/-- The greatest integer of 64 bits without a sign. -/
def maxWord64 : Nat := 18446744073709551615

def fitsInt64 (i : Int) : Bool := minInt64 ≤ i && i ≤ maxInt64

end Switchboard.Json
