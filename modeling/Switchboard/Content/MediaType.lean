import Switchboard.Text.Blank

/-!
# Content types

A content type is looked up by a key: its parameters and the blanks around it are dropped, its Latin
letters are made small, and a subtype that ends in `+suffix` is replaced by the suffix.
-/

namespace Switchboard.Content

open Switchboard.Text

/-- What can go wrong between a content type and its written form. -/
inductive Error where
  | emptyType
  | unsupportedType (contentType : String)
  | mismatch (expected actual : String)
  | unsupportedValue (contentType message : String)
  deriving DecidableEq, Repr

def Error.message : Error → String
  | .emptyType => "content type must not be empty"
  | .unsupportedType t => "content type '" ++ t ++ "' does not have a registered writer factory"
  | .mismatch expected actual =>
    "expected a " ++ expected ++ " content type, got '" ++ actual ++ "'"
  | .unsupportedValue t message => t ++ " writer cannot serialise " ++ message

namespace MediaType

/-- The type without parameters and surrounding blanks, in small letters. -/
def stripped (cs : List Char) : List Char := lower (trim (cs.takeWhile (· != ';')))

/-- The text after the last plus sign, if there is one. -/
def suffix? (cs : List Char) : Option (List Char) :=
  if '+' ∈ cs then some (cs.reverse.takeWhile (· != '+')).reverse else none

/-- A stripped type with its subtype reduced to a nonempty suffix. -/
def reduced (base : List Char) : List Char :=
  match base.dropWhile (· != '/') with
  | [] => base
  | _ :: subtype =>
    match suffix? subtype with
    | some (c :: cs) => base.takeWhile (· != '/') ++ '/' :: c :: cs
    | _ => base

/-- The key under which a content type is looked up. -/
def normalise (contentType : String) : Except Error String :=
  match stripped contentType.toList with
  | [] => .error .emptyType
  | base => .ok (String.ofList (reduced base))

/-- The key of an announced type: only its letters are folded. -/
def announcedKey (contentType : String) : String := String.ofList (lower contentType.toList)

/-- Whether a requested type is the given one, up to the case of letters. -/
def require (expected requested : String) : Except Error Unit :=
  if isBlankText requested.toList then .error .emptyType
  else if sameFolded requested.toList expected.toList then .ok ()
  else .error (.mismatch expected requested)

end MediaType

end Switchboard.Content
