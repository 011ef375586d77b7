import Switchboard.Content.Writer
import Switchboard.Text.Quoted
import Switchboard.Trace

/-!
# Factories and their registry

A factory announces a content type and opens writers for types it is asked for. A registry holds
factories under the keys of their announced types. A look-up tries the stripped type first and then
the normalised one, so a registration for a vendor's own type beats the one for its suffix.
-/

namespace Switchboard.Content

structure Factory where
  /-- The announced type. -/
  contentType : String
  /-- A fresh writer for a requested type. -/
  openWriter : String → Except Error Writer

namespace Factory

/-- The factory of one form: it serves its own type up to the case of letters. -/
def ofForm (form : Form) : Factory where
  contentType := form.contentType
  openWriter requested := do
    let () ← MediaType.require form.contentType requested
    .ok (.ofForm form)

/-- A factory that announces another type for a form. A strict one compares the requested type
exactly; another opens a writer for every type. -/
def custom (announced : String) (form : Form) (strict : Bool) : Factory where
  contentType := announced
  openWriter requested :=
    if strict ∧ requested ≠ announced then .error (.mismatch announced requested)
    else .ok (.ofForm form)

end Factory

/-- Factories by key, in ascending order of the keys, and the type announced as preferred. -/
structure Registry where
  factories : List (String × Factory)
  preferred : String

namespace Registry

def empty : Registry := { factories := [], preferred := jsonType }

/-- The factories with one put under a key, in place of the one that was there. -/
def insertFactory : List (String × Factory) → String → Factory → List (String × Factory)
  | [], key, f => [(key, f)]
  | (k, g) :: rest, key, f =>
    if k = key then (k, f) :: rest
    else if key < k then (key, f) :: (k, g) :: rest
    else (k, g) :: insertFactory rest key f

/-- The registry with a factory under the key of its announced type. -/
def add (r : Registry) (f : Factory) : Registry :=
  { r with factories := insertFactory r.factories (MediaType.announcedKey f.contentType) f }

/-- What is traced when a factory is registered. -/
def addEvent (f : Factory) : Event :=
  { level := .debug
    target := "kiota_serialization::registry"
    message := "registering serialization writer factory"
    fields := [("content_type", .shown (MediaType.announcedKey f.contentType))] }

/-- The key and factory that serve a content type. -/
def resolve (r : Registry) (contentType : String) : Except Error (String × Factory) := do
  let base := String.ofList (MediaType.stripped contentType.toList)
  if base = "" then .error .emptyType
  else match r.factories.lookup base with
    | some f => .ok (base, f)
    | none =>
      let key ← MediaType.normalise contentType
      match r.factories.lookup key with
      | some f => .ok (key, f)
      | none => .error (.unsupportedType key)

def supports (r : Registry) (contentType : String) : Bool := (r.resolve contentType).isOk

/-- The keys, in ascending order. -/
def contentTypes (r : Registry) : List String := r.factories.map Prod.fst

def openWriter (r : Registry) (contentType : String) : Except Error Writer := do
  let (key, f) ← r.resolve contentType
  f.openWriter key

/-- A registry is a factory that announces its preferred type. -/
def toFactory (r : Registry) : Factory :=
  { contentType := r.preferred, openWriter := r.openWriter }

/-- The registry as reports show it. -/
def describe (r : Registry) : String :=
  let types := r.contentTypes.map Text.Quoted.quote
  "SerializationWriterFactoryRegistry \x7b content_types: [" ++ String.intercalate ", " types ++
    "], default_content_type: " ++ Text.Quoted.quote r.preferred ++ " \x7d"

end Registry

end Switchboard.Content
