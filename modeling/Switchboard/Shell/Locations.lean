import Switchboard.Shell.Layout
import Switchboard.Shell.Syntax

/-!
# Locations

What is there, be it that every system of this kind has it or that a script has added it, and how
paths name it. A path is a text whose characters stand for bytes.
-/

namespace Switchboard.Shell

/-- What a path leads to. -/
inductive Location where
  | directory
  /-- A file that cannot be run. -/
  | file
  | device
  | program (name : String)
  | missing
  /-- The path goes through something that is no directory. -/
  | blocked
  /-- The path, or a name in it, is longer than any can be. -/
  | overlong
  deriving DecidableEq, Repr

/-- What was made besides what is there from the start, or taken away of it, by its path. -/
abbrev Tree := List (String × Location)

namespace Location

/-- Whether something is there. -/
def isThere : Location → Bool
  | .missing => false
  | .blocked => false
  | .overlong => false
  | _ => true

/-- How long a name can be. -/
def maxName : Nat := 255

/-- How long a path can be. -/
def maxPath : Nat := 4095

/-- One step down from a place: where the path leads, its links followed. -/
def descend (here name : String) : String :=
  if name = "" || name = "." then here
  else if name = ".." then
    let kept := (here.splitOn "/").dropLast
    "/".intercalate kept
  else
    let path := here ++ "/" ++ name
    (Layout.links.lookup path).getD path

variable (tree : Tree)

/-- What a path without links and detours leads to. -/
def ofPlain (path : String) : Location :=
  match tree.lookup path with
  | some location => location
  | none =>
    if Layout.directories.contains path then .directory
    else if Layout.files.contains path then .file
    else if Layout.devices.contains path then .device
    else match Layout.programNames.find? fun p => Layout.programDirectory ++ "/" ++ p = path with
      | some p => .program p
      | none => .missing

/-- Follows the steps of a path. -/
def follow (here : String) : List String → String × Location
  | [] => (here, ofPlain tree here)
  | name :: rest =>
    match ofPlain tree here with
    | .directory =>
      if maxName < name.length then (here, .overlong) else follow (descend here name) rest
    | .missing => (here, .missing)
    | _ => (here, .blocked)

/-- What a path leads to from a directory, with the path that names it. -/
def find (here path : String) : String × Location :=
  if path = "" then ("", .missing)
  else if maxPath < path.length then ("", .overlong)
  else
    let (found, place) :=
      if path.startsWith "/" then follow tree "" (path.splitOn "/")
      else follow tree "" (here.splitOn "/" ++ path.splitOn "/")
    (if found = "" then "/" else found, place)

/-- What the name of a command leads to: a path if it has a slash in it, otherwise a program, or
whatever has that name in a directory that is searched. -/
def ofCommand (searched : List String) (here name : String) : Location :=
  if name.contains '/' then (find tree here name).2
  else if name = "" then .missing
  else
    let places := searched.map fun d => (find tree here (d ++ "/" ++ name)).2
    match places.find? fun p => p.isThere && p ≠ .directory with
    | some p => p
    | none =>
      if places.contains .directory then .directory
      else if places.contains .overlong then .overlong else .missing

end Location

end Switchboard.Shell
