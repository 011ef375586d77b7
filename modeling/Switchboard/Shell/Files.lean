import Switchboard.Shell.World

/-!
# Files

Where paths lead that are opened: to devices, to the descriptors of the thread, and to the files
that the script itself has made. Of the files that are always there, nothing is known but that they
are.
-/

namespace Switchboard.Shell

/-- The input from which nothing comes. -/
def emptyFlow : Nat := 1

def newFlow (flow : Flow) : Run Nat := do
  let w ← getWorld
  changeWorld fun w => { w with flows := w.flows ++ [flow] }
  return w.flows.length

/-- An input that holds a text. -/
def textChannel (isFile : Bool) (text : Chars) : Run Channel := do
  return .input (← newFlow { pieces := [(0, text)], ended := some 0, wake := none, isFile })

def newSink : Run Nat := do
  let w ← getWorld
  changeWorld fun w => { w with sinks := w.sinks + 1 }
  return w.sinks

/-- Takes away what was written to a sink. -/
def takeCollected (sink : Nat) : Run (List (Nat × Chars)) := do
  let w ← getWorld
  changeWorld fun w => { w with written := w.written.filter (·.sink != sink) }
  return w.collected sink

/-- What a file holds by now. -/
def World.fileText (w : World) (sink : Nat) : Chars :=
  ((w.collected sink).filter fun e => decide (e.1 ≤ w.clock)).flatMap Prod.snd

/-- What the script has made at a path. -/
def World.madeAt? (w : World) (path : String) : Option Made :=
  (w.made.find? (·.path = path)).filter fun m => !m.isGone

/-- The paths of descriptors. -/
def descriptorPaths : List (String × Nat) :=
  [("/dev/stdin", 0), ("/dev/stdout", 1), ("/dev/stderr", 2), ("/dev/fd/0", 0), ("/dev/fd/1", 1),
   ("/dev/fd/2", 2)]

/-- How many zeros are read at most from the device that has nothing else. -/
def zerosBound : Nat := 100000

/-- Where a path leads that is opened to be read, or why it leads nowhere. -/
def openReading (path : Chars) : Run (Except String Channel) := do
  let (place, location) ← find path
  let t ← getThread
  match descriptorPaths.lookup place with
  | some fd =>
    match t.channels.lookup fd with
    | some (.input flow) => return .ok (.input flow)
    | _ => return .ok (.input emptyFlow)
  | none =>
    match location with
    | .device =>
      if place = "/dev/tty" then return .error "No such device or address"
      else if place = "/dev/null" then return .ok (.input emptyFlow)
      else return .ok (← textChannel true (List.replicate zerosBound '\x00'))
    | .file =>
      let w ← getWorld
      match (w.madeAt? place).bind Made.sink with
      | some sink => return .ok (← textChannel true (w.fileText sink))
      | none => return .ok (.input emptyFlow)
    | location => return if location.isThere then .ok (.input emptyFlow) else .error "No such file"

/-- The directory that has to be there so that something can be made at a path, and its name in it.
-/
def parentOf (path : Chars) : Chars × Chars :=
  let back := path.reverse
  let name := (back.takeWhile (· ≠ '/')).reverse
  let parent := (back.dropWhile (· ≠ '/')).reverse
  (if parent.isEmpty then ['.'] else parent, name)

/-- Makes a directory or a file at a path where nothing is; `false` says that this cannot be. -/
def make (path : Chars) (sink : Option Nat) : Run Bool := do
  let (parent, name) := parentOf path
  match ← find parent with
  | (place, .directory) =>
    let full := (if place = "/" then "" else place) ++ "/" ++ String.ofList name
    if name.isEmpty then return false
    changeWorld fun w => { w with made := { path := full, since := w.clock, sink } :: w.made }
    return true
  | _ => return false

/-- Takes away what is at a path, be it that the script has made it or that it was there before. -/
def unmake (place : String) : Run Unit := do
  changeWorld fun w =>
    let others := w.made.filter (·.path != place)
    let gone : Made := { path := place, since := w.clock, sink := none, isGone := true }
    { w with made := if (Location.ofPlain [] place).isThere then gone :: others else others }

/-- How a file is opened that is written. -/
inductive WriteMode where
  /-- It is emptied; `forced` says that it may be there already in any case. -/
  | replace (forced : Bool)
  | append
  deriving DecidableEq, Repr

/-- Where a path leads that is opened to be written, or why it leads nowhere. -/
def openWriting (mode : WriteMode) (path : Chars) : Run (Except String Channel) := do
  let (place, location) ← find path
  let t ← getThread
  match descriptorPaths.lookup place with
  | some fd => return .ok ((t.channels.lookup fd).getD .closed)
  | none =>
    match location with
    | .device =>
      if place = "/dev/tty" then return .error "No such device or address"
      else if place = "/dev/full" then return .ok .closed
      else return .ok (.output nullSink)
    | .directory => return .error "Is a directory"
    | .missing =>
      let sink ← newSink
      if ← make path (some sink) then return .ok (.output sink)
      else return .error "Directory nonexistent"
    | location =>
      if !location.isThere then return .error "Directory nonexistent"
      else if mode = .replace false && t.options.contains 'C' then return .error "File exists"
      else
        match ((← getWorld).madeAt? place).bind Made.sink with
        | some sink =>
          if mode != .append then
            let _ ← takeCollected sink
          return .ok (.output sink)
        | none => return .ok (.output nullSink)

end Switchboard.Shell
