import Switchboard.Shell.Sorting

/-!
# What is made, moved and taken away

The programs on paths: those that take paths apart, those that show what is there, and those that
make files and directories, copy them, give them another name and take them away.
-/

namespace Switchboard.Shell

/-! ### Parts of paths -/

/-- A path without the slashes at its end. -/
def withoutSlashes (path : Chars) : Chars :=
  match (path.reverse.dropWhile (· = '/')).reverse with
  | [] => path.take 1
  | kept => kept

/-- The last name in a path. -/
def lastName (path : Chars) : Chars :=
  let kept := withoutSlashes path
  if kept = ['/'] then kept else (parentOf kept).2

def basenameProgram (arguments : List Chars) : Run Unit :=
  withOptions "basename" { plain := ['a', 'z'], valued := ['s'], long :=
    [("multiple", 'a'), ("suffix", 's'), ("zero", 'z')], isLeading := true } 1 arguments fun o => do
    let base (suffix path : Chars) : Chars :=
      let name := lastName path
      if suffix.isSuffixOf name && suffix ≠ name then name.take (name.length - suffix.length)
      else name
    let bases := match o.has 's' || o.has 'a', o.operands with
      | true, paths => paths.map (base ((o.value? 's').getD []))
      | false, [path] => [base [] path]
      | false, [path, suffix] => [base suffix path]
      | false, _ => []
    writeOut (bases.flatMap (· ++ [if o.has 'z' then '\x00' else '\n']))
    setStatus (if bases.isEmpty then 1 else 0)

def dirnameOptions : OptionTable where
  plain := ['z']
  valued := []
  long := [("zero", 'z')]
  isLeading := true

def dirnameProgram (arguments : List Chars) : Run Unit :=
  withOptions "dirname" dirnameOptions 1 arguments fun o => do
    writeOut <| o.operands.flatMap fun path =>
      let parent := (parentOf (withoutSlashes path)).1
      (if withoutSlashes path = ['/'] then ['/'] else withoutSlashes parent) ++
        [if o.has 'z' then '\x00' else '\n']
    setStatus (if o.operands.isEmpty then 1 else 0)

/-! ### What is there -/

/-- Why nothing can be done with what a path leads to. -/
def Location.fault : Location → String
  | .blocked => "Not a directory"
  | .overlong => "File name too long"
  | .directory => "Is a directory"
  | _ => "No such file or directory"

/-- Says that something cannot be done with a path. -/
def cannot (program action : String) (path : Chars) (reason : String) : Run Unit :=
  writeError program
    (action.toList ++ ' ' :: quoted path ++ [':', ' '] ++ reason.toList)

/-- The path in front of the names that are in a directory. -/
def frontOf (place : String) : String := (if place = "/" then "" else place) ++ "/"

/-- The names in a directory, in the order of their bytes. -/
def namesIn (place : String) : Run (List Chars) := do
  let w ← getWorld
  let front := frontOf place
  let known := (Layout.paths ++ w.tree.map Prod.fst).filter fun path =>
    w.tree.lookup path != some .missing
  let names := known.filterMap fun path =>
    let name := path.toList.drop front.length
    if front.isPrefixOf path && !name.isEmpty && !name.contains '/' then some name else none
  return (names.mergeSort comesFirst).eraseDups

/-- Shows the names in directories, and those of what is none. -/
def lsProgram (arguments : List Chars) : Run Unit :=
  withOptions "ls" { plain := "1aAdrUftSqNpF".toList, valued := [], long :=
    [("all", 'a'), ("almost-all", 'A'), ("directory", 'd'), ("reverse", 'r')] } 2 arguments
    fun o => do
    setStatus 0
    let ordered (names : List Chars) : List Chars := if o.has 'r' then names.reverse else names
    let paths := ((if o.operands.isEmpty then [['.']] else o.operands).mergeSort comesFirst)
    let found ← (ordered paths).mapM fun path => return (path, ← find path)
    found.forM fun (path, _, location) => do
      if !location.isThere then
        cannot "ls" "cannot access" path location.fault
        setStatus 2
    let there := found.filter fun (_, _, location) => location.isThere
    let (directories, others) := there.partition fun (_, _, location) =>
      location = .directory && !o.has 'd'
    let mark (location : Location) : Chars :=
      if location = .directory && (o.has 'p' || o.has 'F') then ['/'] else []
    writeOut (joinLines (others.map fun (path, _, location) => path ++ mark location))
    let blocks ← directories.mapM fun (path, place, _) => do
      let names ← namesIn place
      let hidden (name : Chars) : Bool := name.head? = some '.'
      let names := (if o.has 'a' || o.has 'f' then [['.'], ['.', '.']] else []) ++
        names.filter fun name => o.has 'a' || o.has 'A' || o.has 'f' || !hidden name
      let marked ← (ordered names).mapM fun name => do
        return name ++ mark (← locate (path ++ '/' :: name))
      let head := if 1 < found.length then path ++ [':', '\n'] else []
      return head ++ joinLines marked
    let before := if others.isEmpty || blocks.isEmpty then [] else ['\n']
    writeOut (before ++ List.intercalate ['\n'] blocks)

def realpathOptions : OptionTable where
  plain := ['e', 'm', 'f', 'q', 's', 'L', 'P', 'n', 'z']
  valued := []
  long :=
    [("canonicalize", 'f'), ("canonicalize-existing", 'e'), ("canonicalize-missing", 'm')]

/-- Shows where paths lead, their links followed; if it is loud, it says what leads nowhere. -/
def realpathProgram (isLoud : Bool) (arguments : List Chars) : Run Unit :=
  withOptions (if isLoud then "realpath" else "readlink") realpathOptions 1 arguments fun o => do
    setStatus (if o.operands.isEmpty then 1 else 0)
    o.operands.forM fun path => do
      let (parent, name) := parentOf (withoutSlashes path)
      let shown ← match ← find path with
        | (place, location) =>
          if location.isThere then pure (some place)
          else
            match ← find parent with
            | (front, .directory) =>
              let full := frontOf front ++ String.ofList name
              pure (if o.has 'e' || location = .overlong then none else some full)
            | _ => pure (if o.has 'm' then some place else none)
      match shown with
      | some place => writeOut (place.toList ++ ['\n'])
      | none => do
        if isLoud && !o.has 'q' then
          writeError "realpath" (path ++ ": ".toList ++ (← locate parent).fault.toList)
        setStatus 1

/-- Shows where a path leads if that is asked for; a path that is no link leads nowhere else. -/
def readlinkProgram (arguments : List Chars) : Run Unit := do
  let asks (a : Chars) : Bool := a.head? = some '-' && a.any fun c => c = 'f' || c = 'e' || c = 'm'
  if arguments.any asks then realpathProgram false arguments
  else
    let paths := arguments.filter fun a => a.head? ≠ some '-'
    setStatus 1
    paths.forM fun path =>
      match Layout.links.lookup (String.ofList path) with
      | some target => do
        -- The links of the root lead to places below it.
        writeOut (target.toList.drop (if (path.drop 1).contains '/' then 0 else 1) ++ ['\n'])
        setStatus 0
      | none => return ()

/-! ### Making -/

/-- Does something for each path, and leaves a status that says whether it could be done. -/
def forPaths (paths : List Chars) (body : Chars → Run Bool) : Run Unit := do
  let done ← paths.mapM body
  setStatus (if !done.isEmpty && done.all id then 0 else 1)

def touchProgram (arguments : List Chars) : Run Unit :=
  withOptions "touch" { plain := ['a', 'c', 'm', 'h', 'f'], valued := ['d', 'r', 't'], long :=
    [("no-create", 'c'), ("date", 'd'), ("reference", 'r')] } 1 arguments fun o =>
    forPaths o.operands fun path => do
      let location ← locate path
      match location with
      | .missing => do
        if o.has 'c' then return true
        if ← make path (some (← newSink)) then return true
        cannot "touch" "cannot touch" path location.fault
        return false
      | location => do
        if location.isThere then return true
        cannot "touch" "cannot touch" path location.fault
        return false

def mkdirProgram (arguments : List Chars) : Run Unit :=
  let table : OptionTable :=
    { plain := ['p', 'v'], valued := ['m'], long :=
        [("parents", 'p'), ("mode", 'm'), ("verbose", 'v')] }
  withOptions "mkdir" table 1 arguments fun o =>
    forPaths o.operands fun path => do
      let steps := path.splitOn '/'
      let fronts := (List.range steps.length).map fun i =>
        List.intercalate ['/'] (steps.take (i + 1))
      let fronts := (if o.has 'p' then fronts else [withoutSlashes path]).filter fun p => !p.isEmpty
      let made ← fronts.mapM fun front => do
        let shown := if o.has 'p' then front else path
        match ← locate front with
        | .directory => do
          if !o.has 'p' then cannot "mkdir" "cannot create directory" shown "File exists"
          return o.has 'p'
        | .missing => do
          if ← make front none then
            if o.has 'v' then
              writeOut ("mkdir: created directory '".toList ++ shown ++ ['\'', '\n'])
            return true
          cannot "mkdir" "cannot create directory" shown "No such file or directory"
          return false
        | location => do
          cannot "mkdir" "cannot create directory" shown
            (if location.isThere then "File exists" else location.fault)
          return false
      return made.all id

/-- The letters of a name that nothing has yet. -/
def freshLetters (count number : Nat) : Chars :=
  (List.range count).map fun i =>
    Char.ofNat ('a'.toNat + number / Nat.pow 26 (count - 1 - i) % 26)

/-- Makes a file or a directory with a name that nothing has yet. -/
def mktempProgram (arguments : List Chars) : Run Unit :=
  withOptions "mktemp" { plain := ['d', 'u', 'q', 't'], valued := [], attached := ['p'], long :=
    [("directory", 'd'), ("dry-run", 'u'), ("quiet", 'q'), ("tmpdir", 'p')] } 1 arguments
    fun o => do
    let template := o.operands.headD "tmp.XXXXXXXXXX".toList
    let back := template.reverse.dropWhile (· ≠ 'X')
    let behind := template.drop back.length
    let (marks, stem) := back.span (· = 'X')
    if marks.length < 3 then setStatus 1
    else
      let t ← getThread
      let temporary := (t.vars.lookup "TMPDIR".toList).getD "/tmp".toList
      let folder := match o.value? 'p' with
        | some folder => if folder.isEmpty then temporary ++ ['/'] else folder ++ ['/']
        | none => if o.operands.isEmpty || o.has 't' then temporary ++ ['/'] else []
      let name := freshLetters marks.length (12345678 + (← getWorld).sinks)
      let path := folder ++ stem.reverse ++ name ++ behind
      let isMade ←
        if o.has 'u' then pure true
        else if o.has 'd' then make path none
        else do make path (some (← newSink))
      if isMade then
        writeOut (path ++ ['\n'])
        setStatus 0
      else setStatus 1

/-! ### Taking away -/

/-- What was made below a place, with the place itself. -/
def World.below (w : World) (place : String) : List Made :=
  w.made.filter fun m => !m.isGone && (m.path = place || (frontOf place).isPrefixOf m.path)

/-- Whether a directory can be taken away: nothing is in it. -/
def World.isEmptyAt (w : World) (place : String) : Bool :=
  ((w.madeAt? place).isSome || Layout.emptyDirectories.contains place) &&
    (w.below place).all (·.path = place)

def rmProgram (arguments : List Chars) : Run Unit :=
  withOptions "rm" { plain := ['f', 'r', 'R', 'i', 'd', 'v'], valued := [], long :=
    [("force", 'f'), ("recursive", 'r'), ("dir", 'd'), ("verbose", 'v')] } 1 arguments fun o => do
    forPaths o.operands fun path => do
      let (place, location) ← find path
      let refuse (reason : String) : Run Bool := do
        cannot "rm" "cannot remove" path reason
        return false
      match location with
      | .file => do
        unmake place
        if o.has 'v' then writeOut ("removed '".toList ++ path ++ ['\'', '\n'])
        return true
      | .directory => do
        if o.has 'r' || o.has 'R' then
          (((← getWorld).below place).map Made.path).forM unmake
          if Layout.emptyDirectories.contains place then unmake place
          return true
        else if o.has 'd' && (← getWorld).isEmptyAt place then
          unmake place
          return true
        else refuse location.fault
      | .missing => if o.has 'f' then return true else refuse location.fault
      | location =>
        if location.isThere then refuse "Permission denied"
        else if o.has 'f' && location = .blocked then return true
        else refuse location.fault
    if o.operands.isEmpty && o.has 'f' then setStatus 0

def rmdirProgram (arguments : List Chars) : Run Unit :=
  withOptions "rmdir" { plain := ['p', 'v', 'i'], valued := [], long :=
    [("parents", 'p'), ("ignore-fail-on-non-empty", 'i')] } 1 arguments fun o =>
    forPaths o.operands fun path => do
      let steps := path.splitOn '/'
      let fronts := if o.has 'p' then (List.range steps.length).map fun i =>
          List.intercalate ['/'] (steps.take (steps.length - i))
        else [path]
      let done ← (fronts.filter fun p => !p.isEmpty).mapM fun front => do
        let (place, location) ← find front
        let refuse (reason : String) : Run Bool := do
          if reason = "Directory not empty" && o.has 'i' then return true
          cannot "rmdir" "failed to remove" front reason
          return false
        match location with
        | .directory => do
          if (← getWorld).isEmptyAt place then
            unmake place
            return true
          else refuse "Directory not empty"
        | location =>
          refuse (if location.isThere then "Not a directory" else location.fault)
      return done.all id

/-! ### Copying and moving -/

/-- Where something goes that is put to a path: below it, if it is a directory. -/
def targetOf (source target : Chars) : Run Chars := do
  match ← locate target with
  | .directory => return withoutSlashes target ++ '/' :: lastName source
  | _ => return target

/-- Writes a text to a path. -/
def putText (path text : Chars) : Run Bool := do
  match ← openWriting (.replace true) path with
  | .ok channel =>
    writeThrough channel text
    return true
  | .error _ => return false

/-- Copies a file, or a directory with everything that was made below it. -/
def copyOne (program : String) (isDeep : Bool) (source target : Chars) : Run Bool := do
  let (place, location) ← find source
  let goal ← targetOf source target
  match location with
  | .directory => do
    if !isDeep then
      writeError program ("-r not specified; omitting directory '".toList ++ source ++ ['\''])
      return false
    let isMade ← match ← locate goal with
      | .directory => pure true
      | _ => make goal none
    if !isMade then return false
    let inside := ((← getWorld).below place).reverse.filter fun m => m.path ≠ place
    let done ← inside.mapM fun m => do
      let path := goal ++ m.path.toList.drop place.length
      match m.sink with
      | none =>
        match ← locate path with
        | .directory => return true
        | _ => make path none
      | some sink => putText path ((← getWorld).fileText sink)
    return done.all id
  | location => do
    if !location.isThere then
      cannot program "cannot stat" source location.fault
      return false
    if (← find goal).1 = place then
      writeError program ("'".toList ++ source ++ "' and '".toList ++ goal ++
        "' are the same file".toList)
      return false
    match ← fromFile program 1 source readAllInput with
    | none => return false
    | some text => do
      if ← putText goal text then return true
      cannot program "cannot create regular file" goal (← locate (parentOf goal).1).fault
      return false

/-- Gives something that was made another path. -/
def moveOne (program : String) (source target : Chars) : Run Bool := do
  let (place, location) ← find source
  let goal ← targetOf source target
  if !location.isThere then
    cannot program "cannot stat" source location.fault
    return false
  let (goalPlace, goalLocation) ← find goal
  if goalPlace = place then
    writeError program ("'".toList ++ source ++ "' and '".toList ++ goal ++
      "' are the same file".toList)
    return false
  let moved := (← getWorld).below place
  if moved.isEmpty then return false
  let (parent, name) := parentOf (withoutSlashes goal)
  match ← find parent, goalLocation with
  | (_, _), .directory => return false
  | (front, .directory), _ => do
    let full := frontOf front ++ String.ofList name
    unmake full
    changeWorld fun w =>
      let (taken, others) := w.made.partition fun m =>
        !m.isGone && moved.any fun b => b.path = m.path
      { w with made :=
          (taken.map fun m => { m with path := full ++ m.path.drop place.length }) ++ others }
    return true
  | _, _ => do
    cannot program "cannot move" source (← locate parent).fault
    return false

/-- Gives a file another name besides. -/
def linkOne (program : String) (source target : Chars) : Run Bool := do
  let (place, location) ← find source
  match ((← getWorld).madeAt? place).bind Made.sink, location with
  | some sink, _ => do
    let goal ← targetOf source target
    match ← locate goal with
    | .missing => make goal (some sink)
    | _ => do
      cannot program "failed to create hard link" goal "File exists"
      return false
  | none, location => do
    cannot program "failed to access" source location.fault
    return false

/-- Does something for all sources with the target that comes last, or with the one that an option
names. -/
def forSources (program : String) (o : Options) (body : Chars → Chars → Run Bool) : Run Unit := do
  let (sources, target) := match o.value? 't' with
    | some target => (o.operands, some target)
    | none => (o.operands.dropLast, o.operands.getLast?)
  match target with
  | none => do
    writeError program "missing file operand".toList
    setStatus 1
  | some target => do
    if sources.isEmpty then
      writeError program ("missing destination file operand after '".toList ++ target ++ ['\''])
      setStatus 1
    else if 1 < sources.length && (← locate target) ≠ .directory then
      writeError program ("target '".toList ++ target ++ "' is not a directory".toList)
      setStatus 1
    else forPaths sources fun source => body source target

def cpProgram (arguments : List Chars) : Run Unit :=
  withOptions "cp" { plain := "afinpPrRTuvLdH".toList, valued := ['t'], long :=
    [("recursive", 'r'), ("archive", 'a'), ("force", 'f'), ("target-directory", 't')] } 1 arguments
    fun o => forSources "cp" o (copyOne "cp" (o.has 'r' || o.has 'R' || o.has 'a'))

def mvProgram (arguments : List Chars) : Run Unit :=
  withOptions "mv" { plain := "finTuv".toList, valued := ['t'], long :=
    [("force", 'f'), ("no-clobber", 'n'), ("target-directory", 't')] } 1 arguments
    fun o => forSources "mv" o fun source target => do
      let goal ← targetOf source target
      if o.has 'n' && (← locate goal).isThere then return true
      moveOne "mv" source target

def lnProgram (arguments : List Chars) : Run Unit :=
  withOptions "ln" { plain := ['f', 'n', 'T', 'v'], valued := ['t'], long := [("force", 'f')] } 1
    arguments fun o => forSources "ln" o fun source target => do
      let goal ← targetOf source target
      if o.has 'f' then unmake (← find goal).1
      linkOne "ln" source target

/-- Changes who may do what with files; whether they can be run is not among it. -/
def chmodProgram (arguments : List Chars) : Run Unit := do
  let options : List String := ["-R", "-v", "-f", "-c"]
  match arguments.filter fun a => !options.contains (String.ofList a) with
  | _ :: path :: paths => forPaths (path :: paths) fun path => do
    let location ← locate path
    if location.isThere then return true
    cannot "chmod" "cannot access" path location.fault
    return false
  | _ => setStatus 1

/-! ### Comparing -/

/-- The first place at which two texts differ, counted from 1, with its line. -/
def firstDifference : (place line : Nat) → Chars → Chars → Option (Nat × Nat) × Nat × Nat
  | place, line, a :: as, b :: bs =>
    if a = b then firstDifference (place + 1) (if a = '\n' then line + 1 else line) as bs
    else (some (place, line), place, line)
  | place, line, _, _ => (none, place, line)

def cmpProgram (arguments : List Chars) : Run Unit :=
  withOptions "cmp" { plain := ['s', 'b', 'l'], valued := ['n'], long :=
    [("silent", 's'), ("quiet", 's'), ("bytes", 'n')] } 2 arguments fun o => do
    let first := o.operands.headD []
    let second := (o.operands[1]?).getD ['-']
    match ← fromFile "cmp" 2 first readAllInput with
    | none => return ()
    | some a =>
      match ← fromFile "cmp" 2 second readAllInput with
      | none => return ()
      | some b => do
        let most := ((o.value? 'n').map natAtFront).getD (a.length + b.length)
        let a := a.take most
        let b := b.take most
        if a = b then setStatus 0
        else
          setStatus 1
          if !o.has 's' then
            let found := firstDifference 1 1 a b
            match found with
            | (some (place, line), _) =>
              if o.has 'l' then
                let pairs := (a.zip b).zipIdx.filter fun ((x, y), _) => x ≠ y
                let width := (decimalChars (min a.length b.length)).length
                writeOut (joinLines (pairs.map fun ((x, y), i) =>
                  alignRight width (decimalChars (i + 1)) ++ ' ' ::
                    alignRight 3 (Nat.toDigits 8 x.toNat) ++ ' ' ::
                    alignRight 3 (Nat.toDigits 8 y.toNat)))
              else
                writeOut (first ++ ' ' :: second ++ " differ: char ".toList ++ decimalChars place ++
                  ", line ".toList ++ decimalChars line ++ ['\n'])
            | (none, place, line) =>
              let shorter := if a.length < b.length then first else second
              let isBroken := ((if a.length < b.length then a else b).getLast?) = some '\n'
              let line := if isBroken then line - 1 else line
              writeError "cmp" ("EOF on ".toList ++ shorter ++
                (if place = 1 then " which is empty".toList
                else " after byte ".toList ++ decimalChars (place - 1) ++
                  (if isBroken then ", line ".toList else ", in line ".toList) ++
                  decimalChars line))

/-- The programs on paths, by name. -/
def pathPrograms : List (String × (List Chars → Run Unit)) :=
  [("basename", basenameProgram), ("dirname", dirnameProgram), ("ls", lsProgram),
   ("realpath", realpathProgram true), ("readlink", readlinkProgram), ("touch", touchProgram),
   ("mkdir", mkdirProgram), ("mktemp", mktempProgram), ("rm", rmProgram), ("rmdir", rmdirProgram),
   ("unlink", rmProgram), ("cp", cpProgram), ("mv", mvProgram), ("ln", lnProgram),
   ("link", lnProgram), ("chmod", chmodProgram), ("cmp", cmpProgram)]

end Switchboard.Shell
