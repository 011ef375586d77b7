import Switchboard.Shell.Arguments

/-!
# Settings of a shell

The commands that set its options, its arguments and its variables.
-/

namespace Switchboard.Shell

/-! ### Options -/

/-- The names of the options with their letters, in the order in which they are listed. Some have no
letter: nothing asks for them. -/
def optionNames : List (String × Char) :=
  [("errexit", 'e'), ("noglob", 'f'), ("ignoreeof", 'I'), ("interactive", 'i'), ("monitor", 'm'),
   ("noexec", 'n'), ("stdin", 's'), ("xtrace", 'x'), ("verbose", 'v'), ("vi", 'V'), ("emacs", 'E'),
   ("noclobber", 'C'), ("allexport", 'a'), ("notify", 'b'), ("nounset", 'u'), ("privileged", 'p'),
   ("nolog", ' '), ("debug", ' ')]

def changeOption (on : Bool) (letter : Char) : Run Unit :=
  changeThread fun t =>
    { t with options := if on then t.options.insert letter else t.options.erase letter }

/-- Sets an option by its letter. -/
def setLetter (on : Bool) (letter : Char) : Run Unit := do
  if letter ≠ ' ' && optionNames.any (·.2 = letter) then changeOption on letter
  else fail ("Illegal option ".toList ++ (if on then '-' else '+') :: [letter])

/-- Sets an option by its name. -/
def setNamed (on : Bool) (name : Chars) : Run Unit := do
  match optionNames.lookup (String.ofList name) with
  | some letter => if letter = ' ' then return () else changeOption on letter
  | none => fail ("Illegal option ".toList ++ (if on then '-' else '+') :: "o ".toList ++ name)

/-- All options, as a table or as commands. -/
def optionListing (t : Thread) (asCommands : Bool) : Chars :=
  let shown := optionNames.map fun (name, letter) =>
    let on := t.hasOption letter
    if asCommands then "set " ++ (if on then "-" else "+") ++ "o " ++ name
    else name ++ String.ofList (List.replicate (16 - name.length) ' ') ++ if on then "on" else "off"
  let head := if asCommands then [] else ["Current option settings"]
  joinLines ((head ++ shown).map String.toList)

/-- What came before the arguments of a shell: whether a command is given, and whether the options
were ended. -/
structure Invocation where
  isCommand : Bool
  isEnded : Bool
  rest : List Chars

/-- Sets the options in front of some arguments. `atStart` says that these are the arguments of a
shell, where `-c` says that a command follows. -/
def setOptions (atStart : Bool) : List Chars → Run Invocation
  | [] => return ⟨false, false, []⟩
  | argument :: rest =>
    match argument with
    | ['-'] => do
      if !atStart then
        changeOption false 'x'
        changeOption false 'v'
      return ⟨false, !atStart && !rest.isEmpty, rest⟩
    | ['-', '-'] => return ⟨false, true, rest⟩
    | mark :: letters =>
      if mark ≠ '-' && mark ≠ '+' then return ⟨false, false, argument :: rest⟩
      else do
        let on := mark = '-'
        let isCommand := atStart && letters.contains 'c'
        (letters.filter fun l => l ≠ 'o' && !(atStart && (l = 'c' || l = 'l'))).forM (setLetter on)
        match letters.contains 'o', rest with
        | true, name :: rest =>
          setNamed on name
          let found ← setOptions atStart rest
          return { found with isCommand := isCommand || found.isCommand }
        | true, [] =>
          let _ ← writeTo 1 (optionListing (← getThread) !on)
          return ⟨isCommand, false, []⟩
        | false, rest =>
          let found ← setOptions atStart rest
          return { found with isCommand := isCommand || found.isCommand }
    | [] => return ⟨false, false, argument :: rest⟩

/-- Sets options and, if there are any, the arguments; without anything it lists the variables. -/
def setBuiltin (arguments : List Chars) : Run Unit := do
  if arguments.isEmpty then
    let t ← getThread
    let _ ← writeTo 1 (t.listing [] (t.vars.map Prod.fst))
  else
    let found ← setOptions false arguments
    if found.isEnded || !found.rest.isEmpty then
      changeThread fun t => { t with arguments := found.rest, optionPlace := (1, 0) }
  setStatus 0

def shiftBuiltin (arguments : List Chars) : Run Unit := do
  let n ← firstCount 1 arguments
  let t ← getThread
  if n ≤ t.arguments.length then
    changeThread fun t => { t with arguments := t.arguments.drop n, optionPlace := (1, 0) }
    setStatus 0
  else fail "can't shift that many".toList

/-! ### Variables -/

/-- Marks the variables that are named by arguments, and assigns to those that are given a value. -/
def markVariables (mark : Chars → Thread → Thread) : List Chars → Run Unit
  | [] => setStatus 0
  | argument :: rest => do
    match argument.span (· ≠ '=') with
    | (name, '=' :: value) => assign name value
    | (name, _) => if !isName name then failAt name "bad variable name"
    changeThread (mark (argument.takeWhile (· ≠ '=')))
    markVariables mark rest

/-- Marks variables, or lists those that have the mark. -/
def markBuiltin (command : String) (marked : Thread → List Chars)
    (mark : Chars → Thread → Thread) (arguments : List Chars) : Run Unit := do
  let (given, names) ← leadingOptions ['p'] [] arguments
  if given.isEmpty && !names.isEmpty then markVariables mark names
  else
    let t ← getThread
    let _ ← writeTo 1 (t.listing command.toList (marked t))
    setStatus 0

def exportBuiltin : List Chars → Run Unit :=
  markBuiltin "export" Thread.exported fun name t => t.export_ name

def readonlyBuiltin : List Chars → Run Unit :=
  markBuiltin "readonly" Thread.fixed fun name t => { t with fixed := t.fixed.insert name }

/-- Keeps what variables are for the end of the function that runs, and assigns them. -/
def localBuiltin (arguments : List Chars) : Run Unit := do
  if (← getThread).calls = 0 then fail "not in a function".toList
  else
    arguments.forM fun argument => do
      let (name, value) := argument.span (· ≠ '=')
      if name = ['-'] then
        changeThread fun t => { t with keptOptions := t.keptOptions.or (some t.options) }
      else if !isName name then failAt name "bad variable name"
      else
        changeThread fun t => { t with locals := t.keep name :: t.locals }
        match value with
        | _ :: value => assign name value
        | [] => return ()
    setStatus 0

def unsetBuiltin (arguments : List Chars) : Run Unit := do
  let (given, names) ← leadingOptions ['v', 'f'] [] arguments
  let isFunction := (given.getLast?.map Prod.fst) = some 'f'
  names.forM fun name => do
    if isFunction then
      changeThread fun t => { t with functions := t.functions.filter (·.1 != name) }
    else if !isName name then failAt name "bad variable name"
    else if (← getThread).fixed.contains name then failAt name "is read only"
    else changeThread (·.clearVariable name)
  setStatus 0

/-! ### Options of scripts -/

/-- What one step through the options of a script finds: the letter, the value, if the option is
known and has one, and the place from which to go on. -/
structure OptionStep where
  letter : Char
  value : Option Chars
  place : Nat × Nat
  ended : Bool
  complaint : Chars

/-- The next option among some arguments. `known` lists the letters, with a colon after those that
have a value; a colon in front says that nothing is to be said about what is wrong. -/
def nextOption (known : Chars) (arguments : List Chars) (place : Nat × Nat) : OptionStep :=
  let (index, offset) := place
  let silent := known.head? = some ':'
  let letters := if silent then known.drop 1 else known
  let before := (arguments[index - 2]?).getD []
  let pending := if index ≤ 1 || offset = 0 then [] else before.drop offset
  let argument := arguments[index - 1]?
  let (found, index, offset) : Option (Char × Chars) × Nat × Nat :=
    match pending, argument with
    | c :: rest, _ => (some (c, rest), index, offset + 1)
    | [], some ('-' :: '-' :: []) => (none, index + 1, 0)
    | [], some ('-' :: c :: rest) => (some (c, rest), index + 1, 2)
    | [], _ => (none, index, 0)
  match found with
  | none => { letter := '?', value := none, place := (index, 0), ended := true, complaint := [] }
  | some (c, rest) =>
    let stay : Nat × Nat := (index, if rest.isEmpty then 0 else offset)
    match if c = ':' then [] else letters.dropWhile (· ≠ c) with
    | [] =>
      { letter := '?', value := if silent then some [c] else none, place := stay, ended := false
        complaint := if silent then [] else "Illegal option -".toList ++ [c] }
    | _ :: ':' :: _ =>
      match rest, arguments[index - 1]? with
      | [], none =>
        { letter := if silent then ':' else '?', value := if silent then some [c] else none
          place := (index, 0), ended := false
          complaint := if silent then []
            else "No arg for -".toList ++ [c] ++ " option".toList }
      | [], some value =>
        { letter := c, value := some value, place := (index + 1, 0), ended := false
          complaint := [] }
      | rest, _ =>
        { letter := c, value := some rest, place := (index, 0), ended := false, complaint := [] }
    | _ => { letter := c, value := some [], place := stay, ended := false, complaint := [] }

def getoptsBuiltin : List Chars → Run Unit
  | known :: name :: arguments => do
    let t ← getThread
    let arguments := if arguments.isEmpty then t.arguments else arguments
    let step := nextOption known arguments t.optionPlace
    if !step.complaint.isEmpty then
      let _ ← writeTo 2 (step.complaint ++ ['\n'])
    if !step.ended then
      match step.value with
      | some value => assign "OPTARG".toList value
      | none => changeThread (·.clearVariable "OPTARG".toList)
    assign "OPTIND".toList (decimalChars step.place.1)
    assign name [step.letter]
    changeThread fun t => { t with optionPlace := step.place }
    setStatus (if step.ended then 1 else 0)
  | _ => fail "Usage: getopts optstring var [arg...]".toList

end Switchboard.Shell
