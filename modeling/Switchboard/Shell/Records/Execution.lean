import Switchboard.Shell.Records.Evaluation
import Switchboard.Shell.Records.Parser

/-!
# Running programs on records

Statements are done along their syntax. A program does its first rules, then for each record those
that select it, then its last rules.
-/

namespace Switchboard.Shell.Records

/-! ### Statements -/

/-- A bound on the turns of a loop. -/
def turnBound : Nat := 300000

/-- Repeats something as long as it says so, at most `n` times. A loop that does not end goes round
until a signal comes. -/
def repeatTurns (turn : Eval Bool) : (n : Nat) → Eval Unit
  | 0 => do
    let _ ← outside (pause .program none none)
  | n + 1 => do if ← turn then repeatTurns turn n

/-- Does the body of a loop; the answer is whether the loop goes on. -/
def loopBody (body : Eval Unit) : Eval Bool :=
  tryCatch (do body; return true) fun
    | .break_ => return false
    | .continue_ => return true
    | leave => throw leave

/-- Does something for each of some keys, until it says that this is enough. -/
def forKeys (body : Chars → Eval Bool) : List Chars → Eval Unit
  | [] => return ()
  | key :: rest => do if ← body key then forKeys body rest

/-- A value as it is shown, where numbers have a format of their own. -/
def shownText (v : Value) : Eval Chars := do return v.toText (← globalText "OFMT")

/-- What `print` shows. -/
def printText (isFormatted : Bool) (values : List Value) : Eval (Chars × Bool) := do
  if isFormatted then
    let format ← textOf (values.headD .empty)
    return formatValues (← numberFormat) (format.length + 1) format values.tail
  else
    let texts ← if values.isEmpty then do pure [← textOf (← get).record]
      else values.mapM shownText
    let joint ← globalText "OFS"
    return (List.intercalate joint texts ++ (← globalText "ORS"), true)

mutual

def exec (x : Setting) : Statement → Eval Unit
  | .evaluate e => do
    let _ ← (← eval x e).get
  | .print isFormatted arguments target => do
    let values ← evalAll x arguments
    let (text, good) ← printText isFormatted values
    match target with
    | none => writeHeld text
    | some (kind, e) => do writeLed kind (← textOf (← (← eval x e).get)) text
    if !good then fault
  | .branch condition a b => do
    if (← (← eval x condition).get).isTrue then exec x a else exec x b
  | .loop condition body =>
    repeatTurns (do
      if (← (← eval x condition).get).isTrue then loopBody (exec x body) else return false)
      turnBound
  | .bodyFirst body condition =>
    repeatTurns (do
      if ← loopBody (exec x body) then return (← (← eval x condition).get).isTrue
      else return false) turnBound
  | .count first condition after body => do
    exec x first
    repeatTurns (do
      let goes ← match condition with
        | none => pure true
        | some e => do pure (← (← eval x e).get).isTrue
      if !goes then return false
      if ← loopBody (exec x body) then
        exec x after
        return true
      else return false) turnBound
  | .each name array body => do
    let keys ← withTable (← arrayOf array) Table.keys
    forKeys (fun key => do
      setVariable name (.text key)
      loopBody (exec x body)) keys
  | .block statements => execAll x statements
  | .next => throw .next
  | .nextFile => throw .nextFile
  | .break_ => throw .break_
  | .continue_ => throw .continue_
  | .exit status => do
    match status with
    | none => throw .exit
    | some e => do
      let code := (wholePart (← (← eval x e).get).toNumber % 256).toNat
      modify fun m => { m with status := code }
      throw .exit
  | .return_ value => do
    match value with
    | none => throw (.return_ .empty)
    | some e => throw (.return_ (← (← eval x e).get))
  | .delete array subscripts => do
    let number ← arrayOf array
    match subscripts with
    | none => setTable number .empty
    | some subscripts => do
      let key ← keyOf (← evalAll x subscripts)
      withTable number fun t => ((), t.erase key)

def execAll (x : Setting) : List Statement → Eval Unit
  | [] => return ()
  | s :: rest => do
    exec x s
    execAll x rest

end

/-! ### Functions -/

/-- What the parameters of a function stand for. Those without an argument are new. -/
def bindSlots : List Chars → List Bool → List Slot → Eval (List (Chars × Slot))
  | [], _, _ => return []
  | name :: names, flags, slots => do
    let slot ← match slots, flags.headD false with
      | slot :: _, _ => pure slot
      | [], true => do pure (Slot.array (← newArray))
      | [], false => pure (Slot.value .empty)
    return (name, slot) :: (← bindSlots names flags.tail slots.tail)

/-- Calls a function, at most `n` of them inside of each other. -/
def callFunction (functions : List Function) (arrayParameters : List (Chars × List Bool))
    (commands : Commands) : (n : Nat) → (name : Chars) → List Slot → Eval Value
  | 0, _, _ => fault
  | n + 1, name, slots => do
    let call := callFunction functions arrayParameters commands n
    let x : Setting := { functions, arrayParameters, commands, call }
    match functions.find? (·.name = name) with
    | none => fault
    | some function =>
      let flags := (arrayParameters.lookup name).getD []
      let locals ← bindSlots function.parameters flags slots
      let before := (← get).locals
      modify fun m => { m with locals }
      let result ← tryCatch (do
        exec x function.body
        return Value.empty) fun
        | .return_ v => return v
        | leave => throw leave
      modify fun m => { m with locals := before }
      return result

/-- How many functions may run inside of each other. -/
def callBound : Nat := 2000

/-! ### Arrays among parameters -/

/-- What is used: a name as an array, a function, or a name as the argument of a function. -/
inductive Use where
  | array (name : Chars)
  | called (function : Chars)
  | passed (function : Chars) (index : Nat) (name : Chars)

mutual

def Expr.uses : Expr → List Use
  | .number _ => []
  | .text _ => []
  | .regex _ => []
  | .read place => place.uses
  | .assign place _ value => place.uses ++ value.uses
  | .step place _ _ => place.uses
  | .operate _ a b => a.uses ++ b.uses
  | .negate a => a.uses
  | .toNumber a => a.uses
  | .compare _ a b => a.uses ++ b.uses
  | .both a b => a.uses ++ b.uses
  | .either a b => a.uses ++ b.uses
  | .not a => a.uses
  | .join a b => a.uses ++ b.uses
  | .fits _ a b => a.uses ++ b.uses
  | .has subscripts array => .array array :: usesOfAll subscripts
  | .choose c a b => c.uses ++ a.uses ++ b.uses
  | .tuple items => usesOfAll items
  | .call function arguments =>
    .called function :: usesOfPassed function 0 arguments ++ usesOfAll arguments
  | .builtin function arguments =>
    (if function = .split then usesOfSplit arguments else []) ++ usesOfAll arguments
  | .getline source target => source.uses ++ usesOfTarget target

def Place.uses : Place → List Use
  | .variable _ => []
  | .field index => index.uses
  | .element array subscripts => .array array :: usesOfAll subscripts

def Source.uses : Source → List Use
  | .main => []
  | .file path => path.uses
  | .command text => text.uses

def usesOfTarget : Option Place → List Use
  | none => []
  | some place => place.uses

def usesOfAll : List Expr → List Use
  | [] => []
  | e :: rest => e.uses ++ usesOfAll rest

/-- The names that are arguments of a function. -/
def usesOfPassed (function : Chars) : (index : Nat) → List Expr → List Use
  | _, [] => []
  | index, e :: rest =>
    (match e with
      | .read (.variable name) => [.passed function index name]
      | _ => []) ++ usesOfPassed function (index + 1) rest

/-- The name of the array into which a text is cut. -/
def usesOfSplit : List Expr → List Use
  | _ :: .read (.variable name) :: _ => [.array name]
  | _ => []

end

mutual

def Statement.uses : Statement → List Use
  | .evaluate e => e.uses
  | .print _ arguments target => usesOfAll arguments ++ (match target with
      | some (_, e) => e.uses
      | none => [])
  | .branch c a b => c.uses ++ a.uses ++ b.uses
  | .loop c body => c.uses ++ body.uses
  | .bodyFirst body c => body.uses ++ c.uses
  | .count first c after body =>
    first.uses ++ (match c with
      | some e => e.uses
      | none => []) ++ after.uses ++ body.uses
  | .each _ array body => .array array :: body.uses
  | .block statements => usesOfBlock statements
  | .exit (some e) => e.uses
  | .return_ (some e) => e.uses
  | .delete array subscripts => .array array :: (match subscripts with
      | some items => usesOfAll items
      | none => [])
  | _ => []

def usesOfBlock : List Statement → List Use
  | [] => []
  | s :: rest => s.uses ++ usesOfBlock rest

end

/-- Which parameters are arrays: those that are used as such, or that are given to functions of
which this is known. -/
def refineParameters (functions : List Function) (known : List (Chars × List Bool)) :
    List (Chars × List Bool) :=
  functions.map fun f =>
    let uses := f.body.uses
    let isArray (name : Chars) : Bool := uses.any fun
      | .array other => other = name
      | .called _ => false
      | .passed function index other =>
        other = name && (((known.lookup function).getD [])[index]?).getD false
    (f.name, f.parameters.map isArray)

/-- Which parameters of the functions are arrays. -/
def arrayParametersOf (functions : List Function) : List (Chars × List Bool) :=
  let rounds := functions.foldl (fun n f => n + f.parameters.length) 1
  (List.range rounds).foldl (fun known _ => refineParameters functions known) []

/-! ### Programs -/

/-- Does something, and says why it did not go on. -/
def attemptEval (work : Eval Unit) : Eval (Option Leave) :=
  tryCatch (do work; return none) fun leave => return some leave

/-- Whether a rule selects the record. -/
def selects (x : Setting) (index : Nat) (pattern : Pattern) : Eval Bool := do
  let isTrue (e : Expr) : Eval Bool := do return (← (← eval x e).get).isTrue
  match pattern with
  | .begin_ => return false
  | .end_ => return false
  | .always => return true
  | .when condition => isTrue condition
  | .range first last =>
    let active := (← get).active.contains index
    if active || (← isTrue first) then
      let ends ← isTrue last
      modify fun m =>
        { m with
          active := if ends then m.active.erase index
            else if active then m.active else index :: m.active }
      return true
    else return false

/-- Does the rules that select the record. -/
def applyRules (x : Setting) : List (Rule × Nat) → Eval Unit
  | [] => return ()
  | (rule, index) :: rest => do
    if ← selects x index rule.pattern then
      match rule.action with
      | some action => exec x action
      | none => exec x (.print false [] none)
    applyRules x rest

/-- Goes through the records of the input, at most `n` of them. -/
def applyToRecords (x : Setting) (rules : List (Rule × Nat)) : (n : Nat) → Eval Unit
  | 0 => return ()
  | n + 1 => do
    match ← nextMain readBound with
    | none => return ()
    | some text =>
      countRecord
      setRecord text
      match ← attemptEval (applyRules x rules) with
      | none => applyToRecords x rules n
      | some .next => applyToRecords x rules n
      | some .nextFile => do
        modify fun m => { m with main := none }
        applyToRecords x rules n
      | some leave => throw leave

/-- Does the rules that come before the input or behind it. -/
def applyApart (x : Setting) (isLast : Bool) (rules : List Rule) : Eval Unit :=
  rules.forM fun rule =>
    let belongs := match rule.pattern with
      | .begin_ => !isLast
      | .end_ => isLast
      | _ => false
    if belongs then exec x (rule.action.getD (.block [])) else return ()

/-- Runs a program to its end, at which all that is open is closed. -/
def Program.run (p : Program) (x : Setting) : Eval Unit := do
  let isMain (rule : Rule) : Bool := match rule.pattern with
    | .begin_ => false
    | .end_ => false
    | _ => true
  let readsInput := p.rules.any fun rule => !(rule.pattern matches .begin_)
  let first ← attemptEval do
    applyApart x false p.rules
    if readsInput then applyToRecords x (p.rules.filter isMain).zipIdx readBound
  let last ← match first with
    | none => attemptEval (applyApart x true p.rules)
    | some .exit => attemptEval (applyApart x true p.rules)
    | leave => pure leave
  match last with
  | none => pure ()
  | some .exit => pure ()
  | some _ => modify fun m => { m with status := 2 }
  closeAll x
  flushOut

/-! ### The program -/

/-- The options of a program on records. -/
structure Request where
  separator : Option Chars
  assignments : List (Chars × Chars)
  /-- The files that hold the program. -/
  files : List Chars
  interactive : Bool
  operands : List Chars

namespace Request

/-- The options in front of some arguments; there is no result if one of them is wrong. -/
def read : List Chars → Option Request
  | [] => some ⟨none, [], [], false, []⟩
  | ['-', '-'] :: rest => some ⟨none, [], [], false, rest⟩
  | ('-' :: 'W' :: c :: _) :: rest => (read rest).map fun r =>
    { r with interactive := r.interactive || c = 'i' }
  | ['-', 'W'] :: text :: rest => (read rest).map fun r =>
    { r with interactive := r.interactive || text.head? = some 'i' }
  | ['-', letter] :: value :: rest => (read rest).bind (add letter value)
  | ('-' :: letter :: c :: value) :: rest => (read rest).bind (add letter (c :: value))
  | [['-', _]] => none
  | operands => some ⟨none, [], [], false, operands⟩
where
  add (letter : Char) (value : Chars) (r : Request) : Option Request :=
    match letter with
    | 'F' => some { r with separator := r.separator.or (some (unescaped value)) }
    | 'f' => some { r with files := value :: r.files }
    | 'v' => (assignmentOf? value).map fun a => { r with assignments := a :: r.assignments }
    | _ => none

end Request

/-- The state in which a program begins. -/
def Machine.start (r : Request) : Machine :=
  let globals : List (String × Value) :=
    [("FS", .text (r.separator.getD [' '])), ("RS", .text ['\n']), ("OFS", .text [' ']),
     ("ORS", .text ['\n']), ("SUBSEP", .text ['\x1c']), ("CONVFMT", .text "%.6g".toList),
     ("OFMT", .text "%.6g".toList), ("NR", .number 0), ("FNR", .number 0), ("NF", .number 0),
     ("FILENAME", .text [])]
  let globals : Std.HashMap String Value := .ofList globals
  let assign (m : Std.HashMap String Value) (name value : Chars) :=
    m.insert (String.ofList name) (.input value)
  { globals := r.assignments.foldl (fun m (name, value) => assign m name value) globals
    arrays := ∅
    arrayNumbers := ∅
    arraysMade := 0
    locals := []
    depth := 0
    record := .text []
    fields := #[]
    operand := 1
    hasRead := false
    main := none
    feeds := []
    drains := []
    held := []
    interactive := r.interactive
    active := []
    seed := 0
    status := 0 }

/-- Sets the arrays that a program begins with. -/
def setArrays (environment : List (Chars × Chars)) (arguments : List Chars) : Eval Unit := do
  let fill (name : String) (members : List (Key × Value)) : Eval Unit := do
    let number ← arrayOf name.toList
    setTable number (members.foldl (fun t (key, v) => t.set key v) .empty)
  fill "ENVIRON" (environment.map fun (name, value) => (.text name, .input value))
  fill "ARGV" (arguments.zipIdx.map fun (a, i) => (.whole i, .input a))
  setGlobal "ARGC" (.number (Float.ofNat arguments.length))

/-- The text of a program: that in some files, or else the first operand. -/
def programText (r : Request) : Run (Option Chars × List Chars) := do
  match r.files, r.operands with
  | [], text :: operands => return (some text, operands)
  | [], [] => return (none, [])
  | files, operands => do
    let texts ← files.mapM fun path => fromFile "awk" 2 path readAllInput
    return ((texts.mapM id).map (List.intercalate ['\n']), operands)

/-- Whether each function that is called is there. -/
def Program.isComplete (p : Program) : Bool :=
  let called (e : Use) : Bool := match e with
    | .called name => p.functions.any (·.name = name)
    | _ => true
  let actions := p.rules.filterMap Rule.action ++ p.functions.map Function.body
  actions.all fun s => s.uses.all called

/-- Runs a program on the records of its input or files. -/
def recordsProgram (commands : Commands) (arguments : List Chars) : Run Unit := do
  match Request.read arguments with
  | none => setStatus 2
  | some r => do
    let (text, operands) ← programText r
    match text.bind Program.parse? with
    | none => setStatus 2
    | some p =>
      if !p.isComplete then setStatus 2
      else
        let t ← getThread
        let environment := t.vars.filter fun v => t.exported.contains v.1
        let arrayParameters := arrayParametersOf p.functions
        let call := callFunction p.functions arrayParameters commands callBound
        let x : Setting := { functions := p.functions, arrayParameters, commands, call }
        let work : Eval Unit := do
          setArrays environment ("awk".toList :: operands)
          p.run x
        let (_, m) ← work.run.run (Machine.start r)
        setStatus m.status

end Switchboard.Shell.Records
