import Switchboard.Shell.Records.Token

/-!
# Reading programs on records

Operators bind in levels, each of which is made of operands of the next one. Values one behind the
other are joined. In what `print` shows, a greater sign leads the output elsewhere.
-/

namespace Switchboard.Shell.Records

/-- A reader of the front of some tokens; there is no result if something is wrong. -/
abbrev Reader (α : Type) := List Token → Option (α × List Token)

def skipNewlines : List Token → List Token
  | .newline :: rest => skipNewlines rest
  | tokens => tokens

/-! ### Levels -/

/-- What may follow an operand on a level. -/
inductive Suffix where
  /-- An operator, before another operand. -/
  | operator (make : Expr → Expr → Expr)
  /-- Something that is complete. -/
  | complete (make : Expr → Expr)

abbrev ReadSuffix := List Token → Option (Suffix × List Token)

/-- What follows an operand on a level, at most `n` times. -/
def readSuffixes (operand : Reader Expr) (suffix : ReadSuffix) : (n : Nat) → Expr → Reader Expr
  | 0, a, tokens => some (a, tokens)
  | n + 1, a, tokens =>
    match suffix tokens with
    | none => some (a, tokens)
    | some (.complete make, rest) => readSuffixes operand suffix n (make a) rest
    | some (.operator make, rest) => do
      let (b, rest) ← operand rest
      readSuffixes operand suffix n (make a b) rest

/-- Operands with what may stand between and behind them. -/
def readLevel (operand : Reader Expr) (suffix : ReadSuffix) : Reader Expr := fun tokens => do
  let (a, rest) ← operand tokens
  readSuffixes operand suffix (rest.length + 1) a rest

/-- The suffixes that are marks. -/
def markSuffix (table : List (String × (Expr → Expr → Expr))) : ReadSuffix
  | .mark m :: rest => (table.lookup m).map fun make => (.operator make, rest)
  | _ => none

def productSuffix : ReadSuffix :=
  markSuffix [("*", .operate .multiply), ("/", .operate .divide), ("%", .operate .remainder)]

def sumSuffix : ReadSuffix := markSuffix [("+", .operate .add), ("-", .operate .subtract)]

/-- Whether a value may begin with a token that cannot go on with the value before. -/
def beginsValue : Token → Bool
  | .number _ => true
  | .string _ => true
  | .regex _ => true
  | .identifier _ => true
  | .callee _ => true
  | .mark m => ["(", "$", "!", "++", "--"].contains m
  | .word w => w = "getline" || Token.builtins.any fun b => b.1 = w
  | .newline => false

def joinSuffix : ReadSuffix
  | token :: rest => if beginsValue token then some (.operator .join, token :: rest) else none
  | [] => none

def comparisonSuffix (inPrint : Bool) : ReadSuffix :=
  markSuffix ([("<", .compare .less), ("<=", .compare .atMost), ("==", .compare .equal),
    ("!=", .compare .unequal)] ++
    if inPrint then []
    else [(">=", Expr.compare .atLeast), (">", Expr.compare .greater)])

def fitSuffix : ReadSuffix := markSuffix [("~", .fits false), ("!~", .fits true)]

def membershipSuffix : ReadSuffix
  | .word "in" :: .identifier array :: rest =>
    some (.complete fun a => .has (match a with
      | .tuple items => items
      | a => [a]) array, rest)
  | _ => none

/-- All levels but the loosest ones, given the tightest. -/
def readLevels (inPrint : Bool) (unary : Reader Expr) : Reader Expr :=
  let product := readLevel unary productSuffix
  let sum := readLevel product sumSuffix
  let joined := readLevel sum joinSuffix
  let compared := readLevel joined (comparisonSuffix inPrint)
  let fitted := readLevel compared fitSuffix
  let contained := readLevel fitted membershipSuffix
  let both := readLevel contained (markSuffix [("&&", .both)])
  readLevel both (markSuffix [("||", .either)])

/-- The operation of an assignment, if a mark is one. -/
def assignment? : String → Option (Option Operation)
  | "=" => some none
  | "+=" => some (some .add)
  | "-=" => some (some .subtract)
  | "*=" => some (some .multiply)
  | "/=" => some (some .divide)
  | "%=" => some (some .remainder)
  | "^=" => some (some .power)
  | _ => none

/-! ### Expressions -/

/-- Members with commas between them, up to a closing mark. -/
def readMembers (member : Reader Expr) (closing : String) : (n : Nat) → Reader (List Expr)
  | 0, _ => none
  | n + 1, tokens => do
    let (a, rest) ← member (skipNewlines tokens)
    match skipNewlines rest with
    | .mark m :: rest =>
      if m = closing then some ([a], rest)
      else if m = "," then do
        let (others, rest) ← readMembers member closing n rest
        some (a :: others, rest)
      else none
    | _ => none

/-- Members in parentheses, after the opening one; there may be none. -/
def readArguments (member : Reader Expr) : Reader (List Expr)
  | .mark ")" :: rest => some ([], rest)
  | tokens => readMembers member ")" tokens.length tokens

mutual

/-- An expression, nested up to a depth. -/
def readExpr : (depth : Nat) → (inPrint : Bool) → Reader Expr
  | 0, _, _ => none
  | n + 1, inPrint, tokens => do
    let (condition, rest) ← readLevels inPrint (fun ts => readUnary n inPrint ts) tokens
    match rest with
    | .mark "?" :: rest => do
      let (a, rest) ← readExpr n inPrint (skipNewlines rest)
      match skipNewlines rest with
      | .mark ":" :: rest => do
        let (b, rest) ← readExpr n inPrint (skipNewlines rest)
        some (.choose condition a b, rest)
      | _ => none
    | rest => some (condition, rest)

/-- A value with signs before it, and perhaps raised to a power. -/
def readUnary : (depth : Nat) → (inPrint : Bool) → Reader Expr
  | 0, _, _ => none
  | n + 1, inPrint, tokens =>
    let signed (make : Expr → Expr) (rest : List Token) :=
      (readUnary n inPrint rest).map fun (a, rest) => (make a, rest)
    match tokens with
    | .mark "!" :: rest => signed .not rest
    | .mark "-" :: rest => signed .negate rest
    | .mark "+" :: rest => signed .toNumber rest
    | tokens => do
      let (a, rest) ← readOperand n inPrint tokens
      match rest with
      | .mark "^" :: rest => do
        let (b, rest) ← readUnary n inPrint rest
        some (.operate .power a b, rest)
      | rest => some (a, rest)

/-- A value with what belongs to it alone: steps, an assignment, or what a command gives. -/
def readOperand : (depth : Nat) → (inPrint : Bool) → Reader Expr
  | 0, _, _ => none
  | n + 1, inPrint, tokens => do
    let (a, rest) ← readPrimary n tokens
    let (a, rest) ← match a, rest with
      | .read place, .mark m :: later =>
        match m, assignment? m with
        | "++", _ => some (.step place 1 false, later)
        | "--", _ => some (.step place (-1) false, later)
        | _, some operation => do
          let (value, rest) ← readExpr n inPrint (skipNewlines later)
          some (.assign place operation value, rest)
        | _, none => some (a, rest)
      | _, _ => some (a, rest)
    readPipes n a rest

/-- What commands give one after the other. -/
def readPipes : (depth : Nat) → Expr → Reader Expr
  | 0, a, tokens => some (a, tokens)
  | n + 1, a, tokens =>
    match tokens with
    | .mark "|" :: .word "getline" :: rest => do
      let (target, rest) ← readTarget n rest
      readPipes n (.getline (.command a) target) rest
    | tokens => some (a, tokens)

/-- The place for a record that is read, if one is named. -/
def readTarget : (depth : Nat) → Reader (Option Place)
  | 0, _ => none
  | n + 1, tokens =>
    let isNamed := match tokens with
      | .identifier _ :: _ => true
      | .mark "$" :: _ => true
      | _ => false
    if !isNamed then some (none, tokens)
    else do
      match ← readPrimary n tokens with
      | (.read place, rest) => some (some place, rest)
      | _ => none

/-- A value without anything around it. -/
def readPrimary : (depth : Nat) → Reader Expr
  | 0, _ => none
  | n + 1, tokens =>
    let member : Reader Expr := fun ts => readExpr n false ts
    let step (by_ : Float) (rest : List Token) : Option (Expr × List Token) := do
      match ← readPrimary n rest with
      | (.read place, rest) => some (.step place by_ true, rest)
      | _ => none
    match tokens with
    | .number value :: rest => some (.number value, rest)
    | .string text :: rest => some (.text text, rest)
    | .regex text :: rest => some (.regex text, rest)
    | .mark "(" :: rest => do
      let (items, rest) ← readMembers member ")" rest.length rest
      match items with
      | [a] => some (a, rest)
      | items => some (.tuple items, rest)
    | .mark "++" :: rest => step 1 rest
    | .mark "--" :: rest => step (-1) rest
    | .mark "$" :: .mark "-" :: rest => do
      let (a, rest) ← readPrimary n rest
      some (.read (.field (.negate a)), rest)
    | .mark "$" :: rest => do
      let (a, rest) ← readPrimary n rest
      some (.read (.field a), rest)
    | .identifier array :: .mark "[" :: rest => do
      let (subscripts, rest) ← readMembers member "]" rest.length rest
      some (.read (.element array subscripts), rest)
    | .identifier name :: rest => some (.read (.variable name), rest)
    | .callee function :: .mark "(" :: rest => do
      let (arguments, rest) ← readArguments member rest
      some (.call function arguments, rest)
    | .word "getline" :: rest => do
      let (target, rest) ← readTarget n rest
      match rest with
      | .mark "<" :: rest => do
        let (path, rest) ← readPrimary n rest
        some (.getline (.file path) target, rest)
      | rest => some (.getline .main target, rest)
    | .word w :: rest => do
      let function ← Token.builtins.lookup w
      match rest with
      | .mark "(" :: rest => do
        let (arguments, rest) ← readArguments member rest
        some (.builtin function arguments, rest)
      | rest => if function = .length then some (.builtin .length [], rest) else none
    | _ => none

end

/-! ### Statements -/

/-- The expressions that `print` shows, in parentheses or not; there may be none. -/
def readShown (depth : Nat) (tokens : List Token) : Option (List Expr × List Token) :=
  let ends := match tokens with
    | [] => true
    | .newline :: _ => true
    | .mark m :: _ => [";", "\x7d", ">", ">>", "|"].contains m
    | _ => false
  if ends then some ([], tokens)
  else do
    let (first, rest) ← readExpr depth true tokens
    let rec more : Nat → List Expr → List Token → Option (List Expr × List Token)
      | 0, _, _ => none
      | n + 1, done, tokens =>
        match tokens with
        | .mark "," :: rest => do
          let (a, rest) ← readExpr depth true (skipNewlines rest)
          more n (a :: done) rest
        | tokens => some (done.reverse, tokens)
    let (all, rest) ← more tokens.length [first] rest
    match all with
    | [.tuple items] => some (items, rest)
    | all => some (all, rest)

/-- Where output is led, if anywhere. -/
def readLead (depth : Nat) (tokens : List Token) :
    Option (Option (OutputKind × Expr) × List Token) :=
  let lead (kind : OutputKind) (rest : List Token) := do
    let (e, rest) ← readExpr depth true rest
    some (some (kind, e), rest)
  match tokens with
  | .mark ">" :: rest => lead .replace rest
  | .mark ">>" :: rest => lead .append rest
  | .mark "|" :: rest => lead .command rest
  | tokens => some (none, tokens)

/-- A statement that is no more than a line. -/
def readSimple (depth : Nat) : Reader Statement
  | .word "print" :: rest => do
    let (shown, rest) ← readShown depth rest
    let (target, rest) ← readLead depth rest
    some (.print false shown target, rest)
  | .word "printf" :: rest => do
    let (shown, rest) ← readShown depth rest
    let (target, rest) ← readLead depth rest
    if shown.isEmpty then none else some (.print true shown target, rest)
  | .word "delete" :: .identifier array :: .mark "[" :: rest => do
    let (subscripts, rest) ← readMembers (readExpr depth false) "]" rest.length rest
    some (.delete array (some subscripts), rest)
  | .word "delete" :: .identifier array :: rest => some (.delete array none, rest)
  | tokens => do
    let (e, rest) ← readExpr depth false tokens
    some (.evaluate e, rest)

/-- What ends a statement: a semicolon or a line break, or the end of what it is in. -/
def readTerminator : Reader Unit
  | .mark ";" :: rest => some ((), rest)
  | .newline :: rest => some ((), rest)
  | .mark "\x7d" :: rest => some ((), .mark "\x7d" :: rest)
  | [] => some ((), [])
  | _ => none

def skipTerminators : List Token → List Token
  | .mark ";" :: rest => skipTerminators rest
  | .newline :: rest => skipTerminators rest
  | tokens => tokens

/-- A statement that may be left out, before a mark. -/
def readOptional (depth : Nat) (mark : String) (tokens : List Token) :
    Option (Statement × List Token) := do
  let (statement, rest) ← match tokens with
    | .mark m :: _ => if m = mark then some (.block [], tokens) else readSimple depth tokens
    | tokens => readSimple depth tokens
  match rest with
  | .mark m :: rest => if m = mark then some (statement, skipNewlines rest) else none
  | _ => none

/-- A value that may be left out at the end of a statement. -/
def readOptionalValue (depth : Nat) (tokens : List Token) : Option (Option Expr × List Token) :=
  match readTerminator tokens with
  | some _ => some (none, tokens)
  | none => do
    let (e, rest) ← readExpr depth false tokens
    some (some e, rest)

/-- An expression in parentheses. -/
def readCondition (depth : Nat) : Reader Expr
  | .mark "(" :: rest => do
    let (e, rest) ← readExpr depth false rest
    match rest with
    | .mark ")" :: rest => some (e, skipNewlines rest)
    | _ => none
  | _ => none

mutual

/-- A statement, nested up to a depth. -/
def readStatement (deep : Nat) : (depth : Nat) → Reader Statement
  | 0, _ => none
  | n + 1, tokens =>
    let ended (s : Statement) (rest : List Token) := do
      let ((), rest) ← readTerminator rest
      some (s, rest)
    let body (rest : List Token) := readStatement deep n (skipNewlines rest)
    match tokens with
    | .mark "\x7b" :: rest => do
      let (statements, rest) ← readStatements deep n rest
      match rest with
      | .mark "\x7d" :: rest => some (.block statements, rest)
      | _ => none
    | .mark ";" :: rest => some (.block [], rest)
    | .word "if" :: rest => do
      let (condition, rest) ← readCondition deep rest
      let (a, rest) ← body rest
      match skipTerminators rest with
      | .word "else" :: later => do
        let (b, rest) ← body later
        some (.branch condition a b, rest)
      | _ => some (.branch condition a (.block []), rest)
    | .word "while" :: rest => do
      let (condition, rest) ← readCondition deep rest
      let (s, rest) ← body rest
      some (.loop condition s, rest)
    | .word "do" :: rest => do
      let (s, rest) ← body rest
      match skipTerminators rest with
      | .word "while" :: rest => do
        let (condition, rest) ← readCondition deep rest
        some (.bodyFirst s condition, (readTerminator rest).elim rest Prod.snd)
      | _ => none
    | .word "for" :: .mark "(" :: .identifier name :: .word "in" :: .identifier array ::
        .mark ")" :: rest => do
      let (s, rest) ← body rest
      some (.each name array s, rest)
    | .word "for" :: .mark "(" :: rest => do
      let (first, rest) ← readOptional deep ";" rest
      let (condition, rest) ← match rest with
        | .mark ";" :: rest => some (none, skipNewlines rest)
        | rest => do
          let (e, rest) ← readExpr deep false rest
          match rest with
          | .mark ";" :: rest => some (some e, skipNewlines rest)
          | _ => none
      let (after, rest) ← readOptional deep ")" rest
      let (s, rest) ← body rest
      some (.count first condition after s, rest)
    | .word "next" :: rest => ended .next rest
    | .word "nextfile" :: rest => ended .nextFile rest
    | .word "break" :: rest => ended .break_ rest
    | .word "continue" :: rest => ended .continue_ rest
    | .word "exit" :: rest => do
      let (status, rest) ← readOptionalValue deep rest
      ended (.exit status) rest
    | .word "return" :: rest => do
      let (value, rest) ← readOptionalValue deep rest
      ended (.return_ value) rest
    | tokens => do
      let (s, rest) ← readSimple deep tokens
      ended s rest

/-- The statements up to the end of a block. -/
def readStatements (deep : Nat) : (depth : Nat) → Reader (List Statement)
  | 0, _ => none
  | n + 1, tokens =>
    match skipTerminators tokens with
    | [] => some ([], [])
    | .mark "\x7d" :: rest => some ([], .mark "\x7d" :: rest)
    | tokens => do
      let (s, rest) ← readStatement deep n tokens
      let (others, rest) ← readStatements deep n rest
      some (s :: others, rest)

end

/-! ### Programs -/

/-- The names of parameters up to the closing parenthesis. -/
def readParameters : Reader (List Chars)
  | .mark ")" :: rest => some ([], rest)
  | .mark "," :: rest => readParameters rest
  | .newline :: rest => readParameters rest
  | .identifier name :: rest => do
    let (others, rest) ← readParameters rest
    some (name :: others, rest)
  | _ => none

/-- The action at the front of some tokens. -/
def readAction (depth : Nat) : Reader Statement
  | .mark "\x7b" :: rest => readStatement depth depth (.mark "\x7b" :: rest)
  | _ => none

/-- The pattern of a rule that is no word. -/
def readPattern (depth : Nat) (tokens : List Token) : Option (Pattern × List Token) :=
  match tokens with
  | .word "BEGIN" :: rest => some (.begin_, rest)
  | .word "END" :: rest => some (.end_, rest)
  | .mark "\x7b" :: rest => some (.always, .mark "\x7b" :: rest)
  | tokens => do
    let (first, rest) ← readExpr depth false tokens
    match rest with
    | .mark "," :: rest => do
      let (last, rest) ← readExpr depth false (skipNewlines rest)
      some (.range first last, rest)
    | rest => some (.when first, rest)

/-- The rules and functions of a program, at most `n` of them. -/
def readProgram (depth : Nat) : (n : Nat) → List Token → Option Program
  | 0, _ => none
  | n + 1, tokens =>
    let function (name : Chars) (rest : List Token) : Option Program := do
      let (parameters, rest) ← readParameters rest
      let (body, rest) ← readAction depth (skipNewlines rest)
      let others ← readProgram depth n rest
      some { others with functions := { name, parameters, body } :: others.functions }
    match skipTerminators tokens with
    | [] => some ⟨[], []⟩
    | .word "function" :: .callee name :: .mark "(" :: rest => function name rest
    | .word "function" :: .identifier name :: .mark "(" :: rest => function name rest
    | tokens => do
      let (pattern, rest) ← readPattern depth tokens
      let needsAction := match pattern with
        | .begin_ => true
        | .end_ => true
        | _ => false
      match rest with
      | .mark "\x7b" :: _ => do
        let (action, rest) ← readAction depth rest
        let others ← readProgram depth n rest
        some { others with rules := { pattern, action := some action } :: others.rules }
      | rest => do
        let ((), rest) ← readTerminator rest
        let others ← readProgram depth n rest
        if needsAction then none
        else some { others with rules := { pattern, action := none } :: others.rules }

/-- The program that a text is. -/
def Program.parse? (text : Chars) : Option Program := do
  let tokens ← Token.ofText? text
  readProgram (20 * (tokens.length + 2)) (tokens.length + 1) tokens

end Switchboard.Shell.Records
