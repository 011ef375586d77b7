import Switchboard.Shell.Format

/-!
# Arithmetic of the shell

Expressions of integers, names and operators. An expression is read as a whole before it is worked
out: what a condition rules out is read but not worked out, so that it neither fails nor assigns.
Integers have 64 bits and wrap around.
-/

namespace Switchboard.Shell

/-! ### Integers of 64 bits -/

/-- The integer of 64 bits that has the same lowest bits. -/
def wrap (n : Int) : Int :=
  (n + 9223372036854775808) % 18446744073709551616 - 9223372036854775808

/-- The natural number with the bits of an integer. -/
def bitsOf (n : Int) : Nat := (n % 18446744073709551616).toNat

def truth (b : Bool) : Int := if b then 1 else 0

inductive Operator where
  | times
  | divide
  | rest
  | plus
  | minus
  | shiftLeft
  | shiftRight
  | less
  | atMost
  | greater
  | atLeast
  | equal
  | unequal
  | bitAnd
  | bitXor
  | bitOr
  deriving DecidableEq, Repr

/-- What is wrong with an expression. -/
inductive FormulaFault where
  /-- A number or a name should stand somewhere. -/
  | primary
  /-- A parenthesis should be closed. -/
  | closing
  /-- The other branch of a choice should follow. -/
  | colon
  /-- Something follows the expression. -/
  | end_
  | divisionByZero
  /-- The value of a name is no number. -/
  | notNumber (text : Chars)
  | readOnly (name : Chars)
  deriving DecidableEq, Repr

/-- The result of an operator; a quotient by zero has none. Shifts look at six bits of the count. -/
def Operator.apply (o : Operator) (a b : Int) : Except FormulaFault Int :=
  let count := bitsOf b % 64
  match o with
  | .times => .ok (wrap (a * b))
  | .divide => if b = 0 then .error .divisionByZero else .ok (wrap (a.tdiv b))
  | .rest => if b = 0 then .error .divisionByZero else .ok (a.tmod b)
  | .plus => .ok (wrap (a + b))
  | .minus => .ok (wrap (a - b))
  | .shiftLeft => .ok (wrap (a * (Nat.pow 2 count : Nat)))
  | .shiftRight => .ok (a / (Nat.pow 2 count : Nat))
  | .less => .ok (truth (a < b))
  | .atMost => .ok (truth (a ≤ b))
  | .greater => .ok (truth (a > b))
  | .atLeast => .ok (truth (a ≥ b))
  | .equal => .ok (truth (a = b))
  | .unequal => .ok (truth (a ≠ b))
  | .bitAnd => .ok (wrap (Nat.land (bitsOf a) (bitsOf b)))
  | .bitXor => .ok (wrap (Nat.xor (bitsOf a) (bitsOf b)))
  | .bitOr => .ok (wrap (Nat.lor (bitsOf a) (bitsOf b)))

/-! ### Reading -/

/-- A number, a name or a mark of an expression. -/
inductive Symbol where
  | number (value : Int)
  | name (name : Chars)
  | mark (spelling : Chars)
  deriving DecidableEq, Repr

/-- The marks, those of which another is the front after it. -/
def marks : List Chars :=
  ["<<=", ">>=", "||", "&&", "==", "!=", "<=", ">=", "<<", ">>", "*=", "/=", "%=", "+=", "-=", "&=",
    "^=", "|=", "=", "<", ">", "+", "-", "*", "/", "%", "&", "^", "|", "!", "~", "?", ":", "(",
    ")"].map String.toList

/-- The symbols of a text, at most `n`. -/
def readSymbols : (n : Nat) → Chars → Except FormulaFault (List Symbol)
  | 0, _ => .error .primary
  | n + 1, cs =>
    match cs.dropWhile fun c => c = ' ' || c = '\t' || c = '\n' with
    | [] => .ok []
    | c :: cs =>
      if c.isDigit then do
        let (value, rest) := (splitNatural (c :: cs)).getD (0, cs)
        .ok (.number (min maxInteger value) :: (← readSymbols n rest))
      else if c.isAlpha || c = '_' then
        let (name, rest) := (c :: cs).span fun d => d.isAlphanum || d = '_'
        (readSymbols n rest).map (.name name :: ·)
      else match marks.find? fun m => m.isPrefixOf (c :: cs) with
        | some spelling => do
          .ok (.mark spelling :: (← readSymbols n ((c :: cs).drop spelling.length)))
        -- What is no symbol ends the expression.
        | none => .ok [.mark [c]]

/-- An expression. -/
inductive Formula where
  | number (value : Int)
  | name (name : Chars)
  | opposite (a : Formula)
  | complement (a : Formula)
  | isZero (a : Formula)
  | apply (operator : Operator) (a b : Formula)
  | both (a b : Formula)
  | oneOf (a b : Formula)
  | choice (condition a b : Formula)
  /-- Assigns a value, or what an operator makes of the old value and it. -/
  | assign (name : Chars) (operator : Option Operator) (value : Formula)
  deriving Repr

/-- The operators between two numbers by precedence, the weakest first. -/
def operatorLevels : List (List (String × Operator)) :=
  [[("|", .bitOr)], [("^", .bitXor)], [("&", .bitAnd)], [("==", .equal), ("!=", .unequal)],
   [("<", .less), ("<=", .atMost), (">", .greater), (">=", .atLeast)],
   [("<<", .shiftLeft), (">>", .shiftRight)], [("+", .plus), ("-", .minus)],
   [("*", .times), ("/", .divide), ("%", .rest)]]

/-- The operators that an assignment may do before it. -/
def assignments : List (String × Option Operator) :=
  [("=", none), ("*=", some .times), ("/=", some .divide), ("%=", some .rest), ("+=", some .plus),
   ("-=", some .minus), ("<<=", some .shiftLeft), (">>=", some .shiftRight), ("&=", some .bitAnd),
   ("^=", some .bitXor), ("|=", some .bitOr)]

/-- A reader of the front of a list of symbols. -/
abbrev ReadFormula := List Symbol → Except FormulaFault (Formula × List Symbol)

/-- A number, a name, a sign before one, or an expression in parentheses. -/
def readOperand (whole : ReadFormula) : ReadFormula
  | .number v :: rest => .ok (.number v, rest)
  | .name name :: rest => .ok (.name name, rest)
  | .mark ['('] :: rest => do
    match ← whole rest with
    | (a, .mark [')'] :: rest) => .ok (a, rest)
    | _ => .error .closing
  | .mark ['+'] :: rest => readOperand whole rest
  | .mark ['-'] :: rest => (readOperand whole rest).map fun (a, rest) => (.opposite a, rest)
  | .mark ['~'] :: rest => (readOperand whole rest).map fun (a, rest) => (.complement a, rest)
  | .mark ['!'] :: rest => (readOperand whole rest).map fun (a, rest) => (.isZero a, rest)
  | _ => .error .primary

/-- What follows an operand on one level of precedence, from left to right. -/
def readMore (level : List (String × Operator)) (operand : ReadFormula) :
    (fuel : Nat) → Formula → ReadFormula
  | n + 1, a, .mark spelling :: rest =>
    match level.lookup (String.ofList spelling) with
    | some o => do
      let (b, rest) ← operand rest
      readMore level operand n (.apply o a b) rest
    | none => .ok (a, .mark spelling :: rest)
  | _, a, rest => .ok (a, rest)

/-- Operands with operators of the given levels between them. -/
def readLevels (operand : ReadFormula) : List (List (String × Operator)) → ReadFormula
  | [], symbols => operand symbols
  | level :: tighter, symbols => do
    let (a, rest) ← readLevels operand tighter symbols
    readMore level (readLevels operand tighter) rest.length a rest

/-- Operands with one mark between them. -/
def readChain (mark : String) (join : Formula → Formula → Formula) (operand : ReadFormula) :
    (fuel : Nat) → ReadFormula
  | 0, _ => .error .primary
  | n + 1, symbols => do
    let (a, rest) ← operand symbols
    match rest with
    | .mark spelling :: more =>
      if spelling = mark.toList then
        (readChain mark join operand n more).map fun (b, rest) => (join a b, rest)
      else .ok (a, rest)
    | rest => .ok (a, rest)

/-- An expression without an assignment at its front; `whole` reads the expressions inside. -/
def readChoice (whole : ReadFormula) : (fuel : Nat) → ReadFormula
  | 0, _ => .error .primary
  | n + 1, symbols => do
    let operand := readLevels (readOperand whole) operatorLevels
    let both := readChain "&&" .both operand (symbols.length + 1)
    let (a, rest) ← readChain "||" .oneOf both (symbols.length + 1) symbols
    match rest with
    | .mark ['?'] :: rest => do
      match ← whole rest with
      | (b, .mark [':'] :: rest) =>
        (readChoice whole n rest).map fun (c, rest) => (.choice a b c, rest)
      | _ => .error .colon
    | rest => .ok (a, rest)

/-- An expression, nested up to a depth. -/
def readFormula : (depth : Nat) → ReadFormula
  | 0, _ => .error .primary
  | depth + 1, symbols =>
    let plain := readChoice (readFormula depth) (symbols.length + 1) symbols
    match symbols with
    | .name name :: .mark spelling :: rest =>
      match assignments.lookup (String.ofList spelling) with
      | some o => (readFormula depth rest).map fun (a, rest) => (.assign name o a, rest)
      | none => plain
    | _ => plain

/-- The expression that a text is. -/
def Formula.parse (cs : Chars) : Except FormulaFault Formula := do
  let symbols ← readSymbols (cs.length + 1) cs
  match ← readFormula (symbols.length + 1) symbols with
  | (a, []) => .ok a
  | _ => .error .end_

/-! ### Working out -/

/-- The names that an expression uses: their values, if they are numbers, and how they are changed,
if they may be. -/
structure Store (σ : Type) where
  value : σ → Chars → Except FormulaFault Int
  assign : σ → Chars → Int → Except FormulaFault σ

/-- The value of an expression, and the store after it. -/
def Formula.eval {σ : Type} (store : Store σ) : Formula → σ → Except FormulaFault (Int × σ)
  | .number v, s => .ok (v, s)
  | .name x, s => (store.value s x).map (·, s)
  | .opposite a, s => (a.eval store s).map fun (v, s) => (wrap (-v), s)
  | .complement a, s => (a.eval store s).map fun (v, s) => (-v - 1, s)
  | .isZero a, s => (a.eval store s).map fun (v, s) => (truth (v = 0), s)
  | .apply o a b, s => do
    let (v, s) ← a.eval store s
    let (w, s) ← b.eval store s
    .ok (← o.apply v w, s)
  | .both a b, s => do
    let (v, s) ← a.eval store s
    if v = 0 then .ok (0, s) else (b.eval store s).map fun (w, s) => (truth (w ≠ 0), s)
  | .oneOf a b, s => do
    let (v, s) ← a.eval store s
    if v ≠ 0 then .ok (1, s) else (b.eval store s).map fun (w, s) => (truth (w ≠ 0), s)
  | .choice c a b, s => do
    let (v, s) ← c.eval store s
    if v ≠ 0 then a.eval store s else b.eval store s
  | .assign x o a, s => do
    let (v, s) ← a.eval store s
    let v ← match o with
      | none => .ok v
      | some o => o.apply (← store.value s x) v
    .ok (v, ← store.assign s x v)

end Switchboard.Shell
