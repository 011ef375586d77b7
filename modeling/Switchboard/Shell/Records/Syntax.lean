import Switchboard.Shell.Syntax

/-!
# Programs on records

The language of `awk`: a program is a list of rules, each with a pattern that selects records of the
input and an action that is done on them.
-/

namespace Switchboard.Shell.Records

/-- Operations on two numbers. -/
inductive Operation where
  | add
  | subtract
  | multiply
  | divide
  | remainder
  | power
  deriving DecidableEq, Repr

/-- Comparisons of two values. -/
inductive Comparison where
  | less
  | atMost
  | equal
  | unequal
  | greater
  | atLeast
  deriving DecidableEq, Repr

/-- The functions that every program has. -/
inductive Builtin where
  | atan2 | close | cos | exp | flush | index | int | length | log | lower | match_ | rand | sin
  | split | sprintf | sqrt | srand | strftime | mktime | sub (all : Bool) | substr | system
  | systime | upper
  deriving DecidableEq, Repr

mutual

inductive Expr where
  | number (value : Float)
  | text (text : Chars)
  | regex (text : Chars)
  | read (place : Place)
  | assign (place : Place) (operation : Option Operation) (value : Expr)
  /-- Adds a number to what is at a place; the value is what was there before or is there then. -/
  | step (place : Place) (by_ : Float) (isBefore : Bool)
  | operate (operation : Operation) (a b : Expr)
  | negate (a : Expr)
  | toNumber (a : Expr)
  | compare (comparison : Comparison) (a b : Expr)
  | both (a b : Expr)
  | either (a b : Expr)
  | not (a : Expr)
  | join (a b : Expr)
  | fits (negated : Bool) (a b : Expr)
  /-- Whether an array has an element. -/
  | has (subscripts : List Expr) (array : Chars)
  | choose (condition a b : Expr)
  /-- Several values in parentheses. -/
  | tuple (items : List Expr)
  | call (function : Chars) (arguments : List Expr)
  | builtin (function : Builtin) (arguments : List Expr)
  | getline (source : Source) (target : Option Place)

/-- Something that can be assigned to. -/
inductive Place where
  | variable (name : Chars)
  | field (index : Expr)
  | element (array : Chars) (subscripts : List Expr)

/-- Where a record is read from. -/
inductive Source where
  | main
  | file (path : Expr)
  | command (text : Expr)

end

instance : Inhabited Expr := ⟨.text []⟩

/-- Where output goes that is not simply written. -/
inductive OutputKind where
  | replace
  | append
  | command
  deriving DecidableEq, Repr

inductive Statement where
  | evaluate (e : Expr)
  | print (isFormatted : Bool) (arguments : List Expr) (target : Option (OutputKind × Expr))
  | branch (condition : Expr) (a b : Statement)
  | loop (condition : Expr) (body : Statement)
  /-- Does the body once before the condition counts. -/
  | bodyFirst (body : Statement) (condition : Expr)
  | count (first : Statement) (condition : Option Expr) (next body : Statement)
  | each (name array : Chars) (body : Statement)
  | block (statements : List Statement)
  | next
  | nextFile
  | exit (status : Option Expr)
  | return_ (value : Option Expr)
  | break_
  | continue_
  | delete (array : Chars) (subscripts : Option (List Expr))

instance : Inhabited Statement := ⟨.block []⟩

/-- Which records a rule is for. -/
inductive Pattern where
  | begin_
  | end_
  | always
  | when (condition : Expr)
  | range (first last : Expr)

structure Rule where
  pattern : Pattern
  /-- What is done; a record is shown if nothing is said. -/
  action : Option Statement

structure Function where
  name : Chars
  parameters : List Chars
  body : Statement

structure Program where
  rules : List Rule
  functions : List Function

end Switchboard.Shell.Records
