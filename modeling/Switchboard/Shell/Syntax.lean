/-!
# The language of the shell

Scripts are lists of pipelines; words are built from literal text and expansions. A text is a list
of characters, each of which stands for one byte.
-/

namespace Switchboard.Shell

/-- A text whose characters stand for bytes. -/
abbrev Chars := List Char

/-- The commands of the shell that are special: they are found before functions, and when one of
them fails, the shell does not go on. -/
def specialNames : List Chars :=
  [".", ":", "break", "continue", "eval", "exec", "exit", "export", "local", "readonly", "return",
   "set", "shift", "times", "trap", "unset"].map String.toList

/-- How pipelines follow one another. -/
inductive Junction where
  | always
  | ifDone
  | ifFailed
  deriving DecidableEq, Repr

/-- What happens to a descriptor of a command. -/
inductive RedirectKind where
  | read
  /-- Writes to an empty file; `forced` says that a file may be there already in any case. -/
  | write (forced : Bool)
  | append
  /-- Reads and writes. -/
  | open_
  /-- The target names another descriptor, or closes this one. -/
  | duplicate
  /-- The target is the input itself. -/
  | here
  deriving DecidableEq, Repr

/-- What is done with the value of a parameter. -/
inductive ParamOp where
  | plain
  | length
  /-- Another text if there is no value; `orEmpty` if an empty value counts as none. -/
  | default_ (orEmpty : Bool)
  | assign (orEmpty : Bool)
  | alternative (orEmpty : Bool)
  /-- There has to be a value. -/
  | require (orEmpty : Bool)
  | trimFront (longest : Bool)
  | trimBack (longest : Bool)
  /-- No operation has this form. -/
  | unknown
  deriving DecidableEq, Repr

mutual

/-- A piece of a word. Quoted pieces are not split. -/
inductive Part where
  | literal (quoted : Bool) (text : Chars)
  | param (quoted : Bool) (name : Chars) (op : ParamOp) (argument : List Part)
  | output (quoted : Bool) (script : List Statement)
  | arithmetic (quoted : Bool) (expression : List Part)
  /-- The home of a user, or of the user whose shell it is. -/
  | home (user : Chars)

inductive Redirect where
  | mk (descriptor : Nat) (kind : RedirectKind) (target : List Part)

inductive Command where
  | simple (assignments : List (Chars × List Part)) (words : List (List Part))
      (redirects : List Redirect)
  | subshell (body : List Statement) (redirects : List Redirect)
  | group (body : List Statement) (redirects : List Redirect)
  /-- Repeats the body as long as the condition succeeds, or until it does. -/
  | loop (untilDone : Bool) (condition body : List Statement) (redirects : List Redirect)
  | branch (cases : List (List Statement × List Statement)) (otherwise : List Statement)
      (redirects : List Redirect)
  /-- Runs the body for each item, or for each argument. -/
  | each (name : Chars) (items : Option (List (List Part))) (body : List Statement)
      (redirects : List Redirect)
  | choose (subject : List Part) (cases : List (List (List Part) × List Statement))
      (redirects : List Redirect)
  | define (name : Chars) (body : Command)
  /-- A command that begins in a line of the script. -/
  | located (line : Nat) (command : Command)

/-- Commands that run side by side, each reading what the one before writes. -/
inductive Pipeline where
  | mk (negated : Bool) (commands : List Command)

inductive Statement where
  | mk (pipelines : List (Junction × Pipeline)) (background : Bool)

end

instance : Inhabited Part := ⟨.literal false []⟩
instance : Inhabited Command := ⟨.simple [] [] []⟩

abbrev Word := List Part
abbrev Script := List Statement

end Switchboard.Shell
