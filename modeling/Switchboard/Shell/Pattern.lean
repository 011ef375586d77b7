import Switchboard.Shell.Syntax

/-!
# Patterns

Sets of characters, and the patterns of the shell, which fit a whole text.
-/

namespace Switchboard.Shell

/-! ### Sets of characters -/

/-- The members of a named class of characters. -/
def classHas (name : Chars) (c : Char) : Bool :=
  match String.ofList name with
  | "digit" => c.isDigit
  | "alpha" => c.isAlpha
  | "alnum" => c.isAlphanum
  | "upper" => c.isUpper
  | "lower" => c.isLower
  | "space" => c = ' ' || ('\t' ≤ c && c ≤ '\r')
  | "blank" => c = ' ' || c = '\t'
  | "xdigit" => c.isDigit || ('a' ≤ c.toLower && c.toLower ≤ 'f')
  | "punct" => c.isAlphanum == false && '!' ≤ c && c ≤ '~'
  | "print" => ' ' ≤ c && c ≤ '~'
  | "graph" => '!' ≤ c && c ≤ '~'
  | "cntrl" => c < ' ' || c = '\x7f'
  | _ => false

/-- The names of the classes. -/
def classNames : List String :=
  ["digit", "alpha", "alnum", "upper", "lower", "space", "blank", "xdigit", "punct", "print",
   "graph", "cntrl"]

/-- A set of characters: ranges and named classes, or all others. -/
structure CharSet where
  negated : Bool
  ranges : List (Char × Char)
  classes : List Chars
  deriving Repr

def CharSet.has (s : CharSet) (c : Char) : Bool :=
  (s.ranges.any (fun (a, b) => a ≤ c && c ≤ b) || s.classes.any (classHas · c)) != s.negated

/-- The members of a set up to its closing bracket, which counts as a member if it comes first. What
is quoted, marked `true`, is nothing but a member. -/
def readSetMembers : (fuel : Nat) → (first : Bool) → CharSet → List (Char × Bool) →
    Option (CharSet × List (Char × Bool))
  | 0, _, _, _ => none
  | n + 1, first, s, cs =>
    let member (c : Char) (rest : List (Char × Bool)) :=
      readSetMembers n false { s with ranges := (c, c) :: s.ranges } rest
    match cs with
    | [] => none
    | (']', false) :: rest => if first then member ']' rest else some (s, rest)
    | ('[', false) :: (':', false) :: rest =>
      let (name, rest) := rest.span (·.1 ≠ ':')
      readSetMembers n false { s with classes := name.map Prod.fst :: s.classes } (rest.drop 2)
    | (a, _) :: ('-', false) :: (b, quoted) :: rest =>
      if b = ']' && !quoted then member a (('-', false) :: (b, quoted) :: rest)
      else readSetMembers n false { s with ranges := (a, b) :: s.ranges } rest
    | (a, _) :: rest => member a rest

/-- The set after an opening bracket; `not` marks a set of all others. -/
def readSet (not : Char) (cs : List (Char × Bool)) : Option (CharSet × List (Char × Bool)) :=
  match cs with
  | (c, quoted) :: rest =>
    if c = not && !quoted then readSetMembers (rest.length + 1) true ⟨true, [], []⟩ rest
    else readSetMembers (cs.length + 1) true ⟨false, [], []⟩ cs
  | [] => none

/-! ### Patterns of the shell -/

inductive Glob where
  | char (c : Char)
  | any
  | many
  | set (s : CharSet)
  deriving Repr

/-- The pattern in a text whose quoted characters, marked `true`, stand for themselves. -/
def readGlob : (fuel : Nat) → List (Char × Bool) → List Glob
  | 0, _ => []
  | n + 1, cs =>
    match cs with
    | [] => []
    | ('*', false) :: rest => .many :: readGlob n rest
    | ('?', false) :: rest => .any :: readGlob n rest
    | ('[', false) :: rest =>
      match readSet '!' rest with
      | some (s, rest) => .set s :: readGlob n rest
      | none => .char '[' :: readGlob n rest
    | (c, _) :: rest => .char c :: readGlob n rest

/-- Whether a pattern fits a whole text. -/
def globMatches : List Glob → Chars → Bool
  | [], cs => cs.isEmpty
  | .char a :: g, c :: cs => a = c && globMatches g cs
  | .any :: g, _ :: cs => globMatches g cs
  | .set s :: g, c :: cs => s.has c && globMatches g cs
  | .many :: g, [] => globMatches g []
  | .many :: g, c :: cs => globMatches g (c :: cs) || globMatches (.many :: g) cs
  | _ :: _, [] => false
termination_by g cs => (g.length, cs.length)

/-- Whether a pattern in a text fits. -/
def fits (pattern : List (Char × Bool)) (text : Chars) : Bool :=
  globMatches (readGlob (pattern.length + 1) pattern) text

end Switchboard.Shell
