import Switchboard.Expression.Reader

/-!
# Expressions that can be used

An expression is used by turning it into an automaton. That takes characters to be Unicode's unless
a flag says otherwise, without knowing more of Unicode than the numbers of the characters: kinds,
properties and letters of either case are known for ASCII only. What fits must always be whole
characters, so that without Unicode nothing may fit that goes beyond ASCII.
-/

namespace Switchboard.Expression

/-- Why an expression cannot be used. -/
inductive Fault where
  | malformed
  /-- It asks for the borders of words in Unicode. -/
  | wordBorders
  deriving DecidableEq, Repr

def Fault.message : Fault → String
  | .malformed => "error building NFA"
  | .wordBorders =>
    "unsupported regex feature for DFAs: cannot build DFAs for regexes with Unicode word " ++
      "boundaries; switch to ASCII word boundaries, or heuristically enable Unicode word " ++
      "boundaries or use a different regex engine"

/-! ### Depth -/

mutual

def Member.depth : Member → Nat
  | .set _ members => members.depth + 1
  | _ => 0

def Members.depth : Members → Nat
  | .union items => Member.listDepth items
  | .combined left right => max left.depth right.depth + 1

/-- The depth of the items of a union; a single one is no union. -/
def Member.listDepth : List Member → Nat
  | [] => 0
  | [m] => m.depth
  | m :: n :: rest => max (m.depth + 1) (Member.deepest (n :: rest) + 1)

def Member.deepest : List Member → Nat
  | [] => 0
  | m :: rest => max m.depth (Member.deepest rest)

end

mutual

/-- How deep an expression nests. -/
def depth : Expression → Nat
  | .set _ members => members.depth + 1
  | .repeated body => body.depth + 1
  | .group _ body => body.depth + 1
  | .sequence [] => 0
  | .sequence parts => deepest parts + 1
  | .either branches => deepest branches + 1
  | _ => 0

def deepest : List Expression → Nat
  | [] => 0
  | e :: rest => max e.depth (deepest rest)

end

/-- How deep an expression may nest. -/
def maxDepth : Nat := 250

/-! ### Characters -/

/-- What the flags say at some place. -/
structure Setting where
  caseless : Bool
  unicode : Bool
  deriving DecidableEq, Repr

/-- The setting after some flags. -/
def Setting.apply (s : Setting) (flags : Flags) : Setting :=
  { caseless := (flags.lookup .caseless).getD s.caseless
    unicode := (flags.lookup .unicode).getD s.unicode }

/-- Whether a literal can be used by itself. -/
def Setting.allowsLiteral (s : Setting) (l : Literal) : Bool :=
  if s.unicode then !s.caseless else !(l.isByte && 127 < l.char.toNat)

/-- Whether a literal can be a member of a set. -/
def Setting.allowsMember (s : Setting) (l : Literal) : Bool :=
  if s.unicode then !s.caseless else l.char.toNat < 128

/-- Whether a class, or all characters besides it, can be used that is known for ASCII only. -/
def Setting.allowsKind (s : Setting) (negated : Bool) : Bool := !s.unicode && !negated

mutual

def Member.isUsable (s : Setting) : Member → Bool
  | .single l => s.allowsMember l
  | .range first last => s.allowsMember first && s.allowsMember last
  | .named negated => if s.unicode then !s.caseless else !negated
  | .kind negated => s.allowsKind negated
  | .property => false
  | .set negated members => members.isUsable s && (s.unicode || !negated)

def Members.isUsable (s : Setting) : Members → Bool
  | .union items => Member.allUsable s items
  | .combined left right => left.isUsable s && right.isUsable s

def Member.allUsable (s : Setting) : List Member → Bool
  | [] => true
  | m :: rest => m.isUsable s && Member.allUsable s rest

end

/-- What a check has come upon: the setting for what follows, and whether there are borders of words
in Unicode. -/
structure Checked where
  setting : Setting
  wordBorders : Bool
  deriving DecidableEq, Repr

mutual

/-- Checks an expression from left to right. Flags end with the group in which they are set. -/
def check (c : Checked) : Expression → Option Checked
  | .literal l => if c.setting.allowsLiteral l then some c else none
  | .anyCharacter => if c.setting.unicode then some c else none
  | .look .word => some { c with wordBorders := c.wordBorders || c.setting.unicode }
  | .look _ => some c
  | .kind negated => if c.setting.allowsKind negated then some c else none
  | .property => none
  | .set negated members =>
    if members.isUsable c.setting && (c.setting.unicode || !negated) then some c else none
  | .flags fs => some { c with setting := c.setting.apply fs }
  | .repeated body => check c body
  | .group g body => do
    let inner := match g with
      | .captures => c
      | .sets fs => { c with setting := c.setting.apply fs }
    let after ← check inner body
    some { after with setting := c.setting }
  | .sequence parts => checkAll c parts
  | .either branches => checkAll c branches

def checkAll (c : Checked) : List Expression → Option Checked
  | [] => some c
  | e :: rest => do checkAll (← check c e) rest

end

/-- Why the expression in a text cannot be used, if it cannot. -/
def fault? (text : List Char) : Option Fault :=
  match parse? text with
  | none => some .malformed
  | some e =>
    if maxDepth < e.depth then some .malformed
    else
      match check { setting := { caseless := false, unicode := true }, wordBorders := false } e with
      | none => some .malformed
      | some c => if c.wordBorders then some .wordBorders else none

end Switchboard.Expression
