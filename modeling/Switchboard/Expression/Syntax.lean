/-!
# Regular expressions

The expressions with which a filter describes the values of fields. Only their form matters here:
what they fit is never asked.
-/

namespace Switchboard

/-- What a letter in a list of flags switches. -/
inductive Expression.Flag where
  | caseless
  | multiLine
  | dotFitsAll
  | swapGreed
  | unicode
  | lineBreaks
  /-- Blanks and comments are passed over. -/
  | blanks
  deriving DecidableEq, Repr

namespace Expression

/-- Flags with what they are set to, in the order in which they are given. -/
abbrev Flags := List (Flag × Bool)

/-- A character, and whether it was given as a byte, by two hexadecimal digits. -/
structure Literal where
  char : Char
  isByte : Bool
  deriving DecidableEq, Repr

/-- A place between characters. -/
inductive Look where
  | line
  | text
  /-- A place that has to do with the borders of words. -/
  | word
  deriving DecidableEq, Repr

mutual

/-- A member of a set of characters. -/
inductive Member where
  | single (literal : Literal)
  | range (first last : Literal)
  /-- A class with a name, all of whose members are ASCII, or all other characters. -/
  | named (negated : Bool)
  /-- The digits, the blanks or the characters of words, or all other characters. -/
  | kind (negated : Bool)
  /-- The characters with a property. -/
  | property
  | set (negated : Bool) (members : Members)

/-- The members of a set: those of all its items, or what an operation makes of two such sets. -/
inductive Members where
  | union (items : List Member)
  | combined (left right : Members)

end

/-- What a group of expressions does besides holding them together. -/
inductive Group where
  | captures
  | sets (flags : Flags)
  deriving DecidableEq, Repr

end Expression

/-- A regular expression. -/
inductive Expression where
  | literal (literal : Expression.Literal)
  | anyCharacter
  | look (look : Expression.Look)
  | kind (negated : Bool)
  | property
  | set (negated : Bool) (members : Expression.Members)
  /-- Sets flags for what follows in the group. -/
  | flags (flags : Expression.Flags)
  | repeated (body : Expression)
  | group (group : Expression.Group) (body : Expression)
  | sequence (parts : List Expression)
  | either (branches : List Expression)

namespace Expression

/-- Parts one after the other; a single part stands for itself. -/
def ofParts : List Expression → Expression
  | [part] => part
  | parts => .sequence parts

/-- One branch or another; a single branch stands for itself. -/
def ofBranches : List Expression → Expression
  | [branch] => branch
  | branches => .either branches

end Expression

end Switchboard
