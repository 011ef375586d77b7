import Mathlib.Algebra.Group.Nat.Defs
import Switchboard.Json.Parser

/-!
# The grammar of documents

What the readers accept, said without them. A spelling relates a document, or a part of one, to the
characters that stand for it. Records are given as they are read: the members in ascending order of
their names, the last one written under a name being kept.
-/

namespace Switchboard.Json

open Switchboard.Number

def Blanks (cs : List Char) : Prop := ∀ c ∈ cs, c ∈ [' ', '\n', '\t', '\r']

/-! ### Texts -/

/-- The letters behind a backslash, each with the character it stands for. -/
def letterEscapes : List (Char × Char) :=
  [('"', '"'), ('\\', '\\'), ('/', '/'), ('b', '\x08'), ('f', '\x0c'), ('n', '\n'), ('r', '\r'),
    ('t', '\t')]

/-- A hexadecimal digit, small or capital, and its value. -/
def HexDigit (d : Char) (v : Nat) : Prop := v < 16 ∧ (d = v.digitChar ∨ d = v.digitChar.toUpper)

inductive HexWord : List Char → Nat → Prop where
  | digits {a b c d : Char} {x y z w : Nat} (first : HexDigit a x) (second : HexDigit b y)
      (third : HexDigit c z) (fourth : HexDigit d w) :
      HexWord [a, b, c, d] (x * 16 ^ 3 + y * 16 ^ 2 + z * 16 + w)

/-- The written forms of one character of a text: itself, an escape of one letter, its number, or
the numbers of a leading and a trailing surrogate. A number of a surrogate is no character, so it
does not stand alone. -/
inductive SpellsChar : Char → List Char → Prop where
  | plain {c : Char} (printable : 32 ≤ c.toNat) (noQuote : c ≠ '"') (noBackslash : c ≠ '\\') :
      SpellsChar c [c]
  | letter {c x : Char} (escape : (c, x) ∈ letterEscapes) : SpellsChar x ['\\', c]
  | code {c : Char} {word : List Char} (number : HexWord word c.toNat) :
      SpellsChar c ('\\' :: 'u' :: word)
  | surrogates {c : Char} {first second : List Char} {high low : Nat} (leading : HexWord first high)
      (trailing : HexWord second low) (inLeading : 0xD800 ≤ high ∧ high ≤ 0xDBFF)
      (inTrailing : 0xDC00 ≤ low ∧ low ≤ 0xDFFF)
      (joined : c.toNat = 0x10000 + (high - 0xD800) * 0x400 + (low - 0xDC00)) :
      SpellsChar c ('\\' :: 'u' :: first ++ '\\' :: 'u' :: second)

inductive SpellsText : List Char → List Char → Prop where
  | nil : SpellsText [] []
  | cons {c : Char} {text cs rest : List Char} (first : SpellsChar c cs)
      (others : SpellsText text rest) : SpellsText (c :: text) (cs ++ rest)

def SpellsString (s : String) (cs : List Char) : Prop :=
  ∃ inner, SpellsText s.toList inner ∧ cs = '"' :: inner ++ ['"']

/-! ### Numbers -/

def Digits (ds : List Char) : Prop := ∀ d ∈ ds, '0' ≤ d ∧ d ≤ '9'

/-- The digits before the point: at least one, and a leading zero stands alone. -/
structure WholeDigits (ds : List Char) : Prop where
  digits : Digits ds
  some_digit : ds ≠ []
  zero_alone : ds.head? = some '0' → ds = ['0']

inductive SpellsFraction : List Char → List Char → Prop where
  | none : SpellsFraction [] []
  | some {ds : List Char} (digits : Digits ds) (some_digit : ds ≠ []) :
      SpellsFraction ds ('.' :: ds)

inductive SpellsExponent : Option (Bool × List Char) → List Char → Prop where
  | none : SpellsExponent none []
  | some {mark : Char} {negative : Bool} {sign ds : List Char} (known : mark = 'e' ∨ mark = 'E')
      (signed : sign = ['-'] ∧ negative = true ∨ (sign = ['+'] ∨ sign = []) ∧ negative = false)
      (digits : Digits ds) (some_digit : ds ≠ []) :
      SpellsExponent (some (negative, ds)) (mark :: sign ++ ds)

/-- The parts of a number, in their order. -/
inductive SpellsNumeral : Numeral → List Char → Prop where
  | parts {negative : Bool} {sign whole fraction fs es : List Char}
      {exponent : Option (Bool × List Char)}
      (signed : sign = ['-'] ∧ negative = true ∨ sign = [] ∧ negative = false)
      (wholeDigits : WholeDigits whole) (fractionDigits : SpellsFraction fraction fs)
      (exponentDigits : SpellsExponent exponent es) :
      SpellsNumeral { negative, whole, fraction, exponent } (sign ++ (whole ++ (fs ++ es)))

/-- The integer that the digits before the point make with the sign. -/
def Numeral.integer (n : Numeral) : Int :=
  if n.negative then -Nat.ofDigitChars 10 n.whole 0 else Nat.ofDigitChars 10 n.whole 0

/-- The number a numeral stands for. Without a point and an exponent it is exact, if it fits 64 bits
with or without a sign; of the two zeros, the negative one is a double. All others are doubles. -/
inductive Stands (numeral : Numeral) : Number → Prop where
  | exact (noFraction : numeral.fraction = []) (noExponent : numeral.exponent = none)
      (low : minInt64 ≤ numeral.integer) (high : numeral.integer ≤ maxWord64)
      (notMinusZero : numeral.negative → numeral.integer ≠ 0) :
      Stands numeral (.int numeral.integer)
  | rounded {x : Binary64} (double : numeral.number = .ok (.float x)) : Stands numeral (.float x)

/-! ### Lists and records -/

/-- What stands behind an item: blanks, or a comma and a further item. -/
inductive Further {α : Type} (Item : α → List Char → Prop) : List α → List Char → Prop where
  | none {cs : List Char} (blanks : Blanks cs) : Further Item [] cs
  | next {a : α} {others : List α} {after before cs rest : List Char} (blanks : Blanks after)
      (blanks' : Blanks before) (item : Item a cs) (more : Further Item others rest) :
      Further Item (a :: others) (after ++ ',' :: (before ++ (cs ++ rest)))

/-- Items with commas between them and blanks around each. -/
inductive Separated {α : Type} (Item : α → List Char → Prop) : List α → List Char → Prop where
  | none {cs : List Char} (blanks : Blanks cs) : Separated Item [] cs
  | some {a : α} {others : List α} {before cs rest : List Char} (blanks : Blanks before)
      (item : Item a cs) (more : Further Item others rest) :
      Separated Item (a :: others) (before ++ (cs ++ rest))

/-- A name, a colon with blanks around it, and a value. -/
inductive SpellsMember {α : Type} (Item : α → List Char → Prop) :
    String × α → List Char → Prop where
  | named {name : String} {a : α} {ks before after cs : List Char} (key : SpellsString name ks)
      (blanks : Blanks before) (blanks' : Blanks after) (item : Item a cs) :
      SpellsMember Item (name, a) (ks ++ (before ++ ':' :: (after ++ cs)))

inductive SpellsScalar : Value → List Char → Prop where
  | null : SpellsScalar .null ['n', 'u', 'l', 'l']
  | bool_true : SpellsScalar (.bool true) ['t', 'r', 'u', 'e']
  | bool_false : SpellsScalar (.bool false) ['f', 'a', 'l', 's', 'e']
  | number {numeral : Numeral} {n : Number} {cs : List Char}
      (spelled : SpellsNumeral numeral cs) (stands : Stands numeral n) :
      SpellsScalar (.number n) cs
  | string {s : String} {cs : List Char} (spelled : SpellsString s cs) :
      SpellsScalar (.string s) cs

/-- Lists and records whose parts are spelled as given. -/
inductive SpellsCompound (Part : Value → List Char → Prop) : Value → List Char → Prop where
  | array {items : List Value} {cs : List Char} (spelled : Separated Part items cs) :
      SpellsCompound Part (.array items) ('[' :: (cs ++ [']']))
  | object {written : List (String × Value)} {cs : List Char}
      (spelled : Separated (SpellsMember Part) written cs) :
      SpellsCompound Part (.object (Members.ofList written)) ('\x7b' :: (cs ++ ['\x7d']))

/-- The characters of a document in which at most the given number of lists and records stand in
one another. -/
def Spells : (depth : Nat) → Value → List Char → Prop
  | 0, v, cs => SpellsScalar v cs
  | depth + 1, v, cs => SpellsScalar v cs ∨ SpellsCompound (Spells depth) v cs

def Document (text : String) (v : Value) : Prop :=
  ∃ before cs after, Blanks before ∧ Spells maxDepth v cs ∧ Blanks after ∧
    text.toList = before ++ (cs ++ after)

end Switchboard.Json
