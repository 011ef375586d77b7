import Std.Data.HashMap
import Switchboard.Shell.Records.Value

/-!
# Arrays

The elements of an array have texts or whole numbers as their keys. An array keeps its keys in
chains, into which a hash puts them; what was looked for last comes first in its chain. Keys that
are numbers are in chains of their own until texts are asked for. A program that goes through an
array meets the keys in the order of the chains.
-/

namespace Switchboard.Shell.Records

/-- The key of an element. -/
inductive Key where
  | whole (n : Int)
  | text (text : Chars)
  deriving DecidableEq

def Key.chars : Key → Chars
  | .whole n => decimalChars n
  | .text cs => cs

/-- The key under which the value of an element is kept. -/
def Key.name (key : Key) : String := String.ofList key.chars

structure Table where
  values : Std.HashMap String Value
  /-- The chains of texts, if texts were asked for. -/
  texts : Option (Array (List Chars))
  /-- The chains of numbers. -/
  wholes : Array (List Int)

namespace Table

/-- How many chains there are at first. -/
def leastChains : Nat := 64

/-- How many elements a chain has on the average before there are twice as many chains. -/
def chainLength : Nat := 12

def empty : Table where
  values := ∅
  texts := none
  wholes := Array.replicate leastChains []

instance : Inhabited Table := ⟨empty⟩

def size (t : Table) : Nat := t.values.size

/-- The hash of a text: for each byte one exclusive or and one product. -/
def hash (cs : Chars) : Nat :=
  cs.foldl (fun h c => (h ^^^ c.toNat) * 16777619 % 4294967296) 2166136261

def chains (t : Table) : Nat := t.wholes.size

def textChain (t : Table) (cs : Chars) : Nat := hash cs % t.chains

def wholeChain (t : Table) (n : Int) : Nat := (n % t.chains).toNat

/-- Puts a member at the front of a chain. -/
def pushFront {α : Type} [BEq α] (chains : Array (List α)) (i : Nat) (a : α) : Array (List α) :=
  chains.modify i fun chain => a :: chain.erase a

/-- An array in which texts may be asked for. -/
def withTexts (t : Table) : Table :=
  if t.texts.isSome then t
  else
    let all := t.wholes.toList.flatten.map decimalChars
    let empty : Array (List Chars) := Array.replicate t.chains []
    let texts := all.foldl (fun chains cs => pushFront chains (t.textChain cs) cs) empty
    { t with texts := some texts }

/-- An array with twice as many chains, in which the order of the keys in a chain stays. -/
def double (t : Table) : Table :=
  let chains := 2 * t.chains
  let spread {α : Type} (place : α → Nat) (all : Array (List α)) : Array (List α) :=
    all.foldl (fun made chain =>
      chain.foldl (fun made a => made.modify (place a) (· ++ [a])) made)
      (Array.replicate chains [])
  { t with
    texts := t.texts.map (spread fun cs => hash cs % chains)
    wholes := spread (fun n : Int => (n % chains).toNat) t.wholes }

/-- Makes room for one more element. -/
def grow (t : Table) : Table := if t.chains * chainLength ≤ t.size then t.double else t

/-- Looks for a text, which then comes first in its chain; it is put there if it is new. -/
def touchText (t : Table) (isNew : Bool) (cs : Chars) : Table :=
  let t := t.withTexts
  let t := if isNew then t.grow else t
  let place := t.textChain cs
  { t with texts := t.texts.map fun chains => pushFront chains place cs }

/-- Looks for a key, which then comes first in its chain; it is put there if it is new. -/
def touch (t : Table) (isNew : Bool) : Key → Table
  | .text cs => t.touchText isNew cs
  | .whole n =>
    let isKnown := ((t.wholes[t.wholeChain n]?).map (·.contains n)).getD false
    let t := if isKnown then t
      else if t.texts.isSome then t.touchText isNew (decimalChars n)
      else if isNew then t.grow else t
    let place := t.wholeChain n
    { t with wholes := pushFront t.wholes place n }

/-- Whether an element is there. Looking for it may change the order of the keys. -/
def has (t : Table) (key : Key) : Bool × Table :=
  if t.values.contains key.name then (true, t.touch false key)
  else (false, if key matches .text _ then t.withTexts else t)

/-- The value of an element, which is made if it is not there. -/
def get (t : Table) (key : Key) : Value × Table :=
  match t.values[key.name]? with
  | some v => (v, t.touch false key)
  | none => (.empty, { t.touch true key with values := t.values.insert key.name .empty })

def set (t : Table) (key : Key) (v : Value) : Table :=
  let isNew := !t.values.contains key.name
  { t.touch isNew key with values := t.values.insert key.name v }

def erase (t : Table) (key : Key) : Table :=
  let cs := key.chars
  if !t.values.contains key.name then t
  else
    let values := t.values.erase key.name
    if values.isEmpty then empty
    else
      let t := if key matches .text _ then t.withTexts else t
      { values
        texts := t.texts.map fun all => all.modify (t.textChain cs) (·.erase cs)
        wholes := t.wholes.map fun chain => chain.filter fun n => decimalChars n ≠ cs }

/-- The keys in the order of the chains. -/
def keys (t : Table) : List Chars × Table :=
  let t := t.withTexts
  ((t.texts.getD #[]).toList.flatten, t)

/-- An array of some values, counted from 1. -/
def ofList (values : List Value) : Table :=
  let start : Table := { empty with wholes := chainsFor values.length }
  (values.zipIdx 1).foldl (fun t (v, i) => t.set (.whole i) v) start
where
  /-- As many chains as so many elements need. -/
  chainsFor (n : Nat) : Array (List Int) :=
    Array.replicate (enough 64 n leastChains) []
  enough : (steps n chains : Nat) → Nat
    | 0, _, chains => chains
    | k + 1, n, chains => if chains * chainLength < n then enough k n (2 * chains) else chains

end Table

end Switchboard.Shell.Records
