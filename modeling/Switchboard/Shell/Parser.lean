import Switchboard.Shell.Syntax

/-!
# Reading scripts

A reader takes the front of a text and gives what it found with the rest. A text that is no script
may be the front of one: then it is unfinished. Scripts stand in scripts: each reader gets the one
for the scripts inside as its first argument. `fuel` bounds a loop over the text, the size of which
is enough.
-/

namespace Switchboard.Shell

/-- Why a text is no script. -/
structure Trouble where
  /-- Whether it ends too early. -/
  isEnd : Bool
  /-- What is wrong, in words. -/
  what : String
  /-- How many line breaks lie behind the place. -/
  left : Nat
  deriving DecidableEq, Repr

/-- A reader of the front of a text. -/
abbrev ReadFront (α : Type) := Chars → Except Trouble (α × Chars)

/-- Stands at the end of a line for a line below it that has been read already. No script holds
this character. -/
def takenLine : Char := '\x00'

/-- How many line breaks lie behind the front of a text. -/
def linesBehind (cs : Chars) : Nat := cs.countP fun c => c = '\n' || c = takenLine

/-- A text that is nothing that can be read. -/
def malformed {α : Type} (what : String) (cs : Chars) : Except Trouble α :=
  .error ⟨false, what, linesBehind cs⟩

/-- A text that ends inside of something. -/
def unfinished {α : Type} (what : String) : Except Trouble α := .error ⟨true, what, 0⟩

/-- A reader that has gone on for too long. -/
def endless {α : Type} : Except Trouble α := .error ⟨false, "", 0⟩

def isNameStart (c : Char) : Bool := c.isAlpha || c = '_'

def isNameChar (c : Char) : Bool := c.isAlphanum || c = '_'

def isName (cs : Chars) : Bool := (cs.head?.map isNameStart).getD false && cs.all isNameChar

/-- Whether a character ends a word that is not quoted. -/
def isDelimiter (c : Char) : Bool :=
  c = ' ' || c = '\t' || c = '\n' || c = ';' || c = '&' || c = '|' || c = '<' || c = '>' ||
    c = '(' || c = ')' || c = takenLine

/-- Passes over blanks, continued lines and a comment. -/
def skipBlanks : (fuel : Nat) → Chars → Chars
  | 0, cs => cs
  | n + 1, cs =>
    match cs with
    | ' ' :: rest => skipBlanks n rest
    | '\t' :: rest => skipBlanks n rest
    | '\x00' :: rest => skipBlanks n rest
    | '\\' :: '\n' :: rest => skipBlanks n rest
    | '#' :: rest => rest.dropWhile (· ≠ '\n')
    | cs => cs

/-- Passes over blanks and line breaks. -/
def skipLines : (fuel : Nat) → Chars → Chars
  | 0, cs => cs
  | n + 1, cs =>
    match skipBlanks (cs.length + 1) cs with
    | '\n' :: rest => skipLines n rest
    | cs => cs

/-- What stands at the front up to a delimiter: perhaps a reserved word. -/
def frontWord (cs : Chars) : Chars := cs.takeWhile fun c => !isDelimiter c

def reservedEnds : List Chars :=
  ["done", "do", "then", "else", "elif", "fi", "esac", "\x7d"].map String.toList

def reservedWords : List Chars :=
  reservedEnds ++ ["!", "\x7b", "case", "for", "if", "in", "until", "while"].map String.toList

/-- What stands at the front of a text, in words. -/
def tokenName (cs : Chars) : String :=
  let marks : List String := [";;", "&&", "||", ";", "&", "|", "(", ")"]
  match cs with
  | [] => "end of file"
  | '\n' :: _ => "newline"
  | c :: rest =>
    let isDirected (c : Char) : Bool := c = '<' || c = '>'
    let word := frontWord cs
    if isDirected c || (c.isDigit && (rest.head?.map isDirected).getD false) then "redirection"
    else match marks.find? fun m => m.toList.isPrefixOf cs with
      | some m => "\"" ++ m ++ "\""
      | none => if reservedWords.contains word then "\"" ++ String.ofList word ++ "\"" else "word"

/-- What it means that something else stands at the front of the text than what has to be there,
which may have a name. -/
def missing {α : Type} (expected : String) (cs : Chars) : Except Trouble α :=
  let expecting := if expected.isEmpty then "" else " (expecting " ++ expected ++ ")"
  let behind := if cs.head? = some '\n' then cs.drop 1 else cs
  .error ⟨cs.isEmpty, tokenName cs ++ " unexpected" ++ expecting, linesBehind behind⟩

/-- Whether a list of statements ends here. -/
def atListEnd (cs : Chars) : Bool :=
  match cs with
  | [] => true
  | ')' :: _ => true
  | ';' :: ';' :: _ => true
  | cs => reservedEnds.contains (frontWord cs)

/-- Takes a reserved word from the front, if it is there. -/
def takeWord? (word : String) (cs : Chars) : Option Chars :=
  let cs := skipLines (cs.length + 1) cs
  if frontWord cs = word.toList then some (cs.drop word.length) else none

/-- Takes a reserved word from the front. -/
def expectWord (word : String) (cs : Chars) : Except Trouble Chars :=
  match takeWord? word cs with
  | some rest => .ok rest
  | none => missing ("\"" ++ word ++ "\"") (skipLines (cs.length + 1) cs)

def expectChar (c : Char) (cs : Chars) : Except Trouble Chars :=
  match skipLines (cs.length + 1) cs with
  | d :: rest => if d = c then .ok rest else missing ("\"" ++ c.toString ++ "\"") (d :: rest)
  | [] => missing ("\"" ++ c.toString ++ "\"") []

/-- The number that a run of digits before a redirection stands for. -/
def digitsValue (cs : Chars) : Nat := cs.foldl (fun n c => 10 * n + (c.toNat - '0'.toNat)) 0

/-- The text up to an unescaped backquote, the escapes in it undone. -/
def readBackquoted : ReadFront Chars
  | '\x60' :: rest => .ok ([], rest)
  | '\\' :: c :: rest => do
    let (text, rest) ← readBackquoted rest
    .ok (if c = '\x60' || c = '\\' || c = '$' then c :: text else '\\' :: c :: text, rest)
  | c :: rest => do
    let (text, rest) ← readBackquoted rest
    .ok (c :: text, rest)
  | [] => unfinished "EOF in backquote substitution"

/-- The expression up to two closing parentheses that were not opened in it. -/
def readArithmetic : (depth : Nat) → ReadFront Chars
  | 0, ')' :: ')' :: rest => .ok ([], rest)
  | depth, '(' :: rest => do
    let (text, rest) ← readArithmetic (depth + 1) rest
    .ok ('(' :: text, rest)
  | depth + 1, ')' :: rest => do
    let (text, rest) ← readArithmetic depth rest
    .ok (')' :: text, rest)
  | depth, c :: rest => do
    let (text, rest) ← readArithmetic depth rest
    .ok (c :: text, rest)
  | _, [] => unfinished "Missing '))'"

/-- The operation on a parameter, as far as it is written before its argument. -/
def readParamOp : Chars → ParamOp × Chars
  | ':' :: '-' :: rest => (.default_ true, rest)
  | ':' :: '=' :: rest => (.assign true, rest)
  | ':' :: '+' :: rest => (.alternative true, rest)
  | ':' :: '?' :: rest => (.require true, rest)
  | ':' :: _ :: rest => (.unknown, rest)
  | '-' :: rest => (.default_ false, rest)
  | '=' :: rest => (.assign false, rest)
  | '+' :: rest => (.alternative false, rest)
  | '?' :: rest => (.require false, rest)
  | '#' :: '#' :: rest => (.trimFront true, rest)
  | '#' :: rest => (.trimFront false, rest)
  | '%' :: '%' :: rest => (.trimBack true, rest)
  | '%' :: rest => (.trimBack false, rest)
  | '\x7d' :: rest => (.plain, '\x7d' :: rest)
  | rest => (.unknown, rest)

/-- Whether quotes in the argument of an operation quote even if the whole is quoted. -/
def ParamOp.isTrim : ParamOp → Bool
  | .trimFront _ => true
  | .trimBack _ => true
  | _ => false

/-- The name of a parameter: a name, a number or one special character. -/
def readParamName? : Chars → Option (Chars × Chars)
  | [] => none
  | c :: rest =>
    if isNameStart c then some ((c :: rest).span isNameChar)
    else if c.isDigit || "#?$!@*-".toList.contains c then some ([c], rest)
    else none

/-- The lines of an input given in the script, up to the line that ends it, or the end of all if
`isAll` says that it is that. -/
def readHereLines (mark : Chars) (stripTabs isAll : Bool) : (fuel : Nat) → ReadFront Chars
  | 0, _ => endless
  | n + 1, cs =>
    match cs with
    | [] => if isAll then .ok ([], []) else unfinished ""
    | cs => do
      let (line, rest) := cs.span (· ≠ '\n')
      let line := if stripTabs then line.dropWhile (· = '\t') else line
      if line = mark then .ok ([], rest.drop 1)
      else do
        let (text, after) ← readHereLines mark stripTabs isAll n (rest.drop 1)
        .ok (line ++ rest.take 1 ++ text, after)

/-! ### Words -/

/-- Where the pieces of a word stand. -/
inductive Place where
  /-- Up to a delimiter that is not quoted. -/
  | word
  /-- Up to the closing quote. -/
  | quotes
  /-- Up to the end, as if quoted, but with double quotes as plain text. -/
  | whole
  /-- Up to the closing brace of an expansion. -/
  | brace (quoted : Bool)
  deriving DecidableEq, Repr

namespace Place

def isQuoted : Place → Bool
  | .word => false
  | .quotes => true
  | .whole => true
  | .brace quoted => quoted

/-- Whether a character ends the pieces. -/
def endsAt (p : Place) (c : Char) : Bool :=
  match p with
  | .word => isDelimiter c
  | .quotes => c = '"'
  | .whole => false
  | .brace _ => c = '\x7d'

/-- Whether a character after a backslash is taken as it stands, without the backslash. -/
def unescapes (p : Place) (c : Char) : Bool :=
  !p.isQuoted || c = '$' || c = '\x60' || (c = '"' && p ≠ .whole) || c = '\\' || p.endsAt c

/-- Whether a character begins something other than plain text. -/
def breaksAt (p : Place) (c : Char) : Bool :=
  p.endsAt c || c = '\\' || c = '$' || c = '\x60' || (c = '"' && p ≠ .whole) ||
    (c = '\'' && !p.isQuoted)

/-- What it means that the end of the pieces is missing. -/
def endMissing : Place → String
  | .brace false => "Missing '\x7d'"
  | _ => "Unterminated quoted string"

/-- The text after the end of the pieces: a closing mark is passed over, a delimiter is not. -/
def leave : Place → Chars → Chars
  | .word, cs => cs
  | _, cs => cs.drop 1

end Place

/-- How what stands inside of a text is read. -/
structure Inner where
  /-- A script in a text with the given last line. -/
  scriptIn : (lastLine : Nat) → ReadFront Script
  /-- Whether no more text follows, so that its end is the end of everything. -/
  isAll : Bool
  /-- The number of the last line of the text. -/
  lastLine : Nat
  /-- The texts that stand for the names of commands. -/
  aliases : List (Chars × Chars)

namespace Inner

/-- A script inside. -/
def script (inner : Inner) : ReadFront Script := inner.scriptIn inner.lastLine

/-- What was found in a part of the text that has a last line of its own, the trouble placed in the
whole. -/
def placed {α : Type} (inner : Inner) (ownLast : Nat) (found : Except Trouble α) :
    Except Trouble α :=
  found.mapError fun trouble =>
    { trouble with left := inner.lastLine - (ownLast - trouble.left) }

/-- The script at the front of a text in backquotes, the lines of which are counted on their own.
What follows it in the text does not matter. -/
def backquoted (inner : Inner) (text : Chars) : Except Trouble Script :=
  let ownLast := linesBehind text + 1
  match inner.placed ownLast (inner.scriptIn ownLast text) with
  | .ok (body, _) => .ok body
  | .error trouble => .error { trouble with isEnd := false }

end Inner

/-- A text with the names at its front replaced by what they stand for, in at most `n` steps. No
name is replaced in its own text; behind a text that ends with a blank, the next word is replaced as
well. -/
def Inner.replaceAliases (inner : Inner) : (n : Nat) → (used : List Chars) → Chars → Chars
  | 0, _, cs => cs
  | n + 1, used, cs =>
    let name := frontWord cs
    match inner.aliases.lookup name with
    | some text =>
      if used.contains name then cs
      else
        let rest := cs.drop name.length
        let goesOn := text.getLast? = some ' ' || text.getLast? = some '\t'
        let rest := if goesOn then
            inner.replaceAliases n [] (skipBlanks (rest.length + 1) rest)
          else rest
        inner.replaceAliases n (name :: used) (skipBlanks (text.length + 1) text ++ rest)
    | none => cs

/-- How often names are replaced at most in one command. -/
def aliasBound : Nat := 100

/-- The expansion after a dollar sign. -/
def readDollar (inner : Inner) (parts : Place → ReadFront Word) (quoted : Bool) :
    ReadFront Part
  | '(' :: '(' :: rest => do
    let (text, rest) ← readArithmetic 0 rest
    match parts .whole text with
    | .ok (expression, _) => .ok (.arithmetic quoted expression, rest)
    | .error trouble => .error { trouble with isEnd := false }
  | '(' :: rest => do
    let (body, rest) ← inner.script rest
    let rest ← expectChar ')' rest
    .ok (.output quoted body, rest)
  | '\x7b' :: rest =>
    let (isLength, rest) := match rest with
      | '#' :: c :: d :: rest =>
        if isNameChar c || (c ≠ '\x7d' && d = '\x7d') then (true, c :: d :: rest)
        else (false, '#' :: c :: d :: rest)
      | rest => (false, rest)
    let (name, rest) := match rest.span Char.isDigit with
      | ([], _) => (readParamName? rest).getD ([], rest)
      | (digits, rest) => (digits, rest)
    let (op, rest) : ParamOp × Chars := match isLength, rest with
      | true, '\x7d' :: rest => (.length, '\x7d' :: rest)
      | true, rest => (.unknown, rest)
      | false, rest => readParamOp rest
    let op : ParamOp := if name.isEmpty then .unknown else op
    do
      let (argument, rest) ← parts (.brace (quoted && !op.isTrim)) rest
      .ok (.param quoted name op argument, rest)
  | cs =>
    match readParamName? cs with
    | some (name, rest) => .ok (.param quoted name .plain [], rest)
    | none => .ok (.literal quoted ['$'], cs)

/-- Whether quotes hold text in any case, or the arguments, of which there may be none. -/
def needsNoText (held : Word) : Bool :=
  match held with
  | [.param _ ['@'] .plain _] => true
  | held => held.any fun
    | .literal _ text => !text.isEmpty
    | _ => false

/-- The pieces of a word. Quotes that hold nothing still make a word. -/
def readParts (inner : Inner) : (fuel : Nat) → Place → ReadFront Word
  | 0, _, _ => endless
  | n + 1, place, cs =>
    let quoted := place.isQuoted
    let add (found : Except Trouble (Word × Chars)) : Except Trouble (Word × Chars) := do
      let (first, rest) ← found
      let (others, rest) ← readParts inner n place rest
      .ok (first ++ others, rest)
    match cs with
    | [] => if place = .word || place = .whole then .ok ([], []) else unfinished place.endMissing
    | '\\' :: '\n' :: rest => readParts inner n place rest
    | c :: rest =>
      if place.endsAt c then .ok ([], place.leave cs)
      else match c, rest with
        | '\\', d :: rest =>
          add (.ok ([.literal true (if place.unescapes d then [d] else ['\\', d])], rest))
        | '\'', rest =>
          if quoted then add (.ok ([.literal true ['\'']], rest))
          else
            match rest.span (· ≠ '\'') with
            | (text, _ :: rest) => add (.ok ([.literal true text], rest))
            | (_, []) => unfinished Place.quotes.endMissing
        | '"', rest =>
          if place = .whole then add (.ok ([.literal true ['"']], rest))
          else add do
            let (held, rest) ← readParts inner n .quotes rest
            .ok (if needsNoText held then held else held ++ [.literal true []], rest)
        | '$', rest =>
          add do
            let (part, rest) ← readDollar inner (readParts inner n) quoted rest
            .ok ([part], rest)
        | '\x60', rest => add do
          let (text, rest) ← readBackquoted rest
          .ok ([.output quoted (← inner.backquoted text)], rest)
        | _, _ =>
          let (text, rest) := cs.span fun d => !place.breaksAt d
          if text.isEmpty then add (.ok ([.literal quoted [c]], cs.drop 1))
          else add (.ok ([.literal quoted text], rest))

/-- A literal text with the homes in it that begin where `begins` says, and, in an assignment, after
each colon. `ends` says that nothing else follows in the word. -/
def withHomes (inAssignment ends : Bool) : (fuel : Nat) → (begins : Bool) → Chars → Word
  | 0, _, cs => [.literal false cs]
  | n + 1, begins, cs =>
    let (front, rest) := if inAssignment then cs.span (· ≠ ':') else (cs, [])
    let first : Word := match begins, front with
      | true, '~' :: name =>
        let (user, path) := name.span (· ≠ '/')
        if path.isEmpty && rest.isEmpty && !ends then [.literal false front]
        else [.home user, .literal false path]
      | _, front => [.literal false front]
    match rest with
    | [] => first
    | colon :: rest => first ++ .literal false [colon] :: withHomes inAssignment ends n true rest

/-- A word with the homes in it. -/
def addHomes (inAssignment : Bool) : (begins : Bool) → Word → Word
  | _, [] => []
  | begins, .literal false text :: rest =>
    withHomes inAssignment rest.isEmpty (text.length + 1) begins text ++
      addHomes inAssignment (inAssignment && text.getLast? = some ':') rest
  | _, part :: rest => part :: addHomes inAssignment false rest

/-- The word at the front, after blanks; `expected` says what has to be there. -/
def readExpected (expected : String) (inner : Inner) : ReadFront Word := fun cs =>
  let cs := skipBlanks (cs.length + 1) cs
  if (cs.head?.map isDelimiter).getD true then missing expected cs
  else do
    let (word, rest) ← readParts inner (2 * cs.length + 2) .word cs
    .ok (addHomes false true word, rest)

/-- The word at the front, after blanks. -/
def readWord (inner : Inner) : ReadFront Word := readExpected "" inner

/-! ### Redirections and simple commands -/

/-- A text up to the end of its first line, with what follows it. A line break that is quoted or
continued ends no line; `quote` is the quote that is open, `isFresh` whether a comment may begin. -/
def spanLine : (quote : Option Char) → (isFresh : Bool) → Chars → Chars × Chars
  | _, _, [] => ([], [])
  | some '\'', _, c :: rest =>
    let (line, rest) := spanLine (if c = '\'' then none else some '\'') false rest
    (c :: line, rest)
  | quote, _, '\\' :: c :: rest =>
    let (line, rest) := spanLine quote false rest
    ('\\' :: c :: line, rest)
  | some mark, _, c :: rest =>
    let (line, rest) := spanLine (if c = mark then none else some mark) false rest
    (c :: line, rest)
  | none, isFresh, c :: rest =>
    if c = '\n' then ([], c :: rest)
    else if c = '#' && isFresh then (c :: rest).span (· ≠ '\n')
    else
      let opened := if c = '\'' || c = '"' then some c else none
      let (line, rest) := spanLine opened (isDelimiter c) rest
      (c :: line, rest)

/-- The input that is given in the lines below, which are taken out of the text. -/
def readHere (inner : Inner) (stripTabs : Bool) (fd : Nat) : ReadFront Redirect :=
  fun cs => do
    let (word, rest) ← readWord inner cs
    let mark := word.flatMap fun
      | .literal _ text => text
      | .home user => '~' :: user
      | _ => []
    let isQuoted := word.any fun
      | .literal quoted _ => quoted
      | _ => false
    let (line, below) := spanLine none true rest
    let lines := below.drop 1
    let (text, rest) ← readHereLines mark stripTabs inner.isAll (below.length + 1) lines
    let ownLast := inner.lastLine - linesBehind lines + linesBehind text
    let inner' := { inner with lastLine := ownLast }
    let body ←
      if isQuoted then .ok [Part.literal true text]
      else
        (inner.placed ownLast (readParts inner' (2 * text.length + 2) .whole text)).map Prod.fst
    let taken := List.replicate (linesBehind lines - linesBehind rest) takenLine
    .ok (.mk fd .here body, line ++ taken ++ (if below.isEmpty then [] else '\n' :: rest))

/-- The redirection at the front, if there is one. -/
def readRedirect (inner : Inner) (cs : Chars) :
    Except Trouble (Option (Redirect × Chars)) :=
  let (digits, rest) := cs.span Char.isDigit
  let fd (default : Nat) := if digits.isEmpty then default else digitsValue digits
  let target (default : Nat) (kind : RedirectKind) (rest : Chars) :
      Except Trouble (Option (Redirect × Chars)) := do
    let (word, rest) ← readWord inner rest
    .ok (some (Redirect.mk (fd default) kind word, rest))
  if digits.length > 1 then .ok none
  else match rest with
    | '<' :: '<' :: '-' :: rest => (readHere inner true (fd 0) rest).map some
    | '<' :: '<' :: rest => (readHere inner false (fd 0) rest).map some
    | '<' :: '&' :: rest => target 0 .duplicate rest
    | '<' :: '>' :: rest => target 0 .open_ rest
    | '<' :: rest => target 0 .read rest
    | '>' :: '&' :: rest => target 1 .duplicate rest
    | '>' :: '>' :: rest => target 1 .append rest
    | '>' :: '|' :: rest => target 1 (.write true) rest
    | '>' :: rest => target 1 (.write false) rest
    | _ => .ok none

/-- All redirections at the front. -/
def readRedirects (inner : Inner) : (fuel : Nat) → ReadFront (List Redirect)
  | 0, _ => endless
  | n + 1, cs => do
    let cs := skipBlanks (cs.length + 1) cs
    match ← readRedirect inner cs with
    | some (r, rest) => do
      let (more, rest) ← readRedirects inner n rest
      .ok (r :: more, rest)
    | none => .ok ([], cs)

/-- The assignment at the front, if there is one. -/
def readAssignment (inner : Inner) (cs : Chars) :
    Except Trouble (Option ((Chars × Word) × Chars)) :=
  match cs.span isNameChar with
  | (c :: name, '=' :: rest) =>
    if isNameStart c then do
      let (value, rest) ← readParts inner (2 * rest.length + 2) .word rest
      .ok (some ((c :: name, addHomes true true value), rest))
    else .ok none
  | _ => .ok none

/-- What it means that a parenthesis follows a word that is no name of a function. -/
def badDefinition {α : Type} (cs : Chars) : Except Trouble α :=
  match skipBlanks (cs.length + 1) cs with
  | ')' :: rest => malformed "Bad function name" rest
  | rest => missing "\")\"" rest

/-- The assignments, words and redirections of a simple command. Once there is a word, no assignment
follows. `isLone` says that nothing but one word has been read at most. -/
def readSimple (inner : Inner) : (fuel : Nat) → (named isLone : Bool) → ReadFront Command
  | 0, _, _, _ => endless
  | n + 1, named, isLone, cs => do
    let cs := skipBlanks (cs.length + 1) cs
    match ← readRedirect inner cs with
    | some (r, rest) =>
      match ← readSimple inner n named false rest with
      | (.simple assignments words redirects, rest) =>
        .ok (.simple assignments words (r :: redirects), rest)
      | _ => endless
    | none =>
      if cs.head? = some '(' then
        if named && isLone then badDefinition (cs.drop 1) else missing "" cs
      else if (cs.head?.map isDelimiter).getD true then .ok (.simple [] [] [], cs)
      else do
        let assigned ← if named then .ok none else readAssignment inner cs
        match assigned with
        | some (a, rest) =>
          let rest := inner.replaceAliases aliasBound [] (skipBlanks (rest.length + 1) rest)
          match ← readSimple inner n false false rest with
          | (.simple assignments words redirects, rest) =>
            .ok (.simple (a :: assignments) words redirects, rest)
          | _ => endless
        | none => do
          let (word, rest) ← readWord inner cs
          match ← readSimple inner n true (isLone && !named) rest with
          | (.simple assignments words redirects, rest) =>
            .ok (.simple assignments (word :: words) redirects, rest)
          | _ => endless

/-! ### Compound commands -/

/-- A script that is not empty, after which something is expected. -/
def readSome (inner : Inner) (expected : String) : ReadFront Script := fun cs => do
  let (body, rest) ← inner.script cs
  if body.isEmpty then missing (if rest.isEmpty then expected else "") rest
  else .ok (body, rest)

/-- The body of a loop between its two reserved words. -/
def readBody (inner : Inner) : ReadFront Script := fun cs => do
  let (body, rest) ← readSome inner "\"done\"" (← expectWord "do" cs)
  .ok (body, ← expectWord "done" rest)

/-- The conditions and bodies of a branching command after its first word, and what is left if no
condition holds. -/
def readBranches (inner : Inner) :
    (fuel : Nat) → ReadFront (List (Script × Script) × Script)
  | 0, _ => endless
  | n + 1, cs => do
    let (condition, rest) ← readSome inner "\"then\"" cs
    let (body, rest) ← readSome inner "\"fi\"" (← expectWord "then" rest)
    match takeWord? "elif" rest, takeWord? "else" rest with
    | some rest, _ => do
      let ((more, otherwise), rest) ← readBranches inner n rest
      .ok (((condition, body) :: more, otherwise), rest)
    | none, some rest => do
      let (otherwise, rest) ← readSome inner "\"fi\"" rest
      .ok (([(condition, body)], otherwise), ← expectWord "fi" rest)
    | none, none => do
      .ok (([(condition, body)], []), ← expectWord "fi" rest)

/-- A pattern. A closing parenthesis in its place is taken for one. -/
def readOnePattern (inner : Inner) : ReadFront Word := fun cs =>
  match skipBlanks (cs.length + 1) cs with
  | ')' :: rest => .ok ([.literal false [')']], rest)
  | cs => readExpected "\")\"" inner cs

/-- The patterns of one case, up to the closing parenthesis. -/
def readPatterns (inner : Inner) : (fuel : Nat) → ReadFront (List Word)
  | 0, _ => endless
  | n + 1, cs => do
    let (word, rest) ← readOnePattern inner cs
    match skipBlanks (rest.length + 1) rest with
    | '|' :: rest => do
      let (more, rest) ← readPatterns inner n rest
      .ok (word :: more, rest)
    | ')' :: rest => .ok ([word], rest)
    | rest => missing "\")\"" rest

/-- The cases of a choice, up to its last word. -/
def readChoices (inner : Inner) :
    (fuel : Nat) → ReadFront (List (List Word × Script))
  | 0, _ => endless
  | n + 1, cs =>
    match takeWord? "esac" cs with
    | some rest => .ok ([], rest)
    | none => do
      let cs := match skipLines (cs.length + 1) cs with
        | '(' :: rest => rest
        | cs => cs
      let (patterns, rest) ← readPatterns inner (cs.length + 1) cs
      let (body, rest) ← inner.script rest
      match skipLines (rest.length + 1) rest with
      | ';' :: ';' :: rest => do
        let (more, rest) ← readChoices inner n rest
        .ok ((patterns, body) :: more, rest)
      | rest =>
        match takeWord? "esac" rest with
        | some rest => .ok ([(patterns, body)], rest)
        | none => missing "\";;\"" rest

/-- The words of a list of items, up to the end of the line. -/
def readItems (inner : Inner) : (fuel : Nat) → ReadFront (List Word)
  | 0, _ => endless
  | n + 1, cs =>
    match skipBlanks (cs.length + 1) cs with
    | ';' :: rest => .ok ([], rest)
    | '\n' :: rest => .ok ([], rest)
    | cs => do
      let (word, rest) ← readWord inner cs
      let (more, rest) ← readItems inner n rest
      .ok (word :: more, rest)

/-- The name, items and body of a loop over items, after its first word. -/
def readEach (inner : Inner) : ReadFront (List Redirect → Command) := fun cs => do
  let (name, rest) := (skipBlanks (cs.length + 1) cs).span isNameChar
  if !isName name then malformed "Bad for loop variable" rest
  else match takeWord? "in" rest with
    | some rest => do
      let (items, rest) ← readItems inner (rest.length + 1) rest
      let (body, rest) ← readBody inner rest
      .ok (.each name (some items) body, rest)
    | none => do
      let rest := match skipBlanks (rest.length + 1) rest with
        | ';' :: rest => rest
        | rest => rest
      let (body, rest) ← readBody inner rest
      .ok (.each name none body, rest)

/-- A compound command without its redirections, if there is one at the front. -/
def readCompound (inner : Inner) (cs : Chars) :
    Except Trouble (Option ((List Redirect → Command) × Chars)) :=
  let word := frontWord cs
  let rest := cs.drop word.length
  let isWord (w : String) : Bool := word = w.toList
  match cs with
  | '(' :: rest => do
    let (body, rest) ← readSome inner "\")\"" rest
    .ok (some (.subshell body, ← expectChar ')' rest))
  | _ =>
    if isWord "\x7b" then do
      let (body, rest) ← readSome inner "\"\x7d\"" rest
      .ok (some (.group body, ← expectWord "\x7d" rest))
    else if isWord "while" || isWord "until" then do
      let (condition, rest) ← readSome inner "\"do\"" rest
      let (body, rest) ← readBody inner rest
      .ok (some (.loop (isWord "until") condition body, rest))
    else if isWord "if" then do
      let ((cases, otherwise), rest) ← readBranches inner (rest.length + 1) rest
      .ok (some (.branch cases otherwise, rest))
    else if isWord "for" then (readEach inner rest).map some
    else if isWord "case" then do
      let (subject, rest) ← readExpected "word" inner rest
      let rest ← expectWord "in" rest
      let (cases, rest) ← readChoices inner (rest.length + 1) rest
      .ok (some (.choose subject cases, rest))
    else if reservedWords.contains word then missing "" cs
    else .ok none

/-- A compound command with its redirections, or a simple one. -/
def readCommand (inner : Inner) : ReadFront Command := fun cs => do
  let line := inner.lastLine - linesBehind cs
  match ← readCompound inner cs with
  | some (make, rest) => do
    let (redirects, rest) ← readRedirects inner (rest.length + 1) rest
    .ok (.located line (make redirects), rest)
  | none =>
    match ← readSimple inner (2 * cs.length + 2) false true cs with
    | (.simple [] [] [], rest) => missing "" rest
    | (command, rest) => .ok (.located line command, rest)

/-- The name of a function that is defined here, if one is, with what follows the parenthesis. -/
def takeDefinition? (cs : Chars) : Option (Chars × Chars) :=
  let word := frontWord cs
  let rest := cs.drop word.length
  let isPlain := word.all fun c =>
    c ≠ '$' && c ≠ '\x60' && c ≠ '"' && c ≠ '\\' && c ≠ '\'' && c ≠ '=' && c ≠ '#'
  match skipBlanks (rest.length + 1) rest with
  | '(' :: rest =>
    if word.isEmpty || reservedWords.contains word || !isPlain then none else some (word, rest)
  | _ => none

/-- The definition of a function, or a command. -/
def readDefinition (inner : Inner) : ReadFront Command := fun cs =>
  match takeDefinition? cs with
  | some (name, rest) =>
    match skipBlanks (rest.length + 1) rest with
    | ')' :: rest =>
      if isName name && !specialNames.contains name then do
        let (body, rest) ← readCommand inner (skipLines (rest.length + 1) rest)
        .ok (.define name body, rest)
      else malformed "Bad function name" rest
    | rest => missing "\")\"" rest
  | none => readCommand inner cs

/-! ### Lists -/

/-- The commands of a pipeline. -/
def readPipeline (inner : Inner) : (fuel : Nat) → ReadFront (List Command)
  | 0, _ => endless
  | n + 1, cs => do
    let cs := inner.replaceAliases aliasBound [] (skipLines (cs.length + 1) cs)
    let (command, rest) ← readDefinition inner cs
    match skipBlanks (rest.length + 1) rest with
    | '|' :: '|' :: rest => .ok ([command], '|' :: '|' :: rest)
    | '|' :: rest => do
      let (more, rest) ← readPipeline inner n rest
      .ok (command :: more, rest)
    | rest => .ok ([command], rest)

/-- Pipelines that hang on one another. -/
def readJoined (inner : Inner) :
    (fuel : Nat) → Junction → ReadFront (List (Junction × Pipeline))
  | 0, _, _ => endless
  | n + 1, junction, cs => do
    let cs := skipLines (cs.length + 1) cs
    let (negated, cs) := match takeWord? "!" cs with
      | some rest => (true, skipBlanks (rest.length + 1) rest)
      | none => (false, cs)
    let (commands, rest) ← readPipeline inner (cs.length + 1) cs
    let first := (junction, Pipeline.mk negated commands)
    match skipBlanks (rest.length + 1) rest with
    | '&' :: '&' :: rest => do
      let (more, rest) ← readJoined inner n .ifDone rest
      .ok (first :: more, rest)
    | '|' :: '|' :: rest => do
      let (more, rest) ← readJoined inner n .ifFailed rest
      .ok (first :: more, rest)
    | rest => .ok ([first], rest)

/-- Statements up to the end of the list that they make up, or, if `oneLine` says so, up to the end
of a line, where nothing else may end them. -/
def readStatements (inner : Inner) (oneLine : Bool) : (fuel : Nat) → ReadFront Script
  | 0, _ => endless
  | n + 1, cs =>
    let cs := if oneLine then skipBlanks (cs.length + 1) cs else skipLines (cs.length + 1) cs
    let goOn (first : Statement) (rest : Chars) : Except Trouble (Script × Chars) := do
      let (more, rest) ← readStatements inner oneLine n rest
      .ok (first :: more, rest)
    let ends (last : Script) (rest : Chars) : Except Trouble (Script × Chars) :=
      if oneLine && !rest.isEmpty then missing "" rest else .ok (last, rest)
    if atListEnd cs then ends [] cs
    else if cs.head? = some '\n' then .ok ([], cs.drop 1)
    else do
      let (pipelines, rest) ← readJoined inner (cs.length + 1) .always cs
      match skipBlanks (rest.length + 1) rest with
      | '&' :: rest => goOn (.mk pipelines true) rest
      | ';' :: ';' :: rest => ends [.mk pipelines false] (';' :: ';' :: rest)
      | ';' :: rest => goOn (.mk pipelines false) rest
      | '\n' :: rest =>
        if oneLine then .ok ([.mk pipelines false], rest) else goOn (.mk pipelines false) rest
      | rest => ends [.mk pipelines false] rest

/-- The readers for what stands inside of a text, where scripts nest up to a depth. -/
def innerReaders (aliases : List (Chars × Chars)) (isAll : Bool) :
    (depth lastLine : Nat) → Inner
  | 0, lastLine => { scriptIn := fun _ _ => endless, isAll, lastLine, aliases }
  | depth + 1, lastLine =>
    let scriptIn (lastLine : Nat) : ReadFront Script := fun cs =>
      readStatements (innerReaders aliases isAll depth lastLine) false (cs.length + 1) cs
    { scriptIn, isAll, lastLine, aliases }

/-- The statements in the first line of a text, and in those after it that it needs. Nothing may end
there that was not begun. -/
def readLine (aliases : List (Chars × Chars)) (isAll : Bool) (lastLine : Nat) :
    ReadFront Script := fun cs =>
  readStatements (innerReaders aliases isAll (cs.length + 1) lastLine) true (cs.length + 1) cs

end Switchboard.Shell
