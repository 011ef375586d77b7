import Switchboard.Shell.Streams

/-!
# Digests

Sums of texts: those of the `md5` and `sha` families, which are made of blocks of words, and the
check sums of `cksum` and `sum`. A word is a natural number below two to the number of its bits.
-/

namespace Switchboard.Shell

/-! ### Words -/

/-- Words of a number of bits. -/
structure WordSize where
  bits : Nat

namespace WordSize

def cut (w : WordSize) (n : Nat) : Nat := n % Nat.pow 2 w.bits

def add (w : WordSize) (numbers : List Nat) : Nat := w.cut (numbers.foldl (· + ·) 0)

def turnLeft (w : WordSize) (by_ n : Nat) : Nat :=
  w.cut (n * Nat.pow 2 by_) + n / Nat.pow 2 (w.bits - by_)

def turnRight (w : WordSize) (by_ n : Nat) : Nat := w.turnLeft (w.bits - by_) n

def flip (w : WordSize) (n : Nat) : Nat := Nat.pow 2 w.bits - 1 - n

/-- The bits of one word where a bit is set, and those of another one where it is not. -/
def choose (w : WordSize) (selector a b : Nat) : Nat := (selector &&& a) ^^^ (w.flip selector &&& b)

end WordSize

/-- The bits that at least two of three words have. -/
def majority (a b c : Nat) : Nat := (a &&& b) ^^^ (a &&& c) ^^^ (b &&& c)

/-- The bytes of a number, the greatest first. -/
def bytesOf : (count : Nat) → Nat → List Nat
  | 0, _ => []
  | n + 1, value => value / Nat.pow 256 n % 256 :: bytesOf n value

/-- The number that some bytes are, the greatest first. -/
def ofBytes (bytes : List Nat) : Nat := bytes.foldl (fun n b => 256 * n + b) 0

/-- A text as blocks of words, filled up: a single bit, zeros, and the length of the text in bits.
-/
def paddedWords (wordBytes : Nat) (isLittle : Bool) (text : Chars) : List (List Nat) :=
  let block := 16 * wordBytes
  let length := bytesOf (2 * wordBytes) (8 * text.length)
  let used := text.length + 1 + 2 * wordBytes
  let zeros := (block - used % block) % block
  let bytes := text.map Char.toNat ++ 128 :: List.replicate zeros 0 ++
    (if isLittle then length.reverse else length)
  let word (i : Nat) (bytes : Array Nat) : Nat :=
    let part := (bytes.extract (i * wordBytes) ((i + 1) * wordBytes)).toList
    ofBytes (if isLittle then part.reverse else part)
  let bytes := bytes.toArray
  (List.range (bytes.size / block)).map fun b =>
    (List.range 16).map fun i => word (16 * b + i) bytes

/-- Numbers as hexadecimal digits. -/
def hexDigits (bytes : List Nat) : Chars :=
  bytes.flatMap fun b => Nat.toDigits 16 (b / 16) ++ Nat.toDigits 16 (b % 16)

/-! ### Four words -/

/-- The numbers that are added in the rounds: the sines of the numbers of the rounds, as parts of
two to the power of 32. -/
def sineParts : List Nat :=
  [0xd76aa478, 0xe8c7b756, 0x242070db, 0xc1bdceee, 0xf57c0faf, 0x4787c62a, 0xa8304613, 0xfd469501,
   0x698098d8, 0x8b44f7af, 0xffff5bb1, 0x895cd7be, 0x6b901122, 0xfd987193, 0xa679438e, 0x49b40821,
   0xf61e2562, 0xc040b340, 0x265e5a51, 0xe9b6c7aa, 0xd62f105d, 0x02441453, 0xd8a1e681, 0xe7d3fbc8,
   0x21e1cde6, 0xc33707d6, 0xf4d50d87, 0x455a14ed, 0xa9e3e905, 0xfcefa3f8, 0x676f02d9, 0x8d2a4c8a,
   0xfffa3942, 0x8771f681, 0x6d9d6122, 0xfde5380c, 0xa4beea44, 0x4bdecfa9, 0xf6bb4b60, 0xbebfbc70,
   0x289b7ec6, 0xeaa127fa, 0xd4ef3085, 0x04881d05, 0xd9d4d039, 0xe6db99e5, 0x1fa27cf8, 0xc4ac5665,
   0xf4292244, 0x432aff97, 0xab9423a7, 0xfc93a039, 0x655b59c3, 0x8f0ccc92, 0xffeff47d, 0x85845dd1,
   0x6fa87e4f, 0xfe2ce6e0, 0xa3014314, 0x4e0811a1, 0xf7537e82, 0xbd3af235, 0x2ad7d2bb, 0xeb86d391]

/-- How far the words are turned in the rounds. -/
def roundTurns : List (List Nat) :=
  [[7, 12, 17, 22], [5, 9, 14, 20], [4, 11, 16, 23], [6, 10, 15, 21]]

def word32 : WordSize := ⟨32⟩

/-- The words that both families begin with. -/
def firstWords : List Nat := [0x67452301, 0xefcdab89, 0x98badcfe, 0x10325476]

/-- One round on four words. -/
def round4 (block : List Nat) (words : Nat × Nat × Nat × Nat) (i : Nat) : Nat × Nat × Nat × Nat :=
  let (a, b, c, d) := words
  let (mixed, place) := match i / 16 with
    | 0 => (word32.choose b c d, i)
    | 1 => (word32.choose d b c, (5 * i + 1) % 16)
    | 2 => (b ^^^ c ^^^ d, (3 * i + 5) % 16)
    | _ => (c ^^^ (b ||| word32.flip d), 7 * i % 16)
  let sum := word32.add [a, mixed, sineParts.getD i 0, block.getD place 0]
  let turn := (roundTurns.getD (i / 16) []).getD (i % 4) 0
  (d, word32.add [b, word32.turnLeft turn sum], b, c)

/-- The digest of 128 bits. -/
def digest4 (text : Chars) : List Nat :=
  let words := (paddedWords 4 true text).foldl (fun words block =>
    match words with
    | [a, b, c, d] =>
      let (a', b', c', d') := (List.range 64).foldl (round4 block) (a, b, c, d)
      [word32.add [a, a'], word32.add [b, b'], word32.add [c, c'], word32.add [d, d']]
    | words => words) firstWords
  words.flatMap fun n => (bytesOf 4 n).reverse

/-! ### Five words -/

/-- The words of a block and those that are made of them, the last first, in `n` steps. -/
def spreadWords5 : (n : Nat) → List Nat → List Nat
  | 0, words => words
  | n + 1, words =>
    let next := word32.turnLeft 1
      (words.getD 2 0 ^^^ words.getD 7 0 ^^^ words.getD 13 0 ^^^ words.getD 15 0)
    spreadWords5 n (next :: words)

/-- One round on five words. -/
def round5 (words : Nat × Nat × Nat × Nat × Nat) (entry : Nat × Nat) :
    Nat × Nat × Nat × Nat × Nat :=
  let (a, b, c, d, e) := words
  let (word, i) := entry
  let (mixed, constant) := match i / 20 with
    | 0 => (word32.choose b c d, 0x5a827999)
    | 1 => (b ^^^ c ^^^ d, 0x6ed9eba1)
    | 2 => (majority b c d, 0x8f1bbcdc)
    | _ => (b ^^^ c ^^^ d, 0xca62c1d6)
  (word32.add [word32.turnLeft 5 a, mixed, e, constant, word], a, word32.turnLeft 30 b, c, d)

/-- The digest of 160 bits. -/
def digest5 (text : Chars) : List Nat :=
  let words := (paddedWords 4 false text).foldl (fun words block =>
    match words with
    | [a, b, c, d, e] =>
      let schedule := (spreadWords5 64 block.reverse).reverse
      let (a', b', c', d', e') := schedule.zipIdx.foldl round5 (a, b, c, d, e)
      [word32.add [a, a'], word32.add [b, b'], word32.add [c, c'], word32.add [d, d'],
       word32.add [e, e']]
    | words => words) (firstWords ++ [0xc3d2e1f0])
  words.flatMap (bytesOf 4)

/-! ### Eight words -/

/-- The first prime numbers below a bound. -/
def primesBelow (bound : Nat) : List Nat :=
  (List.range bound).filter fun n =>
    2 ≤ n && (List.range n).all fun d => d < 2 || n % d ≠ 0

/-- The greatest number whose power is at most `n`, found bit by bit from the given one down. -/
def rootBelow (power n : Nat) : (bits : Nat) → (found : Nat) → Nat
  | 0, found => found
  | bits + 1, found =>
    let tried := found + Nat.pow 2 bits
    rootBelow power n bits (if Nat.pow tried power ≤ n then tried else found)

/-- The first bits behind the point of a root. -/
def rootFraction (power bits n : Nat) : Nat :=
  rootBelow power (n * Nat.pow 2 (power * bits)) (bits + 8) 0 % Nat.pow 2 bits

/-- A digest that works on eight words. -/
structure Digest8 where
  size : WordSize
  rounds : Nat
  /-- How far words are turned, and shifted last, to make further words. -/
  spreadTurns : (Nat × Nat × Nat) × (Nat × Nat × Nat)
  /-- How far the first and the fifth word are turned in a round. -/
  roundTurns : (Nat × Nat × Nat) × (Nat × Nat × Nat)
  /-- The words that it begins with. -/
  first : List Nat
  /-- How many bytes of the words are the result. -/
  length : Nat

namespace Digest8

/-- The roots of primes that begin a digest: some of the first primes are passed over. -/
def firstRoots (bits skipped : Nat) : List Nat :=
  (((primesBelow 54).drop skipped).take 8).map (rootFraction 2 bits)

def of32 (first : List Nat) (length : Nat) : Digest8 :=
  { size := ⟨32⟩, rounds := 64, spreadTurns := ((7, 18, 3), (17, 19, 10))
    roundTurns := ((2, 13, 22), (6, 11, 25)), first, length }

def of64 (first : List Nat) (length : Nat) : Digest8 :=
  { size := ⟨64⟩, rounds := 80, spreadTurns := ((1, 8, 7), (19, 61, 6))
    roundTurns := ((28, 34, 39), (14, 18, 41)), first, length }

def sha224 : Digest8 :=
  of32 ((firstRoots 64 8).map (· % Nat.pow 2 32)) 28

def sha256 : Digest8 := of32 (firstRoots 32 0) 32

def sha384 : Digest8 := of64 (firstRoots 64 8) 48

def sha512 : Digest8 := of64 (firstRoots 64 0) 64

/-- The words of a block and those that are made of them, the last first, in `n` steps. -/
def spreadWords (d : Digest8) : (n : Nat) → List Nat → List Nat
  | 0, words => words
  | n + 1, words =>
    let mix (turns : Nat × Nat × Nat) (word : Nat) : Nat :=
      d.size.turnRight turns.1 word ^^^ d.size.turnRight turns.2.1 word ^^^
        word / Nat.pow 2 turns.2.2
    let next := d.size.add [words.getD 15 0, mix d.spreadTurns.1 (words.getD 14 0),
      words.getD 6 0, mix d.spreadTurns.2 (words.getD 1 0)]
    d.spreadWords n (next :: words)

/-- One round on eight words, with a word and a constant. -/
def round (d : Digest8) (words : List Nat) (entry : Nat × Nat) : List Nat :=
  match words with
  | [a, b, c, e, f, g, h, i] =>
    let mix (turns : Nat × Nat × Nat) (word : Nat) : Nat :=
      d.size.turnRight turns.1 word ^^^ d.size.turnRight turns.2.1 word ^^^
        d.size.turnRight turns.2.2 word
    let one := d.size.add
      [i, mix d.roundTurns.2 f, d.size.choose f g h, entry.1, entry.2]
    [d.size.add [one, mix d.roundTurns.1 a, majority a b c], a, b, c, d.size.add [e, one], f, g, h]
  | words => words

def digest (d : Digest8) (text : Chars) : List Nat :=
  let constants := ((primesBelow 410).take d.rounds).map (rootFraction 3 d.size.bits)
  let words := (paddedWords (d.size.bits / 8) false text).foldl (fun words block =>
    let schedule := (d.spreadWords (d.rounds - 16) block.reverse).reverse
    let mixed := (schedule.zip constants).foldl d.round words
    List.zipWith (fun a b => d.size.add [a, b]) words mixed) d.first
  (words.flatMap (bytesOf (d.size.bits / 8))).take d.length

end Digest8

/-! ### Check sums -/

/-- One byte in a check sum by division. -/
def divideByte (sum byte : Nat) : Nat :=
  let shifted := (List.range 8).foldl (fun n _ =>
    if n / 0x80000000 = 1 then word32.cut (2 * n) ^^^ 0x04c11db7 else word32.cut (2 * n))
    (sum ^^^ (byte * 0x1000000))
  shifted

/-- The bytes of a length, the least first, without zeros at its end. -/
def lengthBytes : (n : Nat) → Nat → List Nat
  | 0, _ => []
  | n + 1, length => if length = 0 then [] else length % 256 :: lengthBytes n (length / 256)

/-- The check sum by division of a text and its length. -/
def divisionSum (text : Chars) : Nat :=
  word32.flip ((text.map Char.toNat ++ lengthBytes 8 text.length).foldl divideByte 0)

/-- The check sum that is turned by a bit before each byte is added. -/
def turningSum (text : Chars) : Nat :=
  text.foldl (fun n c => ((⟨16⟩ : WordSize).turnRight 1 n + c.toNat) % 65536) 0

/-! ### Programs -/

/-- Shows the digests of its files. -/
def digestProgram (name : String) (digest : Chars → List Nat) (arguments : List Chars) : Run Unit :=
  withOptions name { plain := ['b', 't', 'z', 'T'], valued := [], long :=
    [("binary", 'b'), ("text", 't'), ("zero", 'z'), ("tag", 'T')] } 1 arguments fun o => do
    setStatus 0
    (inputsOf o.operands).forM fun path => do
      match ← fromFile name 1 path readAllInput with
      | none => return ()
      | some text =>
        writeOut (hexDigits (digest text) ++ [' ', if o.has 'b' then '*' else ' '] ++ path ++
          [if o.has 'z' then '\x00' else '\n'])

def cksumProgram (arguments : List Chars) : Run Unit :=
  withOptions "cksum" { plain := [], valued := [], long := [] } 1 arguments fun o => do
    setStatus 0
    (inputsOf o.operands).forM fun path => do
      match ← fromFile "cksum" 1 path readAllInput with
      | none => return ()
      | some text =>
        let name := if o.operands.isEmpty then [] else ' ' :: path
        writeOut (decimalChars (divisionSum text) ++ ' ' :: decimalChars text.length ++ name ++
          ['\n'])

def sumOptions : OptionTable where
  plain := ['r', 's']
  valued := []
  long := [("sysv", 's')]

def sumProgram (arguments : List Chars) : Run Unit :=
  withOptions "sum" sumOptions 1 arguments fun o => do
    setStatus 0
    (inputsOf o.operands).forM fun path => do
      match ← fromFile "sum" 1 path readAllInput with
      | none => return ()
      | some text =>
        let name := if o.operands.isEmpty then [] else ' ' :: path
        if o.has 's' then
          let total := (text.map Char.toNat).foldl (· + ·) 0
          let folded := total % 65536 + total % Nat.pow 2 32 / 65536
          let folded := folded % 65536 + folded / 65536
          writeOut (decimalChars folded ++ ' ' :: decimalChars ((text.length + 511) / 512) ++
            name ++ ['\n'])
        else
          let digits := decimalChars (turningSum text)
          writeOut (List.replicate (5 - digits.length) '0' ++ digits ++ ' ' ::
            alignRight 5 (decimalChars ((text.length + 1023) / 1024)) ++ name ++ ['\n'])

/-- The programs that show digests, by name. -/
def digestPrograms : List (String × (List Chars → Run Unit)) :=
  [("md5sum", digestProgram "md5sum" digest4), ("sha1sum", digestProgram "sha1sum" digest5),
   ("sha224sum", digestProgram "sha224sum" Digest8.sha224.digest),
   ("sha256sum", digestProgram "sha256sum" Digest8.sha256.digest),
   ("sha384sum", digestProgram "sha384sum" Digest8.sha384.digest),
   ("sha512sum", digestProgram "sha512sum" Digest8.sha512.digest),
   ("cksum", cksumProgram), ("sum", sumProgram)]

end Switchboard.Shell
