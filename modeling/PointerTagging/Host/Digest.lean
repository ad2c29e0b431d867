import PointerTagging.Text.Numeral
/-!
# Digests

Checksums of texts of bytes. The texts are brought to a whole number of blocks, and each block
changes the words of a state. Words are natural numbers below a power of two.
-/

namespace PointerTagging.Host.Digest

open Text

/-! ## Words -/

/-- The number of the values of a word. -/
def wordCount (bits : Nat) : Nat := 1 <<< bits

/-- A word turned to the right. -/
def turnRight (bits n word : Nat) : Nat :=
  (word >>> n ||| word <<< (bits - n)) % wordCount bits

/-- A word turned to the left. -/
def turnLeft (bits n word : Nat) : Nat := turnRight bits (bits - n) word

/-- The sum of words. -/
def sumWords (bits : Nat) (words : List Nat) : Nat :=
  words.foldl (fun a b => (a + b) % wordCount bits) 0

/-- A word with all bits turned round. -/
def invert (bits word : Nat) : Nat := wordCount bits - 1 - word

/-- The bytes of a word, the highest first. -/
def bytesOf (bits word : Nat) : List Nat :=
  (List.range (bits / 8)).map fun n => (word >>> (bits - 8 - 8 * n)) % 256

/-- The word whose bytes are given, the highest first. -/
def ofBytes (bytes : List Nat) : Nat := bytes.foldl (fun word b => word * 256 + b) 0

/-- The word number `n` of some words. -/
def word (words : List Nat) (n : Nat) : Nat := (words[n]?).getD 0

/-! ## Constants -/

/-- The primes among the numbers below a bound. -/
def primesBelow (bound : Nat) : List Nat :=
  (List.range bound).filter fun n =>
    n ≥ 2 && (List.range n).all fun d => d < 2 || n % d != 0

/-- The greatest number whose power is at most `n`, by bits from the highest one of `bits`. -/
def rootFloor (power n : Nat) : (bits : Nat) → (root : Nat) → Nat
  | 0, root => root
  | bit + 1, root =>
    let next := root + 1 <<< bit
    rootFloor power n bit (if Nat.pow next power ≤ n then next else root)

/-- The first bits behind the point of a root of a number. -/
def rootBits (power bits n : Nat) : Nat :=
  rootFloor power (n <<< (power * bits)) (bits + 10) 0 % wordCount bits

/-! ## Blocks -/

/-- A text with the bit, the zeros and the length behind it that bring it to whole blocks. -/
def padded (block lengthBytes : Nat) (highFirst : Bool) (bytes : List Nat) : List Nat :=
  let rest := (bytes.length + 1 + lengthBytes) % block
  let zeros := List.replicate (if rest == 0 then 0 else block - rest) 0
  let length := bytesOf (8 * lengthBytes) (8 * bytes.length)
  bytes ++ 128 :: zeros ++ if highFirst then length else length.reverse

/-- A list in pieces of a size. -/
def pieces (size : Nat) : Nat → List Nat → List (List Nat)
  | 0, _ => []
  | n + 1, xs => if xs.isEmpty then [] else xs.take size :: pieces size n (xs.drop size)

/-- The state that the blocks of a text lead to. -/
def absorb (size lengthBytes : Nat) (highFirst : Bool) (compress : List Nat → List Nat → List Nat)
    (start bytes : List Nat) : List Nat :=
  let text := padded size lengthBytes highFirst bytes
  (pieces size (text.length / size + 1) text).foldl compress start

/-! ## The second family of secure digests -/

/-- The parameters of a digest of the second family: the bits of a word, and by how much words are
turned in each of the four mixtures, the last number of the latter two being a shift. -/
structure Family where
  bits : Nat
  big0 : Nat × Nat × Nat
  big1 : Nat × Nat × Nat
  small0 : Nat × Nat × Nat
  small1 : Nat × Nat × Nat
  constants : List Nat

/-- The digests with words of 32 bits. -/
def short : Family :=
  { bits := 32
    big0 := (2, 13, 22)
    big1 := (6, 11, 25)
    small0 := (7, 18, 3)
    small1 := (17, 19, 10)
    constants := (primesBelow 312).map (rootBits 3 32) }

/-- The digests with words of 64 bits. -/
def long : Family :=
  { bits := 64
    big0 := (28, 34, 39)
    big1 := (14, 18, 41)
    small0 := (1, 8, 7)
    small1 := (19, 61, 6)
    constants := (primesBelow 410).map (rootBits 3 64) }

/-- A word turned three times, mixed. -/
def Family.big (f : Family) (n : Nat × Nat × Nat) (x : Nat) : Nat :=
  turnRight f.bits n.1 x ^^^ turnRight f.bits n.2.1 x ^^^ turnRight f.bits n.2.2 x

/-- A word turned twice and shifted once, mixed. -/
def Family.small (f : Family) (n : Nat × Nat × Nat) (x : Nat) : Nat :=
  turnRight f.bits n.1 x ^^^ turnRight f.bits n.2.1 x ^^^ x >>> n.2.2

/-- The words of the rounds, the last of them first, from those that there are so far. -/
def Family.schedule (f : Family) : Nat → List Nat → List Nat
  | 0, words => words
  | n + 1, words =>
    let next := sumWords f.bits
      [f.small f.small1 (word words 1), word words 6, f.small f.small0 (word words 14),
        word words 15]
    f.schedule n (next :: words)

/-- The state behind a round. -/
def Family.round (f : Family) (state : List Nat) (input : Nat × Nat) : List Nat :=
  match state with
  | [a, b, c, d, e, g, h, i] =>
    let choice := (e &&& g) ^^^ (invert f.bits e &&& h)
    let majority := (a &&& b) ^^^ (a &&& c) ^^^ (b &&& c)
    let first := sumWords f.bits [i, f.big f.big1 e, choice, input.1, input.2]
    let second := sumWords f.bits [f.big f.big0 a, majority]
    [sumWords f.bits [first, second], a, b, c, sumWords f.bits [d, first], e, g, h]
  | state => state

/-- The state behind a block. -/
def Family.compress (f : Family) (state block : List Nat) : List Nat :=
  let size := f.bits / 8
  let first := ((pieces size 16 block).map ofBytes).reverse
  let words := (f.schedule (f.constants.length - 16) first).reverse
  let final := (f.constants.zip words).foldl f.round state
  state.zipWith (fun a b => sumWords f.bits [a, b]) final

/-- The digest of a text from a state: the given number of bytes. -/
def Family.digest (f : Family) (start : List Nat) (size : Nat) (bytes : List Nat) : List Nat :=
  let final := absorb (2 * f.bits) (f.bits / 4) true f.compress start bytes
  (final.flatMap (bytesOf f.bits)).take size

/-- The first primes, from number `skipped` on. -/
def startPrimes (skipped : Nat) : List Nat := ((primesBelow 54).drop skipped).take 8

/-- The digest of 256 bits. -/
def sha256 (bytes : List Nat) : List Nat :=
  short.digest ((startPrimes 0).map (rootBits 2 32)) 32 bytes

/-- The digest of 224 bits. -/
def sha224 (bytes : List Nat) : List Nat :=
  short.digest ((startPrimes 8).map fun n => rootBits 2 64 n % wordCount 32) 28 bytes

/-- The digest of 512 bits. -/
def sha512 (bytes : List Nat) : List Nat :=
  long.digest ((startPrimes 0).map (rootBits 2 64)) 64 bytes

/-- The digest of 384 bits. -/
def sha384 (bytes : List Nat) : List Nat :=
  long.digest ((startPrimes 8).map (rootBits 2 64)) 48 bytes

/-! ## The older digests -/

/-- The words that the older digests start with. -/
def oldStart : List Nat := [0x67452301, 0xefcdab89, 0x98badcfe, 0x10325476]

/-- The words of the rounds of the digest of 160 bits, the last of them first. -/
def sha1Schedule : Nat → List Nat → List Nat
  | 0, words => words
  | n + 1, words =>
    sha1Schedule n
      (turnLeft 32 1 (word words 2 ^^^ word words 7 ^^^ word words 13 ^^^ word words 15) :: words)

/-- The state of the digest of 160 bits behind a round. -/
def sha1Round (state : List Nat) (input : Nat × Nat) : List Nat :=
  match state with
  | [a, b, c, d, e] =>
    let (mixed, constant) : Nat × Nat :=
      if input.2 < 20 then ((b &&& c) ||| (invert 32 b &&& d), 0x5a827999)
      else if input.2 < 40 then (b ^^^ c ^^^ d, 0x6ed9eba1)
      else if input.2 < 60 then ((b &&& c) ||| (b &&& d) ||| (c &&& d), 0x8f1bbcdc)
      else (b ^^^ c ^^^ d, 0xca62c1d6)
    [sumWords 32 [turnLeft 32 5 a, mixed, e, constant, input.1], a, turnLeft 32 30 b, c, d]
  | state => state

/-- The digest of 160 bits. -/
def sha1 (bytes : List Nat) : List Nat :=
  let compress (state block : List Nat) : List Nat :=
    let words := (sha1Schedule 64 ((pieces 4 16 block).map ofBytes).reverse).reverse
    state.zipWith (fun a b => sumWords 32 [a, b]) (words.zipIdx.foldl sha1Round state)
  (absorb 64 8 true compress (oldStart ++ [0xc3d2e1f0]) bytes).flatMap (bytesOf 32)

/-- By how much the words of the digest of 128 bits are turned in its rounds. -/
def md5Turns (n : Nat) : Nat :=
  let rows := [[7, 12, 17, 22], [5, 9, 14, 20], [4, 11, 16, 23], [6, 10, 15, 21]]
  word ((rows[n / 16]?).getD []) (n % 4)

/-- The constants of the rounds of the digest of 128 bits: sines. -/
def md5Constant (n : Nat) : Nat :=
  (Float.floor ((Float.sin (Float.ofNat (n + 1))).abs * 4294967296.0)).toUInt64.toNat

/-- The state of the digest of 128 bits behind a round. -/
def md5Round (words : List Nat) (state : List Nat) (n : Nat) : List Nat :=
  match state with
  | [a, b, c, d] =>
    let (mixed, index) : Nat × Nat :=
      if n < 16 then ((b &&& c) ||| (invert 32 b &&& d), n)
      else if n < 32 then ((d &&& b) ||| (invert 32 d &&& c), (5 * n + 1) % 16)
      else if n < 48 then (b ^^^ c ^^^ d, (3 * n + 5) % 16)
      else (c ^^^ (b ||| invert 32 d), (7 * n) % 16)
    let sum := sumWords 32 [a, mixed, md5Constant n, word words index]
    [d, sumWords 32 [b, turnLeft 32 (md5Turns n) sum], b, c]
  | state => state

/-- The digest of 128 bits. Its words have their lowest byte first. -/
def md5 (bytes : List Nat) : List Nat :=
  let compress (state block : List Nat) : List Nat :=
    let words := (pieces 4 16 block).map fun piece => ofBytes piece.reverse
    state.zipWith (fun a b => sumWords 32 [a, b])
      ((List.range 64).foldl (md5Round words) state)
  (absorb 64 8 false compress oldStart bytes).flatMap fun word => (bytesOf 32 word).reverse

/-! ## Sums -/

/-- A remainder of 32 bits with eight more bits taken in. -/
def crcStep (crc byte : Nat) : Nat :=
  let turn (crc : Nat) (_ : Nat) : Nat :=
    if crc >>> 31 == 1 then ((crc <<< 1) ^^^ 0x04c11db7) % wordCount 32 else crc <<< 1
  (List.range 8).foldl turn (crc ^^^ byte <<< 24)

/-- The bytes of a length as few as it takes, the lowest first. -/
def lengthBytes : Nat → Nat → List Nat
  | 0, _ => []
  | n + 1, length => if length == 0 then [] else length % 256 :: lengthBytes n (length / 256)

/-- The remainder of a text and its length behind it. -/
def crc (bytes : List Nat) : Nat :=
  invert 32 ((bytes ++ lengthBytes 8 bytes.length).foldl crcStep 0)

/-- The sum of 16 bits that is turned before each byte. -/
def turnedSum (bytes : List Nat) : Nat :=
  bytes.foldl (fun sum byte => (turnRight 16 1 sum + byte) % wordCount 16) 0

/-- Bytes in base 16. -/
def text (bytes : List Nat) : String :=
  String.ofList (bytes.flatMap fun byte => Numeral.padded 16 2 byte)

end PointerTagging.Host.Digest
