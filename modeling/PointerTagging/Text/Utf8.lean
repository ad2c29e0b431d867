/-!
# UTF-8

A strict decoder that reads one byte at a time, the encoder beside it, and a lenient decoder for
display that puts U+FFFD where the strict one stops. The decoder accepts no overlong form, no
surrogate and nothing above U+10FFFF: the range of the second byte depends on the first one.
-/

namespace PointerTagging.Text.Utf8

/-- Where the decoder stands between two bytes. -/
inductive State where
  /-- Between two characters. -/
  | boundary
  /-- Inside a character: the next byte lies between `low` and `high`, `left` more continuation
      bytes follow it, and `bits` is the value of the bytes read so far. -/
  | inside (left : Nat) (low high : UInt8) (bits : Nat)
  deriving DecidableEq, Repr

/-- What one more byte does. -/
inductive Move where
  /-- The character goes on. -/
  | more (state : State)
  /-- A character is complete. -/
  | char (c : Char)
  /-- No character can continue with this byte. -/
  | refuse
  deriving DecidableEq, Repr

/-- The first byte of a character fixes its length and the range of its second byte. -/
def first (b : UInt8) : Move :=
  if b < 0x80 then .char (Char.ofNat b.toNat)
  else if b < 0xC2 then .refuse
  else if b < 0xE0 then .more (.inside 0 0x80 0xBF (b.toNat - 0xC0))
  else if b = 0xE0 then .more (.inside 1 0xA0 0xBF 0)
  else if b = 0xED then .more (.inside 1 0x80 0x9F 0xD)
  else if b < 0xF0 then .more (.inside 1 0x80 0xBF (b.toNat - 0xE0))
  else if b = 0xF0 then .more (.inside 2 0x90 0xBF 0)
  else if b < 0xF4 then .more (.inside 2 0x80 0xBF (b.toNat - 0xF0))
  else if b = 0xF4 then .more (.inside 2 0x80 0x8F 4)
  else .refuse

/-- One byte more, from any place. -/
def move : State → UInt8 → Move
  | .boundary, b => first b
  | .inside left low high bits, b =>
    if low ≤ b ∧ b ≤ high then
      let bits := bits * 64 + (b.toNat - 0x80)
      match left with
      | 0 => .char (Char.ofNat bits)
      | left + 1 => .more (.inside left 0x80 0xBF bits)
    else .refuse

/-- The characters of the bytes, read on from `state`. -/
def decodeFrom : State → List UInt8 → Option (List Char)
  | .boundary, [] => some []
  | .inside .., [] => none
  | state, b :: bs =>
    match move state b with
    | .more state => decodeFrom state bs
    | .char c => (decodeFrom .boundary bs).map (c :: ·)
    | .refuse => none

/-- The text that the bytes spell, if they are valid. -/
def decode (bs : List UInt8) : Option (List Char) := decodeFrom .boundary bs

/-- The character that stands for bytes that spell none. -/
def replacement : Char := '\uFFFD'

/-- The text that the bytes spell, read on from `state`, with one replacement character for each
longest run of bytes that begins a character and does not finish it. -/
def decodeLossyFrom : State → List UInt8 → List Char
  | .boundary, [] => []
  | .inside .., [] => [replacement]
  | .boundary, b :: bs =>
    match first b with
    | .more state => decodeLossyFrom state bs
    | .char c => c :: decodeLossyFrom .boundary bs
    | .refuse => replacement :: decodeLossyFrom .boundary bs
  | .inside left low high bits, b :: bs =>
    match move (.inside left low high bits) b with
    | .more state => decodeLossyFrom state bs
    | .char c => c :: decodeLossyFrom .boundary bs
    | .refuse => replacement ::
      match first b with
      | .more state => decodeLossyFrom state bs
      | .char c => c :: decodeLossyFrom .boundary bs
      | .refuse => replacement :: decodeLossyFrom .boundary bs

/-- The text to show for the bytes, valid or not. -/
def decodeLossy (bs : List UInt8) : List Char := decodeLossyFrom .boundary bs

/-- The bytes of one character, the shortest form. -/
def encodeChar (c : Char) : List UInt8 :=
  let n := c.toNat
  if n < 0x80 then [n.toUInt8]
  else if n < 0x800 then [(0xC0 + n / 64).toUInt8, (0x80 + n % 64).toUInt8]
  else if n < 0x10000 then
    [(0xE0 + n / 4096).toUInt8, (0x80 + n / 64 % 64).toUInt8, (0x80 + n % 64).toUInt8]
  else
    [(0xF0 + n / 262144).toUInt8, (0x80 + n / 4096 % 64).toUInt8, (0x80 + n / 64 % 64).toUInt8,
      (0x80 + n % 64).toUInt8]

/-- The bytes of a text. -/
def encode (cs : List Char) : List UInt8 := cs.flatMap encodeChar

/-- The bytes of a string. -/
def ofString (s : String) : List UInt8 := encode s.toList

/-- The string that valid bytes spell. -/
def toString? (bs : List UInt8) : Option String := (decode bs).map String.ofList

/-- The string to show for the bytes, valid or not. -/
def toStringLossy (bs : List UInt8) : String := String.ofList (decodeLossy bs)

end PointerTagging.Text.Utf8
