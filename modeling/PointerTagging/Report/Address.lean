import PointerTagging.ReturnAddress
import PointerTagging.Text.Blank
import PointerTagging.Text.Json
/-!
# Address reports

Addresses as text, and what the predicates say about an address. An address text is trimmed, then
read as hexadecimal digits behind `0x` or as decimal digits, and underscores among the digits do
not count.
-/

namespace PointerTagging

open Text

/-- A text that is no address, as it was given. -/
structure InvalidAddress where
  input : String
  deriving DecidableEq, Repr

/-- The text of the error. -/
def InvalidAddress.message (error : InvalidAddress) : String :=
  "invalid address `" ++ error.input ++ "`: expected 0x-prefixed hex or decimal"

/-- The characters without underscores. -/
def dropSeparators (cs : List Char) : List Char := cs.filter (· != '_')

/-- The address that a text spells. -/
def parseAddress (input : String) : Except InvalidAddress UInt64 :=
  let cs := trim input.toList
  let value :=
    match Numeral.hexBody? cs with
    | some body => Numeral.read? 16 UInt64.size (dropSeparators body)
    | none => Numeral.read? 10 UInt64.size (dropSeparators cs)
  match value with
  | some value => .ok value.toUInt64
  | none => .error ⟨input⟩

/-- An address in full: sixteen hexadecimal digits behind `0x`. -/
def addressText (addr : UInt64) : String := Numeral.hexPadded 16 addr.toNat

/-- Sixteen bits as four hexadecimal digits behind `0x`. -/
def tagText (bits : UInt64) : String := Numeral.hexPadded 4 bits.toNat

/-- Both predicates and the return-address view of one address. -/
structure AddressReport where
  input : String
  address : String
  highBits : String
  encoded : Bool
  matchesTag : Bool
  /-- The address that the real allocator would see, where the tag matches. -/
  realAddress : Option String
  encodedReturn : Bool
  cleanReturn : String
  deriving DecidableEq, Repr

namespace AddressReport

/-- The report on an address, which `input` spelled. -/
def classify (input : String) (addr : UInt64) (tag : Tag) : AddressReport where
  input := input
  address := addressText addr
  highBits := tagText ((addr &&& PointerTagging.highBits) >>> tagShift)
  encoded := isEncoded addr
  matchesTag := PointerTagging.matchesTag addr tag
  realAddress :=
    if PointerTagging.matchesTag addr tag then some (addressText (addr ^^^ tag.mask)) else none
  encodedReturn := isEncodedReturn addr
  cleanReturn := addressText (PointerTagging.cleanReturn addr)

/-- The reports on all inputs, or the error of the first one that is no address. -/
def classifyAll (inputs : List String) (tag : Tag) : Except InvalidAddress (List AddressReport) :=
  inputs.mapM fun input => (parseAddress input).map fun addr => classify input addr tag

/-- The report as a JSON value. -/
def toJson (report : AddressReport) : Json :=
  .record [
    ("input", .string report.input),
    ("address", .string report.address),
    ("high_bits", .string report.highBits),
    ("encoded", .bool report.encoded),
    ("matches_tag", .bool report.matchesTag),
    ("real_address", match report.realAddress with | some text => .string text | none => .null),
    ("encoded_return_address", .bool report.encodedReturn),
    ("clean_return_address", .string report.cleanReturn)]

end AddressReport

end PointerTagging
