import PointerTagging.Host.Digest
import PointerTagging.Host.Utility.Options
/-!
# Codes and checksums

The utilities that write bytes as letters, or sum them up.
-/

namespace PointerTagging.Host.Tool

open Text

/-! ## Bytes as letters -/

/-- A code in which each letter stands for some bits. -/
structure LetterCode where
  letters : List Char
  bits : Nat
  /-- The number of letters that stand for a whole number of bytes. -/
  group : Nat

/-- The code with 64 letters. -/
def LetterCode.sixtyFour : LetterCode :=
  ⟨"ABCDEFGHIJKLMNOPQRSTUVWXYZabcdefghijklmnopqrstuvwxyz0123456789+/".toList, 6, 4⟩

/-- The code with 32 letters. -/
def LetterCode.thirtyTwo : LetterCode := ⟨"ABCDEFGHIJKLMNOPQRSTUVWXYZ234567".toList, 5, 8⟩

namespace LetterCode

/-- The bits of a number, the highest first. -/
def bitsOf (width n : Nat) : List Bool :=
  ((List.range width).map fun i => (n >>> i) % 2 == 1).reverse

/-- The number of some bits. -/
def ofBits (bits : List Bool) : Nat := bits.foldl (fun n b => 2 * n + b.toNat) 0

/-- The letters of bits; the last one may lack some. -/
def lettersOf (code : LetterCode) : Nat → List Bool → List Char
  | 0, _ => []
  | n + 1, bits =>
    if bits.isEmpty then []
    else
      let taken := bits.take code.bits
      let all := taken ++ List.replicate (code.bits - taken.length) false
      (code.letters[ofBits all]?).getD '=' :: code.lettersOf n (bits.drop code.bits)

/-- The letters of a text, brought to whole groups. -/
def encode (code : LetterCode) (text : String) : List Char :=
  let bits := text.toList.flatMap fun c => bitsOf 8 c.toNat
  let letters := code.lettersOf (bits.length + 1) bits
  let rest := letters.length % code.group
  letters ++ List.replicate (if rest == 0 then 0 else code.group - rest) '='

/-- The bytes of bits; those that make no whole byte are dropped. -/
def bytesOfBits : Nat → List Bool → List Char
  | 0, _ => []
  | n + 1, bits =>
    if bits.length < 8 then []
    else Char.ofNat (ofBits (bits.take 8)) :: bytesOfBits n (bits.drop 8)

/-- The text of letters, and whether they are all right. -/
def decode (code : LetterCode) (cs : List Char) : String × Bool :=
  let good := cs.takeWhile code.letters.contains
  let rest := cs.drop good.length
  let bits := good.flatMap fun c => bitsOf code.bits (code.letters.idxOf c)
  let isWhole := (good.length + rest.length) % code.group == 0
  let count :=
    if isWhole && rest.all (· == '=') then bits.length
    else good.length / code.group * code.group * code.bits
  (String.ofList (bytesOfBits (bits.length + 1) (bits.take count)),
    isWhole && rest.all (· == '='))

end LetterCode

/-- A row in pieces of a size. -/
def inPieces (size : Nat) : Nat → List Char → List String
  | 0, _ => []
  | n + 1, cs =>
    if cs.isEmpty then [] else String.ofList (cs.take size) :: inPieces size n (cs.drop size)

/-- The options of the codes. -/
def codeOptions : OptionTable :=
  { letters := "diw:"
    names := [("decode", 'd'), ("ignore-garbage", 'i'), ("wrap=", 'w')]
    stopsEarly := false }

/-- Writes bytes as letters, or reads them. -/
def coding (code : LetterCode) (view : View) : Outcome :=
  view.withOptions 1 codeOptions fun arguments =>
    match arguments.operands with
    | _ :: extra :: _ => view.misused 1 ("extra operand '" ++ extra ++ "'")
    | operands =>
      let path := operands.headD "-"
      match view.read path, amount? ((arguments.value? 'w').getD "76") with
      | _, none =>
        view.failing 1 ("invalid wrap size: '" ++ (arguments.value? 'w').getD "" ++ "'")
      | .error why, _ =>
        view.failing 1
          (if why.isOpen then "read error: " ++ why.error.text else View.plainly path why)
      | .ok text, some width =>
        let drains := path == "-"
        if arguments.has 'd' then
          let isKept (c : Char) : Bool := code.letters.contains c || c == '='
          let cs := text.toList.filter (· != '\n')
          let cs := if arguments.has 'i' then cs.filter isKept else cs
          let (decoded, isGood) := code.decode cs
          let outcome := { Outcome.printing decoded with drains }
          if isGood then outcome else outcome.complaining 1 (view.complaint "invalid input")
        else
          let cs := code.encode text
          let output :=
            if width == 0 then String.ofList cs else ofLines (inPieces width (cs.length + 1) cs)
          { Outcome.printing output with drains }

/-! ## Checksums -/

/-- The numbers of the bytes of a text. -/
def bytesOfText (text : String) : List Nat := text.toList.map Char.toNat

/-- The options of the checksums. -/
def digestOptions : OptionTable :=
  { letters := "bctwz"
    names := [("binary", 'b'), ("check", 'c'), ("text", 't'), ("tag", 'g'), ("zero", 'z'),
      ("quiet", 'q'), ("status", 's'), ("warn", 'w'), ("strict", 'x'), ("ignore-missing", 'i')]
    stopsEarly := false }

/-- Checks a line of a list of checksums: the line to print, whether it is right, and whether it has
the form of such a line. -/
def checkDigest (digest : List Nat → List Nat) (view : View) (line : String) :
    String × Bool × Bool :=
  let sum := String.ofList (line.toList.takeWhile fun c => (Numeral.digit? 16 c).isSome)
  match (line.toList.drop sum.length) with
  | ' ' :: c :: path =>
    let path := String.ofList path
    if sum.length != 2 * (digest []).length || (c != ' ' && c != '*') then ("", false, false)
    else
      match view.read path with
      | .error _ => (path ++ ": FAILED open or read\n", false, true)
      | .ok text =>
        let isRight := Digest.text (digest (bytesOfText text)) == sum.toLower
        (path ++ (if isRight then ": OK\n" else ": FAILED\n"), isRight, true)
  | _ => ("", false, false)

/-- Prints digests, or checks a list of them. -/
def digest (label : String) (algorithm : List Nat → List Nat) (view : View) : Outcome :=
  view.withOptions 1 digestOptions fun arguments =>
    let ending := if arguments.has 'z' then "\x00" else "\n"
    let sumOf (text : String) : String := Digest.text (algorithm (bytesOfText text))
    if arguments.has 'c' then
      view.filtering arguments.operands (fun texts =>
        String.join ((texts.flatMap fun t => linesOf t.2).map fun line =>
          let (shown, isRight, _) := checkDigest algorithm view line
          if arguments.has 's' || (arguments.has 'q' && isRight) then "" else shown)) |> fun o =>
        let texts := (view.files View.plainly arguments.operands).1
        let results := (texts.flatMap fun t => linesOf t.2).map (checkDigest algorithm view)
        let failed := results.filter fun r => r.2.2 && !r.2.1
        if (results.filter fun r => r.2.2).isEmpty && o.code == 0 then
          o.complaining 1 (view.complaint
            (((View.sources arguments.operands).headD "-") ++
              ": no properly formatted checksum lines found"))
        else if failed.isEmpty then o
        else
          let mismatched := failed.filter fun r => r.1.endsWith ": FAILED\n"
          let unread := failed.length - mismatched.length
          let plural (n : Nat) (one many : String) : String := if n == 1 then one else many
          let warning (n : Nat) (text : String) : String :=
            if n == 0 then "" else view.complaint ("WARNING: " ++ toString n ++ " " ++ text)
          o.complaining 1
            (warning unread (plural unread "listed file could not be read"
                "listed files could not be read") ++
              warning mismatched.length (plural mismatched.length
                "computed checksum did NOT match" "computed checksums did NOT match"))
    else
      view.filtering arguments.operands fun texts =>
        String.join (texts.map fun (path, text) =>
          if arguments.has 'g' then label ++ " (" ++ path ++ ") = " ++ sumOf text ++ ending
          else
            sumOf text ++ " " ++ (if arguments.has 'b' then "*" else " ") ++ path ++ ending)

/-- Prints remainders of texts with their lengths. -/
def cksum (view : View) : Outcome :=
  view.withOptions 1 ⟨"a:", [("algorithm=", 'a'), ("untagged", 'u')], false⟩ fun arguments =>
    match arguments.value? 'a' with
    | some "md5" => digest "MD5" Digest.md5 { view with arguments := "--tag" :: arguments.operands }
    | some "sha1" =>
      digest "SHA1" Digest.sha1 { view with arguments := "--tag" :: arguments.operands }
    | some "sha256" =>
      digest "SHA256" Digest.sha256 { view with arguments := "--tag" :: arguments.operands }
    | some "sha512" =>
      digest "SHA512" Digest.sha512 { view with arguments := "--tag" :: arguments.operands }
    | _ =>
      view.filtering arguments.operands fun texts =>
        String.join (texts.map fun (path, text) =>
          toString (Digest.crc (bytesOfText text)) ++ " " ++ toString text.length ++
            (if arguments.operands.isEmpty then "" else " " ++ path) ++ "\n")

/-- Prints sums of texts with the numbers of their blocks. -/
def sum (view : View) : Outcome :=
  view.withOptions 1 ⟨"rs", [("sysv", 's')], false⟩ fun arguments =>
    view.filtering arguments.operands fun texts =>
      String.join (texts.map fun (path, text) =>
        let name := if arguments.operands.isEmpty then "" else " " ++ path
        if arguments.has 's' then
          let total := (bytesOfText text).foldl (· + ·) 0
          let folded := total % 65536 + total % 4294967296 / 65536
          let folded := folded % 65536 + folded / 65536
          toString folded ++ " " ++ toString ((text.length + 511) / 512) ++ name ++ "\n"
        else
          String.ofList (Numeral.padded 10 5 (Digest.turnedSum (bytesOfText text))) ++ " " ++
            padLeft 5 (toString ((text.length + 1023) / 1024)) ++ name ++ "\n")

end PointerTagging.Host.Tool
