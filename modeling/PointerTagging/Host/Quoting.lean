import PointerTagging.Host.Escape
/-!
# Quoted names

Names of files as programs show them so that a shell would read them back: in quotes if they hold
a character that means something to a shell, and with escapes for what cannot be printed.
-/

namespace PointerTagging.Host

namespace Quoting

/-- True of a character that stands for itself in a printed text. -/
def isPrinted (c : Char) : Bool := 32 ≤ c.toNat && c.toNat < 127

/-- True of a character that means something to a shell wherever it stands. -/
def isSpecial (c : Char) : Bool := "?\\ !\"$&'()*;<=>[^\x60|".toList.contains c || !isPrinted c

/-- True of a text that a shell would not read as the one word that it is. -/
def needsQuotes (text : String) : Bool :=
  match text.toList with
  | [] => true
  | ['\x7b'] => true
  | ['\x7d'] => true
  | c :: cs => c == '#' || c == '~' || (c :: cs).any isSpecial

/-- True of a character that means the same between single and double quotes. -/
def isPlainInBoth (c : Char) : Bool :=
  isPrinted c && !"?\\!\"$&()*;<=>[^\x60|".toList.contains c

/-- The escape of a character that is not printed. -/
def escape (c : Char) : List Char := quotedChar c

/-- The characters of a text between single quotes; `isEscaping` says that an escape has just been
written. -/
def body (isEscaping : Bool) : List Char → List Char
  | [] => []
  | c :: cs =>
    if isPrinted c then
      (if isEscaping then "''".toList else []) ++
        (if c == '\'' then "'\\''".toList else [c]) ++ body false cs
    else (if isEscaping then [] else "'$'".toList) ++ escape c ++ body true cs

/-- A text in quotes that a shell would read back. -/
def always (text : String) : String :=
  let cs := text.toList
  if cs.contains '\'' && cs.all isPlainInBoth then "\"" ++ text ++ "\""
  else "'" ++ String.ofList (body false cs) ++ "'"

/-- A text in quotes if a shell would need them. -/
def ifNeeded (text : String) : String := if needsQuotes text then always text else text

/-- A name in front of a colon: in quotes if a shell would need them or it holds a colon itself. -/
def name (text : String) : String :=
  if needsQuotes text || text.contains ':' then always text else text

/-- A text between double quotes with backslashes in front of what would end it. -/
def double (text : String) : String :=
  let one (c : Char) : List Char :=
    if c == '"' then ['\\', '"']
    else if c == '\\' then ['\\', '\\']
    else if isPrinted c then [c]
    else escape c
  "\"" ++ String.ofList (text.toList.flatMap one) ++ "\""

/-- A text with backslashes in front of blanks, and escapes for what is not printed. -/
def escaped (text : String) : String :=
  let one (c : Char) : List Char :=
    if c == ' ' || c == '\\' then ['\\', c]
    else if isPrinted c then [c]
    else escape c
  String.ofList (text.toList.flatMap one)

end Quoting

end PointerTagging.Host
