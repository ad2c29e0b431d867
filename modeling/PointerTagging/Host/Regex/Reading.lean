import PointerTagging.Host.Escape
import PointerTagging.Host.Regex
/-!
# Reading regular expressions

The forms in which regular expressions are written: basic, extended and rich ones. The rich form has
signs for classes of characters, repetitions that take as little as possible, and conditions on what
follows.
-/

namespace PointerTagging.Host.Regex

open Shell Text

/-- Why an expression is refused. -/
inductive Error where
  | unmatchedBracket
  | unmatchedOpen
  | unmatchedClose
  | unmatchedBrace
  | badRepetition
  | badBrace
  | badRange
  | badReference
  | trailingBackslash
  | badClass
  deriving DecidableEq, Repr

/-- The text of the error. -/
def Error.message : Error → String
  | .unmatchedBracket => "Unmatched [, [^, [:, [., or [="
  | .unmatchedOpen => "Unmatched ( or \\("
  | .unmatchedClose => "Unmatched ) or \\)"
  | .unmatchedBrace => "Unmatched \\\x7b"
  | .badRepetition => "Invalid preceding regular expression"
  | .badBrace => "Invalid content of \\\x7b\\\x7d"
  | .badRange => "Invalid range end"
  | .badReference => "Invalid back reference"
  | .trailingBackslash => "Trailing backslash"
  | .badClass => "Invalid character class name"

/-- What a backslash means inside brackets. -/
inductive BracketEscapes where
  | nothing
  /-- It makes some letters stand for characters that are not printed. -/
  | letters
  /-- It also takes the meaning of other characters away. -/
  | all
  deriving DecidableEq, Repr

/-- A form of expressions. -/
structure Dialect where
  /-- Parentheses, bars, braces, `+` and `?` need no backslash. -/
  isExtended : Bool
  isRich : Bool
  /-- Each repetition has to follow what it repeats, and braces have to hold bounds. -/
  isStrict : Bool
  /-- A backslash makes some letters stand for characters that are not printed. -/
  hasEscapes : Bool
  brackets : BracketEscapes
  /-- Anchors match at the ends of lines. -/
  hasLines : Bool
  /-- The sign for any character does not match a line end. -/
  sparesLineEnds : Bool
  /-- Blanks and comments have no meaning. -/
  ignoresBlanks : Bool

namespace Dialect

/-- The basic form. -/
def basic : Dialect := ⟨false, false, false, false, .nothing, false, false, false⟩

/-- The extended form. -/
def extended : Dialect := { basic with isExtended := true }

/-- The rich form. -/
def rich : Dialect := ⟨true, true, true, true, .all, false, true, false⟩

end Dialect

/-- What a reader of expressions holds: the text that is left, the number of groups so far, those
that are closed, how many are open, and the repetitions that have nothing to repeat, the last one
first. -/
structure Reader where
  rest : List Char
  groups : Nat
  closed : List Nat
  /-- How many groups are open. -/
  depth : Nat
  idle : List String

/-- Reading an expression. -/
abbrev Reading := StateT Reader (Except Error)

/-- Takes some characters if they come next. -/
def accept (text : String) : Reading Bool := do
  let reader ← get
  if text.toList.isPrefixOf reader.rest then
    set { reader with rest := reader.rest.drop text.length }
    return true
  return false

/-- Goes on behind some characters. -/
def skip (n : Nat) : Reading Unit := modify fun r => { r with rest := r.rest.drop n }

/-- Takes a sign that comes next, as the form writes it. -/
def Dialect.acceptSign (dialect : Dialect) (c : Char) : Reading Bool :=
  accept (if dialect.isExtended then String.ofList [c] else String.ofList ['\\', c])

/-! ## Characters and sets -/

/-- The character that a letter stands for behind a backslash. -/
def escapedLetter? (c : Char) : Option Char :=
  match c with
  | 'a' => some '\x07'
  | 'f' => some '\x0c'
  | 'n' => some '\n'
  | 'r' => some '\r'
  | 't' => some '\t'
  | 'v' => some '\x0b'
  | _ => none

/-- The items of the class that a letter stands for, and whether it means all other characters. -/
def classOf? (c : Char) : Option (Bool × List SetItem) :=
  let word := [SetItem.kind "alnum", .range '_' '_']
  match c with
  | 'd' => some (false, [.kind "digit"])
  | 'D' => some (true, [.kind "digit"])
  | 's' => some (false, [.kind "space"])
  | 'S' => some (true, [.kind "space"])
  | 'w' => some (false, word)
  | 'W' => some (true, word)
  | _ => none

/-- A class as items of a set. -/
def classItems (negated : Bool) (items : List SetItem) : List SetItem :=
  if negated then
    (((List.range 256).map Char.ofNat).filter fun c => !items.any fun i => i.contains c).map
      fun c => .range c c
  else items

/-- The kinds of characters that have names. -/
def kindNames : List String :=
  ["alnum", "alpha", "blank", "cntrl", "digit", "graph", "lower", "print", "punct", "space",
    "upper", "xdigit"]

/-- The text before a mark that a closing bracket follows, and what follows that. -/
def behindMark? (mark : Char) (cs : List Char) : Option (List Char × List Char) :=
  let body := cs.takeWhile (· != mark)
  match cs.drop body.length with
  | _ :: ']' :: rest => some (body, rest)
  | _ => none

/-- A character or a class in a set, and what follows. -/
def setMember (dialect : Dialect) (cs : List Char) :
    Except Error ((Char ⊕ List SetItem) × List Char) :=
  match cs with
  | [] => .error .unmatchedBracket
  | '[' :: ':' :: rest =>
    match behindMark? ':' rest with
    | none => .error .unmatchedBracket
    | some (name, rest) =>
      let name := String.ofList name
      if kindNames.contains name then .ok (.inr [.kind name], rest) else .error .badClass
  | '[' :: '=' :: rest =>
    match behindMark? '=' rest with
    | some ([c], rest) => .ok (.inl c, rest)
    | _ => .error .unmatchedBracket
  | '[' :: '.' :: rest =>
    match behindMark? '.' rest with
    | some ([c], rest) => .ok (.inl c, rest)
    | _ => .error .unmatchedBracket
  | '\\' :: c :: rest =>
    match dialect.brackets, escapedLetter? c with
    | .nothing, _ => .ok (.inl '\\', c :: rest)
    | _, some d => .ok (.inl d, rest)
    | .letters, none => .ok (.inl '\\', c :: rest)
    | .all, none =>
      match classOf? c, c with
      | some (negated, items), _ =>
        if dialect.isRich then .ok (.inr (classItems negated items), rest) else .ok (.inl c, rest)
      | none, 'b' => .ok (.inl '\x08', rest)
      | none, 'e' => .ok (.inl '\x1b', rest)
      | none, 'x' =>
        match Escape.number 16 2 rest with
        | some (d, rest) => .ok (.inl d, rest)
        | none => .ok (.inl c, rest)
      | none, c =>
        match Escape.number 8 3 (c :: rest) with
        | some (d, rest) => .ok (.inl d, rest)
        | none => .ok (.inl c, rest)
  | c :: rest => .ok (.inl c, rest)

/-- The items of a set up to its closing bracket, and what follows. -/
def setItems (dialect : Dialect) :
    Nat → (first : Bool) → List Char → Except Error (List SetItem × List Char)
  | 0, _, _ => .error .unmatchedBracket
  | n + 1, first, cs => do
    match cs, first with
    | ']' :: rest, false => return ([], rest)
    | cs, _ =>
      let (member, rest) ← setMember dialect cs
      match member, rest with
      | .inr items, rest =>
        let (more, rest) ← setItems dialect n false rest
        return (items ++ more, rest)
      | .inl c, '-' :: ']' :: rest =>
        let (more, rest) ← setItems dialect n false (']' :: rest)
        return (.range c c :: .range '-' '-' :: more, rest)
      | .inl c, '-' :: d :: rest =>
        match ← setMember dialect (d :: rest) with
        | (.inl high, rest) =>
          if high < c then throw .badRange
          let (more, rest) ← setItems dialect n false rest
          return (.range c high :: more, rest)
        | (.inr items, rest) =>
          if !dialect.isRich then throw .badRange
          let (more, rest) ← setItems dialect n false rest
          return (.range c c :: .range '-' '-' :: items ++ more, rest)
      | .inl c, rest =>
        let (more, rest) ← setItems dialect n false rest
        return (.range c c :: more, rest)

/-- Reads a set behind its opening bracket. -/
def readSet (dialect : Dialect) : Reading Regex := do
  let negated ← accept "^"
  let reader ← get
  let (items, rest) ← setItems dialect (reader.rest.length + 1) true reader.rest
  set { reader with rest }
  return .among negated items

/-! ## Repetitions -/

/-- The bounds between braces: those that are written, and what follows the closing sign. -/
def bounds? (closing : List Char) (cs : List Char) :
    Option ((Nat × Option Nat) × List Char) := do
  let number (digits : List Char) : Option Nat := Numeral.valueFrom 10 0 digits
  let low := cs.takeWhile Char.isDigit
  let rest := cs.drop low.length
  match rest with
  | ',' :: rest =>
    let high := rest.takeWhile Char.isDigit
    let rest := rest.drop high.length
    guard (closing.isPrefixOf rest)
    let most := if high.isEmpty then none else number high
    return ((← number low, most), rest.drop closing.length)
  | rest =>
    guard (!low.isEmpty && closing.isPrefixOf rest)
    return ((← number low, number low), rest.drop closing.length)

/-- Takes the repetition that comes next, if there is one. -/
def Dialect.repetition? (dialect : Dialect) : Reading (Option (Nat × Option Nat)) := do
  if ← accept "*" then return some (0, none)
  if ← dialect.acceptSign '+' then return some (1, none)
  if ← dialect.acceptSign '?' then return some (0, some 1)
  let opening := if dialect.isExtended then "\x7b" else "\\\x7b"
  let closing := if dialect.isExtended then ['\x7d'] else ['\\', '\x7d']
  let reader ← get
  if !opening.toList.isPrefixOf reader.rest then return none
  match bounds? closing (reader.rest.drop opening.length) with
  | some (bounds, rest) =>
    if bounds.2.any fun most => most < bounds.1 then throw .badBrace
    set { reader with rest }
    return some bounds
  | none =>
    if dialect.isRich || (dialect.isExtended && !dialect.isStrict) then return none
    let body := reader.rest.drop opening.length
    let closes (n : Nat) : Bool := closing.isPrefixOf (body.drop n)
    throw (if (List.range (body.length + 1)).any closes then .badBrace else .unmatchedBrace)

/-- An expression with the repetitions behind it. -/
def Dialect.repeats (dialect : Dialect) : Nat → Regex → Reading Regex
  | 0, a => return a
  | n + 1, a => do
    match ← dialect.repetition? with
    | none => return a
    | some (least, most) =>
      let again := (← get).rest
      if dialect.isStrict && !dialect.isExtended &&
          (again.head? == some '*' || "\\\x7b".toList.isPrefixOf again) then
        throw .badRepetition
      let isLazy ← if dialect.isRich then accept "?" else pure false
      if dialect.isRich then
        let _ ← accept "+"
      dialect.repeats n (.repeated least most isLazy a)

/-! ## Elements -/

/-- The edge that a letter stands for behind a backslash. -/
def edgeOf? (dialect : Dialect) (c : Char) : Option Edge :=
  match c with
  | 'b' => some .word
  | 'B' => some .notWord
  | '<' => if dialect.isRich then none else some .wordStart
  | '>' => if dialect.isRich then none else some .wordEnd
  | '\x60' => if dialect.isRich then none else some .start
  | '\'' => if dialect.isRich then none else some .ending
  | 'A' => if dialect.isRich then some .start else none
  | 'z' => if dialect.isRich then some .ending else none
  | 'Z' => if dialect.isRich then some .lastLine else none
  | _ => none

/-- Reads what a backslash makes of the characters behind it. -/
def Dialect.escaped (dialect : Dialect) : Reading Regex := do
  let reader ← get
  match reader.rest with
  | [] => throw .trailingBackslash
  | c :: rest =>
    skip 1
    let letter? := if dialect.hasEscapes then escapedLetter? c else none
    match letter?, classOf? c, edgeOf? dialect c with
    | some d, _, _ => return .char d
    | none, some (negated, items), _ =>
      if (c == 'd' || c == 'D') && !dialect.isRich then return .char c
      return .among negated items
    | none, none, some found => return .edge found
    | none, none, none =>
      if c.isDigit && c != '0' then
        let n := c.toNat - '0'.toNat
        if !reader.closed.contains n then throw .badReference
        return .again n
      else if dialect.isRich && c == 'e' then return .char '\x1b'
      else if dialect.isRich && c == '0' then
        match Escape.number 8 3 (c :: rest) with
        | some (d, rest) =>
          modify fun r => { r with rest }
          return .char d
        | none => return .char c
      else if dialect.isRich && c == 'x' then
        match Escape.number 16 2 rest with
        | some (d, rest) =>
          modify fun r => { r with rest }
          return .char d
        | none => return .char '\x00'
      else return .char c

/-- What stands behind the flags of a group that is not kept. They are those of the whole. -/
def behindFlags? (cs : List Char) : Option (List Char) :=
  match cs with
  | '?' :: cs =>
    match cs.dropWhile "^-imsxn".toList.contains with
    | ':' :: rest => some rest
    | _ => none
  | _ => none

/-- Reads a group behind its opening parenthesis; `inner` reads what is inside. -/
def Dialect.enclosed (dialect : Dialect) (inner : Reading Regex) : Reading Regex := do
  modify fun r => { r with depth := r.depth + 1 }
  let close : Reading Unit := do
    unless ← dialect.acceptSign ')' do throw .unmatchedOpen
    modify fun r => { r with depth := r.depth - 1 }
  if dialect.isRich then
    if ← accept "?:" then
      let a ← inner
      close
      return a
    if ← accept "?=" then
      let a ← inner
      close
      return .look false a
    if ← accept "?!" then
      let a ← inner
      close
      return .look true a
    if ← accept "?<=" then
      let a ← inner
      close
      return .lookBack false a
    if ← accept "?<!" then
      let a ← inner
      close
      return .lookBack true a
    match behindFlags? (← get).rest with
    | some rest =>
      modify fun r => { r with rest }
      let a ← inner
      close
      return a
    | none => pure ()
  let n := (← get).groups + 1
  modify fun r => { r with groups := n }
  if dialect.isRich && (← accept "?<") then
    modify fun r => { r with rest := (r.rest.dropWhile (· != '>')).drop 1 }
  let a ← inner
  close
  modify fun r => { r with closed := n :: r.closed }
  return .group n a

/-- True if an expression ends here: at the end, before a bar, or before a closing parenthesis. One
that closes nothing may stand for itself. -/
def Dialect.isAtEnd (dialect : Dialect) : Reading Bool := do
  let isLoose := dialect.isExtended && !dialect.isStrict && (← get).depth == 0
  let ends (c : Char) : Bool := c == '|' || (c == ')' && !isLoose)
  match dialect.isExtended, (← get).rest with
  | _, [] => return true
  | true, c :: _ => return ends c
  | false, '\\' :: c :: _ => return ends c
  | false, _ => return false

/-- What comes of a repetition that has nothing to repeat. -/
def Dialect.idle (dialect : Dialect) (sign : String) : Reading Regex := do
  if dialect.isStrict then throw .badRepetition
  modify fun r => { r with idle := sign :: r.idle }
  return .empty

/-- Reads a single element; `isFirst` says that nothing stands before it in its expression. -/
def Dialect.element (dialect : Dialect) (inner : Reading Regex) (isFirst : Bool) :
    Reading Regex := do
  if ← dialect.acceptSign '(' then return ← dialect.enclosed inner
  match (← get).rest with
  | [] => return .empty
  | '\\' :: _ =>
    skip 1
    dialect.escaped
  | c :: rest =>
    skip 1
    match c with
    | '.' => return .any dialect.sparesLineEnds
    | '[' => readSet dialect
    | '^' =>
      if dialect.isExtended || isFirst then
        return .edge (if dialect.hasLines then .lineStart else .start)
      return .char '^'
    | '$' =>
      let isLast :=
        match rest with
        | [] => true
        | '\\' :: ')' :: _ => true
        | '\\' :: '|' :: _ => true
        | _ => false
      if dialect.isExtended || isLast then
        return .edge
          (if dialect.hasLines then .lineEnd else if dialect.isRich then .lastLine else .ending)
      return .char '$'
    | '*' => if dialect.isExtended then dialect.idle "*" else return .char '*'
    | '\x7b' =>
      if !dialect.isExtended || dialect.isRich then return .char c
      match bounds? ['\x7d'] rest with
      | some (_, behind) =>
        modify fun r => { r with rest := behind }
        dialect.idle "\x7b...\x7d"
      | none => if dialect.isStrict then throw .badRepetition else return .char c
    | c =>
      if dialect.isExtended && (c == '+' || c == '?') then dialect.idle (String.ofList [c])
      else return .char c

/-- Skips what has no meaning. -/
def Dialect.skipBlanks (dialect : Dialect) : Reading Unit := do
  if dialect.ignoresBlanks then
    modify fun r =>
      let rest := r.rest.dropWhile fun c => c == ' ' || c == '\t' || c == '\n'
      { r with rest := if rest.head? == some '#' then rest.dropWhile (· != '\n') else rest }

/-- Reads elements up to the end of their expression. -/
def Dialect.elements (dialect : Dialect) (inner : Reading Regex) : Nat → (isFirst : Bool) →
    Reading Regex
  | 0, _ => return .empty
  | n + 1, isFirst => do
    dialect.skipBlanks
    if ← dialect.isAtEnd then return .empty
    let first ← dialect.element inner isFirst
    let isAnchor :=
      match first with
      | .edge .start => !dialect.isRich
      | .edge .lineStart => !dialect.isRich
      | _ => false
    let first ←
      if isAnchor && (← get).rest.head? == some '*' then pure first -- the star stands alone
      else dialect.repeats (n + 1) first
    let rest ← dialect.elements inner n false
    return match rest with
      | .empty => first
      | rest => .both first rest

/-- Reads an expression with its alternatives. -/
def Dialect.alternatives (dialect : Dialect) : Nat → Reading Regex
  | 0 => return .empty
  | n + 1 => do
    let first ← dialect.elements (dialect.alternatives n) (n + 1) true
    if ← dialect.acceptSign '|' then return .either first (← dialect.alternatives n)
    else return first

/-- The expression that a text is, and the repetitions in it that have nothing to repeat. -/
def parse (dialect : Dialect) (text : String) : Except Error (Regex × List String) := do
  let (regex, reader) ← (dialect.alternatives (text.length + 1)).run ⟨text.toList, 0, [], 0, []⟩
  if reader.rest.isEmpty then return (regex, reader.idle.reverse)
  else throw .unmatchedClose

end PointerTagging.Host.Regex
