import PointerTagging.Host.Escape
import PointerTagging.Host.Shell.Pattern
import PointerTagging.Host.Utility.Options
/-!
# Replacing characters

The utility that replaces, drops or squeezes the characters of sets.
-/

namespace PointerTagging.Host.Tool

open Shell Text

/-- An item of a set of characters as it is written. -/
inductive SetElement where
  | char (c : Char)
  | range (low high : Char)
  | kind (name : String)
  /-- A character that is written as the class of those that are equal to it. -/
  | equal (c : Char)
  /-- A character several times; as often as it takes if no number is given. -/
  | repeated (c : Char) (times : Nat)
  deriving DecidableEq, Repr

namespace SetElement

/-- The characters of a text, each with the sign that a backslash stood before it. -/
def chars : Nat → List Char → List (Char × Bool)
  | 0, _ => []
  | _, [] => []
  | _, ['\\'] => [('\\', false)]
  | n + 1, '\\' :: c :: cs =>
    match Escape.letter? c with
    | some d => if c == 'e' then (c, true) :: chars n cs else (d, true) :: chars n cs
    | none =>
      match Escape.number 8 (if '4' ≤ c then 2 else 3) (c :: cs) with
      | some (d, rest) => (d, true) :: chars n rest
      | none => (c, true) :: chars n cs
  | n + 1, c :: cs => (c, false) :: chars n cs

/-- The text up to two characters that close an item, and what follows. -/
def closed? (mark : Char) : List (Char × Bool) → Option (List Char × List (Char × Bool))
  | [] => none
  | c :: cs =>
    if c == (mark, false) && cs.head? == some (']', false) then some ([], cs.drop 1)
    else (closed? mark cs).map fun (body, rest) => (c.1 :: body, rest)

/-- The number behind the star of a repeated character; 0 stands for as often as it takes. -/
def times? (digits : List Char) : Option Nat :=
  if digits.isEmpty then some 0
  else if digits.head? == some '0' then Numeral.valueFrom 8 0 digits
  else Numeral.valueFrom 10 0 digits

/-- A repeated character behind a bracket, and what follows; none if there is no such thing. -/
def repeated? (cs : List (Char × Bool)) :
    Option (Except String (SetElement × List (Char × Bool))) :=
  match cs with
  | (c, _) :: ('*', false) :: cs =>
    let body := cs.takeWhile fun d => !d.2 && d.1 != ']'
    match cs.drop body.length with
    | (']', false) :: rest =>
      let digits := body.map (·.1)
      match times? digits with
      | some n => some (.ok (.repeated c n, rest))
      | none =>
        some (.error ("invalid repeat count " ++ quotation (String.ofList digits) ++
          " in [c*n] construct"))
    | _ => none
  | _ => none

/-- A class of characters behind a bracket, and what follows; none if there is no such thing. -/
def class? (cs : List (Char × Bool)) :
    Option (Except String (SetElement × List (Char × Bool))) := do
  match cs with
  | (':', false) :: cs =>
    let (name, rest) ← closed? ':' cs
    let name := String.ofList name
    let names := ["alnum", "alpha", "blank", "cntrl", "digit", "graph", "lower", "print",
      "punct", "space", "upper", "xdigit"]
    if name.isEmpty then return .error "missing character class name '[::]'"
    else if names.contains name then return .ok (.kind name, rest)
    else return .error ("invalid character class " ++ quotation name)
  | ('=', false) :: cs =>
    let (body, rest) ← closed? '=' cs
    match body with
    | [] => return .error "missing equivalence class character '[==]'"
    | [c] => return .ok (.equal c, rest)
    | body => return .error (String.ofList body ++
        ": equivalence class operand must be a single character")
  | _ => none

/-- What stands behind a bracket, if it makes an item with it, and what follows. -/
def bracketed? (cs : List (Char × Bool)) :
    Option (Except String (SetElement × List (Char × Bool))) :=
  match class? cs with
  | none => repeated? cs
  | some (.ok found) => some (.ok found)
  | some (.error complaint) =>
    match repeated? cs with
    | some (.ok found) => some (.ok found)
    | _ => some (.error complaint)

/-- The items of characters; a complaint if one is not right. -/
def list : Nat → List (Char × Bool) → Except String (List SetElement)
  | 0, _ => .ok []
  | _, [] => .ok []
  | n + 1, (c, escaped) :: cs =>
    match if c == '[' && !escaped then bracketed? cs else none with
    | some found => do
      let (item, rest) ← found
      return item :: (← list n rest)
    | none =>
      match cs with
      | ('-', false) :: (d, _) :: rest =>
        if d < c then
          .error ("range-endpoints of '" ++ String.ofList [c, '-', d] ++
            "' are in reverse collating sequence order")
        else (list n rest).map (.range c d :: ·)
      | cs => (list n cs).map (.char c :: ·)

/-- All characters. -/
def allChars : List Char := (List.range 256).map Char.ofNat

/-- The characters of an item; an open repetition fills `room`. -/
def expand (room : Nat) : SetElement → List Char
  | .char c => [c]
  | .equal c => [c]
  | .range low high => (List.range (high.toNat + 1 - low.toNat)).map fun n =>
      Char.ofNat (low.toNat + n)
  | .kind name => allChars.filter (isOfKind name)
  | .repeated c times => List.replicate (if times == 0 then room else times) c

/-- The characters of items; an open repetition brings them to a length. -/
def expandAll (length : Nat) (items : List SetElement) : List Char :=
  let fixed := items.foldl (fun n item => n + (item.expand 0).length) 0
  items.flatMap (expand (length - fixed))

/-- True of an item that is repeated as often as it takes. -/
def isOpen : SetElement → Bool
  | .repeated _ 0 => true
  | _ => false

/-- True of a class of characters. -/
def isKind : SetElement → Bool
  | .kind _ => true
  | _ => false

/-- True of the classes of capital and of small letters. -/
def isCase : SetElement → Bool
  | .kind name => name == "upper" || name == "lower"
  | _ => false

/-- True if every class of letters of a second set begins where one of the first does. -/
def isAligned : Nat → (first second : List SetElement) → Bool
  | 0, _, _ => true
  | n + 1, x :: xs, y :: ys =>
    let rest (e : SetElement) (size : Nat) (es : List SetElement) : List SetElement :=
      match e with
      | .range low high =>
        if size == high.toNat + 1 - low.toNat then es
        else .range (Char.ofNat (low.toNat + size)) high :: es
      | .repeated c times => if size == times then es else .repeated c (times - size) :: es
      | _ => es
    if y.isCase then x.isCase && isAligned n xs ys
    else
      let a := (x.expand 0).length
      let b := (y.expand 0).length
      let size := min a b
      if size == 0 then isAligned n (if a == 0 then xs else x :: xs) (if b == 0 then ys else y :: ys)
      else
        match x with
        | .kind name =>
          -- what is left of a class counts as a repetition: it is no place for another one
          let left := if size == a then xs else .repeated (Char.ofNat 0) (a - size) :: xs
          name.isEmpty || isAligned n left (rest y size ys)
        | x => isAligned n (rest x size xs) (rest y size ys)
  | _, [], ys => !ys.head?.any isCase
  | _, _, [] => true

/-- What is wrong with sets, if something is. `length` is the number of characters that the first
one means. -/
def complaint? (arguments : Arguments) (length : Nat) (first : List SetElement)
    (second : Option (List SetElement)) : Option String :=
  let translates := !arguments.has 'd' && second.isSome
  let isComplement := arguments.has 'c' || arguments.has 'C'
  let images := second.getD []
  let count := (expandAll length images).length
  let isExtended := count < length && !arguments.has 't'
  let values := (expandAll length images).eraseDups
  if first.any isOpen then some "the [c*] repeat construct may not appear in string1"
  else if (images.filter isOpen).length > 1 then
    some "only one [c*] repeat construct may appear in string2"
  else if !translates then
    if images.any isOpen then
      some "the [c*] construct may appear in string2 only when translating"
    else none
  else if images.any fun e => e matches .equal _ then
    some "[=c=] expressions may not appear in string2 when translating"
  else if images.any fun e => e.isKind && !e.isCase then
    some ("when translating, the only character classes that may appear in\n" ++
      "string2 are 'upper' and 'lower'")
  else if !isComplement && images.any isCase && !isAligned (length + count + 2) first images then
    some "misaligned [:upper:] and/or [:lower:] construct"
  else if isExtended && count == 0 then
    some "when not truncating set1, string2 must be non-empty"
  else if isExtended && images.getLast?.any isKind then
    some ("when translating with string1 longer than string2,\n" ++
      "the latter string must not end with a character class")
  else if isComplement && first.any isKind && !(values.length == 1 && count ≤ length) then
    some ("when translating with complemented character classes,\n" ++
      "string2 must map all characters in the domain to one")
  else none

/-- The warnings about the backslashes of a text. -/
def warnings : List Char → List String
  | [] => []
  | ['\\'] => ["an unescaped backslash at end of string is not portable"]
  | '\\' :: a :: b :: c :: cs =>
    let isOctal (d : Char) : Bool := '0' ≤ d && d ≤ '7'
    if isOctal a && isOctal b && isOctal c && '4' ≤ a then
      ("the ambiguous octal escape \\" ++ String.ofList [a, b, c] ++
        " is being\n\tinterpreted as the 2-byte sequence \\0" ++ String.ofList [a, b] ++ ", " ++
        String.ofList [c]) :: warnings (c :: cs)
    else warnings (b :: c :: cs)
  | '\\' :: _ :: cs => warnings cs
  | _ :: cs => warnings cs

end SetElement

/-- The characters of a row without the repetitions of those that satisfy a test. -/
def squeeze (test : Char → Bool) : List Char → List Char
  | c :: d :: cs => if c == d && test c then squeeze test (d :: cs) else c :: squeeze test (d :: cs)
  | cs => cs

/-- The options of `tr`. -/
def trOptions : OptionTable :=
  { letters := "cCdst"
    names := [("complement", 'c'), ("delete", 'd'), ("squeeze-repeats", 's'),
      ("truncate-set1", 't')]
    stopsEarly := true }

/-- What is wrong with the number of the sets, if something is. -/
def trMisuse? (arguments : Arguments) : Option String :=
  let deletes := arguments.has 'd'
  let squeezes := arguments.has 's'
  let needsTwo := if deletes then squeezes else !squeezes
  match arguments.operands with
  | [] => some "missing operand\n"
  | [one] =>
    if needsTwo then
      some ("missing operand after '" ++ one ++ "'\n" ++
        (if deletes then
            "Two strings must be given when both deleting and squeezing repeats.\n"
          else "Two strings must be given when translating.\n"))
    else none
  | [_, second] =>
    if deletes && !squeezes then
      some ("extra operand '" ++ second ++ "'\n" ++
        "Only one string may be given when deleting without squeezing repeats.\n")
    else none
  | _ :: _ :: extra :: _ => some ("extra operand '" ++ extra ++ "'\n")

/-- Replaces, drops or squeezes characters. -/
def tr (view : View) : Outcome :=
  view.withOptions 1 trOptions fun arguments =>
    match trMisuse? arguments with
    | some text =>
      { Outcome.quiet 1 with errors := view.name ++ ": " ++ text ++ view.hint }
    | none =>
      let itemsOf (text : String) : Except String (List SetElement) :=
        SetElement.list (text.length + 1) (SetElement.chars (text.length + 1) text.toList)
      let warnings := arguments.operands.flatMap fun text => SetElement.warnings text.toList
      let warned (outcome : Outcome) : Outcome :=
        { outcome with errors :=
            String.join (warnings.map fun w => view.complaint ("warning: " ++ w)) ++ outcome.errors }
      let isComplement := arguments.has 'c' || arguments.has 'C'
      match arguments.operands.mapM itemsOf with
      | .error complaint => warned (view.failing 1 complaint)
      | .ok sets =>
        let listed := SetElement.expandAll 0 (sets.headD [])
        let domain :=
          if isComplement then SetElement.allChars.filter (!listed.contains ·) else listed
        match SetElement.complaint? arguments domain.length (sets.headD []) sets[1]? with
        | some complaint => warned (view.failing 1 complaint)
        | none =>
          let images := (sets[1]?).map (SetElement.expandAll domain.length)
          let isChosen (c : Char) : Bool := listed.contains c != isComplement
          let translates := !arguments.has 'd' && images.isSome
          let last := (images.getD []).getLast?
          let replaced (c : Char) : Char :=
            -- of a character that stands in the set twice the last place counts
            let place := domain.length - 1 - domain.reverse.idxOf c
            if !domain.contains c then c
            else
              match (images.getD [])[place]?, arguments.has 't' with
              | some d, _ => d
              | none, true => c
              | none, false => last.getD c
          let cs := view.input.toList
          let cs :=
            if arguments.has 'd' then cs.filter (!isChosen ·)
            else if translates then
              let table := (List.range 256).map fun n => replaced (Char.ofNat n)
              let table := table.toArray
              cs.map fun c => (table[c.toNat]?).getD c
            else cs
          let repeats (c : Char) : Bool := images.elim (isChosen c) (·.contains c)
          let cs := if arguments.has 's' then squeeze repeats cs else cs
          warned { Outcome.printing (String.ofList cs) with drains := true }

end PointerTagging.Host.Tool
