import PointerTagging.Host.Shell.Pattern
/-!
# Regular expressions

What a regular expression is, and where it leads from a place in a text. The places that it leads to
are listed in the order of preference, each once, so that no way to a place is tried twice unless
what groups have matched on it matters.
-/

namespace PointerTagging.Host

open Shell

/-- A condition on a place that takes no character. -/
inductive Edge where
  | start
  | ending
  /-- The end, or before a line end that is the last character. -/
  | lastLine
  | lineStart
  | lineEnd
  | wordStart
  | wordEnd
  /-- A word begins or ends. -/
  | word
  | notWord
  /-- No character of a word stands before. -/
  | behindWords
  /-- No character of a word follows. -/
  | beforeWords
  deriving DecidableEq, Repr

/-- A regular expression. -/
inductive Regex where
  | empty
  | char (c : Char)
  /-- Any character, or any but a line end. -/
  | any (butLineEnd : Bool)
  | among (negated : Bool) (items : List SetItem)
  | edge (edge : Edge)
  | both (a b : Regex)
  | either (a b : Regex)
  /-- What it matches is kept under a number. -/
  | group (n : Nat) (a : Regex)
  /-- What a group has matched once more. -/
  | again (n : Nat)
  /-- At least `least` times, at most `most` times if there is a bound; as seldom as possible if
  `isLazy`. -/
  | repeated (least : Nat) (most : Option Nat) (isLazy : Bool) (a : Regex)
  /-- It matches here, or does not, but nothing is taken. -/
  | look (negated : Bool) (a : Regex)
  /-- It matches up to here, or does not, but nothing is taken. -/
  | lookBack (negated : Bool) (a : Regex)
  deriving Repr

/-- How expressions are matched. -/
structure Matching where
  ignoresCase : Bool
  /-- Of several alternatives those that take more are preferred. -/
  prefersLong : Bool

namespace Regex

/-- True of a character of a word. -/
def isWordChar (c : Char) : Bool := c.isAlphanum || c == '_'

/-- True of an expression that asks for what a group has matched. -/
def hasAgain : Regex → Bool
  | .again _ => true
  | .both a b => a.hasAgain || b.hasAgain
  | .either a b => a.hasAgain || b.hasAgain
  | .group _ a => a.hasAgain
  | .repeated _ _ _ a => a.hasAgain
  | .look _ a => a.hasAgain
  | .lookBack _ a => a.hasAgain
  | _ => false

/-- The number of the groups of an expression. -/
def groupCount : Regex → Nat
  | .both a b => max a.groupCount b.groupCount
  | .either a b => max a.groupCount b.groupCount
  | .group n a => max n a.groupCount
  | .repeated _ _ _ a => a.groupCount
  | .look _ a => a.groupCount
  | .lookBack _ a => a.groupCount
  | _ => 0

/-- A place in a text: how many characters stand before it, these in reverse, those behind it, and
what groups have matched on the way there, by the places of its start and end. -/
structure Place where
  index : Nat
  before : List Char
  behind : List Char
  groups : List (Nat × Nat × Nat)

namespace Place

/-- The place at the start of a text. -/
def start (text : String) : Place := ⟨0, [], text.toList, []⟩

/-- The place `n` characters on. -/
def forward (place : Place) (n : Nat) : Place :=
  { place with
    index := place.index + min n place.behind.length
    before := (place.behind.take n).reverse ++ place.before
    behind := place.behind.drop n }

/-- The place `n` characters back. -/
def backward (place : Place) (n : Nat) : Place :=
  { place with
    index := place.index - n
    before := place.before.drop n
    behind := (place.before.take n).reverse ++ place.behind }

/-- The place one character on, if there is one. -/
def next? (place : Place) : Option Place :=
  match place.behind with
  | c :: cs =>
    some { place with index := place.index + 1, before := c :: place.before, behind := cs }
  | [] => none

/-- The characters between two places before this one, given by their numbers. -/
def between (place : Place) (low high : Nat) : List Char :=
  ((place.before.drop (place.index - high)).take (high - low)).reverse

/-- The text between a place and a later one. -/
def upTo (place later : Place) : String :=
  String.ofList (place.behind.take (later.index - place.index))

/-- The text of a group, if it has matched. -/
def group? (place : Place) (n : Nat) : Option String :=
  (place.groups.find? fun g => g.1 == n).map fun g =>
    String.ofList (place.between g.2.1 g.2.2)

/-- True if an edge is here. -/
def has (place : Place) (edge : Edge) : Bool :=
  let isWordBefore := place.before.head?.any isWordChar
  let isWordBehind := place.behind.head?.any isWordChar
  match edge with
  | .start => place.before.isEmpty
  | .ending => place.behind.isEmpty
  | .lastLine => place.behind.isEmpty || place.behind == ['\n']
  | .lineStart => place.before.isEmpty || place.before.head? == some '\n'
  | .lineEnd => place.behind.isEmpty || place.behind.head? == some '\n'
  | .wordStart => !isWordBefore && isWordBehind
  | .wordEnd => isWordBefore && !isWordBehind
  | .word => isWordBefore != isWordBehind
  | .notWord => isWordBefore == isWordBehind
  | .behindWords => !isWordBefore
  | .beforeWords => !isWordBehind

end Place

/-- What tells places apart: where they are, and what groups have matched if that is `exact`. -/
def keyOf (exact : Bool) (place : Place) : Nat × List (Nat × Nat × Nat) :=
  (place.index, if exact then place.groups else [])

/-- The places without those that stand in the list before. -/
def distinct (exact : Bool) (places : List Place) : List Place :=
  (places.foldl
    (fun (kept : List Place × List (Nat × List (Nat × Nat × Nat))) place =>
      if kept.2.contains (keyOf exact place) then kept
      else (place :: kept.1, keyOf exact place :: kept.2)) ([], [])).1.reverse

/-- The places that any number of steps lead to, none of which stays where it is. `seen` tells the
places that have been reached before, and is returned with those reached here. -/
def repeatedly (exact isLazy : Bool) (step : Place → List Place) :
    Nat → (seen : List (Nat × List (Nat × Nat × Nat))) → Place →
      List Place × List (Nat × List (Nat × Nat × Nat))
  | 0, seen, _ => ([], seen)
  | n + 1, seen, place =>
    if seen.contains (keyOf exact place) then ([], seen)
    else
      let nexts := (step place).filter fun p => p.index > place.index
      let (found, seen) := nexts.foldl
        (fun (found : List Place × List (Nat × List (Nat × Nat × Nat))) p =>
          let (more, seen) := repeatedly exact isLazy step n found.2 p
          (found.1 ++ more, seen)) ([], keyOf exact place :: seen)
      (if isLazy then place :: found else found ++ [place], seen)

/-- The places that at most `n` steps lead to. -/
def atMost (exact isLazy : Bool) (step : Place → List Place) : Nat → Place → List Place
  | 0, place => [place]
  | n + 1, place =>
    let nexts := (step place).filter fun p => p.index > place.index
    let found := distinct exact (nexts.flatMap (atMost exact isLazy step n))
    if isLazy then place :: found else found ++ [place]

/-- The places that exactly `n` steps lead to. -/
def exactly (exact : Bool) (step : Place → List Place) : Nat → List Place → List Place
  | 0, places => places
  | n + 1, places => exactly exact step n (distinct exact (places.flatMap step))

/-- The test that an expression is which takes a single character, if it is one. -/
def charTest? (matching : Matching) (regex : Regex) : Option (Char → Bool) :=
  let either (test : Char → Bool) (c : Char) : Bool :=
    test c || (matching.ignoresCase && (test c.toLower || test c.toUpper))
  match regex with
  | .char c => some (either (· == c))
  | .any butLineEnd => some fun c => !(butLineEnd && c == '\n')
  | .among negated items =>
    let isIn (c : Char) : Bool := items.any fun item => item.contains c
    some fun c => either isIn c != negated
  | _ => none

/-- The places behind a run of characters that satisfy a test. -/
def runs (least : Nat) (most : Option Nat) (isLazy : Bool) (test : Char → Bool) (place : Place) :
    List Place :=
  let length := (place.behind.takeWhile test).length
  let length := (most.map (min length)).getD length
  if length < least then []
  else
    let counts := (List.range (length + 1 - least)).map (· + least)
    (if isLazy then counts else counts.reverse).map place.forward

/-- The places with the one first that takes most. -/
def longestFirst (places : List Place) : List Place :=
  places.mergeSort fun a b => b.index ≤ a.index

/-- The places that an expression leads to from a place, in the order of preference. -/
def places (matching : Matching) (exact : Bool) : Regex → Place → List Place
  | .empty, place => [place]
  | .edge e, place => if place.has e then [place] else []
  | .both a b, place =>
    distinct exact ((places matching exact a place).flatMap (places matching exact b))
  | .either a b, place =>
    let found :=
      distinct exact (places matching exact a place ++ places matching exact b place)
    if matching.prefersLong then longestFirst found else found
  | .group n a, place =>
    (places matching exact a place).map fun p =>
      { p with groups := (n, place.index, p.index) :: p.groups.filter fun g => g.1 != n }
  | .again n, place =>
    match place.group? n with
    | none => []
    | some text =>
      let found := place.behind.take text.length
      let same :=
        if matching.ignoresCase then found.map Char.toLower == text.toList.map Char.toLower
        else found == text.toList
      if same then [place.forward text.length] else []
  | .repeated least most isLazy a, place =>
    match charTest? matching a with
    | some test => runs least most isLazy test place
    | none =>
      let step := places matching exact a
      let start := exactly exact step least [place]
      match most with
      | some most => distinct exact (start.flatMap (atMost exact isLazy step (most - least)))
      | none =>
        (start.foldl
          (fun (found : List Place × List (Nat × List (Nat × Nat × Nat))) p =>
            let (more, seen) := repeatedly exact isLazy step (p.behind.length + 1) found.2 p
            (found.1 ++ more, seen)) ([], [])).1
  | .look negated a, place =>
    match places matching exact a place with
    | [] => if negated then [place] else []
    | p :: _ => if negated then [] else [{ place with groups := p.groups }]
  | .lookBack negated a, place =>
    let isBefore := (List.range (place.index + 1)).any fun n =>
      (places matching exact a (place.backward n)).any fun p => p.index == place.index
    if isBefore != negated then [place] else []
  | .char c, place => single (charTest? matching (.char c)) place
  | .any butLineEnd, place => single (charTest? matching (.any butLineEnd)) place
  | .among negated items, place => single (charTest? matching (.among negated items)) place
where
  /-- The place behind a character that satisfies a test. -/
  single (test? : Option (Char → Bool)) (place : Place) : List Place :=
    match test?, place.behind.head?, place.next? with
    | some test, some c, some next => if test c then [next] else []
    | _, _, _ => []

/-- The end of the preferred match that begins at a place. -/
def matchAt? (matching : Matching) (regex : Regex) (place : Place) : Option Place :=
  let place := { place with groups := [] }
  let found := places matching regex.hasAgain regex place
  if matching.prefersLong then
    found.foldl (fun best p =>
      match best with
      | none => some p
      | some q => if p.index > q.index then some p else some q) none
  else found.head?

/-- The start and the end of the first match from a place on. -/
def find? (matching : Matching) (regex : Regex) : Nat → Place → Option (Place × Place)
  | 0, _ => none
  | n + 1, place =>
    match matchAt? matching regex place, place.next? with
    | some ending, _ => some (place, ending)
    | none, some next => find? matching regex n next
    | none, none => none

/-- The start and the end of the first match in a text. -/
def search? (matching : Matching) (regex : Regex) (text : String) : Option (Place × Place) :=
  find? matching regex (text.length + 1) (.start text)

/-- True if an expression matches somewhere in a text. -/
def isFoundIn (matching : Matching) (regex : Regex) (text : String) : Bool :=
  (search? matching regex text).isSome

/-- The matches in a text from the left, none of which overlaps the one before. An empty match does
not follow another match at once. -/
def findAll (matching : Matching) (regex : Regex) :
    Nat → (last : Option Nat) → Place → List (Place × Place)
  | 0, _, _ => []
  | n + 1, last, place =>
    match find? matching regex (place.behind.length + 1) place with
    | none => []
    | some (start, ending) =>
      if ending.index == start.index then
        let rest :=
          match start.next? with
          | some next => findAll matching regex n last next
          | none => []
        if last == some start.index then rest else (start, ending) :: rest
      else (start, ending) :: findAll matching regex n (some ending.index) ending

/-- All matches in a text. -/
def matchesIn (matching : Matching) (regex : Regex) (text : String) : List (Place × Place) :=
  findAll matching regex (text.length + 2) none (.start text)

/-- The parts of a text between some matches, and behind the last one. -/
def gaps (text : String) : (index : Nat) → List (Place × Place) → List String
  | index, [] => [(text.drop index).toString]
  | index, (start, ending) :: rest =>
    ((text.drop index).take (start.index - index)).toString :: gaps text ending.index rest

/-- A text with some of its matches replaced. -/
def replaced (text : String) (found : List (Place × Place))
    (replacement : Place → Place → String) : String :=
  let parts := gaps text 0 found
  parts.headD "" ++
    String.join ((found.zip (parts.drop 1)).map fun (m, part) => replacement m.1 m.2 ++ part)

end Regex

end PointerTagging.Host
