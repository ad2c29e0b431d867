import PointerTagging.Host.Regex.Reading
import PointerTagging.Host.Scripting.State
/-!
# Searching texts in scripts

How patterns are read and found, and what is made of the texts between their matches.
-/

namespace PointerTagging.Host.Scripting

open Text

/-- A pattern that can be searched for. -/
structure Search where
  regex : Regex
  matching : Matching
  /-- The numbers of the groups that have names. -/
  names : List (String × Nat)

/-- The groups with names in the text of a pattern; `n` groups stand before it. -/
def groupNames : Nat → (n : Nat) → (inSet : Bool) → List Char → List (String × Nat)
  | 0, _, _, _ => []
  | _, _, _, [] => []
  | fuel + 1, n, inSet, '\\' :: cs => groupNames fuel n inSet (cs.drop 1)
  | fuel + 1, n, inSet, c :: cs =>
    if inSet then groupNames fuel n (c != ']') cs
    else if c == '[' then groupNames fuel n true cs
    else if c == '(' then
      match cs with
      | '?' :: '<' :: d :: rest =>
        if d == '=' || d == '!' then groupNames fuel n false rest
        else
          let name := (d :: rest).takeWhile (· != '>')
          (String.ofList name, n + 1) :: groupNames fuel (n + 1) false rest
      | '?' :: rest => groupNames fuel n false rest
      | rest => groupNames fuel (n + 1) false rest
    else groupNames fuel n false cs

/-- The flags at the start of a pattern, and the rest of it. -/
def leadingFlags (cs : List Char) : List Char × List Char :=
  match cs with
  | '(' :: '?' :: rest =>
    let flags := rest.takeWhile "^imsxn".toList.contains
    match rest.drop flags.length with
    | ')' :: rest => (flags, rest)
    | _ => ([], cs)
  | cs => ([], cs)

/-- The dialect that flags ask for. -/
def dialectOf (flags : List Char) : Regex.Dialect :=
  { Regex.Dialect.rich with
    hasLines := flags.contains 'm'
    sparesLineEnds := !flags.contains 's'
    ignoresBlanks := flags.contains 'x' }

/-- Reads a pattern. -/
def searchFor (source flags : String) : Action Search := do
  let (more, rest) := leadingFlags source.toList
  let flags := more ++ flags.toList
  match Regex.parse (dialectOf flags) (String.ofList rest) with
  | .ok (regex, _) =>
    return ⟨regex, ⟨flags.contains 'i', false⟩, groupNames (source.length + 1) 0 false rest⟩
  | .error error =>
    let shown := source ++ "/"
    match error with
    | .unmatchedOpen => fail ("Unmatched ( in regex; marked by <-- HERE in m/( <-- HERE " ++ shown)
    | .unmatchedClose => fail ("Unmatched ) in regex; marked by <-- HERE in m/) <-- HERE " ++ shown)
    | .unmatchedBracket =>
      fail ("Unmatched [ in regex; marked by <-- HERE in m/[ <-- HERE " ++
        (shown.drop 1).toString)
    | .badRepetition =>
      fail ("Quantifier follows nothing in regex; marked by <-- HERE in m/" ++
        (source.take 1).toString ++ " <-- HERE " ++ (shown.drop 1).toString)
    | error => fail (error.message ++ " in regex m/" ++ shown)

/-- The next match from a place on; one without characters may not stand where `barred` says. -/
def nextMatch (search : Search) : Nat → (barred : Option Nat) → Regex.Place →
    Option (Regex.Place × Regex.Place)
  | 0, _, _ => none
  | n + 1, barred, place =>
    match Regex.find? search.matching search.regex (place.behind.length + 1) place with
    | none => none
    | some (start, ending) =>
      if start.index == ending.index && barred == some start.index then
        let others := Regex.places search.matching true search.regex { start with groups := [] }
        match others.find? fun p => p.index != start.index with
        | some ending => some (start, ending)
        | none => start.next?.bind (nextMatch search n none)
      else some (start, ending)

/-- All matches from a place on. -/
def allMatches (search : Search) : Nat → (barred : Option Nat) → Regex.Place →
    List (Regex.Place × Regex.Place)
  | 0, _, _ => []
  | n + 1, barred, place =>
    match nextMatch search (place.behind.length + 2) barred place with
    | none => []
    | some (start, ending) =>
      let barred := if start.index == ending.index then some start.index else none
      (start, ending) :: allMatches search n barred { ending with groups := [] }

/-- What a match has found. -/
def foundBy (search : Search) (text : String) (start ending : Regex.Place) : Found :=
  ⟨text, (0, start.index, ending.index) :: ending.groups, search.names⟩

/-- A part of a text. -/
def between (text : String) (low high : Nat) : String :=
  ((text.drop low).take (high - low)).toString

/-- The text of a group, if it has matched. -/
def Found.group? (found : Found) (n : Nat) : Option String :=
  (found.groups.find? fun g => g.1 == n).map fun g => between found.text g.2.1 g.2.2

/-- An optional text as a value. -/
def optionalText : Option String → Value
  | some s => .text s
  | none => .missing

/-- The texts of all groups of a search. -/
def groupValues (search : Search) (found : Found) : List Value :=
  (List.range search.regex.groupCount).map fun i => optionalText (found.group? (i + 1))

/-- The value of a variable that tells about the last match. -/
def Found.special? (found : Found) (name : String) : Option Value :=
  let whole := ((found.groups.find? fun g => g.1 == 0).map (·.2)).getD (0, 0)
  match name with
  | "&" => some (optionalText (found.group? 0))
  | "\x60" => some (.text (between found.text 0 whole.1))
  | "'" => some (.text (found.text.drop whole.2).toString)
  | "+" =>
    let groups := (found.groups.map (·.1)).filter (· != 0)
    some (optionalText ((groups.max?).bind found.group?))
  | name => (name.toNat?).map fun n => optionalText (found.group? n)

/-! ## Splitting -/

/-- The parts of a text between matches, with the groups of each match behind the part before it;
at most `most` parts if that is not zero. -/
def partsBetween (search : Search) (text : String) : (index : Nat) → (most : Nat) →
    List (Regex.Place × Regex.Place) → List Value
  | index, _, [] => [.text (text.drop index).toString]
  | index, most, (start, ending) :: rest =>
    if most == 1 then [.text (text.drop index).toString]
    else
      .text (between text index start.index) ::
        (groupValues search (foundBy search text start ending) ++
          partsBetween search text ending.index (most - 1) rest)

/-- The parts of a text between matches of a pattern. -/
def splitParts (search : Search) (text : String) (limit : Int) : List Value :=
  if text.isEmpty then []
  else
    let found := allMatches search (text.length + 2) none (.start text)
    let found := found.filter fun m =>
      m.2.index != 0 && !(m.1.index == m.2.index && m.1.index == text.length)
    let parts := partsBetween search text 0 limit.toNat found
    let isEmpty (value : Value) : Bool := value.toText.isEmpty
    if limit == 0 then (parts.reverse.dropWhile isEmpty).reverse else parts

/-! ## Single characters -/

/-- What is made of a text by replacing characters, and how many there were. -/
def transliterated (source replacement : List Char) (flags : String) (text : String) :
    String × Nat :=
  let isDeleting := flags.toList.contains 'd'
  let isNegated := flags.toList.contains 'c'
  let squeezes := flags.toList.contains 's'
  let targets := if replacement.isEmpty && !isDeleting then source else replacement
  let image (c : Char) : Option (Option Char) :=
    if isNegated then
      if source.contains c then none
      else if isDeleting then some none
      else some (some (if replacement.isEmpty then c else replacement.getLast?.getD c))
    else
      (source.findIdx? (· == c)).map fun i =>
        match targets[i]? with
        | some d => some d
        | none => if isDeleting then none else targets.getLast?
  let step (state : List Char × Nat × Option Char) (c : Char) : List Char × Nat × Option Char :=
    let (done, count, last) := state
    match image c with
    | none => (c :: done, count, none)
    | some none => (done, count + 1, last)
    | some (some d) =>
      if squeezes && last == some d then (done, count + 1, last)
      else (d :: done, count + 1, some d)
  let (done, count, _) := text.toList.foldl step ([], 0, none)
  (String.ofList done.reverse, count)

end PointerTagging.Host.Scripting
