import PointerTagging.Host.Shell.Copy
import PointerTagging.Host.Shell.Lookup
import PointerTagging.Host.Shell.PathPattern
import PointerTagging.Host.Shell.Shaping
/-!
# Expanding words

A word becomes a row of atoms: characters that remember whether they are quoted and whether they
can separate fields, and marks for what quotes, `$@` and the ends of what is expanded do to fields.
The atoms are then split into fields, or joined to a text or a pattern.
-/

namespace PointerTagging.Host.Shell

open Shell.Action

/-- What a word is expanded to. -/
inductive Atom where
  | char (c : Char) (quoted splits : Bool)
  /-- There is a field here even if it is empty. -/
  | quotes
  /-- A field ends here. -/
  | cut
  /-- What is expanded begins or ends here. Separators on both sides are separate ones. -/
  | edge
  deriving DecidableEq, Repr

namespace Atom

/-- The atoms of a text. -/
def ofText (quoted splits : Bool) (text : String) : List Atom :=
  text.toList.map fun c => .char c quoted splits

/-- The character of an atom and whether it is quoted. -/
def char? : Atom → Option PatternChar
  | .char c quoted _ => some (c, quoted)
  | _ => none

/-- The text of atoms that are not split; `joint` stands where a field would end. -/
def text (joint : String) (atoms : List Atom) : String :=
  String.join (atoms.map fun atom =>
    match atom with
    | .char c _ _ => String.ofList [c]
    | .quotes => ""
    | .cut => joint
    | .edge => "")

/-- The characters of atoms as those of a pattern. -/
def patternChars (joint : String) (atoms : List Atom) : List PatternChar :=
  atoms.flatMap fun atom =>
    match atom with
    | .char c quoted _ => [(c, quoted)]
    | .quotes => []
    | .cut => joint.toList.map fun c => (c, true)
    | .edge => []

/-! ## Splitting into fields -/

/-- Fields under construction. -/
structure Fields where
  /-- The open field, in reverse. -/
  current : Option (List PatternChar)
  /-- The fields before it, in reverse. -/
  done : List (List PatternChar)
  /-- Blanks have ended the last field, and a separator may still belong to them. -/
  afterBlanks : Bool

namespace Fields

/-- No field. -/
def empty : Fields := ⟨none, [], false⟩

/-- Adds a character to the open field. -/
def push (f : Fields) (c : PatternChar) : Fields :=
  { f with current := some (c :: f.current.getD []), afterBlanks := false }

/-- Ends the open field, if there is one. -/
def close (f : Fields) (afterBlanks : Bool) : Fields :=
  match f.current with
  | none => f
  | some cs => ⟨none, cs.reverse :: f.done, afterBlanks⟩

/-- Ends a field at a separator that is no blank: an empty one if none is open. -/
def separate (f : Fields) : Fields :=
  match f.current with
  | some _ => f.close false
  | none =>
    if f.afterBlanks then { f with afterBlanks := false } else { f with done := [] :: f.done }

/-- Adds an atom; `separators` are the characters between fields. -/
def add (separators : String) (f : Fields) : Atom → Fields
  | .quotes => { f with current := some (f.current.getD []), afterBlanks := false }
  | .cut => f.close true
  | .edge => { f with afterBlanks := false }
  | .char c quoted splits =>
    if splits && separators.contains c then
      if c == ' ' || c == '\t' || c == '\n' then f.close true else f.separate
    else f.push (c, quoted)

end Fields

/-- The fields of atoms, which may be patterns of paths. -/
def fields (separators : String) (atoms : List Atom) : List (List PatternChar) :=
  ((atoms.foldl (Fields.add separators) .empty).close false).done.reverse

end Atom

/-! ## Parameters -/

/-- The pattern that atoms stand for. -/
def globsOf (atoms : List Atom) : Action (List Glob) := do
  let cs := Atom.patternChars (← joint) atoms
  return Glob.ofChars (if ← isExtended then Glob.withBangs cs else cs)

/-- The letters of the options. -/
def optionLetters : List Char := "efIimnsxvVECabu".toList

/-- The letters of the options of the extended dialect, in the order in which they are shown. -/
def extendedOptionLetters : List Char := "abefhkmnprtuvxBCEHPTcs".toList

/-- The fields of a parameter that stands for several. -/
def fieldsOf (parameter : Parameter) : Action (List String) := do
  match parameter with
  | .elements name _ => return (← collectionOf name).values
  | .keys name _ => return (← collectionOf name).keys
  | .namesFrom start _ => namesFrom start
  | _ => return (← get).positions

/-- True of a parameter that stands for several fields, which are joined between quotes. -/
def areJoined? : Parameter → Option Bool
  | .all => some false
  | .joined => some true
  | .elements _ areJoined => some areJoined
  | .keys _ areJoined => some areJoined
  | .namesFrom _ areJoined => some areJoined
  | _ => none

/-- The value of a parameter, if it is set. -/
def parameterValue (parameter : Parameter) : Action (Option String) := do
  let s ← get
  match parameter with
  | .named name => variableValue name
  | .element name key => elementValue name key
  | .position 0 => return some s.title
  | .position (n + 1) => return s.positions[n]?
  | .count => return some (toString s.positions.length)
  | .status => return some (toString s.status)
  | .pid => return some (toString s.pid)
  | .lastPid => return (s.jobs.head?).map fun job => toString job.pid
  | .options =>
    match s.dialect with
    | .common =>
      return some (String.ofList (optionLetters.filter s.options.contains).reverse)
    | .extended =>
      return some (String.ofList (extendedOptionLetters.filter s.options.contains))
  | parameter =>
    let fields ← fieldsOf parameter
    if s.dialect == .extended && fields.isEmpty then return none
    let joint ← joint
    let isJoined := (areJoined? parameter).getD false
    return some ((if isJoined then joint else " ").intercalate fields)

/-- The atoms of fields. -/
def fieldAtoms (quoted : Bool) (fields : List String) : List Atom :=
  let one (text : String) : List Atom :=
    if quoted then .quotes :: Atom.ofText true false text else Atom.ofText false true text
  ((fields.map one).intersperse [.cut]).flatten

/-- Atoms between their edges, if they can be split. -/
def edged (quoted : Bool) (atoms : List Atom) : List Atom :=
  if quoted then atoms else .edge :: atoms ++ [.edge]

/-- True of a parameter whose value is several fields. -/
def hasFields (parameter : Parameter) (quoted : Bool) : Bool :=
  match areJoined? parameter with
  | some isJoined => !(isJoined && quoted)
  | none => false

/-- The atoms of a parameter with a value. -/
def valueAtoms (parameter : Parameter) (quoted : Bool) (value : String) : Action (List Atom) := do
  if hasFields parameter quoted then return fieldAtoms quoted (← fieldsOf parameter)
  else return Atom.ofText quoted (!quoted) value

/-- Complains about a parameter that is needed and not set. -/
def unset (parameter : Parameter) (complaint : String) : Action α :=
  abandon (parameter.name ++ ": " ++ complaint)

/-- Complains about a parameter that is used and not set, under the option for that. -/
def unbound (parameter : Parameter) : Action α := do
  if !(← isExtended) then unset parameter "parameter not set"
  let sign :=
    match parameter with
    | .position _ => "$"
    | _ => ""
  abandon (sign ++ parameter.name ++ ": unbound variable")

/-- The value of a parameter that is used as it is. One that is not set counts as empty, or is an
error under the option for that. -/
def neededValue (parameter : Parameter) : Action String := do
  match ← parameterValue parameter with
  | some value => return value
  | none =>
    if (← hasOption 'u') && (areJoined? parameter).isNone then unbound parameter
    return ""

/-- Sets a parameter that a word assigns. -/
def assignParameter (parameter : Parameter) (value : String) : Action Unit := do
  match parameter with
  | .named name => assign name value
  | .element name key => assignElement name key value
  | parameter =>
    if ← isExtended then fail ("$" ++ parameter.name ++ ": cannot assign in this way")
    fail (parameter.name ++ ": bad variable name")

/-! ## Substitutions -/

/-- A text without the line ends it closes with. -/
def dropLineEnds (text : String) : String :=
  String.ofList (text.toList.reverse.dropWhile (· == '\n')).reverse

/-- What the command of a substitution prints. -/
def substitute (run : Runner) (command : Option Command) : Action String := do
  let (text, ending) ← captured run do
    setStatus (← get).status
    match command with
    | some command => run true command
    | none => setStatus 0
  let status := (← get).status
  await ending
  modify fun s => { s with substituted := s.status }
  setStatus status
  return dropLineEnds (text.replace "\x00" "")

/-- The path of a descriptor through which a command is read from or written to. -/
def openProcess (channel : Channel) : Action String := do
  let s ← get
  let isUsed (n : Nat) : Bool := (s.descriptors.channel? n).isSome
  let n := (((List.range 64).reverse).find? fun n => !isUsed n).getD 63
  let place := World.processPlace ++ [toString (s.world.processes.headD 1), "fd", toString n]
  set
    { s with
      descriptors := s.descriptors.assign n channel
      world := { s.world with tree := s.world.tree.put place (.descriptor n) } }
  return "/dev/fd/" ++ toString n

/-- The path that stands for the output of a command, or for its input: then the command runs when
everything is written. -/
def substituteProcess (run : Runner) (command : Option Command) (writes : Bool) :
    Action String := do
  if writes then
    let sink ← onWorld World.addSink
    modify fun s => { s with readers := (sink, command) :: s.readers }
    openProcess sink
  else
    let (text, _) ← captured run do
      match command with
      | some command => run true command
      | none => setStatus 0
    openProcess (← onWorld fun world => world.addSource text)

/-! ## Words -/

/-- The atoms of a parameter whose value, or each field of it, is changed. -/
def shapedAtoms (parameter : Parameter) (quoted : Bool) (change : String → String) :
    Action (List Atom) := do
  match areJoined? parameter with
  | some isJoined =>
    let fields := (← fieldsOf parameter).map change
    if isJoined && quoted then return Atom.ofText true false ((← joint).intercalate fields)
    else return fieldAtoms quoted fields
  | none =>
    match ← parameterValue parameter with
    | some value => return Atom.ofText quoted (!quoted) (change value)
    | none => return []

/-- The atoms of some of the fields of a parameter. -/
def sliceFields (parameter : Parameter) (quoted : Bool) (start : Int) (length : Option Int) :
    Action (List Atom) := do
  let s ← get
  let fields ←
    match parameter with
    | .elements name _ => do
      let array ← collectionOf name
      pure (array.from (if start < 0 then array.next + start else start))
    | _ =>
      let all := s.title :: s.positions
      let start := if start < 0 then all.length + start else start
      pure (if start < 0 then [] else all.drop start.toNat)
  let fields :=
    match length with
    | some n => fields.take n.toNat
    | none => fields
  if (areJoined? parameter).getD false && quoted then
    return Atom.ofText true false ((← joint).intercalate fields)
  else return fieldAtoms quoted fields

/-- The letters for what is special about the variable of a parameter. -/
def traitsOf (parameter : Parameter) : Action String := do
  match parameter.variableName? with
  | some name => return (← binding name).traits
  | none => return ""

/-- A command that declares the variable of a parameter with a value. -/
def declarationOf (parameter : Parameter) (value : String) : Action String := do
  match parameter.variableName? with
  | some name =>
    let traits := (← binding name).traits
    let head := if traits.isEmpty then "" else "declare -" ++ traits ++ " "
    return head ++ name ++ "=" ++ Shaping.quoted value
  | none => return ""

mutual

/-- The atoms of a part of a word; `inner` says that the word belongs to a parameter, whose text can
be split. -/
def expandPart (run : Runner) (inner : Bool) : Part → Action (List Atom)
  | .char c quoted => return [.char c quoted (inner && !quoted)]
  | .quotes => return [.quotes]
  | .parameter parameter form quoted => do
    return edged quoted (← expandForm run parameter quoted form)
  | .output command quoted => do
    return edged quoted (Atom.ofText quoted (!quoted) (← substitute run command))
  | .arithmetic expression quoted => do
    let atoms ← expandParts run false expression
    return edged quoted (Atom.ofText quoted (!quoted) (← compute (Atom.text (← joint) atoms)))
  | .element name key form quoted => do
    let key ← keyOf name (Atom.text (← joint) (← expandParts run false key))
    return edged quoted (← expandForm run (.element name key) quoted form)
  | .indirect reference form quoted => do
    let name := Atom.text (← joint) (← expandPart run false reference)
    if name.isEmpty then
      let shown :=
        match reference with
        | .parameter parameter _ _ => parameter.name
        | .element name _ _ _ => name
        | _ => ""
      fail (shown ++ ": invalid indirect expansion")
    return edged quoted (← expandForm run (← parameterNamed name) quoted form)
  | .process command writes => do
    return Atom.ofText true false (← substituteProcess run command writes)
  | .list _ => return []

/-- The atoms of a parameter in a form. -/
def expandForm (run : Runner) (parameter : Parameter) (quoted : Bool) :
    Form → Action (List Atom)
  | .value => do valueAtoms parameter quoted (← neededValue parameter)
  | .length => do
    if (areJoined? parameter).isSome && (← isExtended) then
      return Atom.ofText quoted (!quoted) (toString (← fieldsOf parameter).length)
    return Atom.ofText quoted (!quoted) (toString (← neededValue parameter).length)
  | .bad written => do fail (← byDialect "Bad substitution" (written ++ ": bad substitution"))
  | .fallback orNull word => do
    match (← parameterValue parameter).filter fun v => !(orNull && v.isEmpty) with
    | some value => valueAtoms parameter quoted value
    | none => expandParts run true word
  | .assign orNull word => do
    match (← parameterValue parameter).filter fun v => !(orNull && v.isEmpty) with
    | some value => valueAtoms parameter quoted value
    | none =>
      let value := Atom.text (← joint) (← expandParts run false word)
      assignParameter parameter value
      valueAtoms parameter quoted value
  | .demand orNull word => do
    match (← parameterValue parameter).filter fun v => !(orNull && v.isEmpty) with
    | some value => valueAtoms parameter quoted value
    | none =>
      let complaint := Atom.text (← joint) (← expandParts run false word)
      if !word.isEmpty then unset parameter complaint
      else if orNull then
        unset parameter (← byDialect "parameter not set or null" "parameter null or not set")
      else unset parameter "parameter not set"
  | .alternative orNull word => do
    match (← parameterValue parameter).filter fun v => !(orNull && v.isEmpty) with
    | some _ => expandParts run true word
    | none => return []
  | .trim atEnd longest pattern => do
    let value ← neededValue parameter
    let globs ← globsOf (← expandParts run false pattern)
    let trimmed (value : String) : String :=
      String.ofList (Glob.trim atEnd longest globs value.toList)
    if ← isExtended then shapedAtoms parameter quoted trimmed
    else if hasFields parameter quoted then
      let fields := trimmed ("\x00".intercalate (← get).positions)
      return fieldAtoms quoted (fields.splitOn "\x00")
    else return Atom.ofText quoted (!quoted) (trimmed value)
  | .slice start length => do
    let start ← numberOf (Atom.text (← joint) (← expandParts run false start))
    let length ←
      match length with
      | none => pure none
      | some length =>
        let text := Atom.text (← joint) (← expandParts run false length)
        some <$> numberOf text
    if (areJoined? parameter).isSome then sliceFields parameter quoted start length
    else
      match Shaping.slice start length (← neededValue parameter) with
      | some text => return Atom.ofText quoted (!quoted) text
      | none => fail (toString (length.getD 0) ++ ": substring expression < 0")
  | .replace spot pattern replacement => do
    let _ ← neededValue parameter
    let globs ← globsOf (← expandParts run false pattern)
    let atoms ← expandParts run false replacement
    let replacement := atoms.filterMap Atom.char?
    shapedAtoms parameter quoted (Shaping.replace spot globs replacement)
  | .recase change changesAll pattern => do
    let _ ← neededValue parameter
    let globs ← globsOf (← expandParts run false pattern)
    shapedAtoms parameter quoted (Shaping.recase change changesAll globs)
  | .transform letter => do
    let value ← neededValue parameter
    match letter with
    | 'a' => return Atom.ofText quoted (!quoted) (← traitsOf parameter)
    | 'A' => return Atom.ofText quoted (!quoted) (← declarationOf parameter value)
    | letter => shapedAtoms parameter quoted (Shaping.transform letter)

/-- The atoms of the parts of a word. -/
def expandParts (run : Runner) (inner : Bool) : List Part → Action (List Atom)
  | [] => return []
  | part :: parts => do
    let atoms ← expandPart run inner part
    return atoms ++ (← expandParts run inner parts)

end

/-- The home directory that a tilde before a name stands for. -/
def homeOf (name : String) : Action (Option String) := do
  match name with
  | "" =>
    match ← valueOf "HOME" with
    | some home => return some home
    | none => byDialect none (some "/root")
  | "root" => return some "/root"
  | "+" => do if ← isExtended then valueOf "PWD" else return none
  | "-" => do if ← isExtended then valueOf "OLDPWD" else return none
  | _ => return none

/-- The word with the tilde at its start replaced; the name behind it ends at a slash, and at a
colon in an assignment. -/
def replaceTilde (inAssignment : Bool) (word : Word) : Action Word := do
  match word with
  | .char '~' false :: rest =>
    let isEnd (part : Part) : Bool :=
      match part with
      | .char c false => c == '/' || (inAssignment && c == ':')
      | _ => false
    let name := rest.takeWhile fun part => !isEnd part
    match Word.bare? name with
    | none => return word
    | some text =>
      match ← homeOf text with
      | none => return word
      | some home => return home.toList.map (fun c => .char c true) ++ rest.drop name.length
  | word => return word

/-- The word of an assignment with all its tildes replaced: at its start and behind colons. -/
def replaceTildes : Nat → Word → Action Word
  | 0, word => return word
  | n + 1, word => do
    let isColon (part : Part) : Bool :=
      match part with
      | .char ':' false => true
      | _ => false
    let word ← replaceTilde true word
    let head := word.takeWhile fun part => !isColon part
    match word.drop head.length with
    | [] => return word
    | colon :: rest => return head ++ colon :: (← replaceTildes n rest)

/-- The paths that a field matches, or its own text if there are none. -/
def pathsOrText (tree : Tree) (place : List String) (field : List PatternChar) : List String :=
  match Glob.paths tree place field with
  | [] => [Glob.text field]
  | paths => paths

/-- The same in the extended dialect, where a pattern that matches nothing can be dropped. -/
def extendedPaths (tree : Tree) (place : List String) (dropsOthers : Bool)
    (field : List PatternChar) : List String :=
  match Glob.paths tree place (Glob.withBangs field) with
  | [] => if dropsOthers && (Glob.ofChars field).any Glob.isActive then [] else [Glob.text field]
  | paths => paths

/-- The fields that a word of a command expands to, with paths in the place of patterns. -/
def expandFields (run : Runner) (word : Word) : Action (List String) := do
  let atoms ← expandParts run false (← replaceTilde false word)
  let fields := Atom.fields (← separators) atoms
  let s ← get
  if s.options.contains 'f' then return fields.map Glob.text
  else
    match s.dialect with
    | .common => return fields.flatMap (pathsOrText s.world.tree s.place)
    | .extended =>
      let dropsOthers := s.features.contains "nullglob"
      return fields.flatMap (extendedPaths s.world.tree s.place dropsOthers)

/-- The words that a word with alternatives in braces stands for. -/
def withoutBraces (word : Word) : Action (List Word) := do
  if (← isExtended) && (← hasOption 'B') then return Shaping.alternatives word else return [word]

/-- The fields that words expand to. -/
def expandAll (run : Runner) (words : List Word) : Action (List String) := do
  let words ← words.mapM withoutBraces
  return (← words.flatten.mapM (expandFields run)).flatten

/-- The text that a word expands to where it is not split. -/
def expandText (run : Runner) (word : Word) : Action String := do
  return Atom.text (← joint) (← expandParts run false (← replaceTilde false word))

/-- The text that the value of an assignment expands to. -/
def expandValue (run : Runner) (word : Word) : Action String := do
  return Atom.text (← joint) (← expandParts run false (← replaceTildes (word.length + 1) word))

/-- The text behind `<<` with what it holds replaced. -/
def expandDocument (run : Runner) (text : Word) : Action String := do
  return Atom.text (← joint) (← expandParts run false text)

/-- The regular expression that a word expands to: what is quoted stands for itself. -/
def expandRegex (run : Runner) (word : Word) : Action String := do
  let atoms ← expandParts run false (← replaceTilde false word)
  let one (atom : Atom) : List Char :=
    match atom.char? with
    | some (c, quoted) =>
      if quoted && "\\[]()\x7b\x7d.*+?^$|".contains c then ['\\', c] else [c]
    | none => []
  return String.ofList (atoms.flatMap one)

/-- The pattern that a word expands to. -/
def expandPattern (run : Runner) (word : Word) : Action (List Glob) := do
  globsOf (← expandParts run false (← replaceTilde false word))

end PointerTagging.Host.Shell
