import PointerTagging.Host.Utility.Particulars
/-!
# Steps that change files

What the utilities have in common that change files one after the other: the tree as it is by now,
what has been said, and answers to questions, which are lines of the standard input.
-/

namespace PointerTagging.Host.Tool

/-- Where a utility is that changes files. -/
structure Work where
  tree : Tree
  outcome : Outcome
  /-- The lines that have not been read yet. -/
  answers : List String

/-- A step of a utility that changes files. -/
abbrev Worker := StateM Work

namespace Worker

/-- Prints a text. -/
def say (text : String) : Worker Unit :=
  modify fun work => { work with outcome := work.outcome.print text }

/-- Complains about what a utility cannot do, which makes it fail. -/
def complain (view : View) (text : String) : Worker Unit :=
  modify fun work => { work with outcome := work.outcome.complaining 1 (view.complaint text) }

/-- Complains about a path. -/
def refuse (view : View) (action path : String) (error : SystemError) : Worker Unit :=
  complain view (action ++ " " ++ Quoting.always path ++ ": " ++ error.text)

/-- Asks a question; a line that begins with a `y` says yes. -/
def ask (view : View) (question : String) : Worker Bool := do
  let work ← get
  let outcome :=
    { work.outcome with
      errors := work.outcome.errors ++ view.name ++ ": " ++ question ++ "? "
      drains := true }
  set { work with outcome, answers := work.answers.drop 1 }
  let answer := work.answers.headD ""
  return answer.startsWith "y" || answer.startsWith "Y"

/-- Changes the tree. -/
def change (f : Tree → Tree) : Worker Unit :=
  modify fun work => { work with tree := f work.tree }

/-- The tree as it is by now. -/
def tree : Worker Tree := return (← get).tree

/-- What comes of some steps. -/
def run (view : View) (worker : Worker Unit) : Outcome :=
  let (_, work) := StateT.run (m := Id) worker ⟨view.tree, .quiet 0, linesOf view.input⟩
  { work.outcome with tree := some work.tree }

end Worker

/-- A path without its last slashes, unless it is nothing else. -/
def trimmedPath (path : String) : String :=
  let cs := withoutSlashes path.toList
  if cs.isEmpty then path else String.ofList cs

/-- A path and those of the directories above it that it names, the longest first. -/
def ancestors : Nat → String → List String
  | 0, _ => []
  | n + 1, path =>
    let parent := parentPath path
    if parent == "." || parent == "/" || parent == path then [path]
    else path :: ancestors n parent

/-- A name behind the path of a directory. -/
def pathInside (directory name : String) : String :=
  if directory.endsWith "/" then directory ++ name else directory ++ "/" ++ name

/-- The names in a directory, the oldest file first. -/
def oldestFirst (tree : Tree) (place : List String) : List String := (tree.namesIn place).reverse

/-- Makes the directories that are missing on the way to a path, and tells of each; true if the way
is there then. -/
def makeWay (view : View) (tell : String → Worker Unit) (path : String) : Worker Bool := do
  for path in ((ancestors (path.length + 1) (trimmedPath path)).drop 1).reverse do
    let tree ← Worker.tree
    match tree.spot view.place path with
    | .ok ⟨place, none⟩ =>
      Worker.change (·.createDirectory place (tree.directoryMode ||| 0o300))
      tell path
    | .ok ⟨_, some .directory⟩ => pure ()
    | .ok _ =>
      Worker.refuse view "cannot create directory" path .notADirectory
      return false
    | .error error =>
      Worker.refuse view "cannot create directory" path error
      return false
  return true

/-! ## Copies that are kept -/

/-- How a file is kept that another one takes the place of. -/
inductive Backup where
  | none
  /-- With a suffix behind its name. -/
  | simple
  /-- With a number behind its name if there is one like that already. -/
  | existing
  | numbered
  deriving DecidableEq, Repr

namespace Backup

/-- The words for that. -/
def words : List (List String × Backup) :=
  [(["none", "off"], .none), (["simple", "never"], .simple), (["existing", "nil"], .existing),
    (["numbered", "t"], .numbered)]

/-- The way that options ask for: `b` and `S` in their short forms, `long` with a word. -/
def ofOptions (view : View) (arguments : Arguments) (long : Char) : Except Outcome Backup := do
  let isAsked := arguments.has 'b' || arguments.has 'S' || arguments.has long
  if !isAsked then return .none
  let isSaid (word : String) : Bool := !word.isEmpty
  match (arguments.value? long).filter isSaid, (view.get? "VERSION_CONTROL").filter isSaid with
  | some word, _ => view.chooseFor "backup type" words word
  | _, some word => view.chooseFor "$VERSION_CONTROL" words word
  | _, _ => return .existing

/-- The suffix of what is kept. -/
def suffix (view : View) (arguments : Arguments) : String :=
  let usable (text : String) : Bool := !text.isEmpty && !text.contains '/'
  let given := (arguments.value? 'S').orElse fun _ => view.get? "SIMPLE_BACKUP_SUFFIX"
  (given.filter usable).getD "~"

/-- The greatest number behind the name of a file in its directory. -/
def greatest (tree : Tree) (place : List String) : Nat :=
  let lead := (place.getLastD "" ++ ".~").toList
  (tree.namesIn place.dropLast).foldl
    (fun n name =>
      let cs := name.toList
      let (digits, rest) := (cs.drop lead.length).span Char.isDigit
      if lead.isPrefixOf cs && !digits.isEmpty && rest == ['~'] then
        max n ((Text.Numeral.valueFrom 10 0 digits).getD 0)
      else n) 0

/-- What stands behind the name of the file at a place when it is kept. -/
def ending (backup : Backup) (tree : Tree) (suffix : String) (place : List String) : String :=
  let n := greatest tree place
  if backup == .numbered || (backup == .existing && n > 0) then ".~" ++ toString (n + 1) ++ "~"
  else suffix

end Backup

/-- The place with something behind its last name. -/
def longerPlace (place : List String) (ending : String) : List String :=
  place.dropLast ++ [place.getLastD "" ++ ending]

end PointerTagging.Host.Tool
