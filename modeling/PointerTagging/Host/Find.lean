import PointerTagging.Host.Find.Expression
import PointerTagging.Host.Find.Format
import PointerTagging.Host.Launching
import PointerTagging.Host.Utility
/-!
# Finding files

The utility that walks through directories and does something with the files that it chooses.
-/

namespace PointerTagging.Host.Find

open Shell

/-- The state of a search. -/
structure State where
  world : World
  context : Context
  start : Launcher
  settings : Settings
  name : String
  /-- The zone in which times are shown. -/
  zone : Zone
  hasPrinted : Bool
  code : Nat
  /-- The commands that are run once, with the paths for them. -/
  waiting : List (List String × List String)
  /-- What is in the current directory is passed over. -/
  isPruned : Bool
  isOver : Bool
  /-- The files that have been written to. -/
  written : List String

/-- What a search does. -/
abbrev Action := StateM State

/-- Prints a text. -/
def print (text : String) : Action Unit :=
  modify fun s => { s with world := s.context.write 1 text s.world, hasPrinted := true }

/-- Complains, so that the search fails. -/
def complain (text : String) : Action Unit :=
  modify fun s =>
    { s with
      world := s.context.write 2 (s.name ++ ": " ++ text ++ "\n") s.world
      code := 1 }

/-- Complains about a file. -/
def complainOf (path : String) (error : SystemError) : Action Unit :=
  complain (quotation path ++ ": " ++ error.text)

/-- Appends to a file, which is emptied before the first time. -/
def printTo (path text : String) : Action Unit := do
  let s ← get
  match s.context.writeFile path text (s.written.contains path) s.world with
  | .ok world => set { s with world, written := path :: s.written }
  | .error error => complainOf path error

/-- The words of a command with a path in place of each pair of braces. -/
def filled (path : String) (words : List String) : List String :=
  words.map fun word => word.replace "\x7b\x7d" path

/-- Starts a command; false if it fails. -/
def launch (directory : Option (List String)) (words : List String) : Action Bool := do
  let s ← get
  let context := { s.context with place := directory.getD s.context.place }
  match Tree.search (context.programOrScript s.world.tree words) context.searchPath
      (words.headD "") with
  | .ok executable =>
    let (ending, world) := s.start context words executable s.world
    set { s with world }
    return ending == .exited 0
  | .error error =>
    let text := s.name ++ ": " ++ quotation (words.headD "") ++ ": " ++ error.text ++ "\n"
    set { s with world := s.context.write 2 text s.world }
    return false

/-- The names in a directory. -/
def namesIn (place : List String) : Action (List String) := do
  return (← get).world.tree.namesIn place

/-- Removes a file. -/
def remove (entry : Entry) : Action Bool := do
  if entry.path == "." then return true
  let names ← namesIn entry.place
  if entry.file == .directory && !names.isEmpty then
    complain ("cannot delete " ++ quotation entry.path ++ ": Directory not empty")
    return false
  modify fun s => { s with world := { s.world with tree := s.world.tree.remove entry.place } }
  return true

/-- What is known of a file. -/
def found (entry : Entry) : Action Tool.Found := do return entry.found (← get).world.tree

/-- True of a file that a test holds of; actions are carried out. -/
def check (entry : Entry) : Test → Action Bool
  | .constant b => return b
  | .name globs ignoresCase => return matched globs ignoresCase (nameOf entry.path)
  | .path globs ignoresCase => return matched globs ignoresCase entry.path
  | .linkTo globs ignoresCase =>
    match entry.file with
    | .link target => return matched globs ignoresCase target
    | _ => return false
  | .regex expression ignoresCase =>
    let found := Regex.matchAt? ⟨ignoresCase, true⟩ expression (.start entry.path)
    return found.any fun p => p.behind.isEmpty
  | .kind letters beyondLinks => do
    let tree := (← get).world.tree
    let target := (tree.locate [] (Tree.pathOf entry.place)).toOption.map (·.2)
    let file := if beyondLinks then target.getD entry.file else entry.file
    return letters.contains (kindLetter ⟨tree, entry.place, file⟩)
  | .size amount unit => do
    return amount.holds (((← found entry).size + unit - 1) / unit)
  | .empty => do
    match entry.file with
    | .directory => return (← namesIn entry.place).isEmpty
    | .ordinary text _ => return text.isEmpty
    | _ => return false
  | .mode share bits => do
    let mode := (← found entry).mode
    match share with
    | .exactly => return mode == bits
    | .all => return mode &&& bits == bits
    | .some => return mode &&& bits != 0
  | .links amount => do return amount.holds (← found entry).links
  | .number amount => do return amount.holds (← found entry).number
  | .age amount unit => do
    let (seconds, nano) := (← found entry).detail.modified
    let passed := (← get).world.second - seconds - (if nano == 0 then 0 else 1)
    return amount.holdsOfAge passed unit
  | .newer than => do
    let (seconds, nano) := (← found entry).detail.modified
    return than.1 < seconds || (than.1 == seconds && than.2 < nano)
  | .user amount => do return amount.holds (← found entry).detail.owner
  | .group amount => do return amount.holds (← found entry).detail.group
  | .ownerless => do return (Tree.userName? (← found entry).detail.owner).isNone
  | .groupless => do return (Tree.groupName? (← found entry).detail.group).isNone
  | .sameFile path => do
    let s ← get
    match s.world.tree.locate s.context.place path with
    | .ok (place, _) => return (s.world.tree.twinsOf place).contains entry.place
    | .error _ => return false
  | .print ending => do
    print (entry.path ++ ending)
    return true
  | .printTo path ending => do
    printTo path (entry.path ++ ending)
    return true
  | .format text => do
    print (← shown entry text)
    return true
  | .formatTo path text => do
    printTo path (← shown entry text)
    return true
  | .list path => do
    let line := listLine (← get).zone (← found entry) entry
    match path with
    | none => print line
    | some path => printTo path line
    return true
  | .ask words inDirectory => do
    let s ← get
    let question := "< " ++ words.headD "" ++ " ... " ++ entry.path ++ " > ? "
    let channel := (s.context.descriptors.channel? 0).getD .nothing
    let (line, rest) := firstLine (s.world.pending channel)
    set { s with world := (s.context.write 2 question s.world).leave channel rest }
    if !(line.startsWith "y" || line.startsWith "Y") then return false
    if inDirectory then
      launch (some entry.place.dropLast) (filled ("./" ++ nameOf entry.path) words)
    else launch none (filled entry.path words)
  | .run words inDirectory =>
    if inDirectory then
      launch (some entry.place.dropLast) (filled ("./" ++ nameOf entry.path) words)
    else launch none (filled entry.path words)
  | .runOnce words inDirectory => do
    let path := if inDirectory then "./" ++ nameOf entry.path else entry.path
    modify fun s =>
      { s with waiting :=
          if s.waiting.any fun w => w.1 == words then
            s.waiting.map fun w => if w.1 == words then (words, w.2 ++ [path]) else w
          else s.waiting ++ [(words, [path])] }
    return true
  | .delete => remove entry
  | .prune => do
    modify fun s => { s with isPruned := true }
    return true
  | .quit => do
    modify fun s => { s with isOver := true }
    return true
where
  /-- The first line of a text, and what follows it. -/
  firstLine (text : String) : String × String :=
    let line := text.toList.takeWhile (· != '\n')
    (String.ofList line, String.ofList (text.toList.drop (line.length + 1)))
  /-- The text of a format for a file. -/
  shown (entry : Entry) (text : String) : Action String := do
    let s ← get
    return formatText s.zone s.world.tree entry (text.length + 1) text.toList
  /-- True if a pattern matches a text. -/
  matched (globs : List Glob) (ignoresCase : Bool) (text : String) : Bool :=
    Glob.isMatch globs (if ignoresCase then text.toLower else text).toList

/-- True of a file that an expression holds of. -/
def holds (entry : Entry) : Expr → Action Bool
  | .test t => do
    if (← get).isOver then return false
    check entry t
  | .not a => do return !(← holds entry a)
  | .both a b => do if ← holds entry a then holds entry b else return false
  | .either a b => do if ← holds entry a then return true else holds entry b
  | .sequence a b => do
    let _ ← holds entry a
    holds entry b

/-- Looks at a file, and at what is in it if it is a directory; `n` bounds the depth. -/
def visit (expr : Expr) : Nat → Entry → Action Unit
  | 0, _ => return
  | n + 1, entry => do
    let settings := (← get).settings
    let look : Action Unit := do
      if settings.least ≤ entry.depth && !(← get).isOver then
        let _ ← holds entry expr
    modify fun s => { s with isPruned := false }
    unless settings.insideFirst do look
    let s ← get
    let isDeep := settings.most.all (entry.depth < ·)
    let isKept := settings.insideFirst || !s.isPruned
    if entry.file == .directory && isDeep && isKept && !s.isOver then
      for name in ← namesIn entry.place do
        let path :=
          if entry.path.endsWith "/" then entry.path ++ name else entry.path ++ "/" ++ name
        match (← get).world.tree.at? (entry.place ++ [name]) with
        | none => pure ()
        | some file =>
          let (place, file) := resolved (← get) settings.followsAll (entry.place ++ [name]) file
          visit expr n ⟨path, place, file, entry.depth + 1, entry.operand⟩
    if settings.insideFirst then look
where
  /-- What counts as the file at a place. -/
  resolved (s : State) (follows : Bool) (place : List String) (file : File) : List String × File :=
    match file with
    | .link _ =>
      if follows then
        match s.world.tree.locate [] (Tree.pathOf place) with
        | .ok found => found
        | .error _ => (place, file)
      else (place, file)
    | file => (place, file)

/-- Searches below an operand. -/
def search (expr : Expr) (path : String) : Action Unit := do
  let s ← get
  let found :=
    if s.settings.followsOperands then
      match s.world.tree.locate s.context.place path with
      | .ok found => .ok found
      | .error _ => s.world.tree.locateLink s.context.place path
    else s.world.tree.locateLink s.context.place path
  match found with
  | .ok (place, file) =>
    unless s.isOver do visit expr (s.world.tree.files.length + 2) ⟨path, place, file, 0, path⟩
  | .error error => complainOf path error

/-- Runs the commands that have waited for all their paths. -/
def runWaiting : Action Unit := do
  for (words, paths) in (← get).waiting do
    let words := words.dropLast ++ paths
    unless ← launch none words do modify fun s => { s with code := 1 }

/-- Runs the utility. -/
def main (start : Launcher) (context : Context) (view : View) (world : World) : Ending × World :=
  match parse view with
  | .error complaint => (.exited 1, context.write 2 (view.name ++ ": " ++ complaint ++ "\n") world)
  | .ok (paths, expr, settings) =>
    let first : State :=
      ⟨world, context, start, settings, view.name, view.zone, false, 0, [], false, false, []⟩
    let action : Action Unit := do
      for text in expr.formats do
        for warning in formatWarnings (text.length + 1) text.toList do
          modify fun s =>
            let line := s.name ++ ": warning: " ++ warning ++ "\n"
            { s with world := s.context.write 2 line s.world }
      paths.forM (search expr)
      runWaiting
    let (_, last) := action.run first
    match context.writeError? 1 with
    | some error =>
      if last.hasPrinted then
        let (complaint, code) := Tool.lostOutput .find view.name error
        (.exited code.toUInt8, context.write 2 complaint last.world)
      else (.exited last.code.toUInt8, last.world)
    | none => (.exited last.code.toUInt8, last.world)

end PointerTagging.Host.Find
