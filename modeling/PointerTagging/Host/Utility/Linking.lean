import PointerTagging.Host.Utility.Change
/-!
# Links

The utilities that make links: files that say a path, and other names of files.
-/

namespace PointerTagging.Host.Tool

open Worker

/-- How links are made. -/
structure Linking where
  view : View
  arguments : Arguments
  backup : Backup

namespace Linking

/-- True if an option is given. -/
def has (l : Linking) (letter : Char) : Bool := l.arguments.has letter

/-- True if the links are files that say a path. -/
def isSymbolic (l : Linking) : Bool := l.has 's'

/-- What a link at a path says that is to lead to a source from where it stands. -/
def targetText (l : Linking) (tree : Tree) (source path : String) : String :=
  if l.has 'r' then
    let place (path : String) : Option (List String) :=
      (resolve tree .none l.view.place path).toOption
    match place (parentPath path), place source with
    | some start, some target => relativePath start target
    | _, _ => source
  else source

/-- Complains that a link cannot be made. -/
def fail (l : Linking) (source path : String) (error : SystemError) : Worker Unit :=
  let both (sign : String) : String := " " ++ sign ++ " " ++ Quoting.always source
  let trail :=
    if l.isSymbolic then (if source.isEmpty then both "->" else "")
    else if error == .alreadyThere then "" else both "=>"
  let kind := if l.isSymbolic then "symbolic" else "hard"
  complain l.view ("failed to create " ++ kind ++ " link " ++ Quoting.always path ++ trail ++
    ": " ++ error.text)

/-- True if a file would be lost if the one at a place made room for a link to it. -/
def isSame (f : Found) (place : List String) (source path : String) : Bool :=
  let places := f.tree.twinsOf place
  places.contains f.place &&
    (places.length == 1 || (lastName source == lastName path && f.place == place))

/-- Makes room at a place that is taken; the text of what is kept, or nothing if the place stays
taken. -/
def makeRoom (l : Linking) (created : List (List String)) (source path : String)
    (source? : Option Found) (place : List String) (file : File) : Worker (Option String) := do
  if file == .directory then
    complain l.view (Quoting.name path ++ ": cannot overwrite directory")
    return none
  if created.contains place then
    complain l.view ("will not overwrite just-created " ++ Quoting.always path ++ " with " ++
      Quoting.always source)
    return none
  if l.backup == .none && source?.any (isSame · place source path) then
    complain l.view (Quoting.always source ++ " and " ++ Quoting.always path ++
      " are the same file")
    return none
  if l.arguments.last? "fi" == some 'i' then
    if !(← ask l.view ("replace " ++ Quoting.always path)) then return none
  if l.backup == .none then
    change (·.remove place)
    return some ""
  let ending := l.backup.ending (← tree) (Backup.suffix l.view l.arguments) place
  change (·.move place (longerPlace place ending))
  return some (Quoting.always (path ++ ending) ++ " ~ ")

/-- Makes a link at a path to a source; the places of the links that have been made. -/
def link (l : Linking) (created : List (List String)) (source path : String) :
    Worker (List (List String)) := do
  let tree ← Worker.tree
  let follows := l.isSymbolic || l.arguments.last? "LP" == some 'L'
  let found := findFile l.view tree follows source
  if !l.isSymbolic then
    match found with
    | .error error =>
      complain l.view ("failed to access " ++ Quoting.always source ++ ": " ++ error.text)
      return created
    | .ok f =>
      if f.file == .directory then
        if l.has 'd' || l.has 'F' then l.fail source path .notPermitted
        else complain l.view (Quoting.name source ++ ": hard link not allowed for directory")
        return created
  let text := l.targetText tree source path
  let spot : Except SystemError Tree.Spot :=
    match tree.spotOf false l.view.place path with
    | .error error =>
      if error == .notADirectory && (tree.locateLink l.view.place (trimmedPath path)).isOk then
        .error .alreadyThere
      else .error error
    | spot => spot
  let replaces := l.has 'f' || l.has 'i' || l.backup != .none
  match spot, found with
  | .error error, _ =>
    l.fail text path error
    return created
  | .ok ⟨place, file?⟩, found => do
    if l.isSymbolic && text.isEmpty then
      l.fail text path .notFound
      return created
    let kept? ← (match file? with
      | none => return some ""
      | some file =>
        if replaces then l.makeRoom created source path found.toOption place file
        else do
          l.fail text path .alreadyThere
          return none : Worker (Option String))
    match kept?, found, l.isSymbolic with
    | none, _, _ => return created
    | some kept, found, isSymbolic =>
      match found, isSymbolic with
      | .ok f, false => change (·.join f.place place)
      | _, _ => change (·.put place (.link text))
      if l.has 'v' then
        say (kept ++ Quoting.always path ++ (if isSymbolic then " -> " else " => ") ++
          Quoting.always text ++ "\n")
      return place :: created

end Linking

/-- The options of `ln`. -/
def lnOptions : OptionTable :=
  { letters := "bdfFinLPrsS:t:Tv"
    names := [("backup==", '\x02'), ("directory", 'F'), ("force", 'f'), ("interactive", 'i'),
      ("logical", 'L'), ("no-dereference", 'n'), ("no-target-directory", 'T'),
      ("physical", 'P'), ("relative", 'r'), ("suffix=", 'S'), ("symbolic", 's'),
      ("target-directory=", 't'), ("verbose", 'v')]
    stopsEarly := false }

/-- Makes links. -/
def ln (view : View) : Outcome :=
  view.withOptions 1 lnOptions fun arguments =>
    let isDirectory (path : String) : Bool :=
      match (if arguments.has 'n' then view.tree.locateLink view.place path
        else view.tree.locate view.place path) with
      | .ok (_, .directory) => true
      | _ => false
    let into (directory : String) (sources : List String) : List (String × String) :=
      sources.map fun source => (source, pathInside directory (lastName source))
    let target := arguments.operands.getLastD ""
    let pairs : Except Outcome (List (String × String)) :=
      match arguments.value? 't', arguments.operands with
      | _, [] => .error (view.misused 1 "missing file operand")
      | some directory, sources =>
        if arguments.has 'T' then
          .error (view.failing 1 "cannot combine --target-directory and --no-target-directory")
        else
          match view.tree.locate view.place directory with
          | .ok (_, .directory) => .ok (into directory sources)
          | .ok _ =>
            .error (view.failing 1 ("target " ++ Quoting.always directory ++ " is not a directory"))
          | .error error =>
            .error (view.failing 1
              ("failed to access " ++ Quoting.always directory ++ ": " ++ error.text))
      | none, [source] =>
        if arguments.has 'T' then
          .error (view.misused 1 ("missing destination file operand after " ++ quotation source))
        else .ok (into "." [source])
      | none, sources =>
        if arguments.has 'T' then
          match sources with
          | [source, path] => .ok [(source, path)]
          | _ => .error (view.misused 1 ("extra operand " ++ quotation ((sources[2]?).getD "")))
        else if isDirectory target then .ok (into target sources.dropLast)
        else
          match sources with
          | [source, path] => .ok [(source, path)]
          | _ =>
            let error :=
              match view.tree.locate view.place target with
              | .ok _ => SystemError.notADirectory
              | .error error => error
            .error (view.failing 1 ("target " ++ Quoting.always target ++ ": " ++ error.text))
    match Backup.ofOptions view arguments '\x02', pairs with
    | .error outcome, _ => outcome
    | _, .error outcome => outcome
    | .ok backup, .ok pairs =>
      let l : Linking := ⟨view, arguments, backup⟩
      if l.has 'r' && !l.isSymbolic then
        view.failing 1 "cannot do --relative without --symbolic"
      else
        run view do
          let _ ← pairs.foldlM (fun created (source, path) => l.link created source path) []

/-- Makes another name for a file. -/
def link (view : View) : Outcome :=
  view.withOptions 1 ⟨"", [], false⟩ fun arguments =>
    match arguments.operands with
    | [] => view.lacking
    | [one] => view.misused 1 ("missing operand after " ++ quotation one)
    | [source, target] =>
      run view do
        let tree ← Worker.tree
        let refuse (error : SystemError) : Worker Unit :=
          complain view ("cannot create link " ++ Quoting.always target ++ " to " ++
            Quoting.always source ++ ": " ++ error.text)
        match tree.locateLink view.place source, tree.spotOf false view.place target with
        | .error error, _ => refuse error
        | _, .error error => refuse error
        | .ok _, .ok ⟨_, some _⟩ => refuse .alreadyThere
        | .ok (_, .directory), _ => refuse .notPermitted
        | .ok (source, _), .ok ⟨place, none⟩ => change (·.join source place)
    | _ :: _ :: extra :: _ => view.misused 1 ("extra operand " ++ quotation extra)

end PointerTagging.Host.Tool
