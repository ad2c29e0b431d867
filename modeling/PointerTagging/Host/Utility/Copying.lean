import PointerTagging.Host.Utility.Making
/-!
# Copying and moving files

The utilities that copy and move files, and directories with all that is in them.
-/

namespace PointerTagging.Host.Tool

open Worker

/-- What is done where the target of a copy is there already. -/
inductive Replacing where
  | silently
  | afterAsking
  | never
  deriving DecidableEq, Repr

/-- What a copy is instead of one. -/
inductive CopyKind where
  | copy
  | symbolicLink
  | hardLink
  deriving DecidableEq, Repr

/-- How files are copied or moved. -/
structure Copying where
  view : View
  moves : Bool
  /-- Directories are copied with all that is in them. -/
  isDeep : Bool
  /-- What is said in front of the complaint about a directory that is not copied. -/
  omission : String
  /-- Links among the arguments are followed. -/
  followsArguments : Bool
  /-- Other links are followed. -/
  followsAll : Bool
  replacing : Replacing
  /-- Only files that are older than their sources are replaced. -/
  updates : Bool
  backup : Backup
  suffix : String
  /-- What stands at the target is removed first. -/
  unlinksFirst : Bool
  isForced : Bool
  isVerbose : Bool
  kind : CopyKind
  keepsMode : Bool
  keepsOwner : Bool
  keepsTimes : Bool

namespace Copying

/-- The text that a file gives to a copy, if it is no directory. -/
def contentsOf (view : View) (file : File) : File :=
  match file with
  | .ordinary text mode => .ordinary text mode
  | .program utility => .program utility
  | .library => .library
  | .zeros => .holding File.someZeros
  | .descriptor n => .holding (((view.inputs.find? fun d => d.1 == n).map (·.2)).getD "")
  | _ => .holding ""

/-- True of a file with contents. -/
def isRegular : File → Bool
  | .ordinary .. => true
  | .program _ => true
  | .library => true
  | _ => false

/-- The line about a change from one path to another. -/
def change (source path kept : String) : String :=
  Quoting.always source ++ " -> " ++ Quoting.always path ++
    (if kept.isEmpty then "" else " (backup: " ++ Quoting.always kept ++ ")") ++ "\n"

/-- Says that something has been copied. -/
def tell (c : Copying) (source path kept : String) : Worker Unit := do
  if c.isVerbose then say (change source path kept)

/-- Gives a copy what it keeps of its source. -/
def keep (c : Copying) (f : Found) (place : List String) : Worker Unit :=
  Worker.change fun tree =>
    let old := f.detail
    let detail := tree.detail place
    let detail :=
      if c.keepsOwner then { detail with owner := old.owner, group := old.group } else detail
    let detail := if c.keepsTimes then { detail with modified := old.modified } else detail
    let tree := tree.withDetail place detail
    if c.keepsMode then tree.setMode place f.mode else tree

/-- True if the file at a place is the one that has been found, in a way that a copy would harm
it. -/
def isSame (c : Copying) (f : Found) (place : List String) : Bool :=
  let places := f.tree.twinsOf place
  if !places.contains f.place then false
  else if c.moves then true
  else if c.backup != .none then f.place == place
  else if c.unlinksFirst then places.length == 1 || f.place == place
  else true

/-- The answer to the question whether a file may be replaced. -/
def mayReplace (c : Copying) (path : String) : Worker Bool := do
  match c.replacing with
  | .silently => return true
  | .never => return false
  | .afterAsking => ask c.view ("overwrite " ++ Quoting.always path)

/-- What comes of clearing the way at a target that is there already. -/
inductive Clearing where
  /-- Nothing more is to be done; true if that is no failure. -/
  | done (isFine : Bool)
  /-- What stood there is kept under another path, if it is. -/
  | free (kept : String)
  /-- It is still there. -/
  | taken
  deriving DecidableEq, Repr

/-- Clears the way at a target that is there already. -/
def clear (c : Copying) (created : List (List String)) (f : Found) (source path : String)
    (place : List String) (file : File) : Worker Clearing := do
  let refuse (text : String) : Worker Clearing := do
    complain c.view text
    return .done false
  let isDirectory := file == .directory
  let fromDirectory := f.file == .directory
  if c.isSame f place then
    if c.kind == .hardLink then return .done true
    return ← refuse (Quoting.always source ++ " and " ++ Quoting.always path ++
      " are the same file")
  let old := ((← tree).detail place).modified
  let new := f.detail.modified
  let isNewer := old.1 < new.1 || (old.1 == new.1 && old.2 < new.2)
  if c.updates && !fromDirectory && !isNewer then return .done true
  if (c.moves || !fromDirectory) && !(← c.mayReplace path) then return .done true
  let isMovedAway := c.moves && c.backup != .none
  if fromDirectory && !isDirectory && !isMovedAway then
    return ← refuse ("cannot overwrite non-directory " ++ Quoting.always path ++
      " with directory " ++ Quoting.always source)
  if !isDirectory && created.contains place then
    return ← refuse ("will not overwrite just-created " ++ Quoting.always path ++ " with " ++
      Quoting.always source)
  if !fromDirectory && isDirectory && !isMovedAway then
    return ← refuse ("cannot overwrite directory " ++ Quoting.always path ++
      " with non-directory")
  let isNamed := !([".", ".."].contains (lastName source))
  if c.backup != .none && isNamed && (c.moves || !isDirectory) then
    let ending := c.backup.ending (← tree) c.suffix place
    Worker.change (·.move place (longerPlace place ending))
    return .free (path ++ ending)
  let isLinkOver :=
    match f.file with
    | .link _ => true
    | _ => false
  let isLinked := c.kind != .copy && c.isForced
  if !isDirectory && !c.moves && (c.unlinksFirst || isLinkOver || isLinked) then
    Worker.change (·.remove place)
    if c.isVerbose && !isLinked then say ("removed " ++ Quoting.always path ++ "\n")
    return .free ""
  return .taken

/-- Moves a file to a place; `kept` is the path of what stood there before. -/
def moveTo (c : Copying) (f : Found) (source path kept : String)
    (spot : Except SystemError Tree.Spot) : Worker Bool := do
  let fail (error : SystemError) : Worker Bool := do
    complain c.view ("cannot move " ++ Quoting.always source ++ " to " ++ Quoting.always path ++
      ": " ++ error.text)
    return false
  if [".", "..", "/"].contains (lastName source) then return ← fail .busy
  match spot with
  | .error error => fail error
  | .ok ⟨place, file⟩ =>
    if path.endsWith "/" && f.file != .directory then fail .notADirectory
    else if f.place.isPrefixOf place then
      complain c.view ("cannot move " ++ Quoting.always source ++
        " to a subdirectory of itself, " ++ Quoting.always path)
      return false
    else if file == some .directory && !((← tree).namesIn place).isEmpty then fail .notEmpty
    else
      Worker.change (·.move f.place place)
      if c.isVerbose then say ("renamed " ++ change source path kept)
      return true

/-- Makes a link at a target in the place of a copy. -/
def linkTo (c : Copying) (f : Found) (source path : String)
    (spot : Except SystemError Tree.Spot) : Worker Bool := do
  let isSymbolic := c.kind == .symbolicLink
  let fail (error : SystemError) : Worker Bool := do
    complain c.view ("cannot create " ++ (if isSymbolic then "symbolic" else "hard") ++ " link " ++
      Quoting.always path ++ " to " ++ Quoting.always source ++ ": " ++ error.text)
    return false
  match spot with
  | .error error => fail error
  | .ok ⟨place, file⟩ =>
    if isSymbolic && !source.startsWith "/" && place.dropLast != c.view.place then
      complain c.view (Quoting.name path ++
        ": can make relative symbolic links only in current directory")
      return false
    else if file.isSome then fail .alreadyThere
    else
      Worker.change fun tree =>
        if isSymbolic then tree.put place (.link source) else tree.join f.place place
      return true

/-- Copies a file that is no directory to a target. -/
def copyFile (c : Copying) (f : Found) (path : String)
    (spot : Except SystemError Tree.Spot) : Worker Bool := do
  let fail (error : SystemError) : Worker Bool := do
    refuse c.view "cannot create regular file" path error
    return false
  let isLink := match f.file with
    | .link _ => true
    | _ => false
  let isSpecial := isLink || (!isRegular f.file && c.isDeep)
  let file := if isSpecial then f.file else contentsOf c.view f.file
  match spot with
  | .error error =>
    fail (if error == .notFound && path.endsWith "/" then .notADirectory else error)
  | .ok ⟨place, none⟩ =>
    if !isSpecial && (← tree).isLink c.view.place path then
      complain c.view ("not writing through dangling symlink " ++ Quoting.always path)
      return false
    Worker.change fun tree =>
      let mode := f.mode &&& 0o777 &&& (Permissions.all - tree.mask)
      match file with
      | .link text => tree.put place (.link text)
      | file => (tree.put place file).setMode place mode
    c.keep f place
    return true
  | .ok ⟨place, some old⟩ =>
    match old, file with
    | .ordinary _ mode, .ordinary text _ =>
      Worker.change (·.put place (.ordinary text mode))
      c.keep f place
    | .ordinary .., file => Worker.change (·.put place file)
    | .program _, file => Worker.change (·.put place file)
    | .library, file => Worker.change (·.put place file)
    | .descriptor 1, .ordinary text _ => say text
    | .full, .ordinary text _ =>
      if !text.isEmpty then
        refuse c.view "error writing" path .noSpace
        return false
    | _, _ => pure ()
    return true

/-- Copies or moves what a path leads to. `made` are the places of directories that have been made
on the way, and `root` is the change that began it. -/
def copy (c : Copying) (created : List (List String)) (root : String × String) :
    Nat → (isArgument : Bool) → (made : List (List String)) → (source path : String) → Worker Bool
  | 0, _, _, _, _ => return false
  | n + 1, isArgument, made, source, path => do
    let tree ← Worker.tree
    let follows := if isArgument then c.followsArguments else c.followsAll
    match findFile c.view tree follows source with
    | .error error =>
      refuse c.view "cannot stat" source error
      return false
    | .ok f =>
      let isDirectory := f.file == .directory
      if isDirectory && !c.isDeep then
        complain c.view (c.omission ++ "omitting directory " ++ Quoting.always source)
        return false
      if made.contains f.place then
        complain c.view ("cannot copy a directory, " ++ Quoting.always root.1 ++
          ", into itself, " ++ Quoting.always root.2)
        return false
      let isLinked := c.moves || c.kind != .copy || c.backup != .none || c.unlinksFirst
      let isPlain := isRegular f.file || (!c.isDeep && !isDirectory)
      let isLink :=
        match f.file with
        | .link _ => true
        | _ => false
      let named := if isDirectory then trimmedPath path else path
      let find : Worker (Except SystemError Tree.Spot) := do
        return (← Worker.tree).spotOf (!isLinked && isPlain && !isLink) c.view.place named
      let spot ← find
      let clearing ← (match spot with
        | .ok ⟨place, some file⟩ => c.clear created f source path place file
        | .ok ⟨_, none⟩ => return .free ""
        | .error .notADirectory =>
          if path.endsWith "/" && !isDirectory then return .taken
          else do
            refuse c.view "cannot stat" path .notADirectory
            return .done false
        | .error _ => return .taken : Worker Clearing)
      match clearing with
      | .done isFine => return isFine
      | clearing =>
        let kept :=
          match clearing with
          | .free kept => kept
          | _ => ""
        let spot ← find
        if c.moves then c.moveTo f source path kept spot
        else if isDirectory then
          match spot with
          | .error error =>
            refuse c.view "cannot create directory" path error
            return false
          | .ok ⟨place, file⟩ =>
            let mode := f.mode &&& 0o1777 &&& (Permissions.all - tree.mask)
            if file.isNone then
              Worker.change (·.createDirectory place (mode ||| 0o700))
              c.tell source path kept
            let mut isFine := true
            for name in oldestFirst (← Worker.tree) f.place do
              let inner := (pathInside source name, pathInside path name)
              let made := if file.isNone then place :: made else made
              if !(← copy c created root n false made inner.1 inner.2) then isFine := false
            if file.isNone then Worker.change (·.setMode place mode)
            c.keep f place
            return isFine
        else
          c.tell source path kept
          if c.kind != .copy then c.linkTo f source path spot else c.copyFile f path spot

/-- Copies or moves files to their targets one after the other. -/
def copyAll (c : Copying) (pairs : List (String × String)) : Worker Unit := do
  let mut created : List (List String) := []
  let mut seen : List (List String) := []
  for (source, path) in pairs do
    let tree ← Worker.tree
    let found := (findFile c.view tree c.followsArguments source).toOption
    let isSeen := found.any fun f => seen.contains f.place
    let isDirectory := found.any fun f => f.file == .directory
    if isSeen && !c.moves && (c.isDeep || !isDirectory) && (c.backup == .none || isDirectory) then
      complainSoftly ("warning: source " ++ (if isDirectory then "directory " else "file ") ++
        Quoting.always source ++ " specified more than once")
    else
      seen := (found.map (·.place)).toList ++ seen
      let room := tree.files.length + 2
      if ← c.copy created (source, path) room true [] source path then
        match (← Worker.tree).spotOf false c.view.place path with
        | .ok spot => created := spot.place :: created
        | .error _ => pure ()
where
  /-- Complains without failing. -/
  complainSoftly (text : String) : Worker Unit :=
    modify fun work =>
      { work with
        outcome := { work.outcome with errors := work.outcome.errors ++ c.view.complaint text } }

end Copying

/-! ## Sources and targets -/

/-- Where a source goes that is copied into a directory. -/
def targetIn (directory source : String) : String :=
  let name := lastName source
  pathInside directory (if name == ".." then "." else name)

/-- The sources with their targets, or what is wrong with the operands. `refuse` puts the complaint
about a directory of targets. -/
def copyPairs (view : View) (arguments : Arguments) (refuse : String → SystemError → String) :
    Except Outcome (Option String × List (String × String)) :=
  let into (directory : String) (sources : List String) :
      Except Outcome (Option String × List (String × String)) :=
    .ok (some directory, sources.map fun source => (source, targetIn directory source))
  let target := arguments.operands.getLastD ""
  match arguments.value? 't', arguments.operands with
  | _, [] => .error (view.misused 1 "missing file operand")
  | some directory, sources =>
    if (arguments.values 't').length > 1 then
      .error (view.failing 1 "multiple target directories specified")
    else if arguments.has 'T' then
      .error (view.failing 1
        "cannot combine --target-directory (-t) and --no-target-directory (-T)")
    else
      match view.tree.locate view.place directory with
      | .ok (_, .directory) => into directory sources
      | .ok _ => .error (view.failing 1 (refuse directory .notADirectory))
      | .error error => .error (view.failing 1 (refuse directory error))
  | none, [one] =>
    .error (view.misused 1 ("missing destination file operand after " ++ quotation one))
  | none, sources =>
    match view.tree.locate view.place target, arguments.has 'T', sources with
    | _, true, [source, path] => .ok (none, [(source, path)])
    | _, true, _ => .error (view.misused 1 ("extra operand " ++ quotation ((sources[2]?).getD "")))
    | .ok (_, .directory), false, _ => into target sources.dropLast
    | _, false, [source, path] => .ok (none, [(source, path)])
    | .ok _, false, _ =>
      .error (view.failing 1 ("target " ++ Quoting.always target ++ ": " ++
        SystemError.notADirectory.text))
    | .error error, false, _ =>
      .error (view.failing 1 ("target " ++ Quoting.always target ++ ": " ++ error.text))

/-- The complaint about a directory of targets. -/
def targetRefusal (directory : String) (error : SystemError) : String :=
  "target directory " ++ Quoting.always directory ++ ": " ++ error.text

/-! ## Options -/

/-- The options of `cp`. -/
def cpOptions : OptionTable :=
  { letters := "abdfHilLnprRPsS:t:TuvxZ"
    names := [("archive", 'a'), ("attributes-only", '\x04'), ("backup==", '\x02'),
      ("copy-contents", '\x05'), ("dereference", 'L'), ("force", 'f'), ("interactive", 'i'),
      ("link", 'l'), ("no-clobber", 'n'), ("no-dereference", 'P'), ("no-preserve=", '\x06'),
      ("no-target-directory", 'T'), ("one-file-system", 'x'), ("parents", '\x07'),
      ("preserve==", '\x08'), ("recursive", 'r'), ("reflink==", '\x0b'),
      ("remove-destination", '\x0c'), ("sparse=", '\x0e'), ("strip-trailing-slashes", '\x0f'),
      ("suffix=", 'S'), ("symbolic-link", 's'), ("target-directory=", 't'), ("update", 'u'),
      ("verbose", 'v'), ("context==", 'Z')]
    stopsEarly := false }

/-- What copies can keep of their sources: permissions, owners and times. -/
def keepings : List (List String × (Bool × Bool × Bool)) :=
  [(["mode"], (true, false, false)), (["timestamps"], (false, false, true)),
    (["ownership"], (false, true, false)), (["links"], (false, false, false)),
    (["context"], (false, false, false)), (["xattr"], (false, false, false)),
    (["all"], (true, true, true))]

/-- What copies keep of their sources under some options. -/
def keepingOf (view : View) (arguments : Arguments) : Except Outcome (Bool × Bool × Bool) :=
  arguments.options.foldlM
    (fun (mode, owner, times) (letter, value) =>
      let words := value.splitOn ","
      match letter with
      | 'p' => .ok (true, true, true)
      | 'a' => .ok (true, true, true)
      | '\x08' =>
        if value.isEmpty then .ok (true, true, true)
        else
          words.foldlM
            (fun (mode, owner, times) word =>
              (view.choose "preserve" keepings word).map fun (m, o, t) =>
                (mode || m, owner || o, times || t)) (mode, owner, times)
      | '\x06' =>
        words.foldlM
          (fun (mode, owner, times) word =>
            (view.choose "no-preserve" keepings word).map fun (m, o, t) =>
              (mode && !m, owner && !o, times && !t)) (mode, owner, times)
      | _ => .ok (mode, owner, times)) (false, false, false)

/-- The words for options that change nothing here. -/
def sparseWords : List (List String × Unit) :=
  [(["never"], ()), (["auto"], ()), (["always"], ())]

/-- The same. -/
def cloneWords : List (List String × Unit) :=
  [(["auto"], ()), (["always"], ()), (["never"], ())]

/-- Makes the directories on the way to the copy of a path below a directory. -/
def makeParents (c : Copying) (directory source : String) : Worker Bool := do
  for path in ((ancestors (source.length + 1) (trimmedPath source)).drop 1).reverse do
    let tree ← Worker.tree
    match tree.locate c.view.place path with
    | .error error =>
      refuse c.view "failed to get attributes of" path error
      return false
    | .ok (place, file) =>
      let f : Found := ⟨tree, place, file⟩
      let target := pathInside directory path
      match tree.spot c.view.place target with
      | .ok ⟨place, none⟩ =>
        Worker.change (·.createDirectory place
          (f.mode &&& 0o777 &&& (Permissions.all - tree.mask)))
        if c.isVerbose then say (path ++ " -> " ++ target ++ "\n")
      | .ok ⟨_, some .directory⟩ => pure ()
      | .ok _ =>
        complain c.view (Quoting.always target ++ " exists but is not a directory")
        return false
      | .error error =>
        refuse c.view "cannot make directory" target error
        return false
  return true

/-- Copies files, and directories under the option for that. -/
def cp (view : View) : Outcome :=
  view.withOptions 1 cpOptions fun arguments =>
    let checked : Except Outcome ((Bool × Bool × Bool) × Backup) := do
      let keeping ← keepingOf view arguments
      let _ ← view.choice arguments '\x0e' "sparse" sparseWords
      match (arguments.value? '\x0b').filter (!·.isEmpty) with
      | some word =>
        let _ ← view.choose "reflink" cloneWords word
      | none => pure ()
      return (keeping, ← Backup.ofOptions view arguments '\x02')
    match checked with
    | .error outcome => outcome
    | .ok ((mode, owner, times), backup) =>
      let isDeep := arguments.has 'r' || arguments.has 'R' || arguments.has 'a'
      let follows := (arguments.options.filterMap fun o =>
        match o.1 with
        | 'L' => some (true, true)
        | 'H' => some (true, false)
        | 'P' => some (false, false)
        | 'd' => some (false, false)
        | 'a' => some (false, false)
        | _ => none).getLast?
      let (followsArguments, followsAll) :=
        follows.getD (if isDeep || arguments.has 'l' then (false, false) else (true, true))
      let c : Copying :=
        { view, moves := false, isDeep, omission := "-r not specified; "
          followsArguments, followsAll
          replacing :=
            match arguments.last? "in" with
            | some 'i' => .afterAsking
            | some _ => .never
            | none => .silently
          updates := arguments.has 'u', backup, suffix := Backup.suffix view arguments
          unlinksFirst := arguments.has '\x0c', isForced := arguments.has 'f'
          isVerbose := arguments.has 'v'
          kind := if arguments.has 's' then .symbolicLink
            else if arguments.has 'l' then .hardLink else .copy
          keepsMode := mode, keepsOwner := owner, keepsTimes := times }
      if arguments.has 'n' && backup != .none then
        view.misused 1 "options --backup and --no-clobber are mutually exclusive"
      else if arguments.has 'l' && arguments.has 's' then
        view.misused 1 "cannot make both hard and symbolic links"
      else
        match copyPairs view arguments targetRefusal with
        | .error outcome => outcome
        | .ok (directory?, pairs) =>
          let strip (pair : String × String) : String × String :=
            if arguments.has '\x0f' then (trimmedPath pair.1, pair.2) else pair
          if arguments.has '\x07' then
            match directory? with
            | none => view.misused 1 "with --parents, the destination must be a directory"
            | some directory =>
              run view do
                for (source, _) in pairs do
                  if ← makeParents c directory source then
                    c.copyAll [(source, pathInside directory (trimmedPath source))]
          else run view (c.copyAll (pairs.map strip))

/-- The options of `mv`. -/
def mvOptions : OptionTable :=
  { letters := "bfinS:t:TuvZ"
    names := [("backup==", '\x02'), ("context", 'Z'), ("force", 'f'), ("interactive", 'i'),
      ("no-clobber", 'n'), ("no-target-directory", 'T'), ("strip-trailing-slashes", '\x0f'),
      ("suffix=", 'S'), ("target-directory=", 't'), ("update", 'u'), ("verbose", 'v')]
    stopsEarly := false }

/-- Moves files. -/
def mv (view : View) : Outcome :=
  view.withOptions 1 mvOptions fun arguments =>
    match Backup.ofOptions view arguments '\x02' with
    | .error outcome => outcome
    | .ok backup =>
      let c : Copying :=
        { view, moves := true, isDeep := true, omission := ""
          followsArguments := false, followsAll := false
          replacing :=
            match arguments.last? "fin" with
            | some 'i' => .afterAsking
            | some 'n' => .never
            | _ => .silently
          updates := arguments.has 'u', backup, suffix := Backup.suffix view arguments
          unlinksFirst := false, isForced := false, isVerbose := arguments.has 'v'
          kind := .copy, keepsMode := true, keepsOwner := true, keepsTimes := true }
      let isExclusive := c.replacing == .never && backup != .none
      match copyPairs view arguments targetRefusal with
      | .error outcome => outcome
      | .ok (_, pairs) =>
        let strip (pair : String × String) : String × String :=
          if arguments.has '\x0f' then (trimmedPath pair.1, pair.2) else pair
        if isExclusive then
          view.misused 1 "options --backup and --no-clobber are mutually exclusive"
        else run view (c.copyAll (pairs.map strip))

/-! ## Putting files in place -/

/-- The number of a user or a group that a text says, by name or in digits. -/
def numberIn (known : String → Option Nat) (text : String) : Option Nat :=
  let digits := if text.startsWith "+" then text.toList.drop 1 else text.toList
  let counted :=
    if digits.isEmpty || !digits.all Char.isDigit then none
    else (Text.Numeral.valueFrom 10 0 digits).filter (· < UInt32.size - 1)
  if text.startsWith "+" then counted else (known text).orElse fun _ => counted

/-- The number of a user. -/
def userIn (text : String) : Option Nat :=
  numberIn (fun name => (Tree.users.find? fun u => u.1 == name).map (·.2.1)) text

/-- The number of a group. -/
def groupIn (text : String) : Option Nat :=
  numberIn (fun name => (Tree.groups.find? fun g => g.1 == name).map (·.2)) text

/-- The options of `install`. -/
def installOptions : OptionTable :=
  { letters := "bcCdDg:m:o:psS:t:TvZ"
    names := [("backup==", '\x02'), ("compare", 'C'), ("context==", 'Z'), ("directory", 'd'),
      ("group=", 'g'), ("mode=", 'm'), ("no-target-directory", 'T'), ("owner=", 'o'),
      ("preserve-context", '\x04'), ("preserve-timestamps", 'p'), ("strip", 's'),
      ("strip-program=", '\x05'), ("suffix=", 'S'), ("target-directory=", 't'),
      ("verbose", 'v')]
    stopsEarly := false }

/-- Permissions and owners of what is put in place. -/
structure Placing where
  mode : Nat
  directoryMode : Nat
  owner : Option Nat
  group : Option Nat

/-- The permissions and owners that options ask for, or what is wrong with them. -/
def placingOf (view : View) (arguments : Arguments) : Except Outcome Placing := do
  let clauses ← (match arguments.value? 'm' with
    | none => .ok none
    | some text =>
      match Permissions.clauses? text with
      | some clauses => .ok (some clauses)
      | none => .error (view.failing 1 ("invalid mode " ++ quotation text)) :
    Except Outcome (Option (List Permissions.Clause)))
  let number (letter : Char) (what : String) (f : String → Option Nat) :
      Except Outcome (Option Nat) :=
    match arguments.value? letter with
    | none => .ok none
    | some text =>
      match f text with
      | some n => .ok (some n)
      | none => .error (view.failing 1 ("invalid " ++ what ++ " " ++ quotation text))
  let owner ← number 'o' "user" userIn
  let group ← number 'g' "group" groupIn
  let mode (isDirectory : Bool) : Nat :=
    clauses.elim 0o755 fun clauses => Permissions.apply clauses isDirectory 0 0
  return ⟨mode false, mode true, owner, group⟩

/-- Gives a file that has been put in place its permissions and owners. -/
def Placing.finish (p : Placing) (isDirectory : Bool) (place : List String) : Worker Unit :=
  Worker.change fun tree =>
    let detail := tree.detail place
    let detail :=
      { detail with
        owner := p.owner.getD detail.owner
        group := p.group.getD detail.group }
    (tree.withDetail place detail).setMode place (if isDirectory then p.directoryMode else p.mode)

/-- True if a file is already in place as it is to be. -/
def Placing.isDone (p : Placing) (view : View) (tree : Tree) (source path : String) : Bool :=
  match findFile view tree true source, findFile view tree false path with
  | .ok old, .ok new =>
    match old.file, new.file with
    | .ordinary text _, .ordinary other _ =>
      text == other && new.mode == p.mode && p.owner.all (· == new.detail.owner) &&
        p.group.all (· == new.detail.group)
    | _, _ => false
  | _, _ => false

/-- Copies files to their places with given permissions. -/
def install (view : View) : Outcome :=
  view.withOptions 1 installOptions fun arguments =>
    match placingOf view arguments, Backup.ofOptions view arguments '\x02' with
    | .error outcome, _ => outcome
    | _, .error outcome => outcome
    | .ok placing, .ok backup =>
      let tell (path : String) : Worker Unit := do
        if arguments.has 'v' then
          say (view.name ++ ": creating directory " ++ Quoting.always path ++ "\n")
      let finish (isDirectory : Bool) (path : String) : Worker Unit := do
        match (← tree).locate view.place path with
        | .ok (place, file) =>
          if (file == .directory) == isDirectory && (isDirectory || Copying.isRegular file) then
            placing.finish isDirectory place
        | .error _ => pure ()
      let c : Copying :=
        { view, moves := false, isDeep := false, omission := ""
          followsArguments := true, followsAll := true, replacing := .silently
          updates := false, backup, suffix := Backup.suffix view arguments
          unlinksFirst := true, isForced := true, isVerbose := arguments.has 'v'
          kind := .copy, keepsMode := false, keepsOwner := false
          keepsTimes := arguments.has 'p' }
      if arguments.has 'd' then
        if arguments.operands.isEmpty then view.misused 1 "missing file operand"
        else
          run view do
            for path in arguments.operands do
              if ← makeWay view tell path then
                if ← makeDirectory view tell true 0o755 path then finish true path
      else
        let madeFor : List String :=
          if !arguments.has 'D' then []
          else
            match arguments.value? 't', arguments.operands with
            | some directory, _ => [directory, pathInside directory "x"]
            | none, [_, target] => [target]
            | none, _ => []
        let early := run view (madeFor.forM fun path => do
          let _ ← makeWay view tell path)
        let later := { view with tree := early.tree.getD view.tree }
        let refuse (directory : String) (error : SystemError) : String :=
          if error == .notADirectory then
            "target " ++ Quoting.always directory ++ " is not a directory"
          else "failed to access " ++ Quoting.always directory ++ ": " ++ error.text
        match copyPairs later arguments refuse with
        | .error outcome => { outcome with output := early.output ++ outcome.output }
        | .ok (_, pairs) =>
          run view do
            set ({ (← get) with tree := later.tree, outcome := early } : Work)
            for pair in pairs do
              let isKept := arguments.has 'C' && placing.isDone view (← tree) pair.1 pair.2
              if !isKept then
                c.copyAll [pair]
                finish false pair.2

end PointerTagging.Host.Tool
