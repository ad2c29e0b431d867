import PointerTagging.Host.Utility.Copying
/-!
# Permissions and owners

The utilities that change the permissions, the owners and the groups of files.
-/

namespace PointerTagging.Host.Tool

open Worker

/-- How much is said of changes. -/
inductive Telling where
  | nothing
  | changes
  | everything
  deriving DecidableEq, Repr

/-- How much options ask to be told. -/
def tellingOf (arguments : Arguments) : Telling :=
  match arguments.last? "cv" with
  | some 'c' => .changes
  | some _ => .everything
  | none => .nothing

/-- A file and all that is below it, with their paths. With `after`, a directory follows what is in
it. -/
def reached (tree : Tree) (after : Bool) : Nat → (path : String) → (place : List String) → File →
    List (String × Found)
  | 0, _, _, _ => []
  | n + 1, path, place, file =>
    let self := [(path, (⟨tree, place, file⟩ : Found))]
    match file with
    | .directory =>
      let below := (oldestFirst tree place).flatMap fun name =>
        match tree.at? (place ++ [name]) with
        | some file => reached tree after n (pathInside path name) (place ++ [name]) file
        | none => []
      if after then below ++ self else self ++ below
    | _ => self

/-- The complaint about the whole tree, which is left as it is. -/
def guardRoot (view : View) (path : String) : Worker Unit := do
  let same := if path == "/" then "" else " (same as '/')"
  complain view ("it is dangerous to operate recursively on " ++ Quoting.always path ++ same)
  complain view "use --no-preserve-root to override this failsafe"

/-! ## Permissions -/

/-- The permissions that a text makes of others. -/
def modeAfter? (text : String) (mode : Nat) : Option Nat :=
  (Permissions.clauses? text).map fun clauses => Permissions.apply clauses false 0 mode

/-- The options of `chmod`. What looks like a change of permissions is one, and no option. -/
def chmodOptions : OptionTable :=
  { letters := "Rcfvr::w::x::X::s::t::u::g::o::a::,::+::=::0::1::2::3::4::5::6::7::"
    names := [("changes", 'c'), ("no-preserve-root", '\x02'), ("preserve-root", '\x03'),
      ("quiet", 'f'), ("recursive", 'R'), ("reference=", '\x04'), ("silent", 'f'),
      ("verbose", 'v')]
    stopsEarly := false }

/-- How permissions are changed. -/
structure ModeChange where
  view : View
  telling : Telling
  isQuiet : Bool
  isDeep : Bool
  guardsRoot : Bool
  clauses : List Permissions.Clause
  /-- The change looks like an option, and may do less than it seems to. -/
  diagnoses : Bool

namespace ModeChange

/-- Permissions in both forms. -/
def both (mode : Nat) : String :=
  Permissions.digits 4 mode ++ " (" ++ Permissions.letters mode ++ ")"

/-- Changes the permissions of a file that has been found. -/
def change (c : ModeChange) (path : String) (f : Found) : Worker Unit := do
  let told := Quoting.always path
  match f.file with
  | .link _ =>
    if c.telling == .everything then
      say ("neither symbolic link " ++ told ++ " nor referent has been changed\n")
  | file =>
    let isDirectory := file == .directory
    let mask := f.tree.mask
    let mode := Permissions.apply c.clauses isDirectory mask f.mode
    Worker.change (·.setMode f.place mode)
    if mode != f.mode then
      if c.telling != .nothing then
        say ("mode of " ++ told ++ " changed from " ++ both f.mode ++ " to " ++ both mode ++ "\n")
    else if c.telling == .everything then
      say ("mode of " ++ told ++ " retained as " ++ both f.mode ++ "\n")
    let naive := Permissions.apply c.clauses isDirectory 0 f.mode
    if c.diagnoses && mode &&& (Permissions.all - naive) != 0 then
      complain c.view (Quoting.name path ++ ": new permissions are " ++ Permissions.letters mode ++
        ", not " ++ Permissions.letters naive)

/-- Changes permissions from a path on. -/
def changeFrom (c : ModeChange) (path : String) : Worker Unit := do
  let tree ← Worker.tree
  match findFile c.view tree true path with
  | .error error =>
    let isDangling := error == .notFound && tree.isLink c.view.place path
    let trouble :=
      if isDangling then "cannot operate on dangling symlink " ++ Quoting.always path
      else "cannot access " ++ Quoting.always path ++ ": " ++ error.text
    if c.isQuiet then modify fun work => { work with outcome := { work.outcome with code := 1 } }
    else complain c.view trouble
    if c.telling == .everything then say (Quoting.always path ++ " could not be accessed\n")
  | .ok f =>
    if c.isDeep && c.guardsRoot && f.place.isEmpty then guardRoot c.view path
    else if c.isDeep && f.file == .directory then
      for (path, found) in reached tree false (tree.files.length + 2) path f.place f.file do
        c.change path found
    else c.change path f

end ModeChange

/-- Changes permissions. -/
def chmod (view : View) : Outcome :=
  view.withOptions 1 chmodOptions fun arguments =>
    let isModeLetter (c : Char) : Bool := "rwxXstugoa,+=01234567".toList.contains c
    let given := (arguments.options.filter fun o => isModeLetter o.1).map fun o =>
      "-" ++ String.ofList [o.1] ++ o.2
    let start (clauses : List Permissions.Clause) (paths : List String) : Outcome :=
      let c : ModeChange :=
        { view, telling := tellingOf arguments, isQuiet := arguments.has 'f'
          isDeep := arguments.has 'R'
          guardsRoot := (arguments.last? "\x02\x03") == some '\x03'
          clauses, diagnoses := !given.isEmpty }
      run view (paths.forM c.changeFrom)
    match arguments.value? '\x04', given, arguments.operands with
    | some path, _, paths =>
      if !given.isEmpty then view.misused 1 "cannot combine mode and --reference options"
      else if paths.isEmpty then view.lacking
      else
        match findFile view view.tree true path with
        | .ok f => start [⟨Permissions.all, '=', .given, f.mode, Permissions.all⟩] paths
        | .error error =>
          view.failing 1
            ("failed to get attributes of " ++ Quoting.always path ++ ": " ++ error.text)
    | none, [], [] => view.lacking
    | none, [], [mode] => view.misused 1 ("missing operand after " ++ quotation mode)
    | none, _, [] => view.lacking
    | none, given, words =>
      let mode := if given.isEmpty then words.headD "" else ",".intercalate given
      let paths := if given.isEmpty then words.drop 1 else words
      match Permissions.clauses? mode with
      | none => view.misused 1 ("invalid mode: " ++ quotation mode)
      | some clauses => start clauses paths

/-! ## Owners -/

/-- An owner and a group, each with the name that it was given by. -/
structure Ownership where
  user : Option (String × Nat)
  group : Option (String × Nat)

namespace Ownership

/-- The owner and the group as a text. -/
def spec (user group : Option String) : Option String :=
  match user, group with
  | some user, some group => some (user ++ ":" ++ group)
  | some user, none => some user
  | none, group => group

/-- The group that a user belongs to first. -/
def loginGroup (user : Nat) : Option (String × Nat) :=
  (Tree.users.find? fun u => u.2.1 == user).map fun u =>
    ((Tree.groupName? u.2.2.1).getD (toString u.2.2.1), u.2.2.1)

/-- What a text says behind its owner; `groupText?` is what stands behind the sign for the group. -/
def ofParts (text user : String) (groupText? : Option String) : Except String Ownership :=
  let owner? := if user.isEmpty then none else userIn user
  if !user.isEmpty && owner?.isNone then .error ("invalid user: " ++ quotation text)
  else
    let owner := owner?.map fun n => (user, n)
    match groupText? with
    | none => .ok ⟨owner, none⟩
    | some "" =>
      match owner? with
      | none => .ok ⟨none, none⟩
      | some n =>
        match loginGroup n with
        | some group => .ok ⟨owner, some group⟩
        | none => .error ("invalid spec: " ++ quotation text)
    | some group =>
      match groupIn group with
      | some n => .ok ⟨some (owner.getD ("", 0)), some (group, n)⟩
      | none => .error ("invalid group: " ++ quotation text)

/-- The owner and the group that a text says, and true if a point stands between them. -/
def ofText (text : String) : Except String (Ownership × Bool) :=
  match text.splitOn ":" with
  | user :: rest@(_ :: _) => (ofParts text user (some (":".intercalate rest))).map (·, false)
  | _ =>
    match ofParts text text none with
    | .ok ownership => .ok (ownership, false)
    | .error complaint =>
      match text.splitOn "." with
      | user :: rest@(_ :: _) =>
        match ofParts text user (some (".".intercalate rest)) with
        | .ok ownership => .ok (ownership, true)
        | .error _ => .error complaint
      | _ => .error complaint

end Ownership

/-- How owners are changed. -/
structure OwnerChange where
  view : View
  telling : Telling
  isQuiet : Bool
  isDeep : Bool
  guardsRoot : Bool
  /-- Links at the ends of paths are followed. -/
  follows : Bool
  wanted : Ownership
  /-- The owner and the group that a file has to have to be changed. -/
  required : Ownership

namespace OwnerChange

/-- What is said of a file, with what its owner and group were and what they are. -/
def describe (c : OwnerChange) (path : String) (isChanged : Bool) (f : Found) : String :=
  let user := c.wanted.user
  let group := c.wanted.group
  let old? := Ownership.spec (user.map fun _ => f.ownerName) (group.map fun _ => f.groupName)
  let old := old?.getD ""
  let new := (Ownership.spec (user.map (·.1)) (group.map (·.1))).getD ""
  let what := if user.isSome || group.isNone then "ownership" else "group"
  let told := Quoting.always path
  if isChanged then "changed " ++ what ++ " of " ++ told ++ " from " ++ old ++ " to " ++ new ++ "\n"
  else
    what ++ " of " ++ told ++ " retained" ++ (if old.isEmpty then "" else " as " ++ old) ++ "\n"

/-- Changes the owner and the group of a file that has been found. -/
def change (c : OwnerChange) (path : String) (f : Found) : Worker Unit := do
  let old := f.detail
  let isMeant := c.required.user.all (·.2 == old.owner) && c.required.group.all (·.2 == old.group)
  -- a group alone that a text says stands with an empty name for the owner
  let user := c.wanted.user.filter (!·.1.isEmpty)
  let owner := (user.map (·.2)).getD old.owner
  let group := (c.wanted.group.map (·.2)).getD old.group
  let isChanged := isMeant && (owner != old.owner || group != old.group)
  if isChanged then
    Worker.change fun tree => tree.withDetail f.place { tree.detail f.place with owner, group }
  if c.telling == .everything || (c.telling == .changes && isChanged) then
    say (c.describe path isChanged f)

/-- Changes owners from a path on. -/
def changeFrom (c : OwnerChange) (path : String) : Worker Unit := do
  let tree ← Worker.tree
  match findFile c.view tree c.follows path with
  | .error error =>
    let isDangling := error == .notFound && tree.isLink c.view.place path
    if c.isQuiet then modify fun work => { work with outcome := { work.outcome with code := 1 } }
    else refuse c.view (if isDangling then "cannot dereference" else "cannot access") path error
    if c.telling == .everything then
      let spec := (Ownership.spec (c.wanted.user.map (·.1)) (c.wanted.group.map (·.1))).getD ""
      let what := if c.wanted.user.isSome then "ownership" else "group"
      say ("failed to change " ++ what ++ " of " ++ Quoting.always path ++ " to " ++ spec ++ "\n")
  | .ok f =>
    if c.isDeep && c.guardsRoot && f.place.isEmpty then guardRoot c.view path
    else if c.isDeep then
      for (path, found) in reached tree true (tree.files.length + 2) path f.place f.file do
        c.change path found
    else c.change path f

end OwnerChange

/-- The options of `chown` and `chgrp`. -/
def ownerOptions : OptionTable :=
  { letters := "HLPRcfhv"
    names := [("changes", 'c'), ("dereference", '\x05'), ("from=", '\x03'), ("no-dereference", 'h'),
      ("no-preserve-root", '\x06'), ("preserve-root", '\x07'), ("quiet", 'f'),
      ("recursive", 'R'), ("reference=", '\x02'), ("silent", 'f'), ("verbose", 'v')]
    stopsEarly := false }

/-- The owner and the group that the arguments ask for, the paths behind them, and a complaint that
is no failure; or what is wrong with them. `ofText` reads a text. -/
def wantedOwnership (view : View) (arguments : Arguments) (takesUser : Bool)
    (ofText : String → Except String (Ownership × Bool)) :
    Except Outcome (Ownership × List String × String) :=
  match arguments.value? '\x02', arguments.operands with
  | some _, [] => .error view.lacking
  | some path, paths =>
    match findFile view view.tree true path with
    | .ok f =>
      .ok (⟨if takesUser then some (f.ownerName, f.detail.owner) else none,
        some (f.groupName, f.detail.group)⟩, paths, "")
    | .error error =>
      .error (view.failing 1
        ("failed to get attributes of " ++ Quoting.always path ++ ": " ++ error.text))
  | none, [] => .error view.lacking
  | none, [one] => .error (view.misused 1 ("missing operand after " ++ quotation one))
  | none, text :: paths =>
    match ofText text with
    | .error complaint => .error (view.failing 1 complaint)
    | .ok (wanted, hasPoint) =>
      let warning :=
        if hasPoint then view.complaint ("warning: '.' should be ':': " ++ quotation text) else ""
      .ok (wanted, paths, warning)

/-- Changes owners or groups, as `ofText` reads them. -/
def changeOwner (takesUser : Bool) (ofText : String → Except String (Ownership × Bool))
    (view : View) : Outcome :=
  view.withOptions 1 ownerOptions fun arguments =>
    let isDeep := arguments.has 'R'
    let walk := arguments.last? "HLP"
    let needsWalk := isDeep && arguments.last? "h\x05" == some '\x05' &&
      walk != some 'H' && walk != some 'L'
    let isFollowed :=
      if isDeep then walk == some 'H' || walk == some 'L'
      else arguments.last? "h\x05" != some 'h'
    if needsWalk then view.failing 1 "-R --dereference requires either -H or -L"
    else
      match (arguments.value? '\x03').elim (.ok (⟨none, none⟩, false)) Ownership.ofText with
      | .error complaint => view.failing 1 complaint
      | .ok (required, _) =>
        match wantedOwnership view arguments takesUser ofText with
        | .error outcome => outcome
        | .ok (wanted, paths, warning) =>
          let c : OwnerChange :=
            { view, telling := tellingOf arguments, isQuiet := arguments.has 'f', isDeep
              guardsRoot := arguments.last? "\x06\x07" == some '\x07'
              follows := isFollowed, wanted, required }
          let outcome := run view (paths.forM c.changeFrom)
          { outcome with errors := warning ++ outcome.errors }

/-- Changes owners and groups. -/
def chown (view : View) : Outcome := changeOwner true Ownership.ofText view

/-- Changes groups. -/
def chgrp (view : View) : Outcome :=
  let ofText (text : String) : Except String (Ownership × Bool) :=
    if text.isEmpty then .ok (⟨none, none⟩, false)
    else
      match groupIn text with
      | some n => .ok (⟨none, some (text, n)⟩, false)
      | none => .error ("invalid group: " ++ quotation text)
  changeOwner false ofText view

end PointerTagging.Host.Tool
