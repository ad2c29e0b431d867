import PointerTagging.Host.Utility.Change
import PointerTagging.Host.Utility.Dates
/-!
# Making files

The utilities that make directories, empty files, streams with a name and files with a name of
their own.
-/

namespace PointerTagging.Host.Tool

open Text Worker

/-! ## Directories -/

/-- The options of `mkdir`. -/
def mkdirOptions : OptionTable :=
  { letters := "m:pvZ"
    names := [("context==", 'Z'), ("mode=", 'm'), ("parents", 'p'), ("verbose", 'v')]
    stopsEarly := false }

/-- The permissions of a directory that clauses are applied to. Where some other than those of the
owner are special, the directory is made without leave for others to write, and gets the rest only
if something that the clauses speak of is missing. -/
def clausedMode (clauses : List Permissions.Clause) (mask : Nat) : Nat :=
  let mode := Permissions.apply clauses true mask 0o777
  let spoken := clauses.foldl
    (fun bits clause =>
      bits ||| if clause.operator == '=' then Permissions.all else clause.mentioned) 0
  if (spoken &&& 0o6000) ||| (mode &&& 0o1000) == 0 then mode
  else
    let made := mode &&& 0o1755
    if (made ^^^ mode) &&& spoken != 0 then mode ||| (made &&& (Permissions.all - spoken)) else made

/-- Makes a directory with given permissions; true if it is there then. -/
def makeDirectory (view : View) (tell : String → Worker Unit) (accepts : Bool) (mode : Nat)
    (path : String) : Worker Bool := do
  let tree ← Worker.tree
  let isThere :=
    match tree.locate view.place path with
    | .ok (_, .directory) => true
    | _ => false
  match tree.spotOf false view.place (trimmedPath path) with
  | .ok ⟨place, none⟩ =>
    change (·.createDirectory place mode)
    tell path
    return true
  | .ok _ =>
    if !(accepts && isThere) then refuse view "cannot create directory" path .alreadyThere
    return accepts && isThere
  | .error error =>
    refuse view "cannot create directory" path error
    return false

/-- Makes directories. -/
def mkdir (view : View) : Outcome :=
  view.withOptions 1 mkdirOptions fun arguments =>
    let tell (path : String) : Worker Unit := do
      if arguments.has 'v' then
        say (view.name ++ ": created directory " ++ Quoting.always path ++ "\n")
    let make (mode : Nat) (path : String) : Worker Unit := do
      let isReached ← if arguments.has 'p' then makeWay view tell path else pure true
      if isReached then
        let _ ← makeDirectory view tell (arguments.has 'p') mode path
    if arguments.operands.isEmpty then view.lacking
    else
      match arguments.value? 'm' with
      | none => run view (arguments.operands.forM (make view.tree.directoryMode))
      | some text =>
        match Permissions.clauses? text with
        | none => view.failing 1 ("invalid mode " ++ quotation text)
        | some clauses =>
          run view (arguments.operands.forM (make (clausedMode clauses view.tree.mask)))

/-! ## Times -/

/-- The options of `touch`. -/
def touchOptions : OptionTable :=
  { letters := "acd:fhmr:t:"
    names := [("date=", 'd'), ("no-create", 'c'), ("no-dereference", 'h'), ("reference=", 'r'),
      ("time=", '\x02')]
    stopsEarly := false }

/-- The words for the times of a file; true if it is the one of its last change. -/
def touchTimes : List (List String × Bool) :=
  [(["atime", "access", "use"], false), (["mtime", "modify"], true)]

/-- The moment that options ask for, or what is wrong with them. -/
def touchMoment (view : View) (arguments : Arguments) : Except Outcome (Int × Nat) := do
  let invalid (text : String) : Outcome := view.failing 1 ("invalid date format " ++ quotation text)
  let exclusive := view.misused 1 "cannot specify times from more than one source"
  let digits ← (match arguments.value? 't' with
    | none => .ok none
    | some text =>
      match digitMoment? true view.zone view.tree.now text with
      | some second => .ok (some (second, 0))
      | none => .error (invalid text) : Except Outcome (Option (Int × Nat)))
  if digits.isSome && (arguments.has 'd' || arguments.has 'r') then .error exclusive
  let reference ← (match arguments.value? 'r' with
    | none => .ok none
    | some path =>
      match findFile view view.tree (!arguments.has 'h') path with
      | .ok f => .ok (some f.detail.modified)
      | .error error =>
        .error (view.failing 1
          ("failed to get attributes of " ++ Quoting.always path ++ ": " ++ error.text)) :
      Except Outcome (Option (Int × Nat)))
  let present := (digits.orElse fun _ => reference).getD (view.tree.now, 0)
  match arguments.value? 'd' with
  | none => return present
  | some text =>
    match Calendar.read? view.zone present.1 text with
    | some moment => return moment
    | none => .error (invalid text)

/-- Sets when files were changed last, and makes empty ones where there are none. -/
def touch (view : View) : Outcome :=
  view.withOptions 1 touchOptions fun arguments =>
    match view.choice arguments '\x02' "time" touchTimes, touchMoment view arguments with
    | .error outcome, _ => outcome
    | _, .error outcome => outcome
    | .ok time?, .ok moment =>
      let isAccess := arguments.has 'a' || time? == some false
      let isChange := arguments.has 'm' || time? == some true
      let isSet := isChange || !isAccess
      let set (place : List String) : Worker Unit := do
        if isSet then
          change fun tree => tree.withDetail place { tree.detail place with modified := moment }
      let leavesOut := arguments.has 'c' || arguments.has 'h'
      let one (path : String) : Worker Unit := do
        let tree ← Worker.tree
        let failed (error : SystemError) : Worker Unit := do
          if !(arguments.has 'c' && error == .notFound) then
            refuse view "setting times of" path error
        if path == "-" then return
        match tree.spotOf (!arguments.has 'h') view.place path with
        | .ok ⟨place, some _⟩ => set place
        | .ok ⟨place, none⟩ =>
          if leavesOut then failed .notFound
          else
            change (·.create place "")
            set place
        | .error error =>
          let isSlashed := path.endsWith "/" && (tree.spot view.place (trimmedPath path)).isOk
          if leavesOut || isSlashed then failed error else refuse view "cannot touch" path error
      if arguments.operands.isEmpty then view.misused 1 "missing file operand"
      else run view (arguments.operands.forM one)

/-! ## Names of their own -/

/-- The options of `mktemp`. -/
def mktempOptions : OptionTable :=
  { letters := "dp:qtuV"
    names := [("directory", 'd'), ("dry-run", 'u'), ("quiet", 'q'), ("suffix=", 's'),
      ("tmpdir==", '\x02')]
    stopsEarly := false }

/-- The template and the suffix of names, and the directory of the files if one is given in front
of the names; or what is wrong with them. -/
def mktempParts (view : View) (arguments : Arguments) :
    Except String (String × String × Option String) := do
  let given? := arguments.operands.head?
  let template := given?.getD "tmp.XXXXXXXXXX"
  let last := template.toList.reverse
  let (template, suffix) ← (match arguments.value? 's' with
    | some suffix =>
      if last.head? == some 'X' then .ok (template, suffix)
      else .error ("with --suffix, template " ++ quotation template ++ " must end in X")
    | none =>
      let tail := last.takeWhile (· != 'X')
      if tail.length == last.length then .ok (template, "")
      else
        .ok (String.ofList (last.drop tail.length).reverse, String.ofList tail.reverse) :
    Except String (String × String))
  if suffix.contains '/' then
    .error ("invalid suffix " ++ quotation suffix ++ ", contains directory separator")
  let crosses := template.toList.reverse.takeWhile (· == 'X')
  if crosses.length < 3 then .error ("too few X's in template " ++ quotation (template ++ suffix))
  let surrounding := (view.get? "TMPDIR").filter (!·.isEmpty)
  let said := (arguments.options.filter fun o => o.1 == 'p' || o.1 == '\x02').getLast?
  let said? := (said.map (·.2)).filter (!·.isEmpty)
  if arguments.has 't' then
    if template.contains '/' then
      .error ("invalid template, " ++ quotation (template ++ suffix) ++
        ", contains directory separator")
    return (template, suffix, some (surrounding.getD (said?.getD "/tmp")))
  else if given?.isNone || said.isSome then
    if template.startsWith "/" then
      .error ("invalid template, " ++ quotation (template ++ suffix) ++
        "; with --tmpdir, it may not be absolute")
    return (template, suffix, some (said?.getD (surrounding.getD "/tmp")))
  else return (template, suffix, none)

/-- Makes a file or a directory with a name of its own, and prints its path. -/
def mktemp (view : View) : Outcome :=
  view.withOptions 1 mktempOptions fun arguments =>
    let kind := if arguments.has 'd' then "directory" else "file"
    if arguments.operands.length > 1 then view.misused 1 "too many templates"
    else
      match mktempParts view arguments with
      | .error text => view.failing 1 text
      | .ok (template, suffix, directory?) =>
        let inside (name : String) : String := directory?.elim name (pathInside · name)
        let body := template.toList
        let count := (body.reverse.takeWhile (· == 'X')).length
        let fill (n : Nat) : String :=
          inside (String.ofList (body.take (body.length - count) ++
            Numeral.padded 36 count (n + 46655)) ++ suffix)
        let free? := (List.range (view.tree.files.length + 1)).findSome? fun n =>
          match view.tree.spot view.place (fill n) with
          | .ok ⟨place, none⟩ => some (fill n, place)
          | _ => none
        match free?, arguments.has 'u' with
        | some (path, _), true => .printing (path ++ "\n")
        | none, true => .printing (fill 0 ++ "\n")
        | some (path, place), false =>
          let make (tree : Tree) : Tree :=
            if arguments.has 'd' then tree.createDirectory place 0o700
            else tree.put place (.ordinary "" 0o600)
          { Outcome.printing (path ++ "\n") with tree := some (make view.tree) }
        | none, false =>
          if arguments.has 'q' then .quiet 1
          else
            view.failing 1 ("failed to create " ++ kind ++ " via template " ++
              quotation (inside (template ++ suffix)) ++ ": " ++ SystemError.notFound.text)

end PointerTagging.Host.Tool
