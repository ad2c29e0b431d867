import PointerTagging.Host.Escape
import PointerTagging.Host.Utility.Options
/-!
# Paths

The utilities that take paths apart and say where they lead.
-/

namespace PointerTagging.Host.Tool

/-- The path without its last slashes. -/
def withoutSlashes (path : List Char) : List Char := (path.reverse.dropWhile (· == '/')).reverse

/-- The last name of a path. -/
def lastName (path : String) : String :=
  let trimmed := withoutSlashes path.toList
  if trimmed.isEmpty then (path.take 1).toString
  else String.ofList (trimmed.reverse.takeWhile (· != '/')).reverse

/-- The path without its last name. -/
def parentPath (path : String) : String :=
  let trimmed := withoutSlashes path.toList
  let parent := (trimmed.reverse.dropWhile (· != '/')).reverse
  let shown := withoutSlashes parent
  if !shown.isEmpty then String.ofList shown
  else if parent.isEmpty && !path.startsWith "/" then "."
  else "/"

/-- The options of `basename` and `dirname`. -/
def nameOptions : OptionTable :=
  { letters := "as:z"
    names := [("multiple", 'a'), ("suffix=", 's'), ("zero", 'z')]
    stopsEarly := true }

/-- The name without a suffix, unless it is nothing else. -/
def withoutSuffix (suffix name : String) : String :=
  if name != suffix && !suffix.isEmpty && name.endsWith suffix then
    (name.dropEnd suffix.length).toString
  else name

/-- Prints the last names of paths. -/
def basename (view : View) : Outcome :=
  view.withOptions 1 nameOptions fun arguments =>
    let ending := if arguments.has 'z' then '\x00' else '\n'
    let isMany := arguments.has 'a' || arguments.has 's'
    match arguments.operands with
    | [] => view.lacking
    | path :: rest =>
      if isMany then
        let suffix := (arguments.value? 's').getD ""
        .printing (String.join ((path :: rest).map fun path =>
          (withoutSuffix suffix (lastName path)).push ending))
      else
        match rest with
        | _ :: extra :: _ => view.misused 1 ("extra operand " ++ quotation extra)
        | rest => .printing ((withoutSuffix (rest.headD "") (lastName path)).push ending)

/-- Prints paths without their last names. -/
def dirname (view : View) : Outcome :=
  view.withOptions 1 nameOptions fun arguments =>
    let ending := if arguments.has 'z' then '\x00' else '\n'
    if arguments.operands.isEmpty then view.lacking
    else .printing (String.join (arguments.operands.map fun path => (parentPath path).push ending))

/-! ## Where paths lead -/

/-- Which parts of a path have to be there. -/
inductive Existence where
  | all
  | allButLast
  | none
  deriving DecidableEq, Repr

/-- The place that a path leads to through all links. Where names may be missing, those behind the
first missing one are taken as they are. -/
def resolve (tree : Tree) (existence : Existence) (place : List String) (path : String) :
    Except SystemError (List String) :=
  match tree.spot place path with
  | .ok ⟨place, some _⟩ => .ok place
  | .ok ⟨place, none⟩ => if existence == .all then .error .notFound else .ok place
  | .error error =>
    let names := (path.splitOn "/").filter (!·.isEmpty)
    let isSlashed := path.endsWith "/" && existence == .allButLast && error == .notFound
    if isSlashed then
      match tree.spot place (String.ofList (withoutSlashes path.toList)) with
      | .ok ⟨place, _⟩ => .ok place
      | .error error => .error error
    else if existence == .none && error.isAbsence then
      .ok (names.foldl (fun place name =>
        if name == "." then place
        else if name == ".." then place.dropLast
        else
          match tree.walk true Tree.mostLinks place [name] with
          | .ok spot => spot.place
          | .error _ => place ++ [name]) (if path.startsWith "/" then [] else place))
    else .error error

/-- The options of `readlink`. -/
def readlinkOptions : OptionTable :=
  { letters := "efmnqsvz"
    names := [("canonicalize", 'f'), ("canonicalize-existing", 'e'),
      ("canonicalize-missing", 'm'), ("no-newline", 'n'), ("quiet", 'q'), ("silent", 's'),
      ("verbose", 'v'), ("zero", 'z')]
    stopsEarly := false }

/-- Prints what links say, or where paths lead. -/
def readlink (view : View) : Outcome :=
  view.withOptions 1 readlinkOptions fun arguments =>
    let ending :=
      if arguments.has 'n' && arguments.operands.length == 1 then ""
      else if arguments.has 'z' then "\x00"
      else "\n"
    let one (outcome : Outcome) (path : String) : Outcome :=
      let found : Except SystemError String :=
        match arguments.last? "efm" with
        | none =>
          match view.tree.locateLink view.place path with
          | .ok (_, .link text) => .ok text
          | .ok _ => .error .invalidArgument
          | .error error => .error error
        | some c =>
          let existence : Existence :=
            match c with
            | 'e' => .all
            | 'f' => .allButLast
            | _ => .none
          (resolve view.tree existence view.place path).map Tree.pathOf
      match found with
      | .ok text => outcome.print (text ++ ending)
      | .error error =>
        outcome.complaining 1
          (if arguments.has 'v' then view.complaint (path ++ ": " ++ error.text) else "")
    if arguments.operands.isEmpty then view.lacking
    else arguments.operands.foldl one (.quiet 0)

/-- The options of `realpath`. -/
def realpathOptions : OptionTable :=
  { letters := "eLmPqsz"
    names := [("canonicalize-existing", 'e'), ("canonicalize-missing", 'm'), ("logical", 'L'),
      ("physical", 'P'), ("quiet", 'q'), ("strip", 's'), ("no-symlinks", 's'), ("zero", 'z'),
      ("relative-to=", 'r'), ("relative-base=", 'b')]
    stopsEarly := false }

/-- The way from one place to another. -/
def relativePath (source target : List String) : String :=
  let common := ((source.zip target).takeWhile fun p => p.1 == p.2).length
  let names := List.replicate (source.length - common) ".." ++ target.drop common
  if names.isEmpty then "." else "/".intercalate names

/-- Prints where paths lead. -/
def realpath (view : View) : Outcome :=
  view.withOptions 1 realpathOptions fun arguments =>
    let ending := if arguments.has 'z' then '\x00' else '\n'
    let existence : Existence :=
      match arguments.last? "em" with
      | some 'e' => .all
      | some _ => .none
      | none => .allButLast
    let start := (arguments.value? 'r').bind fun path =>
      (resolve view.tree .none view.place path).toOption
    let one (outcome : Outcome) (path : String) : Outcome :=
      match resolve view.tree existence view.place path with
      | .ok place =>
        outcome.print ((start.elim (Tree.pathOf place) (relativePath · place)).push ending)
      | .error error =>
        outcome.complaining 1
          (if arguments.has 'q' then ""
            else view.complaint ((if path.isEmpty then "''" else path) ++ ": " ++ error.text))
    if arguments.operands.isEmpty then view.lacking
    else arguments.operands.foldl one (.quiet 0)

/-- Prints the current directory. -/
def pwd (view : View) : Outcome :=
  view.withOptions 1 ⟨"LP", [("logical", 'L'), ("physical", 'P')], false⟩ fun _ =>
    .printing (Tree.pathOf view.place ++ "\n")

/-- The characters that names can have everywhere. -/
def isPortable (c : Char) : Bool := c.isAlphanum || c == '.' || c == '_' || c == '-' || c == '/'

/-- Checks that paths can be used. -/
def pathchk (view : View) : Outcome :=
  view.withOptions 1 ⟨"pP", [("portability", '\x02')], false⟩ fun arguments =>
    let isStrict := arguments.has 'p' || arguments.has '\x02'
    let one (outcome : Outcome) (path : String) : Outcome :=
      let refuse (text : String) : Outcome := outcome.complaining 1 (view.complaint text)
      let bad := path.toList.find? (!isPortable ·)
      if (arguments.has 'P' || arguments.has '\x02') &&
          (path.splitOn "/").any fun name => name.startsWith "-" then
        refuse ("leading '-' in a component of file name " ++ quotation path)
      else if path.isEmpty then
        refuse (if arguments.options.isEmpty then "'': " ++ SystemError.notFound.text
          else "empty file name")
      else
        match isStrict, bad with
        | true, some c =>
          refuse ("non-portable character " ++ quotation (String.ofList [c]) ++ " in file name " ++
            quotation path)
        | _, _ =>
          match view.tree.locate view.place path with
          | .error .notADirectory =>
            refuse (path ++ ": " ++ SystemError.notADirectory.text)
          | .error .nameTooLong => refuse (path ++ ": " ++ SystemError.nameTooLong.text)
          | _ => outcome
    if arguments.operands.isEmpty then view.lacking
    else arguments.operands.foldl one (.quiet 0)

end PointerTagging.Host.Tool
