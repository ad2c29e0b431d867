import PointerTagging.Host.Utility.Change
/-!
# Removing files

The utilities that remove files, directories with all that is in them, and empty directories.
-/

namespace PointerTagging.Host.Tool

open Worker

/-- The options of `rm`. -/
def rmOptions : OptionTable :=
  { letters := "dfirRIv"
    names := [("dir", 'd'), ("force", 'f'), ("interactive==", '\x02'), ("no-preserve-root", '\x03'),
      ("one-file-system", '\x04'), ("preserve-root==", '\x05'), ("recursive", 'r'),
      ("verbose", 'v')]
    stopsEarly := false }

/-- How far `rm` asks before it removes. -/
inductive Asking where
  | never
  /-- Once, if much is to be removed. -/
  | once
  | always
  deriving DecidableEq, Repr

/-- The words for that. -/
def askingWords : List (List String × Asking) :=
  [(["never", "no", "none"], .never), (["once"], .once), (["always", "yes"], .always)]

/-- How files are removed. -/
structure Removal where
  view : View
  asking : Asking
  isForced : Bool
  isDeep : Bool
  removesEmpty : Bool
  isVerbose : Bool

namespace Removal

/-- Says what has been removed. -/
def tell (r : Removal) (kind path : String) : Worker Unit := do
  if r.isVerbose then say ("removed " ++ kind ++ Quoting.always path ++ "\n")

/-- Removes a file, and with a directory all that is in it; true if nothing is left of it. -/
def remove (r : Removal) : Nat → (path : String) → (place : List String) → File → Worker Bool
  | 0, _, _, _ => return false
  | n + 1, path, place, file => do
    let found : Found := ⟨← tree, place, file⟩
    let asks := r.asking == .always
    let question (action : String) : Worker Bool := do
      if asks then ask r.view (action ++ " " ++ Quoting.always path) else return true
    match file with
    | .directory =>
      let names := oldestFirst (← tree) place
      if !names.isEmpty && !r.isDeep then
        refuse r.view "cannot remove" path .notEmpty
        return false
      let enters ←
        if names.isEmpty then pure true else question "descend into directory"
      if !enters then return false
      let mut isEmptied := true
      for name in names do
        let inner := place ++ [name]
        match (← tree).at? inner with
        | some file =>
          if !(← remove r n (pathInside path name) inner file) then isEmptied := false
        | none => pure ()
      if !(← question "remove directory") then return false
      if !isEmptied then return false
      change (·.remove place)
      r.tell "directory " path
      return true
    | _ =>
      if !(← question ("remove " ++ found.kind)) then return false
      change (·.remove place)
      r.tell "" path
      return true

/-- Removes what a path leads to. -/
def removePath (r : Removal) (path : String) : Worker Unit := do
  match (← tree).locateLink r.view.place path with
  | .error error =>
    if !(r.isForced && error.isAbsence) then refuse r.view "cannot remove" path error
  | .ok (place, file) =>
    if file == .directory && !r.isDeep && !r.removesEmpty then
      refuse r.view "cannot remove" path .isADirectory
    else if file == .directory && [".", ".."].contains (lastName path) then
      complain r.view ("refusing to remove '.' or '..' directory: skipping " ++
        Quoting.always path)
    else if file == .directory && place.isEmpty && r.isDeep then
      let same := if path == "/" then "" else " (same as '/')"
      complain r.view ("it is dangerous to operate recursively on " ++ Quoting.always path ++ same)
      complain r.view "use --no-preserve-root to override this failsafe"
    else if file != .directory && path.endsWith "/" then
      refuse r.view "cannot remove" path .notADirectory
    else
      let room := (← tree).files.length + 1
      let _ ← r.remove room path place file

end Removal

/-- The line that tells how to name a file that looks like an option, if that is what is wrong. -/
def optionHint (view : View) : String :=
  let looksLikeOption (word : String) : Bool :=
    word.startsWith "-" && (view.tree.locateLink view.place word).isOk
  match view.arguments.find? looksLikeOption with
  | some word =>
    "Try '" ++ view.name ++ " ./" ++ word ++ "' to remove the file " ++ Quoting.always word ++ ".\n"
  | none => ""

/-- Removes files, and directories with all that is in them under the option for that. -/
def rm (view : View) : Outcome :=
  match rmOptions.arguments view.arguments with
  | .error error =>
    { Outcome.quiet 1 with
      errors := view.complaint error.message ++ optionHint view ++ view.hint }
  | .ok arguments =>
    if arguments.has OptionTable.helpLetter then .quiet 0
    else
      let step (state : Asking × Bool) (option : Char × String) : Except Outcome (Asking × Bool) :=
        match option.1 with
        | 'f' => .ok (.never, true)
        | 'i' => .ok (.always, false)
        | 'I' => .ok (.once, false)
        | '\x02' =>
          if option.2.isEmpty then .ok (.always, false)
          else (view.choose "interactive" askingWords option.2).map fun asking =>
            (asking, asking == .never && state.2)
        | _ => .ok state
      match arguments.options.foldlM step (.never, false) with
      | .error outcome => outcome
      | .ok (asking, isForced) =>
        let r : Removal :=
          { view, asking, isForced
            isDeep := arguments.has 'r' || arguments.has 'R'
            removesEmpty := arguments.has 'd'
            isVerbose := arguments.has 'v' }
        let count := arguments.operands.length
        if count == 0 then (if isForced then .quiet 0 else view.lacking)
        else
          run view do
            if asking == .once && (r.isDeep || count > 3) then
              let noun := if count == 1 then " argument" else " arguments"
              let trail := if r.isDeep then " recursively" else ""
              if !(← ask view ("remove " ++ toString count ++ noun ++ trail)) then return
            for path in arguments.operands do
              r.removePath path

/-- Removes a directory that is empty. -/
def removeEmpty (view : View) (tree : Tree) (path : String) : Except SystemError Tree :=
  match tree.locateLink view.place path with
  | .error error => .error error
  | .ok (place, .directory) =>
    if lastName path == "." then .error .invalidArgument
    else if (tree.namesIn place).isEmpty then .ok (tree.remove place)
    else .error .notEmpty
  | .ok _ => .error .notADirectory

/-- Removes empty directories. -/
def rmdir (view : View) : Outcome :=
  let table : OptionTable :=
    ⟨"pv", [("ignore-fail-on-non-empty", 'i'), ("parents", 'p'), ("verbose", 'v')], false⟩
  view.withOptions 1 table fun arguments =>
    let tell (path : String) : Worker Unit := do
      if arguments.has 'v' then
        say (view.name ++ ": removing directory, " ++ Quoting.always path ++ "\n")
    let attempt (action path : String) : Worker Bool := do
      tell path
      match removeEmpty view (← tree) path with
      | .ok tree =>
        change fun _ => tree
        return true
      | .error error =>
        if !(error == .notEmpty && arguments.has 'i') then refuse view action path error
        return false
    if arguments.operands.isEmpty then view.lacking
    else
      run view do
        for path in arguments.operands do
          if ← attempt "failed to remove" path then
            if arguments.has 'p' then
              for parent in (ancestors (path.length + 1) (trimmedPath path)).drop 1 do
                if !(← attempt "failed to remove directory" parent) then break

/-- Removes a file, without any options. -/
def unlink (view : View) : Outcome :=
  view.withOptions 1 ⟨"", [], false⟩ fun arguments =>
    match arguments.operands with
    | [] => view.lacking
    | [path] =>
      run view do
        match (← tree).locateLink view.place path with
        | .ok (_, .directory) => refuse view "cannot unlink" path .isADirectory
        | .ok (place, _) => change (·.remove place)
        | .error error => refuse view "cannot unlink" path error
    | _ :: extra :: _ => view.misused 1 ("extra operand " ++ quotation extra)

end PointerTagging.Host.Tool
