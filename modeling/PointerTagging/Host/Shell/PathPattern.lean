import PointerTagging.Host.Shell.Pattern
import PointerTagging.Host.Tree
/-!
# Patterns of paths

A field of a command that holds a pattern stands for the paths that match it. Each name of a path is
matched on its own, so no pattern matches a slash.
-/

namespace PointerTagging.Host.Shell

namespace Glob

/-- The pattern of each name of a path. -/
def names : List PatternChar → List (List PatternChar)
  | [] => [[]]
  | c :: cs =>
    if c.1 == '/' then [] :: names cs
    else
      match names cs with
      | name :: rest => (c :: name) :: rest
      | [] => [[c]]

/-- True of an element that does not stand for itself. -/
def isActive : Glob → Bool
  | .char _ => false
  | _ => true

/-- The characters of a pattern as a text. -/
def text (cs : List PatternChar) : String := String.ofList (cs.map (·.1))

/-- The names in a directory that a pattern matches, in order. A name with a dot at its start only
matches a pattern with one. -/
def namesIn (tree : Tree) (place : List String) (globs : List Glob) : List String :=
  let isVisible (name : String) : Bool := !name.startsWith "." || globs.head? == some (.char '.')
  let found := ("." :: ".." :: tree.namesIn place).filter fun name =>
    isVisible name && isMatch globs name.toList
  found.mergeSort fun a b => a ≤ b

/-- The paths that begin with `done` and go on with names that match patterns. -/
def pathsFrom (tree : Tree) (place : List String) (done : String) :
    List (List PatternChar) → List String
  | [] => []
  | [cs] =>
    let globs := ofChars cs
    if globs.any isActive then (matching done globs).map (done ++ ·)
    else
      let path := done ++ text cs
      match tree.locate place path with
      | .ok _ => [path]
      | .error _ => []
  | cs :: rest =>
    let globs := ofChars cs
    if globs.any isActive then
      (matching done globs).flatMap fun name => pathsFrom tree place (done ++ name ++ "/") rest
    else pathsFrom tree place (done ++ text cs ++ "/") rest
where
  /-- The names that a pattern matches in the directory that a path leads to. -/
  matching (path : String) (globs : List Glob) : List String :=
    match tree.locate place (if path.isEmpty then "." else path) with
    | .ok (place, .directory) => namesIn tree place globs
    | _ => []

/-- The paths that a field matches; none if it holds no pattern. -/
def paths (tree : Tree) (place : List String) (field : List PatternChar) : List String :=
  if (ofChars field).any isActive then pathsFrom tree place "" (names field) else []

end Glob

end PointerTagging.Host.Shell
