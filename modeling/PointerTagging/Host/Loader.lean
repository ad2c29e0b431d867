import PointerTagging.Host.World
/-!
# The loader

What the loader says on standard error when a program starts whose environment names libraries to
preload. What is no library is reported and passed over.
-/

namespace PointerTagging.Host.Loader

/-- The variable that names the libraries. -/
def variableName : String := "LD_PRELOAD"

/-- The names in a value of the variable, which blanks and colons separate. -/
def names (value : String) : List String :=
  (value.splitOn ":").flatMap fun part => (part.splitOn " ").filter fun name =>
    !name.isEmpty && name.length < Tree.pathBound

/-- Where the libraries of the system are. -/
def libraryPlace : List String := ["usr", "lib", "x86_64-linux-gnu"]

/-- Why a library cannot be preloaded, if so. One without a slash is looked for among the libraries
of the system. -/
def reason? (tree : Tree) (place : List String) (name : String) : Option String :=
  match tree.locate (if name.contains '/' then place else libraryPlace) name with
  | .error _ => some "cannot open shared object file"
  | .ok (_, .directory) => some "cannot read file data"
  | .ok (_, .nothing) => some "file too short"
  | .ok (_, .library) => none
  | .ok _ => some "invalid ELF header"

/-- The line about a library that cannot be preloaded. -/
def complaint (tree : Tree) (place : List String) (name : String) : String :=
  match reason? tree place name with
  | none => ""
  | some reason =>
    "ERROR: ld.so: object '" ++ name ++ "' from " ++ variableName ++ " cannot be preloaded (" ++
      reason ++ "): ignored.\n"

/-- What is said when a program starts. -/
def complaints (context : Context) (tree : Tree) : String :=
  String.join ((names ((context.get? variableName).getD "")).map (complaint tree context.place))

end PointerTagging.Host.Loader
