import PointerTagging.Host.Utility.Showing
/-!
# Counting

The utility that counts the lines, the words and the characters of texts.
-/

namespace PointerTagging.Host.Tool

/-- What `wc` counts. -/
structure Counts where
  lines : Nat
  words : Nat
  characters : Nat
  longest : Nat
  deriving DecidableEq, Repr

/-- The counts of a text. -/
def Counts.ofText (text : String) : Counts :=
  let widthOf (line : String) : Nat :=
    line.toList.foldl (fun column c =>
      if c == '\t' then columnAfter column c
      else if c.toNat < 32 || c.toNat > 126 then column
      else column + 1) 0
  { lines := (text.toList.filter (· == '\n')).length
    words := (blankFields text).length
    characters := text.length
    longest := (linesOf text).foldl (fun n line => max n (widthOf line)) 0 }

/-- The counts of two texts together. -/
def Counts.add (a b : Counts) : Counts :=
  { lines := a.lines + b.lines
    words := a.words + b.words
    characters := a.characters + b.characters
    longest := max a.longest b.longest }

/-- The options of `wc`. -/
def wcOptions : OptionTable :=
  { letters := "clLmw"
    names := [("bytes", 'c'), ("chars", 'm'), ("files0-from=", '\x02'), ("lines", 'l'),
      ("max-line-length", 'L'), ("words", 'w')]
    stopsEarly := false }

/-- Prints the counts of files; `isList` says that the number of them was not known before. -/
def countFiles (view : View) (arguments : Arguments) (isList : Bool) (files : List (Except String String)) :
    Outcome :=
  let none := (arguments.last? "clLmw").isNone
  let chosen (counts : Counts) : List Nat :=
    (if none || arguments.has 'l' then [counts.lines] else []) ++
    (if none || arguments.has 'w' then [counts.words] else []) ++
    (if arguments.has 'm' then [counts.characters] else []) ++
    (if none || arguments.has 'c' then [counts.characters] else []) ++
    (if arguments.has 'L' then [counts.longest] else [])
  let isPlain (path : String) : Bool :=
    if path == "-" then view.hasFileInput else view.tree.isFile view.place path
  let paths := files.filterMap Except.toOption
  let reads := paths.map fun path => (path, view.read path)
  let total := reads.foldl (fun total r =>
    match r.2 with
    | .ok text => total.add (Counts.ofText text)
    | .error _ => total) (Counts.ofText "")
  let known := reads.filter fun r =>
    match r.2 with
    | .error ⟨false, _⟩ => false
    | _ => true
  let digits := (toString (known.foldl (fun n r =>
    match r.2 with
    | .ok text => if isPlain r.1 then n + text.length else n
    | .error _ => n) 0)).length
  let width :=
    if isList then 1
    else if (chosen total).length == 1 && paths.length == 1 then 1
    else if known.isEmpty then 1
    else if known.all fun r => isPlain r.1 then digits
    else max 7 digits
  let line (counts : Counts) (name : String) : String :=
    " ".intercalate ((chosen counts).map fun n => padLeft width (toString n)) ++
      (if name.isEmpty then "" else " " ++ name) ++ "\n"
  let hasNames := isList || arguments.has '\x02' || !arguments.operands.isEmpty
  let one (outcome : Outcome) (file : Except String String) : Outcome :=
    match file with
    | .error complaint => { outcome.turn 2 (view.complaint complaint) with code := 1 }
    | .ok path =>
      let name := if hasNames then path else ""
      match view.read path with
      | .ok text => outcome.turn 1 (line (Counts.ofText text) name)
      | .error why =>
        let outcome :=
          { outcome.turn 2 (view.complaint (View.plainly path why)) with code := 1 }
        if why.isOpen then outcome.turn 1 (line (Counts.ofText "") name) else outcome
  let outcome := files.foldl one { Outcome.quiet 0 with drains := paths.contains "-" }
  if files.length > 1 then outcome.turn 1 (line total "total") else outcome

/-- Counts lines, words and characters. -/
def wc (view : View) : Outcome :=
  view.withOptions 1 wcOptions fun arguments =>
    match arguments.value? '\x02', arguments.operands with
    | none, operands => countFiles view arguments false ((View.sources operands).map .ok)
    | some _, extra :: _ =>
      { Outcome.quiet 1 with
        errors := view.complaint ("extra operand " ++ Quoting.always extra) ++
          "file operands cannot be combined with --files0-from\n" ++ view.hint }
    | some source, [] =>
      match view.read source with
      | .error why =>
        view.failing 1
          ("cannot open " ++ Quoting.always source ++ " for reading: " ++ why.error.text)
      | .ok text =>
        let isStream := source == "-" && !view.hasFileInput
        { countFiles view arguments isStream (View.namesInList source text) with
          drains := source == "-" }

end PointerTagging.Host.Tool
