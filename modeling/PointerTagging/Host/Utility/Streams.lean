import PointerTagging.Host.Utility.Change
/-!
# Writing to files

The utilities that write their input to several files, and that bring files to a size.
-/

namespace PointerTagging.Host.Tool

open Text

/-- The outcome with a text written to a path, or a complaint about it. -/
def writeTo (view : View) (code : Nat) (path text : String) (appends : Bool)
    (word : SystemError → String) (outcome : Outcome) : Outcome :=
  let tree := outcome.tree.getD view.tree
  match tree.spot view.place path with
  | .ok ⟨_, some (.descriptor 1)⟩ => outcome.print text
  | .ok ⟨_, some (.descriptor 2)⟩ => { outcome with errors := outcome.errors ++ text }
  | .ok ⟨place, some (.ordinary old mode)⟩ =>
    let all := if appends then old ++ text else text
    { outcome with tree := some (tree.put place (.ordinary all mode)) }
  | .ok ⟨place, none⟩ => { outcome with tree := some (tree.create place text) }
  | .ok ⟨_, some .directory⟩ => outcome.complaining code (view.complaint (word .isADirectory))
  | .ok ⟨_, some .full⟩ =>
    if text.isEmpty then outcome else outcome.complaining code (view.complaint (word .noSpace))
  | .ok _ => outcome
  | .error error => outcome.complaining code (view.complaint (word error))

/-- The words for what is done where a file cannot be written; true if nothing more is. -/
def teeWords : List (List String × Bool) :=
  [(["warn"], false), (["warn-nopipe"], false), (["exit"], true), (["exit-nopipe"], true)]

/-- Copies the standard input to the standard output and to files. -/
def tee (view : View) : Outcome :=
  let table : OptionTable :=
    ⟨"aip", [("append", 'a'), ("ignore-interrupts", 'i'), ("output-error==", '\x02')], false⟩
  view.withOptions 1 table fun arguments =>
    let said := (arguments.value? '\x02').filter (!·.isEmpty)
    match said.elim (.ok false) (view.choose "output-error" teeWords) with
    | .error outcome => outcome
    | .ok stops =>
      let word (path : String) (error : SystemError) : String :=
        Quoting.name path ++ ": " ++ error.text
      let opened (path : String) : Option SystemError :=
        match view.tree.spot view.place path with
        | .ok ⟨_, some .directory⟩ => some .isADirectory
        | .ok _ => none
        | .error error => some error
      let failures := arguments.operands.filterMap fun path =>
        (opened path).map fun error => view.complaint (word path error)
      let reachable := arguments.operands.filter fun path => (opened path).isNone
      match stops, failures with
      | true, first :: _ => { Outcome.quiet 1 with errors := first }
      | _, failures =>
        let start : Outcome :=
          { Outcome.quiet (if failures.isEmpty then 0 else 1) with drains := true }
        let start := failures.foldl (fun outcome text => outcome.turn 2 text) start
        reachable.foldl
          (fun outcome path =>
            writeTo view 1 path view.input (arguments.has 'a') (word path) outcome)
          (start.turn 1 view.input)

/-! ## Sizes -/

/-- How a size follows from another one. -/
inductive Resizing where
  | exact
  | more
  | less
  | atMost
  | atLeast
  | roundedDown
  | roundedUp
  deriving DecidableEq, Repr

namespace Resizing

/-- The size that comes of an old one and an amount. -/
def size (r : Resizing) (amount old : Nat) : Nat :=
  match r with
  | .exact => amount
  | .more => old + amount
  | .less => old - amount
  | .atMost => min old amount
  | .atLeast => max old amount
  | .roundedDown => old / amount * amount
  | .roundedUp => (old + amount - 1) / amount * amount

/-- The change that a text says: a sign for how, and an amount. -/
def ofText (text : String) : Except AmountError (Resizing × Nat) := do
  let cs := text.toList.dropWhile isSpace
  let sign? : Option Resizing :=
    match cs.head? with
    | some '<' => some .atMost
    | some '>' => some .atLeast
    | some '/' => some .roundedDown
    | some '%' => some .roundedUp
    | _ => none
  let cs := if sign?.isSome then (cs.drop 1).dropWhile isSpace else cs
  let (r, cs) : Resizing × List Char :=
    match sign?, cs with
    | none, '+' :: cs => (.more, cs)
    | none, '-' :: cs => (.less, cs)
    | sign?, cs => (sign?.getD .exact, cs)
  if !cs.head?.any (fun c => c.isAlphanum) then throw .malformed
  let amount ← amountIn "EgGkKmMPQRtTYZ0" (String.ofList cs)
  if amount ≥ 9223372036854775808 then throw .tooLarge
  return (r, amount)

end Resizing

/-- Brings files to a size. -/
def truncate (view : View) : Outcome :=
  let table : OptionTable :=
    ⟨"cor:s:", [("io-blocks", 'o'), ("no-create", 'c'), ("reference=", 'r'), ("size=", 's')], false⟩
  view.withOptions 1 table fun arguments =>
    let text? := arguments.value? 's'
    let parsed := text?.elim (.ok (Resizing.exact, 0)) Resizing.ofText
    let reference := arguments.value? 'r'
    match parsed with
    | .error error =>
      view.failing 1 ("Invalid number: " ++ quotation (text?.getD "") ++ error.trail)
    | .ok (resizing, amount) =>
      let divides := resizing == .roundedDown || resizing == .roundedUp
      if divides && amount == 0 then view.failing 1 "division by zero"
      else if text?.isNone && reference.isNone then
        view.misused 1 "you must specify either '--size' or '--reference'"
      else if reference.isSome && text?.isSome && resizing == .exact then
        view.misused 1 "you must specify a relative '--size' with '--reference'"
      else if arguments.has 'o' && text?.isNone then
        view.misused 1 "'--io-blocks' was specified but '--size' was not"
      else if arguments.operands.isEmpty then view.misused 1 "missing file operand"
      else
        let amount := if arguments.has 'o' then amount * 4096 else amount
        match reference.elim (.ok none)
            (fun path => (findFile view view.tree true path).map (some ·)) with
        | .error error =>
          view.failing 1
            ("cannot stat " ++ Quoting.always (reference.getD "") ++ ": " ++ error.text)
        | .ok f? =>
          let resized (old : String) : Option String :=
            let base := f?.elim old.length Found.size
            let size := if text?.isNone then base else resizing.size amount base
            if size ≥ 1152921504606846976 then none
            else
              some (String.ofList
                (old.toList.take size ++ List.replicate (size - old.length) '\x00'))
          let one (path : String) : Worker Unit := do
            let refuse (error : SystemError) : Worker Unit :=
              Worker.complain view ("cannot open " ++ Quoting.always path ++ " for writing: " ++
                error.text)
            let put (old : String) (put : String → Tree → Tree) : Worker Unit := do
              match resized old with
              | some text => Worker.change (put text)
              | none =>
                Worker.complain view ("failed to truncate " ++ Quoting.always path ++ " at " ++
                  toString (resizing.size amount old.length) ++ " bytes: " ++
                  SystemError.tooLarge.text)
            match (← Worker.tree).spot view.place path with
            | .ok ⟨place, some (.ordinary old mode)⟩ =>
              put old fun text tree => tree.put place (.ordinary text mode)
            | .ok ⟨place, none⟩ =>
              if !arguments.has 'c' then put "" fun text tree => tree.create place text
            | .ok ⟨_, some .directory⟩ => refuse .isADirectory
            | .ok _ => pure ()
            | .error error =>
              if !(arguments.has 'c' && error == .notFound) then
                refuse (if error == .notADirectory && path.endsWith "/" then .isADirectory
                  else error)
          Worker.run view (arguments.operands.forM one)

end PointerTagging.Host.Tool
