import PointerTagging.Host.Utility.Options
/-!
# Showing texts

The utilities that print texts with visible characters, or lines of another length.
-/

namespace PointerTagging.Host.Tool

open Text

/-! ## Visible characters -/

/-- A character as `cat -v` shows it. -/
def visible (c : Char) : String :=
  let n := c.toNat
  let low (n : Nat) : String :=
    if n < 32 then "^" ++ String.ofList [Char.ofNat (n + 64)]
    else if n == 127 then "^?"
    else String.ofList [Char.ofNat n]
  if n < 128 then low n else "M-" ++ low (n - 128)

/-- How `cat` shows lines. -/
structure CatStyle where
  numbers : Bool
  /-- Only lines that are not empty have numbers. -/
  numbersFilled : Bool
  squeezes : Bool
  showsEnds : Bool
  showsTabs : Bool
  showsOthers : Bool

/-- A line, with its end if it has one, as `cat` shows it. -/
def CatStyle.show (style : CatStyle) (line : String) : String :=
  let body := if line.endsWith "\n" then line.toList.dropLast else line.toList
  let shown (c : Char) : String :=
    if c == '\t' then (if style.showsTabs then "^I" else "\t")
    else if style.showsOthers then visible c
    else String.ofList [c]
  let text := String.join (body.map shown)
  let text :=
    if style.showsEnds && !style.showsOthers && line.endsWith "\r\n" then
      (text.dropEnd 1).toString ++ "^M"
    else text
  if line.endsWith "\n" then text ++ (if style.showsEnds then "$" else "") ++ "\n" else text

/-- Lines as `cat` shows them, from a line number on; `gap` says that the last one was empty. -/
def CatStyle.showAll (style : CatStyle) : (number : Nat) → (gap : Bool) → List String → List String
  | _, _, [] => []
  | number, gap, line :: lines =>
    let isEmpty := line == "\n"
    if style.squeezes && gap && isEmpty then style.showAll number true lines
    else if style.numbers && !(style.numbersFilled && isEmpty) then
      (padLeft 6 (toString number) ++ "\t" ++ style.show line) ::
        style.showAll (number + 1) isEmpty lines
    else style.show line :: style.showAll number isEmpty lines

/-- The options of `cat`. -/
def catOptions : OptionTable :=
  { letters := "AbeEnstTuv"
    names := [("show-all", 'A'), ("number-nonblank", 'b'), ("show-ends", 'E'), ("number", 'n'),
      ("squeeze-blank", 's'), ("show-tabs", 'T'), ("show-nonprinting", 'v')]
    stopsEarly := false }

/-- Prints texts one behind the other. -/
def cat (view : View) : Outcome :=
  view.withOptions 1 catOptions fun arguments =>
    let isOn (letters : String) : Bool := (arguments.last? letters).isSome
    let style : CatStyle :=
      { numbers := isOn "nb"
        numbersFilled := isOn "b"
        squeezes := isOn "s"
        showsEnds := isOn "AeE"
        showsTabs := isOn "AtT"
        showsOthers := isOn "Aetv" }
    if isOn "nbsAeEtTv" then
      view.filtering arguments.operands fun texts =>
        String.join (style.showAll 1 false (wholeLines (String.join (texts.map (·.2)))))
    else view.promptly arguments.operands (fun _ text => text) ""

/-! ## Other widths -/

/-- The column behind a character. -/
def columnAfter (column : Nat) (c : Char) : Nat :=
  match c with
  | '\t' => column + 8 - column % 8
  | '\x08' => column - 1
  | '\r' => 0
  | _ => column + 1

/-- The pieces of a line of at most some columns, behind a piece that is open, in reverse. A piece
ends behind its last blank, if it has one, where that is asked for. -/
def foldLine (width : Nat) (byBytes atBlanks : Bool) :
    Nat → (column : Nat) → (piece : List Char) → List Char → List String
  | 0, _, _, _ => []
  | _, _, piece, [] => if piece.isEmpty then [] else [String.ofList piece.reverse]
  | n + 1, column, piece, c :: cs =>
    let next := if byBytes then column + 1 else columnAfter column c
    if next ≤ width || piece.isEmpty then foldLine width byBytes atBlanks n next (c :: piece) cs
    else
      let tail := piece.takeWhile (!isBlank ·)
      if atBlanks && tail.length < piece.length then
        String.ofList (piece.drop tail.length).reverse ::
          foldLine width byBytes atBlanks n 0 [] (tail.reverse ++ c :: cs)
      else
        String.ofList piece.reverse :: foldLine width byBytes atBlanks n 0 [] (c :: cs)

/-- The options of `fold`. -/
def foldOptions : OptionTable :=
  { letters := "bsw:0::1::2::3::4::5::6::7::8::9::"
    names := [("bytes", 'b'), ("spaces", 's'), ("width=", 'w')]
    stopsEarly := false }

/-- Breaks lines that are too long. -/
def fold (view : View) : Outcome :=
  view.withOptions 1 foldOptions fun arguments =>
    let digits := arguments.options.find? fun o => o.1.isDigit
    let text :=
      match digits, arguments.value? 'w' with
      | some (c, rest), _ => String.ofList [c] ++ rest
      | none, some text => text
      | none, none => "80"
    match boundedAmount "invalid number of columns" "" 1 (UInt64.size - 9) text with
    | .error complaint => view.failing 1 complaint
    | .ok width =>
      view.filtering arguments.operands fun texts =>
        let pieces (line : String) : String :=
          let body := if line.endsWith "\n" then line.toList.dropLast else line.toList
          let room := 2 * body.length * (body.length + 1) + 2
          "\n".intercalate
              (foldLine width (arguments.has 'b') (arguments.has 's') room 0 [] body) ++
            if line.endsWith "\n" then "\n" else ""
        String.join (texts.map fun t => String.join ((wholeLines t.2).map pieces))

end PointerTagging.Host.Tool
