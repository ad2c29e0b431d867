import PointerTagging.Host.Sed.Run
/-!
# Editing streams

The utility that edits the lines of its input as a script says.
-/

namespace PointerTagging.Host

namespace Sed

/-- A piece of a script: its text, and the file that it comes from if there is one. -/
structure Piece where
  text : String
  file : Option String

/-- Where a position is in some pieces, each of which is followed by a line end; `n` is the number
of the piece. -/
def placeOf : (n position : Nat) → List Piece → String
  | n, _, [] => "-e expression #" ++ toString n ++ ", char 0"
  | n, position, piece :: pieces =>
    let length := piece.text.length
    if position > length && !pieces.isEmpty then
      placeOf (if piece.file.isSome then n else n + 1) (position - length - 1) pieces
    else
      match piece.file with
      | none => "-e expression #" ++ toString n ++ ", char " ++ toString (min position length)
      | some path =>
        let before := (piece.text.toList.take (position - 1)).filter (· == '\n')
        "file " ++ path ++ " line " ++ toString (before.length + 1)

/-- The options. -/
def options : OptionTable :=
  { letters := "bEe:f:i::l:nrsuz"
    names := [("debug", '\x02'), ("expression=", 'e'), ("file=", 'f'), ("in-place==", 'i'),
      ("line-length=", 'l'), ("null-data", 'z'), ("posix", '\x03'), ("quiet", 'n'),
      ("regexp-extended", 'E'), ("sandbox", '\x04'), ("separate", 's'), ("silent", 'n'),
      ("unbuffered", 'u'), ("zero-terminated", 'z')]
    stopsEarly := false }

/-- The pieces of a script that options give, or the path of one that cannot be read. -/
def pieces (view : View) (given : List (Char × String)) : Except String (List Piece) :=
  (given.filter fun o => o.1 == 'e' || o.1 == 'f').mapM fun (letter, value) =>
    if letter == 'e' then .ok ⟨value, none⟩
    else
      match view.read value with
      | .ok text =>
        .ok ⟨if text.endsWith "\n" then (text.dropEnd 1).toString else text, some value⟩
      | .error why => .error ("couldn't open file " ++ value ++ ": " ++ why.error.text)

/-- The start of what is said about the use of the utility. -/
def usage (name : String) : String :=
  "Usage: " ++ name ++ " [OPTION]... \x7bscript-only-if-no-other-script\x7d [input-file]...\n\n"

end Sed

open Sed in
/-- Edits the lines of the input. -/
def Tool.sed (view : View) : Outcome :=
  match options.arguments view.arguments with
  | .error error =>
    { Outcome.quiet 1 with errors := view.complaint error.message ++ usage view.name }
  | .ok arguments =>
    if arguments.has OptionTable.helpLetter then .quiet 0 else
    let isGiven := arguments.has 'e' || arguments.has 'f'
    let given :=
      if isGiven then pieces view arguments.options
      else .ok ((arguments.operands.take 1).map fun text => ⟨text, none⟩)
    let paths := if isGiven then arguments.operands else arguments.operands.drop 1
    match given with
    | .error complaint => view.failing 4 complaint
    | .ok [] => { Outcome.quiet 1 with errors := usage view.name }
    | .ok (first :: rest) =>
      let all := first :: rest
      let text := "\n".intercalate (all.map (·.text))
      match parse (arguments.has 'E' || arguments.has 'r') text with
      | .error refusal =>
        let place :=
          if refusal.position == 0 then "-e expression #1, char 0"
          else placeOf 1 refusal.position all
        view.failing 1 (place ++ ": " ++ refusal.message)
      | .ok script =>
        match missingLabel? script with
        | some name => view.failing 4 ("can't find label for jump to `" ++ name ++ "'")
        | none =>
          let settings : Settings :=
            { isQuiet := arguments.has 'n' || first.text == "#n" || first.text.startsWith "#n\n"
              isSeparate := arguments.has 's'
              inPlace := arguments.value? 'i'
              ending := if arguments.has 'z' then '\x00' else '\n'
              width := ((arguments.value? 'l').bind amount?).getD 70
              isUnbuffered := arguments.has 'u' }
          edit view settings script paths

end PointerTagging.Host
