/-!
# Patterns

The patterns that choices and trimmed parameters match values with: `*`, `?` and sets of
characters. A quoted character stands for itself.
-/

namespace PointerTagging.Host.Shell

/-- A character of a pattern and whether it is quoted. -/
abbrev PatternChar := Char × Bool

/-- What a set of characters contains. -/
inductive SetItem where
  | range (low high : Char)
  | kind (name : String)
  deriving DecidableEq, Repr

/-- An element of a pattern. -/
inductive Glob where
  /-- Any text. -/
  | any
  /-- Any character. -/
  | one
  | char (c : Char)
  | set (negated : Bool) (items : List SetItem)
  deriving DecidableEq, Repr

/-- True of a character of a kind. -/
def isOfKind (name : String) (c : Char) : Bool :=
  match name with
  | "alpha" => c.isAlpha
  | "digit" => c.isDigit
  | "alnum" => c.isAlphanum
  | "upper" => c.isUpper
  | "lower" => c.isLower
  | "space" => " \t\n\x0b\x0c\r".contains c
  | "blank" => c == ' ' || c == '\t'
  | "cntrl" => c.toNat < 32 || c.toNat == 127
  | "print" => 32 ≤ c.toNat && c.toNat < 127
  | "graph" => 32 < c.toNat && c.toNat < 127
  | "punct" => 32 < c.toNat && c.toNat < 127 && !c.isAlphanum
  | "xdigit" => c.isDigit || ('a' ≤ c && c ≤ 'f') || ('A' ≤ c && c ≤ 'F')
  | _ => false

/-- True of a character in a set. -/
def SetItem.contains (item : SetItem) (c : Char) : Bool :=
  match item with
  | .range low high => low ≤ c && c ≤ high
  | .kind name => isOfKind name c

namespace Glob

/-- The name of a kind of characters at the start of a set, behind `[:`, and what follows it. -/
def kindAtStart (cs : List PatternChar) : Option (String × List PatternChar) :=
  let name := (cs.takeWhile fun c => c.1.isAlpha).map (·.1)
  match cs.drop name.length with
  | (':', false) :: (']', false) :: rest => some (String.ofList name, rest)
  | _ => none

/-- Reads the items of a set up to its closing bracket; nothing if there is none. A bracket in the
first position stands for itself. -/
def items : Nat → (first : Bool) → List PatternChar →
    Option (List SetItem × List PatternChar)
  | 0, _, _ => none
  | n + 1, first, cs =>
    match cs with
    | [] => none
    | (']', false) :: rest =>
      if first then single n ']' rest else some ([], rest)
    | ('[', false) :: (':', false) :: rest =>
      match kindAtStart rest with
      | some (name, rest) => (items n false rest).map fun r => (.kind name :: r.1, r.2)
      | none => single n '[' ((':', false) :: rest)
    | (c, _) :: rest => single n c rest
where
  /-- Reads on behind a character, which may begin a range. -/
  single (n : Nat) (c : Char) (cs : List PatternChar) :
      Option (List SetItem × List PatternChar) :=
    match cs with
    | ('-', false) :: (']', false) :: _ => (items n false cs).map fun r => (.range c c :: r.1, r.2)
    | ('-', false) :: (d, _) :: rest => (items n false rest).map fun r => (.range c d :: r.1, r.2)
    | cs => (items n false cs).map fun r => (.range c c :: r.1, r.2)

/-- The elements of a pattern. A bracket that is never closed stands for itself. -/
def parse : Nat → List PatternChar → List Glob
  | 0, _ => []
  | _, [] => []
  | n + 1, (c, quoted) :: cs =>
    if quoted then .char c :: parse n cs
    else
      match c with
      | '*' => .any :: parse n cs
      | '?' => .one :: parse n cs
      | '[' =>
        let (negated, body) :=
          match cs with
          | ('!', false) :: body => (true, body)
          | body => (false, body)
        match items (body.length + 1) true body with
        | some (items, rest) => .set negated items :: parse n rest
        | none => .char '[' :: parse n cs
      | c => .char c :: parse n cs

/-- The pattern in which a set is turned round by an exclamation mark wherever a caret does so. -/
def withBangs : List PatternChar → List PatternChar
  | ('[', false) :: ('^', false) :: cs => ('[', false) :: ('!', false) :: withBangs cs
  | c :: cs => c :: withBangs cs
  | [] => []

/-- The elements of a pattern. -/
def ofChars (cs : List PatternChar) : List Glob := parse cs.length cs

/-- The characters of a pattern, in which a backslash quotes what follows. -/
def quotedChars : List Char → List PatternChar
  | '\\' :: c :: cs => (c, true) :: quotedChars cs
  | c :: cs => (c, false) :: quotedChars cs
  | [] => []

/-- The elements of a pattern that is a text of its own. -/
def ofText (text : String) : List Glob := ofChars (quotedChars text.toList)

/-- An element with its letter in lower case. -/
def lowered : Glob → Glob
  | .char c => .char c.toLower
  | .any => .any
  | .one => .one
  | .set negated items => .set negated items

/-- True if the pattern matches the whole text. -/
def isMatch : List Glob → List Char → Bool
  | [], cs => cs.isEmpty
  | .any :: globs, cs =>
    isMatch globs cs ||
      match cs with
      | [] => false
      | _ :: rest => isMatch (.any :: globs) rest
  | .one :: globs, _ :: cs => isMatch globs cs
  | .char c :: globs, d :: cs => c == d && isMatch globs cs
  | .set negated items :: globs, d :: cs =>
    (items.any fun item => item.contains d) != negated && isMatch globs cs
  | _ :: _, [] => false
termination_by globs cs => (globs.length, cs.length)

/-- The lengths up to that of a text, the shortest first. -/
def lengths (cs : List Char) : List Nat := List.range (cs.length + 1)

/-- The text without the part at its start or end that the pattern matches, the longest or the
shortest one. Of a part that holds null characters the pattern sees only what stands before the
first of them. -/
def trim (atEnd longest : Bool) (globs : List Glob) (cs : List Char) : List Char :=
  let lengths := if longest then (lengths cs).reverse else lengths cs
  let cut (n : Nat) : List Char × List Char :=
    if atEnd then (cs.drop (cs.length - n), cs.take (cs.length - n)) else (cs.take n, cs.drop n)
  match lengths.find? fun n => isMatch globs ((cut n).1.takeWhile (· != '\x00')) with
  | some n => (cut n).2
  | none => cs

end Glob

end PointerTagging.Host.Shell
