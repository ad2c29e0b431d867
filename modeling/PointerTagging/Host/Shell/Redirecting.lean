import PointerTagging.Host.Shell.Expansion
/-!
# Redirecting descriptors

A redirection is expanded first and carried out then, since what fails in the first step ends the
shell and what fails in the second does not always.
-/

namespace PointerTagging.Host.Shell

open Shell.Action

/-- A redirection whose words are expanded. -/
inductive Opening where
  | read (path : String)
  | write (path : String)
  | append (path : String)
  | update (path : String)
  /-- The same as another descriptor, or nowhere. -/
  | duplicate (descriptor : Option Nat)
  | document (text : String)
  deriving DecidableEq, Repr

/-- The descriptor that a text names; none for a dash. -/
def descriptorOf (text : String) : Action (Option Nat) := do
  let complaint ← byDialect "Syntax error: Bad fd number" (text ++ ": ambiguous redirect")
  match text.toList with
  | ['-'] => return none
  | [c] => if c.isDigit then return some (c.toNat - '0'.toNat) else fail complaint
  | _ =>
    match ← byDialect none (naturalOf? text) with
    | some n => return some n
    | none => fail complaint

/-- How a word is written that is nothing but a parameter. -/
def writtenForm (word : Word) : String :=
  match word with
  | [.parameter parameter _ _] => "$" ++ parameter.name
  | word => word.text

/-- The path that a word of a redirection expands to; in the extended dialect it has to be one
field. -/
def expandPath (run : Runner) (word : Word) : Action String := do
  if !(← isExtended) then return ← expandText run word
  match ← expandAll run [word] with
  | [path] => return path
  | _ => fail (writtenForm word ++ ": ambiguous redirect")

/-- Expands the words of a redirection. -/
def expandRedirection (run : Runner) : Redirection → Action (Nat × Opening)
  | .mk descriptor target => do
    let opening ←
      match target with
      | .read path => do pure (.read (← expandPath run path))
      | .write path => do pure (.write (← expandPath run path))
      | .append path => do pure (.append (← expandPath run path))
      | .update path => do pure (.update (← expandPath run path))
      | .duplicate word => do pure (.duplicate (← descriptorOf (← expandText run word)))
      | .document text => do pure (.document (← expandDocument run text))
    return (descriptor, opening)

/-- Expands the words of redirections. -/
def expandRedirections (run : Runner) (redirections : List Redirection) :
    Action (List (Nat × Opening)) := redirections.mapM (expandRedirection run)

/-- Complains that a file cannot be opened. -/
def cannotOpen (path : String) (error : SystemError) : Action α := do
  if ← isExtended then fail (path ++ ": " ++ error.text)
  fail ("cannot open " ++ path ++ ": " ++ if error.isAbsence then "No such file" else error.text)

/-- Complains that a file cannot be written. -/
def cannotCreate (path : String) (error : SystemError) : Action α := do
  if ← isExtended then fail (path ++ ": " ++ error.text)
  fail ("cannot create " ++ path ++ ": " ++
    if error.isAbsence then "Directory nonexistent" else error.text)

/-- The channel of a descriptor, which has to be open. -/
def channelOf (descriptor : Nat) : Action Channel := do
  match (← get).descriptors.channel? descriptor with
  | some channel => return channel
  | none => fail (toString descriptor ++ ": " ++ SystemError.badDescriptor.text)

/-- Opens a file to read it. -/
def openToRead (path : String) : Action Channel := do
  let s ← get
  match s.world.tree.locate s.place path with
  | .error error => cannotOpen path error
  | .ok (_, .ordinary text _) => onWorld fun world => world.addFileSource text
  | .ok (_, .zeros) => onWorld fun world => world.addSource File.someZeros
  | .ok (_, .descriptor n) => channelOf n
  | .ok _ => return .nothing

/-- Opens a file to write it, at its end or from its start; it is made if it is not there. -/
def openToWrite (path : String) (atEnd : Bool) : Action Channel := do
  let s ← get
  let fresh (place : List String) (mode : Nat) : Action Channel := do
    onWorld fun world =>
      (Channel.file place, { world with tree := world.tree.put place (.ordinary "" mode) })
  match s.world.tree.spot s.place path with
  | .error error => cannotCreate path error
  | .ok ⟨place, none⟩ => fresh place (0o666 &&& (0o7777 - s.umask))
  | .ok ⟨_, some .directory⟩ => cannotCreate path .isADirectory
  | .ok ⟨place, some (.ordinary _ mode)⟩ =>
    if atEnd then return .file place else fresh place mode
  | .ok ⟨_, some .full⟩ => return .full
  | .ok ⟨_, some (.descriptor n)⟩ => channelOf n
  | .ok _ => return .nothing

/-- Opens a file that is made if it is not there, to read it. -/
def openToUpdate (path : String) : Action Channel := do
  let s ← get
  match s.world.tree.spot s.place path with
  | .ok ⟨place, none⟩ => return .file place
  | _ => openToRead path

/-- Has a descriptor lead to a channel. -/
def assignDescriptor (descriptor : Nat) (channel : Channel) : Action Unit :=
  modify fun s => { s with descriptors := s.descriptors.assign descriptor channel }

/-- Carries out a redirection. -/
def redirectOne (descriptor : Nat) : Opening → Action Unit
  | .read path => do assignDescriptor descriptor (← openToRead path)
  | .write path => do assignDescriptor descriptor (← openToWrite path false)
  | .append path => do assignDescriptor descriptor (← openToWrite path true)
  | .update path => do assignDescriptor descriptor (← openToUpdate path)
  | .duplicate none => modify fun s => { s with descriptors := s.descriptors.close descriptor }
  | .duplicate (some n) => do assignDescriptor descriptor (← channelOf n)
  | .document text => do
    assignDescriptor descriptor (← onWorld fun world => world.addSource text)

/-- Carries out redirections in their order. -/
def redirectAll (openings : List (Nat × Opening)) : Action Unit := do
  for (descriptor, opening) in openings do
    redirectOne descriptor opening

end PointerTagging.Host.Shell
