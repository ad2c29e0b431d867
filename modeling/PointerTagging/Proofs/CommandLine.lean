import PointerTagging.CommandLine
import PointerTagging.Proofs.Launch

/-!
# Running a command

On every system `run` either fails and starts nothing, or starts its command once, under an
environment that passes its options on, and returns what the command leaves behind (`execute_run`).
-/

namespace PointerTagging.CommandLine

open Text

variable {ε ε' α β : Type}

/-- Two steps succeed together if each does. -/
lemma bind_eq_ok {x : Except ε α} {f : α → Except ε β} {b : β} :
    (x >>= f) = .ok b ↔ ∃ a, x = .ok a ∧ f a = .ok b := by
  cases x <;> simp [bind, Except.bind]

/-- Another name for an error leaves a success as it is. -/
lemma mapError_eq_ok {x : Except ε α} {f : ε → ε'} {a : α} : x.mapError f = .ok a ↔ x = .ok a := by
  cases x <;> simp [Except.mapError]

/-- The settings that the options of `run` give. -/
def optionSettings (trace : Bool) (threshold tag policy : Option String) :
    Except SettingError (List LaunchSetting) := do
  let tag ← setting Setting.parseTag .tag tag
  let threshold ← setting Setting.parseThreshold .threshold threshold
  let policy ← setting Setting.parsePolicy .policy policy
  return .trace trace :: tag ++ threshold ++ policy

/-- How the program of a command is started: with the options passed on, behind a library that is
loaded ahead of all others, and with a line that says so. -/
structure Starts (env : Environment) (library : List UInt8) (settings : List LaunchSetting)
    (child : Environment) (said : String) : Prop where
  passes : Passes settings env child
  preload : ∃ value, child.get? preloadVariable = some value ∧ library <+: value ∧
    said = "Running with LD_PRELOAD=" ++ Utf8.toStringLossy value ++ "\n"

variable {isFile : List UInt8 → Bool} {library : List UInt8} {trace : Bool}
variable {threshold tag policy : Option String} {command : List String} {launched : Launch}

/-- The library and the command of a launch are those that it was made of. -/
lemma words_of_new? {words : List (List UInt8)} {made : Launch}
    (new : Launch.new? library words = .ok made) (settings : List LaunchSetting) :
    (made.applyAll settings).library = library ∧
      (made.applyAll settings).program :: (made.applyAll settings).arguments = words := by
  obtain ⟨library', program, arguments⟩ := made.applyAll_words settings
  rw [library', program, arguments]
  cases words with
  | nil => cases new
  | cons program arguments => cases new; exact ⟨rfl, rfl⟩

/-- There is a launch if there is a command, no option is refused, and the library is a file. -/
lemma launch_eq_ok :
    launch isFile library trace threshold tag policy command = .ok launched ↔
      ∃ made settings, Launch.new? library (command.map Utf8.ofString) = .ok made ∧
        optionSettings trace threshold tag policy = .ok settings ∧ isFile library = true ∧
        made.applyAll settings = launched := by
  constructor
  · intro ok
    obtain ⟨made, new, ok⟩ := bind_eq_ok.mp ok
    obtain ⟨tags, readTag, ok⟩ := bind_eq_ok.mp ok
    obtain ⟨thresholds, readThreshold, ok⟩ := bind_eq_ok.mp ok
    obtain ⟨policies, readPolicy, ok⟩ := bind_eq_ok.mp ok
    have new := mapError_eq_ok.mp new
    have read : optionSettings trace threshold tag policy = _ :=
      bind_eq_ok.mpr ⟨tags, mapError_eq_ok.mp readTag, bind_eq_ok.mpr
        ⟨thresholds, mapError_eq_ok.mp readThreshold, bind_eq_ok.mpr
          ⟨policies, mapError_eq_ok.mp readPolicy, rfl⟩⟩⟩
    refine ⟨made, _, new, read, ?_⟩
    rw [← (words_of_new? new (.trace trace :: tags ++ thresholds ++ policies)).1]
    dsimp only at ok
    split at ok
    case isTrue file => exact ⟨file, Except.ok.inj ok⟩
    case isFalse => cases ok
  · rintro ⟨made, settings, new, read, file, rfl⟩
    obtain ⟨tags, readTag, read⟩ := bind_eq_ok.mp read
    obtain ⟨thresholds, readThreshold, read⟩ := bind_eq_ok.mp read
    obtain ⟨policies, readPolicy, read⟩ := bind_eq_ok.mp read
    cases read
    rw [← (words_of_new? new (.trace trace :: tags ++ thresholds ++ policies)).1] at file
    exact bind_eq_ok.mpr ⟨made, mapError_eq_ok.mpr new, bind_eq_ok.mpr
      ⟨tags, mapError_eq_ok.mpr readTag, bind_eq_ok.mpr
        ⟨thresholds, mapError_eq_ok.mpr readThreshold, bind_eq_ok.mpr
          ⟨policies, mapError_eq_ok.mpr readPolicy, if_pos file⟩⟩⟩⟩

/-- On every system `run` fails, whatever it would have started, if its command is empty, its
library is no file, or one of its options is refused. Else it starts the command, under an
environment that passes the options on. If the command cannot be started, `run` fails; if it can,
`run` returns the command's code, or 1 if a signal ended it, and prints what the command prints,
behind a line that names the libraries. -/
theorem execute_run (system : System) (env : Environment) (library : List UInt8) (trace : Bool)
    (threshold tag policy : Option String) (command : List String) :
    let invocation := Invocation.run library trace threshold tag policy command
    let options := optionSettings trace threshold tag policy
    (command = [] ∨ system.isFile library = false ∨ ∃ error, options = .error error) ∧
        (∃ failure, ∀ start, execute ⟨system.isFile, start⟩ env invocation = failed "" failure) ∨
      command ≠ [] ∧ system.isFile library = true ∧
        ∃ settings child said, options = .ok settings ∧ Starts env library settings child said ∧
          execute system env invocation =
            match system.start child (command.map Utf8.ofString) with
            | .error reason => failed said (.spawn reason)
            | .ok trail =>
              ⟨trail.code.getD 1, trail.output, Utf8.ofString said ++ trail.errors⟩ := by
  intro invocation options
  cases launches : launch system.isFile library trace threshold tag policy command with
  | error failure =>
    refine .inl ⟨?_, failure, fun start => by simp only [execute, step, invocation, launches]⟩
    cases command with
    | nil => exact .inl rfl
    | cons program arguments =>
      cases read : options with
      | error error => exact .inr (.inr ⟨error, rfl⟩)
      | ok settings =>
        refine .inr (.inl (Bool.eq_false_iff.mpr fun file => ?_))
        cases launches.symm.trans (launch_eq_ok.mpr ⟨_, settings, rfl, read, file, rfl⟩)
  | ok launched =>
    obtain ⟨made, settings, new, read, file, rfl⟩ := launch_eq_ok.mp launches
    obtain ⟨same, words⟩ := words_of_new? new settings
    have first := (made.applyAll settings).library_prefix_preloadValue (env.get? preloadVariable)
    rw [same] at first
    have named : command ≠ [] := by
      rintro rfl
      cases new
    refine .inr ⟨named, file, settings, (made.applyAll settings).environment env,
      announcement env (made.applyAll settings), read, ⟨?_, ?_⟩, ?_⟩
    · exact Launch.passes_overlay new settings env _
    · exact ⟨_, Launch.get?_overlay_preload _ _ _, first, rfl⟩
    · simp only [execute, step, invocation, launches, run, words]
      cases system.start _ (command.map Utf8.ofString) <;> rfl

end PointerTagging.CommandLine
