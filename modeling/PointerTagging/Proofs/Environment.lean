import Mathlib.Data.List.Basic
import Mathlib.Tactic.Lemma
import PointerTagging.Environment
import PointerTagging.Proofs.Setting

/-!
# What an environment configures

Each field of a configuration is what the text of its own variable spells, or the default, and each
variable whose text is refused is reported on its own (`Config.ofEnvironment_eq`). An overlaid
environment holds the last value that is given for a name, and the value that it held before if none
is (`Environment.get?_overlay`).
-/

namespace PointerTagging

/-- If the last of some steps that sets a part of a state decides it, then the state after all of
them holds what the last one set, or what it held before. -/
lemma getLast?_foldl {σ β α : Type} (step : σ → β → σ) (get : σ → Option α) (sets : β → Option α)
    (h : ∀ s b, get (step s b) = (sets b).or (get s)) (bs : List β) (s : σ) :
    get (bs.foldl step s) = (bs.filterMap sets).getLast?.or (get s) := by
  induction bs generalizing s with
  | nil => rfl
  | cons b bs ih =>
    rw [List.foldl_cons, ih, h, ← Option.or_assoc, List.filterMap_cons]
    cases sets b with
    | none => simp
    | some value => simp [List.getLast?_cons, Option.or_of_isSome]

namespace Environment

/-- A variable that is set has its new value, and the others have theirs. -/
lemma get?_set (env : Environment) (key name : String) (value : List UInt8) :
    (env.set key value).get? name = if key = name then some value else env.get? name := by
  obtain ⟨bindings⟩ := env
  simp only [get?, set]
  induction bindings with
  | nil => by_cases same : key = name <;> simp [Environment.bind, same]
  | cons b bs ih =>
    by_cases replaced : b.1 = key
    · by_cases same : key = name <;> simp [Environment.bind, replaced, same]
    · by_cases found : b.1 = name
      · subst found
        simp [Environment.bind, replaced, Ne.symm replaced]
      · simpa [Environment.bind, replaced, found] using ih

/-- An overlaid environment holds the last value that is given for a name. -/
theorem get?_overlay (env : Environment) (values : List (String × List UInt8)) (name : String) :
    (env.overlay values).get? name =
      (values.filterMap fun b => if b.1 = name then some b.2 else none).getLast?.or
        (env.get? name) := by
  refine getLast?_foldl _ (·.get? name) _ (fun env b => ?_) values env
  rw [get?_set]
  split <;> rfl

end Environment

namespace Config

variable {α : Type}

/-- The value of a setting: what its text spells, or the default. -/
def settled (parse : List UInt8 → Except SettingError α) (fallback : α) :
    Option (List UInt8) → α
  | none => fallback
  | some raw =>
    match parse raw with
    | .ok value => value
    | .error _ => fallback

/-- Why the text of a setting is not used. -/
def refused? (parse : List UInt8 → Except SettingError α) :
    Option (List UInt8) → Option SettingError
  | none => none
  | some raw =>
    match parse raw with
    | .ok _ => none
    | .error error => some error

/-- Why the text of a variable is not used. -/
def refusal? (v : Variable) : Option (List UInt8) → Option SettingError :=
  match v with
  | .tag => refused? Setting.parseTag
  | .threshold => refused? Setting.parseThreshold
  | .trace => refused? (Setting.parseFlag · Variable.trace.name)
  | .policy => refused? Setting.parsePolicy

/-- A setting is refused if its text is. -/
lemma refused?_eq_some {parse : List UInt8 → Except SettingError α} {raw : Option (List UInt8)}
    {error : SettingError} :
    refused? parse raw = some error ↔ ∃ text, raw = some text ∧ parse text = .error error := by
  cases raw with
  | none => simp [refused?]
  | some text => cases read : parse text <;> simp [refused?, read]

/-- A refusal names the variable whose text is refused. -/
lemma name_of_refusal? {v : Variable} {raw : Option (List UInt8)} {error : SettingError}
    (h : refusal? v raw = some error) : error.name = v.name := by
  cases v with
  | tag =>
    obtain ⟨text, -, refused⟩ := refused?_eq_some.mp h
    exact Setting.parseTag_error refused
  | threshold =>
    obtain ⟨text, -, refused⟩ := refused?_eq_some.mp h
    exact Setting.parseThreshold_error refused
  | trace =>
    obtain ⟨text, -, refused⟩ := refused?_eq_some.mp h
    exact Setting.parseFlag_error refused
  | policy =>
    obtain ⟨text, -, refused⟩ := refused?_eq_some.mp h
    exact Setting.parsePolicy_error refused

/-- Asking for a variable while a configuration is resolved. -/
def look (lookup : Variable → Option (List UInt8)) (v : Variable) :
    StateM Consultation (Option (List UInt8)) := do
  modify fun c => { c with asked := c.asked ++ [v] }
  pure (lookup v)

/-- Reporting an error while a configuration is resolved. -/
def note (e : SettingError) : StateM Consultation Unit :=
  modify fun c => { c with errors := c.errors ++ [e] }

/-- One setting is asked for once, and reported if it is refused. -/
lemma setting_run (lookup : Variable → Option (List UInt8)) (v : Variable)
    (parse : List UInt8 → Except SettingError α) (fallback : α) (c : Consultation) :
    (setting (look lookup) note v parse fallback).run c =
      pure (settled parse fallback (lookup v),
        ⟨c.asked ++ [v], c.errors ++ (refused? parse (lookup v)).toList⟩) := by
  unfold setting settled refused?
  cases raw : lookup v with
  | none => simp [look, raw]
  | some raw' =>
    cases read : parse raw' with
    | ok value => simp [look, raw, read]
    | error error => simp [look, note, raw, read]

/-- The fields of a configuration are settled each from its own variable, and the errors of the
variables are reported in the order in which they are asked for. -/
theorem consult_eq (lookup : Variable → Option (List UInt8)) :
    consult lookup =
      ({ tag := settled Setting.parseTag default.tag (lookup .tag)
         threshold := settled Setting.parseThreshold default.threshold (lookup .threshold)
         trace := settled (Setting.parseFlag · Variable.trace.name) default.trace (lookup .trace)
         policy := settled Setting.parsePolicy default.policy (lookup .policy) },
        ⟨Variable.all, Variable.all.filterMap fun v => refusal? v (lookup v)⟩) := by
  show StateT.run (resolve (look lookup) note) ⟨[], []⟩ = _
  have errors : Variable.all.filterMap (fun v => refusal? v (lookup v)) =
      [] ++ (refused? Setting.parseTag (lookup .tag)).toList ++
        (refused? Setting.parseThreshold (lookup .threshold)).toList ++
        (refused? (Setting.parseFlag · Variable.trace.name) (lookup .trace)).toList ++
        (refused? Setting.parsePolicy (lookup .policy)).toList := by
    rw [List.filterMap_eq_flatMap_toList]
    simp [Variable.all, refusal?]
  simp only [resolve, StateT.run_bind, setting_run, errors]
  rfl

/-- What an environment configures, and the errors that it leads to. -/
theorem ofEnvironment_eq (env : Environment) :
    ofEnvironment env =
      ({ tag := settled Setting.parseTag default.tag (env.get? Variable.tag.name)
         threshold :=
          settled Setting.parseThreshold default.threshold (env.get? Variable.threshold.name)
         trace :=
          settled (Setting.parseFlag · Variable.trace.name) default.trace
            (env.get? Variable.trace.name)
         policy := settled Setting.parsePolicy default.policy (env.get? Variable.policy.name) },
        Variable.all.filterMap fun v => refusal? v (env.get? v.name)) := by
  rw [ofEnvironment, consult_eq]

/-- A text that is read as a value settles it, whatever would be read otherwise. -/
lemma settled_or {parse : List UInt8 → Except SettingError α} {fallback : α} {given : Option α}
    {print : α → List UInt8} (reads : ∀ value ∈ given, parse (print value) = .ok value)
    (raw : Option (List UInt8)) :
    settled parse fallback ((given.map print).or raw) =
      given.getD (settled parse fallback raw) := by
  cases given with
  | none => rfl
  | some value => simp [settled, reads value rfl]

/-- A text that is read as a value is not refused, whatever would be read otherwise. -/
lemma refused?_or {parse : List UInt8 → Except SettingError α} {given : Option α}
    {print : α → List UInt8} (reads : ∀ value ∈ given, parse (print value) = .ok value)
    (raw : Option (List UInt8)) :
    refused? parse ((given.map print).or raw) =
      if given.isSome then none else refused? parse raw := by
  cases given with
  | none => rfl
  | some value => simp [refused?, reads value rfl]

end Config

end PointerTagging
