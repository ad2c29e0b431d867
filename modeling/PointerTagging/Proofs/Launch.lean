import PointerTagging.Launch
import PointerTagging.Proofs.Environment
import PointerTagging.Proofs.Setting

/-!
# What a launched program reads

The variables that a launch gives its program are read back as the settings that it was given, and
the other settings are those of the parent (`passes_settings`): the value of each variable is the
printed setting, or the inherited one (`Launch.get?_overlay_variable`).
-/

namespace PointerTagging

open Text

/-- No two variables have the same name. -/
lemma Variable.name_inj {v w : Variable} : v.name = w.name ↔ v = w := by
  cases v <;> cases w <;> decide

/-- No variable of a setting names the libraries to preload. -/
lemma Variable.preloadVariable_ne_name (v : Variable) : preloadVariable ≠ v.name := by
  cases v <;> decide

namespace LaunchSetting

/-- The tag of a setting of the tag. -/
def tag? : LaunchSetting → Option Tag
  | .tag value => some value
  | _ => none

/-- The size of a setting of the threshold. -/
def threshold? : LaunchSetting → Option UInt64
  | .threshold size => some size
  | _ => none

/-- The switch of a setting of the trace. -/
def trace? : LaunchSetting → Option Bool
  | .trace on => some on
  | _ => none

/-- The policy of a setting of the policy. -/
def policy? : LaunchSetting → Option ReallocPolicy
  | .policy value => some value
  | _ => none

/-- The last of the settings of one kind. -/
def last? {α : Type} (kind : LaunchSetting → Option α) (settings : List LaunchSetting) : Option α :=
  (settings.filterMap kind).getLast?

/-- True of a variable that settings give a value: a trace that was last turned off gives none. -/
def gives (settings : List LaunchSetting) : Variable → Bool
  | .tag => (last? tag? settings).isSome
  | .threshold => (last? threshold? settings).isSome
  | .trace => last? trace? settings == some true
  | .policy => (last? policy? settings).isSome

end LaunchSetting

namespace Launch

open LaunchSetting

variable {library : List UInt8} {words : List (List UInt8)} {launch : Launch}

/-- A launch has of each kind the setting that was applied last. -/
lemma applyAll_eq (made : new? library words = .ok launch) (settings : List LaunchSetting) :
    (launch.applyAll settings).tag = last? tag? settings ∧
      (launch.applyAll settings).threshold = last? threshold? settings ∧
      (launch.applyAll settings).trace = (last? trace? settings).getD false ∧
      (launch.applyAll settings).policy = last? policy? settings := by
  cases words with
  | nil => cases made
  | cons program arguments =>
    cases made
    have tag := getLast?_foldl apply Launch.tag tag?
      (fun launch setting => by cases setting <;> rfl) settings
    have threshold := getLast?_foldl apply Launch.threshold threshold?
      (fun launch setting => by cases setting <;> rfl) settings
    have trace := getLast?_foldl apply (some ∘ Launch.trace) trace?
      (fun launch setting => by cases setting <;> rfl) settings
    have policy := getLast?_foldl apply Launch.policy policy?
      (fun launch setting => by cases setting <;> rfl) settings
    refine ⟨(tag _).trans (Option.or_none), (threshold _).trans Option.or_none, ?_,
      (policy _).trans Option.or_none⟩
    refine Option.some.inj ((trace _).trans ?_)
    unfold last?
    cases (settings.filterMap trace?).getLast? <;> rfl

/-- The text that a launch gives a variable. -/
def value? (launch : Launch) : Variable → Option String
  | .tag => launch.tag.map fun tag => tagText tag.value.toUInt64
  | .threshold => launch.threshold.map fun size => Numeral.decimal size.toNat
  | .trace => (if launch.trace then some true else none).map fun _ => "1"
  | .policy => launch.policy.map ReallocPolicy.name

/-- The variables of the settings are those with a text, each under its name. -/
lemma settingVariables_eq (launch : Launch) :
    launch.settingVariables =
      Variable.all.filterMap fun v => (launch.value? v).map fun text => (v.name, text) := by
  obtain ⟨library, program, arguments, tag, threshold, trace, policy⟩ := launch
  cases tag <;> cases threshold <;> cases trace <;> cases policy <;> rfl

/-- What a launch gives a name: the preload variable and the variables of its settings. -/
lemma filterMap_ownVariables (launch : Launch) (inherited : Option (List UInt8)) (name : String) :
    ((launch.ownVariables inherited).filterMap fun b => if b.1 = name then some b.2 else none) =
      (if preloadVariable = name then some (launch.preloadValue inherited) else none).toList ++
        Variable.all.filterMap fun v =>
          if v.name = name then (launch.value? v).map Utf8.ofString else none := by
  rw [ownVariables, List.filterMap_cons, settingVariables_eq, List.filterMap_map,
    List.filterMap_filterMap]
  have each (v : Variable) :
      (((launch.value? v).map fun text => (v.name, text)).bind
        ((fun b : String × List UInt8 => if b.1 = name then some b.2 else none) ∘
          fun b => (b.1, Utf8.ofString b.2))) =
        if v.name = name then (launch.value? v).map Utf8.ofString else none := by
    cases launch.value? v <;> by_cases same : v.name = name <;> simp [same]
  simp only [each]
  split <;> simp_all

/-- A launched program sees of each variable the text that the launch gives it, or what its parent
sees. -/
theorem get?_overlay_variable (launch : Launch) (parent : Environment)
    (inherited : Option (List UInt8)) (v : Variable) :
    (parent.overlay (launch.ownVariables inherited)).get? v.name =
      ((launch.value? v).map Utf8.ofString).or (parent.get? v.name) := by
  rw [Environment.get?_overlay, filterMap_ownVariables, if_neg v.preloadVariable_ne_name]
  have own : (Variable.all.filterMap fun w =>
      if w.name = v.name then (launch.value? w).map Utf8.ofString else none) =
        ((launch.value? v).map Utf8.ofString).toList := by
    rw [List.filterMap_eq_flatMap_toList]
    cases v <;> simp [Variable.all, Variable.name_inj]
  rw [own]
  cases launch.value? v <;> rfl

/-- A launched program sees the libraries of the launch. -/
lemma get?_overlay_preload (launch : Launch) (parent : Environment)
    (inherited : Option (List UInt8)) :
    (parent.overlay (launch.ownVariables inherited)).get? preloadVariable =
      some (launch.preloadValue inherited) := by
  rw [Environment.get?_overlay, filterMap_ownVariables, if_pos rfl]
  have no_setting : (Variable.all.filterMap fun v =>
      if v.name = preloadVariable then (launch.value? v).map Utf8.ofString else none) = [] :=
    List.filterMap_eq_nil_iff.mpr fun v _ => if_neg (Ne.symm v.preloadVariable_ne_name)
  rw [no_setting]
  rfl

/-- The library of the launch comes first. -/
lemma library_prefix_preloadValue (launch : Launch) (inherited : Option (List UInt8)) :
    launch.library <+: launch.preloadValue inherited := by
  unfold preloadValue
  split
  · exact List.prefix_rfl
  · exact List.prefix_rfl
  · rw [List.append_assoc]
    exact List.prefix_append _ _

/-- Settings change neither the library nor the command. -/
lemma applyAll_words (launch : Launch) (settings : List LaunchSetting) :
    (launch.applyAll settings).library = launch.library ∧
      (launch.applyAll settings).program = launch.program ∧
      (launch.applyAll settings).arguments = launch.arguments := by
  induction settings generalizing launch with
  | nil => exact ⟨rfl, rfl, rfl⟩
  | cons setting settings ih =>
    obtain ⟨library, program, arguments⟩ := ih (launch.apply setting)
    cases setting <;> exact ⟨library, program, arguments⟩

/-- A launched program sees of every other name but the preload variable what its parent sees. -/
lemma get?_overlay_other (launch : Launch) (parent : Environment) (inherited : Option (List UInt8))
    {name : String} (preload : preloadVariable ≠ name)
    (others : ∀ v, (launch.value? v).isSome → v.name ≠ name) :
    (parent.overlay (launch.ownVariables inherited)).get? name = parent.get? name := by
  rw [Environment.get?_overlay, filterMap_ownVariables, if_neg preload]
  have none_own : (Variable.all.filterMap fun v =>
      if v.name = name then (launch.value? v).map Utf8.ofString else none) = [] := by
    refine List.filterMap_eq_nil_iff.mpr fun v _ => ?_
    split
    case isTrue same =>
      cases text : launch.value? v with
      | none => rfl
      | some text' => exact absurd same (others v (by rw [text]; rfl))
    case isFalse => rfl
  rw [none_own]
  rfl

/-- The text that a launch gives a variable is not refused. -/
lemma refusal?_or (launch : Launch) (v : Variable) (raw : Option (List UInt8)) :
    Config.refusal? v (((launch.value? v).map Utf8.ofString).or raw) =
      if (launch.value? v).isSome then none else Config.refusal? v raw := by
  cases v with
  | tag =>
    simp only [value?, Option.map_map, Option.isSome_map, Function.comp_def]
    exact Config.refused?_or (fun tag _ => Setting.parseTag_tagText tag) raw
  | threshold =>
    simp only [value?, Option.map_map, Option.isSome_map, Function.comp_def]
    exact Config.refused?_or (fun size _ => Setting.parseThreshold_decimal size) raw
  | trace =>
    simp only [value?, Option.map_map, Option.isSome_map, Function.comp_def]
    refine Config.refused?_or (fun on given => ?_) raw
    obtain ⟨-, ⟨⟩⟩ := Option.ite_none_right_eq_some.mp given
    exact Setting.parseFlag_one Variable.trace.name
  | policy =>
    simp only [value?, Option.map_map, Option.isSome_map, Function.comp_def]
    exact Config.refused?_or (fun policy _ => Setting.parsePolicy_name policy) raw

/-- A launch gives a variable a text if its settings do. -/
lemma isSome_value? (made : new? library words = .ok launch) (settings : List LaunchSetting)
    (v : Variable) : ((launch.applyAll settings).value? v).isSome = gives settings v := by
  obtain ⟨tag, threshold, trace, policy⟩ := applyAll_eq made settings
  cases v with
  | tag => rw [value?, Option.isSome_map, tag, gives]
  | threshold => rw [value?, Option.isSome_map, threshold, gives]
  | trace =>
    rw [value?, Option.isSome_map, trace, gives]
    cases last? trace? settings with
    | none => rfl
    | some on => cases on <;> rfl
  | policy => rw [value?, Option.isSome_map, policy, gives]

end Launch

open Config LaunchSetting

/-- What a program that is launched with some settings reads, by what its parent reads. -/
structure Passes (settings : List LaunchSetting) (parent child : Environment) : Prop where
  tag : (ofEnvironment child).1.tag = (last? tag? settings).getD (ofEnvironment parent).1.tag
  threshold : (ofEnvironment child).1.threshold =
    (last? threshold? settings).getD (ofEnvironment parent).1.threshold
  /-- A trace that was last turned off is left to the parent. -/
  trace : (ofEnvironment child).1.trace =
    if last? trace? settings = some true then true else (ofEnvironment parent).1.trace
  policy : (ofEnvironment child).1.policy =
    (last? policy? settings).getD (ofEnvironment parent).1.policy
  /-- The errors are those of the parent, but for the variables that are given. -/
  errors : (ofEnvironment child).2 =
    (ofEnvironment parent).2.filter fun error =>
      ∀ v ∈ Variable.all, gives settings v → error.name ≠ v.name
  /-- No other variable differs but that of the preloaded libraries. -/
  others : ∀ name, name ≠ preloadVariable → (∀ v, gives settings v → name ≠ v.name) →
    child.get? name = parent.get? name

/-- The environment of a launched program passes the settings of the launch on. -/
lemma Launch.passes_overlay {library : List UInt8} {words : List (List UInt8)} {launch : Launch}
    (made : Launch.new? library words = .ok launch) (settings : List LaunchSetting)
    (parent : Environment) (inherited : Option (List UInt8)) :
    Passes settings parent
      (parent.overlay ((launch.applyAll settings).ownVariables inherited)) := by
  have gives_iff := launch.isSome_value? made settings
  obtain ⟨tag, threshold, trace, policy⟩ := Launch.applyAll_eq made settings
  generalize launch.applyAll settings = launched at gives_iff tag threshold trace policy ⊢
  have value := launched.get?_overlay_variable parent inherited
  constructor
  case tag =>
    simp only [ofEnvironment_eq, value, Launch.value?, Option.map_map, Function.comp_def, ← tag]
    exact settled_or (fun tag _ => Setting.parseTag_tagText tag) _
  case threshold =>
    simp only [ofEnvironment_eq, value, Launch.value?, Option.map_map, Function.comp_def,
      ← threshold]
    exact settled_or (fun size _ => Setting.parseThreshold_decimal size) _
  case trace =>
    simp only [ofEnvironment_eq, value, Launch.value?, Option.map_map, Function.comp_def]
    refine (settled_or (fun on given => ?_) _).trans ?_
    · obtain ⟨-, ⟨⟩⟩ := Option.ite_none_right_eq_some.mp given
      exact Setting.parseFlag_one Variable.trace.name
    · rw [trace]
      cases last? trace? settings with
      | none => rfl
      | some on => cases on <;> rfl
  case policy =>
    simp only [ofEnvironment_eq, value, Launch.value?, Option.map_map, Function.comp_def, ← policy]
    exact settled_or (fun policy _ => Setting.parsePolicy_name policy) _
  case errors =>
    simp only [ofEnvironment_eq, value, launched.refusal?_or, gives_iff]
    rw [List.filter_filterMap]
    refine List.filterMap_congr fun v mem => ?_
    cases refused : refusal? v (parent.get? v.name) with
    | none => rw [ite_self]; rfl
    | some error =>
      -- a refusal names its own variable, so it is kept unless that variable is given
      have kept : (∀ w ∈ Variable.all, gives settings w → error.name ≠ w.name) ↔
          ¬ gives settings v := by
        rw [name_of_refusal? refused]
        refine ⟨fun h given => h v mem given rfl, fun h w _ given same => h ?_⟩
        rwa [Variable.name_inj.mp same]
      simp only [Option.filter_some, decide_eq_true_eq, kept, ite_not]
  case others =>
    intro name preload others
    refine launched.get?_overlay_other parent inherited (Ne.symm preload) fun v given => ?_
    exact Ne.symm (others v (gives_iff v ▸ given))

/-- A launched program reads the last settings of each kind that the launch was given, and of the
others what its parent reads. -/
theorem passes_settings {library : List UInt8} {words : List (List UInt8)} {launch : Launch}
    (made : Launch.new? library words = .ok launch) (settings : List LaunchSetting)
    (parent : Environment) (inherited : Option (List UInt8)) :
    Passes settings parent
      (parent.overlay ((launch.applyAll settings).ownVariables inherited)) :=
  Launch.passes_overlay made settings parent inherited

/-- The settings of a launch: the first tag is replaced, and the trace turned off again. -/
def wavering : List LaunchSetting :=
  [.tag ⟨7, by decide⟩, .trace true, .tag ⟨0xBEEF, by decide⟩, .trace false]

/-- An environment whose tag and trace cannot be used. -/
def unusable : Environment :=
  ⟨[(Variable.trace.name, Utf8.ofString "maybe"), (Variable.tag.name, Utf8.ofString "0")]⟩

/-- The tag of the launch takes the place of one that cannot be used, and the trace is left to the
parent. -/
theorem passes_settings_wavering :
    ∃ launch, Launch.new? [0x2F] [[0x61]] = .ok launch ∧
      Passes wavering unusable ((launch.applyAll wavering).environment unusable) ∧
      (ofEnvironment ((launch.applyAll wavering).environment unusable)).1.tag.value = 0xBEEF ∧
      (ofEnvironment ((launch.applyAll wavering).environment unusable)).2 =
        [⟨Variable.trace.name, .invalidFlag⟩] := by
  have made : Launch.new? [0x2F] [[0x61]] = .ok ⟨[0x2F], [0x61], [], none, none, false, none⟩ := rfl
  exact ⟨_, made, passes_settings made wavering unusable (unusable.get? preloadVariable),
    by decide +kernel, by decide +kernel⟩

end PointerTagging
