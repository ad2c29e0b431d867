import PointerTagging.Proofs.AddressText
import PointerTagging.Proofs.Environment
import PointerTagging.Proofs.Presentation
import PointerTagging.Report.Config

/-!
# Settings one by one, and their report

Every variable settles its own field of the configuration and is reported on its own, so that a
change of one leaves the others as they are, and the report on an environment shows the configuration
that a process under it uses (`Environment.settles_and_shows`).
-/

namespace PointerTagging

open Text

namespace Config

/-- What the variables settle: every field from its own variable, and for every variable that is
refused an error, which names it. -/
structure Settles (raw : Variable → Option (List UInt8)) (config : Config)
    (errors : List SettingError) : Prop where
  tag : config.tag = settled Setting.parseTag ⟨1, by decide⟩ (raw .tag)
  threshold : config.threshold = settled Setting.parseThreshold 11 (raw .threshold)
  trace : config.trace = settled (Setting.parseFlag · "TAGSHIM_TRACE") false (raw .trace)
  policy : config.policy = settled Setting.parsePolicy .inherit (raw .policy)
  causes : errors = Variable.all.filterMap fun v => refusal? v (raw v)
  names : errors.map SettingError.name =
    (Variable.all.filter fun v => (refusal? v (raw v)).isSome).map Variable.name

/-- What two sources settle that differ in one variable at most. -/
structure AgreeApart (v : Variable) (config config' : Config)
    (errors errors' : List SettingError) : Prop where
  tag : v ≠ .tag → config.tag = config'.tag
  threshold : v ≠ .threshold → config.threshold = config'.threshold
  trace : v ≠ .trace → config.trace = config'.trace
  policy : v ≠ .policy → config.policy = config'.policy
  errors : (errors.filter fun error => error.name ≠ v.name) =
    errors'.filter fun error => error.name ≠ v.name

variable {raw raw' : Variable → Option (List UInt8)}

/-- The errors name the variables that are refused. -/
lemma names_filterMap (raw : Variable → Option (List UInt8)) (vs : List Variable) :
    (vs.filterMap fun v => refusal? v (raw v)).map SettingError.name =
      (vs.filter fun v => (refusal? v (raw v)).isSome).map Variable.name := by
  induction vs with
  | nil => rfl
  | cons v vs ih =>
    rw [List.filterMap_cons, List.filter_cons]
    cases refused : refusal? v (raw v) with
    | none => exact ih
    | some error =>
      have named : error.name :: _ = v.name :: _ :=
        congrArg₂ List.cons (name_of_refusal? refused) ih
      exact named

/-- The errors of the other variables are the same if their texts are. -/
lemma filter_filterMap_eq {v : Variable} (same : ∀ w, w ≠ v → raw' w = raw w) (vs : List Variable) :
    ((vs.filterMap fun w => refusal? w (raw w)).filter fun error => error.name ≠ v.name) =
      (vs.filterMap fun w => refusal? w (raw' w)).filter fun error => error.name ≠ v.name := by
  rw [List.filter_filterMap, List.filter_filterMap]
  refine List.filterMap_congr fun w _ => ?_
  by_cases other : w = v
  case neg => rw [same w other]
  case pos =>
    -- an error of the variable itself is left out on both sides
    have out (text : Option (List UInt8)) :
        (refusal? w text).filter (fun error => error.name ≠ v.name) = none := by
      cases refused : refusal? w text with
      | none => rfl
      | some error => simp [name_of_refusal? refused, other]
    rw [out, out]

lemma settles_consult (raw : Variable → Option (List UInt8)) :
    Settles raw (consult raw).1 (consult raw).2.errors := by
  rw [consult_eq]
  exact ⟨rfl, rfl, rfl, rfl, rfl, names_filterMap raw Variable.all⟩

lemma Settles.agreeApart {v : Variable} {config config' : Config}
    {errors errors' : List SettingError} (settles : Settles raw config errors)
    (settles' : Settles raw' config' errors') (same : ∀ w, w ≠ v → raw' w = raw w) :
    AgreeApart v config config' errors errors' where
  tag := fun other => by rw [settles.tag, settles'.tag, same _ other.symm]
  threshold := fun other => by rw [settles.threshold, settles'.threshold, same _ other.symm]
  trace := fun other => by rw [settles.trace, settles'.trace, same _ other.symm]
  policy := fun other => by rw [settles.policy, settles'.policy, same _ other.symm]
  errors := by rw [settles.causes, settles'.causes, filter_filterMap_eq same]

end Config

namespace ConfigReport

/-- The report shows the configuration: its texts are read as the fields, and its warnings are the
texts of the errors. -/
structure Shows (report : ConfigReport) (config : Config) (errors : List SettingError) : Prop where
  tag : Setting.parseTag (Utf8.ofString report.tag) = .ok config.tag
  mask : parseAddress report.mask = .ok config.tag.mask
  threshold : report.threshold = config.threshold
  trace : report.trace = config.trace
  policy : Setting.parsePolicy (Utf8.ofString report.policy) = .ok config.policy
  warnings : report.warnings = errors.map SettingError.message

lemma shows_ofConfig (config : Config) (errors : List SettingError) :
    (ofConfig config (errors.map SettingError.message)).Shows config errors where
  tag := Setting.parseTag_tagText config.tag
  mask := parseAddress_addressText config.tag.mask
  threshold := rfl
  trace := rfl
  policy := Setting.parsePolicy_name config.policy
  warnings := rfl

end ConfigReport

open Config in
/-- What an environment configures, and what is reported of it.

* The four variables are asked for once each, in a fixed order.
* Every field is what the text of its own variable spells, or its default if the variable is not set
  or its text is refused. Every variable that is set and refused is reported once, under its name,
  in the order in which the variables are asked for.
* A change of one variable changes its own field and its own error at most.
* The report on the environment shows the same configuration: its texts are read back as the tag, the
  mask, which is the tag in the upper sixteen bits, and the policy, and its warnings are the texts of
  the errors. -/
theorem Environment.settles_and_shows (env : Environment) :
    let raw (v : Variable) := env.get? v.name
    let config := (consult raw).1
    let consultation := (consult raw).2
    consultation.asked.map Variable.name =
      ["TAGSHIM_TAG", "TAGSHIM_SMALL_THRESHOLD", "TAGSHIM_TRACE", "TAGSHIM_REALLOC_POLICY"] ∧
    Settles raw config consultation.errors ∧
    (∀ (env' : Environment) (v : Variable), (∀ w, w ≠ v → env'.get? w.name = raw w) →
      let settled' := consult fun w => env'.get? w.name
      AgreeApart v config settled'.1 consultation.errors settled'.2.errors) ∧
    (ConfigReport.ofEnvironment env).Shows config consultation.errors ∧
    config.tag.mask.toNat = config.tag.value.toNat * 2 ^ 48 := by
  intro raw config consultation
  have settles : Settles raw config consultation.errors := settles_consult raw
  refine ⟨?_, settles, fun env' v same => ?_, ConfigReport.shows_ofConfig config _,
    config.tag.toNat_mask⟩
  · have asked : consultation.asked = Variable.all := congrArg (·.2.asked) (consult_eq raw)
    rw [asked]
    rfl
  · exact settles.agreeApart (settles_consult _) same

open Config in
/-- A tag that becomes usable is no longer reported, and the trace and its error stay. -/
theorem Environment.settles_and_shows_mended :
    let env : Environment :=
      ⟨[("TAGSHIM_TAG", Utf8.ofString "0"), ("TAGSHIM_TRACE", Utf8.ofString "maybe")]⟩
    let env' : Environment :=
      ⟨[("TAGSHIM_TAG", Utf8.ofString "0xBEEF"), ("TAGSHIM_TRACE", Utf8.ofString "maybe")]⟩
    let settled := consult fun w => env.get? w.name
    let settled' := consult fun w => env'.get? w.name
    (∀ w : Variable, w ≠ .tag → env'.get? w.name = env.get? w.name) ∧ Variable.tag ≠ .trace ∧
      AgreeApart .tag settled.1 settled'.1 settled.2.errors settled'.2.errors ∧
      settled.2.errors = [⟨"TAGSHIM_TAG", .zeroTag⟩, ⟨"TAGSHIM_TRACE", .invalidFlag⟩] ∧
      settled'.2.errors = [⟨"TAGSHIM_TRACE", .invalidFlag⟩] ∧
      settled.1.trace = settled'.1.trace := by
  intro env env' settled settled'
  have same : ∀ w : Variable, w ≠ .tag → env'.get? w.name = env.get? w.name := by
    intro w other
    cases w with
    | tag => exact absurd rfl other
    | threshold | trace | policy => rfl
  obtain ⟨-, -, apart, -⟩ := env.settles_and_shows
  have agree := apart env' .tag same
  exact ⟨same, by decide, agree, by decide +kernel, by decide +kernel, agree.trace (by decide)⟩

end PointerTagging
