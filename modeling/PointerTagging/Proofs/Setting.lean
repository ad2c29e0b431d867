import PointerTagging.Proofs.Text.Numeral
import PointerTagging.Proofs.Text.Utf8
import PointerTagging.Report.Address
import PointerTagging.Setting

/-!
# Reading printed settings

Every tag, threshold, switch and policy is read back from the text that it is printed as. The text
of a setting is the printed one, since that is UTF-8 and has no white space around it. A text that
cannot be used is refused under the name of its variable.
-/

namespace PointerTagging

open Text

namespace Setting

/-- The text of a setting that was printed without white space. -/
lemma text_ofString (name : String) {s : String} (h : ∀ c ∈ s.toList, isBlank c = false) :
    text name (Utf8.ofString s) = .ok s.toList := by
  simp only [text, Utf8.ofString, Utf8.decode_encode, trim_eq_self h]

/-- The text of a tag is behind `0x` four digits. -/
lemma toList_tagText (bits : UInt64) :
    (tagText bits).toList = '0' :: 'x' :: Numeral.padded 16 4 bits.toNat := by
  simp [tagText, Numeral.hexPadded]

/-- Every tag is read back from its text. -/
theorem parseTag_tagText (tag : Tag) :
    parseTag (Utf8.ofString (tagText tag.value.toUInt64)) = .ok tag := by
  have small : tag.value.toNat < UInt16.size := tag.value.toNat_lt
  have read : Numeral.read? 16 UInt16.size (Numeral.padded 16 4 tag.value.toUInt64.toNat) =
      some tag.value.toNat := by
    refine Numeral.read?_eq (by decide) ?_ (fun c => Numeral.isDigit_of_mem_padded (by decide)) ?_
      small
    · exact List.ne_nil_of_length_eq_add_one (Numeral.length_padded 16 4 _)
    · rw [Numeral.valueFrom_padded (by decide) (by decide), UInt16.toNat_toUInt64,
        Nat.mod_eq_of_lt (show _ < 16 ^ 4 from small)]
  have tag_eq : Tag.ofValue? tag.value.toNat.toUInt16 = some tag := by
    rw [show tag.value.toNat.toUInt16 = tag.value from UInt16.ofNat_toNat, Tag.ofValue?,
      dif_neg tag.nonzero]
  rw [parseTag, text_ofString, toList_tagText]
  case h =>
    rw [toList_tagText]
    intro c mem
    obtain rfl | mem := List.mem_cons.mp mem
    · rfl
    obtain rfl | mem := List.mem_cons.mp mem
    · rfl
    exact Numeral.isBlank_of_isDigit (by decide) (Numeral.isDigit_of_mem_padded (by decide) mem)
  simp only [bind, Except.bind, Numeral.hexBody?, read, tag_eq]

/-- Every threshold is read back from its digits. -/
theorem parseThreshold_decimal (size : UInt64) :
    parseThreshold (Utf8.ofString (Numeral.decimal size.toNat)) = .ok size := by
  have digits (c : Char) : c ∈ Numeral.digits 10 size.toNat → Numeral.isDigit 10 c = true :=
    Numeral.isDigit_of_mem_digits (by decide)
  have read : Numeral.read? 10 UInt64.size (Numeral.digits 10 size.toNat) = some size.toNat :=
    Numeral.read?_eq (by decide) (Numeral.digits_ne_nil _) digits
      (Numeral.valueFrom_digits (by decide) (by decide) _) size.toNat_lt
  rw [parseThreshold, text_ofString, Numeral.decimal, String.toList_ofList]
  case h =>
    rw [Numeral.decimal, String.toList_ofList]
    exact fun c mem => Numeral.isBlank_of_isDigit (by decide) (digits c mem)
  simp only [bind, Except.bind, read]
  exact congrArg Except.ok UInt64.ofNat_toNat

/-- A switch is turned on by its text. -/
theorem parseFlag_one (name : String) : parseFlag (Utf8.ofString "1") name = .ok true := by
  have unblank (c : Char) (mem : c ∈ "1".toList) : isBlank c = false := by
    obtain rfl : c = '1' := List.mem_singleton.mp mem
    rfl
  rw [parseFlag, text_ofString name unblank]
  rfl

/-- Every policy is read back from its name. -/
theorem parsePolicy_name (policy : ReallocPolicy) :
    parsePolicy (Utf8.ofString policy.name) = .ok policy := by
  cases policy <;> rfl

/-- The text of a setting is refused under its name. -/
lemma text_error {name : String} {raw : List UInt8} {error : SettingError}
    (h : text name raw = .error error) : error.name = name := by
  unfold text at h
  split at h
  · cases h
  · cases h
    rfl

/-- A setting is refused under its name, if what reads its text does so. -/
lemma bind_error {α : Type} {name : String} {raw : List UInt8}
    {next : List Char → Except SettingError α} {error : SettingError}
    (h : text name raw >>= next = .error error)
    (later : ∀ cs, next cs = .error error → error.name = name) : error.name = name := by
  cases read : text name raw with
  | error refused =>
    rw [read] at h
    cases h
    exact text_error read
  | ok cs =>
    rw [read] at h
    exact later cs h

/-- A tag is refused under its variable. -/
lemma parseTag_error {raw : List UInt8} {error : SettingError} (h : parseTag raw = .error error) :
    error.name = Variable.tag.name := by
  refine bind_error h fun cs refused => ?_
  dsimp only at refused
  split at refused
  · cases refused
    rfl
  · split at refused <;> cases refused
    rfl

/-- A threshold is refused under its variable. -/
lemma parseThreshold_error {raw : List UInt8} {error : SettingError}
    (h : parseThreshold raw = .error error) : error.name = Variable.threshold.name := by
  refine bind_error h fun cs refused => ?_
  split at refused <;> cases refused
  rfl

/-- A switch is refused under the name that it is read under. -/
lemma parseFlag_error {raw : List UInt8} {name : String} {error : SettingError}
    (h : parseFlag raw name = .error error) : error.name = name := by
  refine bind_error h fun cs refused => ?_
  split at refused
  · cases refused
  · split at refused <;> cases refused
    rfl

/-- A policy is refused under its variable. -/
lemma parsePolicy_error {raw : List UInt8} {error : SettingError}
    (h : parsePolicy raw = .error error) : error.name = Variable.policy.name := by
  refine bind_error h fun cs refused => ?_
  split at refused
  · cases refused
  · split at refused <;> cases refused
    rfl

end Setting

end PointerTagging
