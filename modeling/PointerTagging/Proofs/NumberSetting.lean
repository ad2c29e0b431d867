import PointerTagging.Proofs.Presentation
import PointerTagging.Proofs.Text.Grammar
import PointerTagging.Proofs.Text.Utf8
import PointerTagging.Setting

/-!
# Which settings are numbers

A tag and a threshold are read from exactly the texts that the grammar of numbers gives them, for
bytes of any kind, and every other text is refused with its cause (`Setting.numbers_read`).
-/

namespace PointerTagging

open Text

/-- A tag is made of every number but zero. -/
lemma Tag.ofValue?_eq_some_iff {n : UInt16} {tag : Tag} :
    Tag.ofValue? n = some tag ↔ tag.value = n := by
  obtain ⟨value, nonzero⟩ := tag
  unfold ofValue?
  split
  case isTrue zero => exact iff_of_false nofun fun same => nonzero (same.trans zero)
  case isFalse => simp [eq_comm]

/-- No tag is made of zero. -/
lemma Tag.ofValue?_eq_none_iff {n : UInt16} : Tag.ofValue? n = none ↔ n = 0 := by
  unfold ofValue?
  split
  case isTrue zero => exact iff_of_true rfl zero
  case isFalse nonzero => exact iff_of_false nofun nonzero

namespace Setting

variable {raw : List UInt8} {cs : List Char}

/-- The text of a setting is refused if its bytes are not valid. -/
lemma text_of_invalid (name : String) (invalid : ¬raw.toByteArray.IsValidUTF8) :
    text name raw = .error ⟨name, .notUtf8⟩ := by
  rw [text, Utf8.decode_eq_none_iff.2 invalid]

/-- The text of a setting is trimmed. -/
lemma text_encode (name : String) (cs : List Char) : text name (Utf8.encode cs) = .ok (trim cs) := by
  rw [text, Utf8.decode_encode]

/-- A tag is read by way of the number that its text is, if that is below 2^16. -/
lemma exists_parseTag_eq (cs : List Char) : ∃ value? : Option Nat,
    (∀ value, value? = some value ↔ Numeral.Number id (trim cs) value ∧ value < UInt16.size) ∧
    parseTag (Utf8.encode cs) = match value? with
      | none => .error ⟨Variable.tag.name, .invalidTag⟩
      | some value => match Tag.ofValue? value.toUInt16 with
        | none => .error ⟨Variable.tag.name, .zeroTag⟩
        | some tag => .ok tag := by
  refine ⟨_, fun value => Numeral.read_number_iff, ?_⟩
  rw [parseTag, text_encode]
  rfl

/-- A tag is read from a number below 2^16, unless that is zero. -/
lemma parseTag_cases (cs : List Char) :
    (∃ tag, parseTag (Utf8.encode cs) = .ok tag ∧
      Numeral.Number id (trim cs) tag.value.toNat) ∨
    (parseTag (Utf8.encode cs) = .error ⟨Variable.tag.name, .zeroTag⟩ ∧
      Numeral.Number id (trim cs) 0) ∨
    parseTag (Utf8.encode cs) = .error ⟨Variable.tag.name, .invalidTag⟩ ∧
      ∀ value < UInt16.size, ¬Numeral.Number id (trim cs) value := by
  obtain ⟨value?, number, eq⟩ := exists_parseTag_eq cs
  rw [eq]
  cases value? with
  | none =>
    refine .inr (.inr ⟨rfl, fun value below spelled => ?_⟩)
    cases (number value).2 ⟨spelled, below⟩
  | some value =>
    obtain ⟨spelled, below⟩ := (number value).1 rfl
    have toNat : value.toUInt16.toNat = value := UInt16.toNat_ofNat_of_lt' below
    cases found : Tag.ofValue? value.toUInt16 with
    | none =>
      have zero : value = 0 := by rw [← toNat, Tag.ofValue?_eq_none_iff.1 found]; rfl
      exact .inr (.inl ⟨by simp only [found], zero ▸ spelled⟩)
    | some tag =>
      have same : tag.value.toNat = value := by rw [Tag.ofValue?_eq_some_iff.1 found, toNat]
      exact .inl ⟨tag, by simp only [found], same.symm ▸ spelled⟩

/-- A threshold is read from a numeral below 2^64. -/
lemma parseThreshold_cases (cs : List Char) :
    (∃ size, parseThreshold (Utf8.encode cs) = .ok size ∧
      Numeral.Spells 10 (trim cs) size.toNat) ∨
    parseThreshold (Utf8.encode cs) = .error ⟨Variable.threshold.name, .invalidThreshold⟩ ∧
      ∀ value < UInt64.size, ¬Numeral.Spells 10 (trim cs) value := by
  have number (value : Nat) : Numeral.read? 10 UInt64.size (trim cs) = some value ↔
      Numeral.Spells 10 (trim cs) value ∧ value < UInt64.size :=
    Numeral.read?_eq_some_iff (by decide)
  rw [parseThreshold, text_encode]
  simp only [bind, Except.bind]
  cases read : Numeral.read? 10 UInt64.size (trim cs) with
  | none =>
    refine .inr ⟨rfl, fun value below spelled => ?_⟩
    cases read.symm.trans ((number value).2 ⟨spelled, below⟩)
  | some value =>
    obtain ⟨spelled, below⟩ := (number value).1 read
    have toNat : value.toUInt64.toNat = value := UInt64.toNat_ofNat_of_lt' below
    exact .inl ⟨_, rfl, toNat.symm ▸ spelled⟩

/-- A tag is read from a number below 2^16 that is not zero. -/
lemma parseTag_eq_ok_iff {tag : Tag} : parseTag (Utf8.encode cs) = .ok tag ↔
    ∃ value, Numeral.Number id (trim cs) value ∧ 1 ≤ value ∧ value ≤ 65535 ∧
      tag.mask.toNat = value * 2 ^ 48 := by
  constructor
  · intro h
    obtain ⟨other, eq, spelled⟩ | ⟨eq, -⟩ | ⟨eq, -⟩ := parseTag_cases cs
    · cases eq.symm.trans h
      have small := tag.value.toNat_lt
      have nonzero := tag.toNat_value_ne_zero
      exact ⟨_, spelled, by omega, by omega, tag.toNat_mask⟩
    · cases eq.symm.trans h
    · cases eq.symm.trans h
  · rintro ⟨value, spelled, least, most, mask⟩
    obtain ⟨other, eq, spelled'⟩ | ⟨-, zero⟩ | ⟨-, none⟩ := parseTag_cases cs
    · have toNat : tag.value.toNat = other.value.toNat := by
        rw [tag.toNat_mask, spelled.unique spelled'] at mask
        omega
      obtain ⟨value, nonzero⟩ := tag
      obtain ⟨value', nonzero'⟩ := other
      obtain rfl : value = value' := UInt16.toNat_inj.1 toNat
      exact eq
    · cases spelled.unique zero
      omega
    · exact absurd spelled (none value (Nat.lt_succ_of_le most))

/-- A tag is refused as zero exactly if its text is a number that is zero. -/
lemma parseTag_eq_zeroTag_iff :
    parseTag (Utf8.encode cs) = .error ⟨Variable.tag.name, .zeroTag⟩ ↔
      Numeral.Number id (trim cs) 0 := by
  obtain ⟨tag, eq, spelled⟩ | ⟨eq, zero⟩ | ⟨eq, none⟩ := parseTag_cases cs
  · rw [eq]
    exact iff_of_false nofun fun zero => tag.toNat_value_ne_zero (spelled.unique zero)
  · exact iff_of_true eq zero
  · rw [eq]
    exact iff_of_false (by decide) (none 0 (by decide))

/-- A tag is refused as invalid exactly if its text is no number below 2^16. -/
lemma parseTag_eq_invalidTag_iff :
    parseTag (Utf8.encode cs) = .error ⟨Variable.tag.name, .invalidTag⟩ ↔
      ¬∃ value ≤ 65535, Numeral.Number id (trim cs) value := by
  obtain ⟨tag, eq, spelled⟩ | ⟨eq, zero⟩ | ⟨eq, none⟩ := parseTag_cases cs
  · rw [eq]
    exact iff_of_false nofun
      (not_not_intro ⟨_, Nat.le_of_lt_succ tag.value.toNat_lt, spelled⟩)
  · rw [eq]
    exact iff_of_false (by decide) (not_not_intro ⟨0, Nat.zero_le _, zero⟩)
  · refine iff_of_true eq ?_
    rintro ⟨value, most, spelled⟩
    exact none value (Nat.lt_succ_of_le most) spelled

/-- A threshold is read from a numeral below 2^64. -/
lemma parseThreshold_eq_ok_iff {size : UInt64} : parseThreshold (Utf8.encode cs) = .ok size ↔
    Numeral.Spells 10 (trim cs) size.toNat := by
  obtain ⟨other, eq, spelled⟩ | ⟨eq, none⟩ := parseThreshold_cases cs
  · rw [eq]
    constructor
    · rintro ⟨⟩
      exact spelled
    · intro spelled'
      rw [UInt64.toNat_inj.1 (spelled.unique (by decide) spelled')]
  · rw [eq]
    exact iff_of_false nofun (none _ size.toNat_lt)

/-- A threshold is refused as invalid exactly if its text is no numeral below 2^64. -/
lemma parseThreshold_eq_invalidThreshold_iff :
    parseThreshold (Utf8.encode cs) = .error ⟨Variable.threshold.name, .invalidThreshold⟩ ↔
      ¬∃ value < 2 ^ 64, Numeral.Spells 10 (trim cs) value := by
  obtain ⟨size, eq, spelled⟩ | ⟨eq, none⟩ := parseThreshold_cases cs
  · rw [eq]
    exact iff_of_false nofun (not_not_intro ⟨_, size.toNat_lt, spelled⟩)
  · refine iff_of_true eq ?_
    rintro ⟨value, below, spelled⟩
    exact none value below spelled

/-- A setting whose bytes are valid is not refused for them. -/
lemma notUtf8_iff {α : Type} {parse : List UInt8 → Except SettingError α} {name : String}
    (invalid : ∀ raw, ¬raw.toByteArray.IsValidUTF8 → parse raw = .error ⟨name, .notUtf8⟩)
    (valid : ∀ cs, parse (Utf8.encode cs) ≠ .error ⟨name, .notUtf8⟩) (raw : List UInt8) :
    parse raw = .error ⟨name, .notUtf8⟩ ↔ ¬raw.toByteArray.IsValidUTF8 := by
  refine ⟨fun refused isValid => ?_, invalid raw⟩
  cases read : Utf8.decode raw with
  | none => exact Utf8.decode_eq_none_iff.1 read isValid
  | some cs => exact valid cs (Utf8.decode_eq_some_iff.1 read ▸ refused)

/-- Settings that are numbers are read from exactly the texts that the grammar of numbers gives them.

A tag or a threshold is refused for its bytes exactly if those are not valid. Of the bytes of a text,
trimmed of the white space around it,

* a tag is read exactly if the text is `0x` or `0X` and a hexadecimal numeral, or a decimal one, of a
  value from 1 to 65535, and that is the tag; it is refused as zero exactly if the value is zero, and
  as invalid exactly if the text is no such numeral or its value is larger;
* a threshold is read exactly if the text is a decimal numeral of a value below 2^64, and that is the
  threshold; every other text is refused as invalid.

A numeral is one or more digits behind an optional `+`. -/
theorem numbers_read :
    (∀ raw, parseTag raw = .error ⟨Variable.tag.name, .notUtf8⟩ ↔
      ¬raw.toByteArray.IsValidUTF8) ∧
    (∀ raw, parseThreshold raw = .error ⟨Variable.threshold.name, .notUtf8⟩ ↔
      ¬raw.toByteArray.IsValidUTF8) ∧
    ∀ cs, (Utf8.encode cs).toByteArray = cs.utf8Encode ∧ Trimmed cs (trim cs) ∧
      (∀ tag, parseTag (Utf8.encode cs) = .ok tag ↔
        ∃ value, Numeral.Number id (trim cs) value ∧ 1 ≤ value ∧ value ≤ 65535 ∧
          tag.mask.toNat = value * 2 ^ 48) ∧
      (parseTag (Utf8.encode cs) = .error ⟨Variable.tag.name, .zeroTag⟩ ↔
        Numeral.Number id (trim cs) 0) ∧
      (parseTag (Utf8.encode cs) = .error ⟨Variable.tag.name, .invalidTag⟩ ↔
        ¬∃ value ≤ 65535, Numeral.Number id (trim cs) value) ∧
      (∀ size, parseThreshold (Utf8.encode cs) = .ok size ↔
        Numeral.Spells 10 (trim cs) size.toNat) ∧
      (parseThreshold (Utf8.encode cs) = .error ⟨Variable.threshold.name, .invalidThreshold⟩ ↔
        ¬∃ value < 2 ^ 64, Numeral.Spells 10 (trim cs) value) := by
  refine ⟨notUtf8_iff (fun raw invalid => ?_) fun cs refused => ?_,
    notUtf8_iff (fun raw invalid => ?_) fun cs refused => ?_,
    fun cs => ⟨Utf8.toByteArray_encode cs, trimmed_trim cs, fun _ => parseTag_eq_ok_iff,
      parseTag_eq_zeroTag_iff, parseTag_eq_invalidTag_iff, fun _ => parseThreshold_eq_ok_iff,
      parseThreshold_eq_invalidThreshold_iff⟩⟩
  · rw [parseTag, text_of_invalid _ invalid]
    rfl
  · obtain ⟨_, eq, -⟩ | ⟨eq, -⟩ | ⟨eq, -⟩ := parseTag_cases cs <;> cases eq.symm.trans refused
  · rw [parseThreshold, text_of_invalid _ invalid]
    rfl
  · obtain ⟨_, eq, -⟩ | ⟨eq, -⟩ := parseThreshold_cases cs <;> cases eq.symm.trans refused

/-- The sign may stand behind the prefix, and zeros in front do not count. -/
example : parseTag (Utf8.ofString " 0X+000beeF\n") = .ok ⟨0xBEEF, by decide⟩ := by rfl

end Setting

end PointerTagging
