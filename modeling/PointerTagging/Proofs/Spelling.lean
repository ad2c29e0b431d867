import PointerTagging.Proofs.Text.Case
import PointerTagging.Proofs.Text.Grammar
import PointerTagging.Setting

/-!
# How a setting may be spelled

White space around the text of a setting and the case of its letters make no difference: the readers
give the same value for it, or refuse it for the same cause (`Setting.spelled_alike`).
-/

namespace PointerTagging

open Text

namespace Setting

/-- Two texts that every reader of a setting takes for the same, or refuses alike. -/
structure ReadAlike (raw raw' : List UInt8) : Prop where
  tag : parseTag raw = parseTag raw'
  threshold : parseThreshold raw = parseThreshold raw'
  flag : ∀ name, parseFlag raw name = parseFlag raw' name
  policy : parsePolicy raw = parsePolicy raw'

variable {raw raw' : List UInt8}

lemma ReadAlike.symm (alike : ReadAlike raw raw') : ReadAlike raw' raw :=
  ⟨alike.tag.symm, alike.threshold.symm, fun name => (alike.flag name).symm, alike.policy.symm⟩

lemma ReadAlike.trans {raw'' : List UInt8} (alike : ReadAlike raw raw')
    (alike' : ReadAlike raw' raw'') : ReadAlike raw raw'' :=
  ⟨alike.tag.trans alike'.tag, alike.threshold.trans alike'.threshold,
    fun name => (alike.flag name).trans (alike'.flag name), alike.policy.trans alike'.policy⟩

/-- The readers go by the trimmed text only. -/
lemma ReadAlike.of_text (same : ∀ name, text name raw = text name raw') : ReadAlike raw raw' where
  tag := by rw [parseTag, parseTag, same]
  threshold := by rw [parseThreshold, parseThreshold, same]
  flag := fun name => by rw [parseFlag, parseFlag, same]
  policy := by rw [parsePolicy, parsePolicy, same]

/-- Padding is trimmed off, and what is not valid stays so. -/
lemma text_padded {before after : String} (front : ∀ c ∈ before.toList, isBlank c = true)
    (back : ∀ c ∈ after.toList, isBlank c = true) (name : String) (raw : List UInt8) :
    text name (Utf8.ofString before ++ raw ++ Utf8.ofString after) = text name raw := by
  rw [text, Utf8.ofString, Utf8.ofString, List.append_assoc, Utf8.decode_encode_append,
    Utf8.decode_append_encode, text]
  cases Utf8.decode raw with
  | none => rfl
  | some cs => exact congrArg Except.ok (trim_padded front back cs)

/-- Padding makes bytes neither valid nor invalid. -/
lemma isValid_padded (before after : String) (raw : List UInt8) :
    (Utf8.ofString before ++ raw ++ Utf8.ofString after).toByteArray.IsValidUTF8 ↔
      raw.toByteArray.IsValidUTF8 := by
  rw [← not_iff_not, ← Utf8.decode_eq_none_iff, ← Utf8.decode_eq_none_iff, List.append_assoc,
    Utf8.ofString, Utf8.ofString, Utf8.decode_encode_append, Utf8.decode_append_encode,
    Option.map_eq_none_iff, Option.map_eq_none_iff]

/-- What does not go by the case of a text reads bytes in lower case as it reads the bytes. -/
lemma bind_lowerByte {α : Type} {next : List Char → Except SettingError α}
    (same : ∀ cs, next (cs.map Char.toLower) = next cs) (name : String) (raw : List UInt8) :
    (text name (raw.map lowerByte) >>= next) = (text name raw >>= next) := by
  rw [text, Utf8.decode_map_lowerByte, text]
  cases Utf8.decode raw with
  | none => rfl
  | some cs =>
    show next (trim (cs.map Char.toLower)) = next (trim cs)
    rw [trim_map_toLower, same]

lemma spells_map_toLower (cs : List Char) (word : String) :
    spells (cs.map Char.toLower) word = spells cs word := by
  have twice : Char.toLower ∘ Char.toLower = Char.toLower :=
    funext (of_toLower (p := fun c l => l.toLower = c.toLower) (fun _ => rfl) (by decide))
  rw [spells, List.map_map, twice, spells]

/-- Bytes are read as they are in lower case. -/
lemma readAlike_map_lowerByte (raw : List UInt8) : ReadAlike (raw.map lowerByte) raw where
  tag := by
    refine bind_lowerByte (fun cs => ?_) _ raw
    dsimp only
    rw [Numeral.hexBody?_map_toLower, Numeral.read?_map_toLower (by decide)]
    cases Numeral.hexBody? cs with
    | none => rfl
    | some body => simp only [Option.map_some, Numeral.read?_map_toLower (show 16 ≤ 16 by decide)]
  threshold := by
    refine bind_lowerByte (fun cs => ?_) _ raw
    rw [Numeral.read?_map_toLower (by decide)]
  flag := by
    intro name
    refine bind_lowerByte (fun cs => ?_) name raw
    simp only [funext (spells_map_toLower cs)]
  policy := by
    refine bind_lowerByte (fun cs => ?_) _ raw
    simp only [spells_map_toLower]

/-- How a setting is spelled makes no difference to what is read, be it a value or the cause of a
refusal.

* White space before and behind any bytes does not change what any of the readers makes of them, and
  it makes them neither valid nor invalid.
* No reader goes by the case of ASCII letters. -/
theorem spelled_alike :
    (∀ (raw : List UInt8) (before after : String), (∀ c ∈ before.toList, isBlank c = true) →
      (∀ c ∈ after.toList, isBlank c = true) →
      let padded := Utf8.ofString before ++ raw ++ Utf8.ofString after
      (padded.toByteArray.IsValidUTF8 ↔ raw.toByteArray.IsValidUTF8) ∧ ReadAlike padded raw) ∧
    ∀ raw raw' : List UInt8, List.Forall₂ SameLetter raw raw' → ReadAlike raw raw' := by
  constructor
  · intro raw before after front back
    exact ⟨isValid_padded before after raw, .of_text fun name => text_padded front back name raw⟩
  · intro raw raw' same
    have lower := readAlike_map_lowerByte raw
    rw [map_lowerByte_eq same] at lower
    exact lower.symm.trans (readAlike_map_lowerByte raw')

/-- The first two bytes of an em space stay invalid between two blanks, and the prefix and the digits
of a tag may be in any case. -/
theorem spelled_alike_cut_short :
    let padded := Utf8.ofString "\u2003" ++ [0xE2, 0x80] ++ Utf8.ofString "\u00A0"
    let small := Utf8.ofString "0xbeEf"
    let large := Utf8.ofString "0XBEef"
    (∀ c ∈ "\u2003".toList, isBlank c = true) ∧ (∀ c ∈ "\u00A0".toList, isBlank c = true) ∧
      ReadAlike padded [0xE2, 0x80] ∧ parseTag padded = .error ⟨"TAGSHIM_TAG", .notUtf8⟩ ∧
      List.Forall₂ SameLetter small large ∧ ReadAlike small large ∧
      parseTag large = .ok ⟨0xBEEF, by decide⟩ := by
  intro padded small large
  have front : ∀ c ∈ "\u2003".toList, isBlank c = true := List.forall_mem_singleton.2 rfl
  have back : ∀ c ∈ "\u00A0".toList, isBlank c = true := List.forall_mem_singleton.2 rfl
  have same : List.Forall₂ SameLetter small large :=
    .cons (.refl 0x30) <| .cons (.raised (k := 23) (by decide)) <|
      .cons (.raised (k := 1) (by decide)) <| .cons (.raised (k := 4) (by decide)) <|
      .cons (.lowered (k := 4) (by decide)) <| .cons (.refl 0x66) .nil
  obtain ⟨padding, letters⟩ := spelled_alike
  have alike : ReadAlike padded [0xE2, 0x80] := (padding _ _ _ front back).2
  have alike' : ReadAlike small large := letters _ _ same
  exact ⟨front, back, alike, alike.tag.trans rfl, same, alike', alike'.tag.symm.trans rfl⟩

end Setting

end PointerTagging
