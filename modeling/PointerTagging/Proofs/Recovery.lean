import Mathlib.Logic.Function.Defs
import PointerTagging.Proofs.Presentation

/-!
# Which addresses are recovered

An address is recovered from its presentation, and its class is read off it, exactly where the tag
bits leave room for the class (`Protection.Fits`): a tagged address needs them clear, and a plain one
needs them to differ from the tag, in which it would be taken for a tagged one. Where both classes
have room nothing is presented like anything else (`Protection.recovered`).
-/

namespace PointerTagging

/-- The number that the tag bits of an address spell. -/
def RealAddr.tagBits (addr : RealAddr) : Nat := addr.value.toNat / 2 ^ 48

/-- An address that is not null and whose tag bits are clear. -/
abbrev RealAddr.Clear := { addr : RealAddr // addr ≠ .null ∧ addr.tagBits = 0 }

/-- The tag bits of an address have room for the class. -/
def Protection.Fits (tag : Tag) (addr : RealAddr) : Protection → Prop
  | .tagged => addr.tagBits = 0
  | .plain => addr.tagBits ≠ tag.value.toNat

/-- Restricting an address to the tag bits clears the rest. -/
lemma toNat_and_highBits (a : UInt64) : (a &&& highBits).toNat = a.toNat / 2 ^ 48 * 2 ^ 48 := by
  have mask : highBits.toNat = (2 ^ 16 - 1) * 2 ^ 48 := by decide
  rw [UInt64.toNat_and, mask]
  apply Nat.eq_of_testBit_eq
  intro i
  rw [Nat.testBit_and, Nat.testBit_mul_two_pow, Nat.testBit_two_pow_sub_one,
    Nat.testBit_mul_two_pow, Nat.testBit_div_two_pow]
  by_cases high : 48 ≤ i
  case neg => simp [high]
  case pos =>
    rw [Nat.sub_add_cancel high]
    by_cases inside : i < 64
    · simp [high, show i - 48 < 16 by omega]
    · have zero : a.toNat.testBit i = false :=
        Nat.testBit_lt_two_pow (Nat.lt_of_lt_of_le a.toNat_lt
          (Nat.pow_le_pow_right (by decide) (Nat.le_of_not_lt inside)))
      simp [zero]

/-- An address matches a tag if its tag bits spell it. -/
lemma matchesTag_iff {a : UInt64} {tag : Tag} :
    matchesTag a tag = true ↔ a.toNat / 2 ^ 48 = tag.value.toNat := by
  rw [matchesTag, beq_iff_eq, ← UInt64.toNat_inj, toNat_and_highBits, tag.toNat_mask]
  omega

namespace RealAddr

variable {addr : RealAddr} {tag : Tag}

/-- The tag bits are clear in an address that is not encoded. -/
lemma tagBits_eq_zero : addr.tagBits = 0 ↔ addr.value &&& highBits = 0 := by
  rw [← UInt64.toNat_inj, toNat_and_highBits, tagBits, UInt64.toNat_zero]
  omega

/-- A tag shows in a tagged address if the tag bits were clear. -/
lemma isTagged_tagged (nonnull : addr ≠ .null) :
    (addr.tagged tag).isTagged tag = true ↔ addr.tagBits = 0 := by
  have nonnull : addr.isNull = false := by simpa [← isNull_iff] using nonnull
  rw [tagBits_eq_zero]
  simp only [tagged, nonnull, PresentedAddr.isTagged, matchesTag, xor_and, tag.mask_and_highBits,
    beq_iff_eq, Bool.false_eq_true, if_false]
  constructor
  · intro same
    have twice := congrArg (· ^^^ tag.mask) same
    simpa [UInt64.xor_assoc] using twice
  · intro clear
    rw [clear, UInt64.zero_xor]

/-- A plain address is taken for a tagged one if its tag bits spell the tag. -/
lemma isTagged_plain : addr.plain.isTagged tag = true ↔ addr.tagBits = tag.value.toNat :=
  matchesTag_iff

/-- Removing a tag that the address did not have changes the address. -/
lemma untag_ne (a : UInt64) : (⟨a⟩ : PresentedAddr).untag tag ≠ ⟨a⟩ := by
  intro same
  have same : a ^^^ tag.mask = a := congrArg RealAddr.value same
  have mask := congrArg (a ^^^ ·) same
  simp only [← UInt64.xor_assoc, UInt64.xor_self, UInt64.zero_xor] at mask
  exact tag.mask_ne_zero mask

/-- Untagging undoes tagging, but for null, which is not tagged. -/
lemma untag_tagged : (addr.tagged tag).untag tag = addr ↔ addr ≠ .null := by
  cases null : addr.isNull with
  | true =>
    obtain rfl := isNull_iff.1 null
    exact iff_of_false (untag_ne 0) fun nonnull => nonnull rfl
  | false =>
    have nonnull : addr ≠ .null := by simpa [← isNull_iff] using null
    simpa [tagged, null, nonnull] using PresentedAddr.untag_xor addr.value tag

end RealAddr

namespace Protection

variable {addr : RealAddr} {tag : Tag} {protection : Protection}

/-- The class shows in the presentation of an address exactly if the address has room for it. -/
lemma isTagged_present_iff (nonnull : addr ≠ .null) :
    (protection.present addr tag).isTagged tag = (protection == tagged) ↔
      protection.Fits tag addr := by
  cases protection with
  | tagged => exact RealAddr.isTagged_tagged nonnull
  | plain => exact Bool.eq_false_iff.trans (not_congr RealAddr.isTagged_plain)

/-- An address is recovered from a presentation that shows its class, and from no other. -/
lemma resolve_present_iff :
    (protection.present addr tag).resolve tag = addr ↔ addr = .null ∨ protection.Fits tag addr := by
  by_cases null : addr = .null
  case pos => simp [null]
  case neg =>
    rw [or_iff_right null, ← isTagged_present_iff null, PresentedAddr.resolve]
    cases shown : (protection.present addr tag).isTagged tag with
    | true =>
      cases protection with
      | tagged => exact iff_of_true (RealAddr.untag_tagged.2 null) rfl
      | plain => exact iff_of_false (RealAddr.untag_ne addr.value) (by decide)
    | false =>
      cases protection with
      | tagged =>
        -- the tag is left on the address
        have nonnull : addr.isNull = false := by simpa [← RealAddr.isNull_iff] using null
        have other : (⟨addr.value ^^^ tag.mask⟩ : RealAddr) ≠ addr := RealAddr.untag_ne addr.value
        simpa [present, RealAddr.tagged, nonnull] using other
      | plain => simp [present, RealAddr.plain]

/-- The class of what is not null is read off its presentation exactly if the address has room for
it. -/
lemma classifyIncoming_present_iff (config : Config) (nonnull : addr ≠ .null) :
    config.classifyIncoming (protection.present addr config.tag) = protection ↔
      protection.Fits config.tag addr := by
  rw [← isTagged_present_iff nonnull, Config.classifyIncoming]
  cases protection <;>
    cases (Protection.present _ addr config.tag).isTagged config.tag <;> decide

/-- Both classes have room in an address whose tag bits are clear. -/
lemma fits_of_clear (tag : Tag) (protection : Protection) (clear : addr.tagBits = 0) :
    protection.Fits tag addr := by
  cases protection with
  | tagged => exact clear
  | plain =>
    rw [Fits, clear]
    exact tag.toNat_value_ne_zero.symm

/-- Class and address can be told from the presentation of a clear address. -/
lemma present_injective (config : Config) :
    Function.Injective fun pair : Protection × RealAddr.Clear =>
      pair.1.present pair.2 config.tag := by
  rintro ⟨protection, addr, nonnull, clear⟩ ⟨protection', addr', nonnull', clear'⟩ same
  have same : protection.present addr config.tag = protection'.present addr' config.tag := same
  have fits := fits_of_clear config.tag protection clear
  have fits' := fits_of_clear config.tag protection' clear'
  have class_eq : protection = protection' := by
    rw [← (classifyIncoming_present_iff config nonnull).2 fits, same,
      (classifyIncoming_present_iff config nonnull').2 fits']
  have addr_eq : addr = addr' := by
    rw [← resolve_present_iff.2 (.inr fits), same, resolve_present_iff.2 (.inr fits')]
  subst class_eq addr_eq
  rfl

/-- A clear address is not presented as null. -/
lemma present_ne_null (tag : Tag) (protection : Protection) (addr : RealAddr.Clear) :
    protection.present addr tag ≠ .null := by
  obtain ⟨addr, nonnull, clear⟩ := addr
  have unencoded := isEncoded_eq_false.2 (RealAddr.tagBits_eq_zero.1 clear)
  rw [Ne, ← PresentedAddr.isNull_iff, isNull_present tag protection unencoded, RealAddr.isNull_iff]
  exact nonnull

/-- Exactly which addresses survive their presentation, for every tag and both classes.

* An address is recovered if it is null or has room for the class, and from no other presentation.
* The class of what is not null is read off the presentation in exactly the same cases. That of null
  is plain.
* Untagging undoes tagging for every address but null.
* Where the tag bits are clear and the address is not null, no two pairs of a class and an address
  are presented alike, and none is presented as null. -/
theorem recovered (config : Config) :
    (∀ (protection : Protection) (addr : RealAddr),
      (protection.present addr config.tag).resolve config.tag = addr ↔
        addr = .null ∨ protection.Fits config.tag addr) ∧
    (∀ (protection : Protection) (addr : { addr : RealAddr // addr ≠ .null }),
      config.classifyIncoming (protection.present addr config.tag) = protection ↔
        protection.Fits config.tag addr) ∧
    (∀ protection : Protection,
      config.classifyIncoming (protection.present .null config.tag) = .plain) ∧
    (∀ addr : RealAddr, (addr.tagged config.tag).untag config.tag = addr ↔ addr ≠ .null) ∧
    (Function.Injective fun pair : Protection × RealAddr.Clear =>
      pair.1.present pair.2 config.tag) ∧
    ∀ (protection : Protection) (addr : RealAddr.Clear),
      protection.present addr config.tag ≠ .null := by
  refine ⟨fun _ _ => resolve_present_iff,
    fun _ addr => classifyIncoming_present_iff config addr.2, fun protection => ?_,
    fun _ => RealAddr.untag_tagged, present_injective config, present_ne_null config.tag⟩
  simp [Config.classifyIncoming]

/-- A plain address in whose tag bits the tag stands is not recovered: its tag is taken off. -/
example : ((⟨0x0001_0000_0000_1000⟩ : RealAddr).plain).resolve .default = ⟨0x1000⟩ := by decide

end Protection

end PointerTagging
