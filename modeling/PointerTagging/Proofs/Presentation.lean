import Mathlib.Algebra.Group.Nat.Defs
import Mathlib.Tactic.Lemma
import PointerTagging.Config

/-!
# Presented addresses

What the XOR with a tag does to the tag bits of an address. An address whose tag bits are clear is
recovered from either of its presentations (`Protection.resolve_present`), a presentation is null
only if the address is (`Protection.isNull_present`), and the class can be read off it
(`Protection.isTagged_present`).
-/

namespace PointerTagging

/-- Restricting to some bits commutes with XOR. -/
lemma xor_and (a b c : UInt64) : (a ^^^ b) &&& c = (a &&& c) ^^^ (b &&& c) := by
  apply UInt64.toNat_inj.1
  simp only [UInt64.toNat_and, UInt64.toNat_xor, Nat.and_xor_distrib_right]

/-- An address is not encoded if its tag bits are clear. -/
lemma isEncoded_eq_false {a : UInt64} : isEncoded a = false ↔ a &&& highBits = 0 := by
  simp only [isEncoded, bne_eq_false_iff_eq]

namespace Tag

lemma toNat_value_ne_zero (tag : Tag) : tag.value.toNat ≠ 0 :=
  fun zero => tag.nonzero (UInt16.toNat_inj.1 zero)

/-- The number that a tag stands for in its place. -/
lemma toNat_mask (tag : Tag) : tag.mask.toNat = tag.value.toNat * 2 ^ 48 := by
  have lt := tag.value.toNat_lt
  have e : tag.mask.toNat = tag.value.toNat <<< 48 % 2 ^ 64 := by
    simp [mask, tagShift, UInt64.toNat_shiftLeft]
  rw [e, Nat.shiftLeft_eq, Nat.mod_eq_of_lt]
  omega

/-- A tag in its place is not null. -/
lemma mask_ne_zero (tag : Tag) : tag.mask ≠ 0 := by
  intro e
  have h := tag.toNat_mask
  have nz := tag.toNat_value_ne_zero
  rw [e] at h
  simp only [UInt64.toNat_zero] at h
  omega

/-- A tag in its place has no other bits. -/
lemma mask_and_highBits (tag : Tag) : tag.mask &&& highBits = tag.mask := by
  apply UInt64.toNat_inj.1
  rw [UInt64.toNat_and, toNat_mask]
  have e : highBits.toNat = (2 ^ 16 - 1) * 2 ^ 48 := by decide
  have lt := tag.value.toNat_lt
  rw [e, ← Nat.shiftLeft_eq, ← Nat.shiftLeft_eq, ← Nat.shiftLeft_and_distrib,
    Nat.and_two_pow_sub_one_eq_mod, Nat.mod_eq_of_lt lt]

end Tag

namespace PresentedAddr

/-- Untagging undoes tagging. -/
lemma untag_xor (a : UInt64) (tag : Tag) : (⟨a ^^^ tag.mask⟩ : PresentedAddr).untag tag = ⟨a⟩ := by
  simp only [untag, UInt64.xor_assoc, UInt64.xor_self, UInt64.xor_zero]

/-- Null carries no tag. -/
@[simp] lemma isTagged_null (tag : Tag) : null.isTagged tag = false := by
  simp only [isTagged, matchesTag, null, UInt64.zero_and, beq_eq_false_iff_ne]
  exact tag.mask_ne_zero.symm

/-- Null stands for null. -/
@[simp] lemma resolve_null (tag : Tag) : null.resolve tag = .null := by
  rw [resolve, isTagged_null]
  rfl

/-- Being null is being the null address. -/
lemma isNull_iff {addr : PresentedAddr} : addr.isNull = true ↔ addr = null := by
  cases addr
  simp [isNull, null]

end PresentedAddr

namespace RealAddr

/-- Null is not encoded. -/
@[simp] lemma isEncoded_null : isEncoded null.value = false := rfl

/-- Being null is being the null address. -/
lemma isNull_iff {addr : RealAddr} : addr.isNull = true ↔ addr = null := by
  cases addr
  simp [isNull, null]

end RealAddr

namespace Protection

variable {addr : RealAddr} (tag : Tag) (protection : Protection)

/-- Null is presented as null in either class. -/
@[simp] lemma present_null : protection.present .null tag = .null := by
  cases protection <;> rfl

/-- The tag bits of a presentation are those of the tag exactly in the tagged class. -/
lemma isTagged_present (clear : isEncoded addr.value = false) (nonnull : addr.isNull = false) :
    (protection.present addr tag).isTagged tag = (protection == tagged) := by
  rw [isEncoded_eq_false] at clear
  cases protection with
  | tagged =>
    simp [present, RealAddr.tagged, nonnull, PresentedAddr.isTagged, matchesTag, xor_and, clear,
      tag.mask_and_highBits]
  | plain =>
    have e : (plain == tagged) = false := rfl
    simpa [present, RealAddr.plain, PresentedAddr.isTagged, matchesTag, clear, e]
      using tag.mask_ne_zero.symm

/-- An address whose tag bits are clear is recovered from either presentation. -/
lemma resolve_present (clear : isEncoded addr.value = false) :
    (protection.present addr tag).resolve tag = addr := by
  cases nonnull : addr.isNull with
  | true =>
    rw [RealAddr.isNull_iff.1 nonnull, present_null, PresentedAddr.resolve_null]
  | false =>
    rw [PresentedAddr.resolve, isTagged_present tag protection clear nonnull]
    cases protection with
    | tagged => simpa [present, RealAddr.tagged, nonnull] using PresentedAddr.untag_xor _ _
    | plain => rfl

/-- A presentation of an address whose tag bits are clear is null only if the address is. -/
lemma isNull_present (clear : isEncoded addr.value = false) :
    (protection.present addr tag).isNull = addr.isNull := by
  cases nonnull : addr.isNull with
  | true => rw [RealAddr.isNull_iff.1 nonnull, present_null]; rfl
  | false =>
    rw [Bool.eq_false_iff, Ne, PresentedAddr.isNull_iff]
    intro e
    have h := resolve_present tag protection clear
    rw [e, PresentedAddr.resolve_null] at h
    subst h
    cases nonnull

end Protection

end PointerTagging
