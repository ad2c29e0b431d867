import Mathlib.Data.List.Forall2
import PointerTagging.Proofs.AddressText
import PointerTagging.Proofs.Recovery

/-!
# Reports on addresses

A report works its answers out with expressions of its own. Those agree with what the interposer does
with the address: with the class that it reads off it, with the address that it resolves it to, and
with the return-address view (`AddressReport.faithful`). The two views give one address for a
tagged one unless the tag fills the tag bits, where a return address is canonical.
-/

namespace PointerTagging

open Text

section Words

variable {a : UInt64} {tag : Tag}

/-- Restricting an address to the bits below the tag leaves the rest of a division. -/
lemma toNat_and_lowBits (a : UInt64) : (a &&& lowBits).toNat = a.toNat % 2 ^ 48 := by
  have mask : lowBits.toNat = 2 ^ 48 - 1 := by decide
  rw [UInt64.toNat_and, mask, Nat.and_two_pow_sub_one_eq_mod]

lemma toNat_shiftRight_tagShift (a : UInt64) : (a >>> tagShift).toNat = a.toNat / 2 ^ 48 := by
  rw [UInt64.toNat_shiftRight, Nat.shiftRight_eq_div_pow]
  rfl

lemma toNat_highBits_shiftRight (a : UInt64) :
    ((a &&& highBits) >>> tagShift).toNat = a.toNat / 2 ^ 48 := by
  rw [toNat_shiftRight_tagShift, toNat_and_highBits, Nat.mul_div_cancel _ (by decide)]

lemma isEncoded_iff : isEncoded a = true ↔ a.toNat / 2 ^ 48 ≠ 0 := by
  rw [isEncoded, bne_iff_ne, Ne, ← UInt64.toNat_inj, toNat_and_highBits, UInt64.toNat_zero]
  omega

/-- A tag is not zero, so whatever matches it is encoded. -/
lemma isEncoded_of_matchesTag (matched : matchesTag a tag = true) : isEncoded a = true :=
  isEncoded_iff.2 (matchesTag_iff.1 matched ▸ tag.toNat_value_ne_zero)

/-- The bits outside of a mask are left by XOR with those inside. -/
lemma xor_and_eq (a mask : UInt64) : a ^^^ (a &&& mask) = a &&& ~~~mask := by
  apply UInt64.toBitVec_inj.1
  ext i
  simp only [UInt64.toBitVec_xor, UInt64.toBitVec_and, UInt64.toBitVec_not, BitVec.getElem_xor,
    BitVec.getElem_and, BitVec.getElem_not]
  cases a.toBitVec[i] <;> simp

/-- Removing a tag that an address has clears its tag bits. -/
lemma xor_mask_of_matchesTag (matched : matchesTag a tag = true) :
    a ^^^ tag.mask = a &&& lowBits := by
  rw [← eq_of_beq matched]
  exact xor_and_eq a highBits

end Words

section ReturnAddresses

variable {a : UInt64}

/-- The tag bits of an encoded return address are neither all clear nor all set. -/
lemma isEncodedReturn_iff :
    isEncodedReturn a = true ↔ a.toNat / 2 ^ 48 ≠ 0xFFFF ∧ a.toNat / 2 ^ 48 ≠ 0 := by
  simp only [isEncodedReturn, Bool.and_eq_true, bne_iff_ne, ne_eq, ← UInt64.toNat_inj,
    toNat_shiftRight_tagShift]
  rfl

/-- An address is in one of the canonical halves once it is cleaned. -/
lemma isEncodedReturn_cleanReturn (a : UInt64) : isEncodedReturn (cleanReturn a) = false := by
  cases encoded : isEncodedReturn a with
  | false => rw [cleanReturn, encoded]; exact encoded
  | true =>
    rw [cleanReturn, if_pos encoded, Bool.eq_false_iff, Ne, isEncodedReturn_iff, toNat_and_lowBits]
    omega

lemma toNat_cleanReturn_mod (a : UInt64) :
    (cleanReturn a).toNat % 2 ^ 48 = a.toNat % 2 ^ 48 := by
  rw [cleanReturn]
  split
  case isTrue => rw [toNat_and_lowBits, Nat.mod_mod]
  case isFalse => rfl

lemma and_lowBits_ne (encoded : isEncoded a = true) : a &&& lowBits ≠ a := by
  rw [Ne, ← UInt64.toNat_inj, toNat_and_lowBits]
  have above := isEncoded_iff.1 encoded
  omega

/-- Cleaning changes the encoded addresses and no others. -/
lemma cleanReturn_eq_iff : cleanReturn a = a ↔ isEncodedReturn a = false := by
  rw [cleanReturn]
  split
  case isTrue encoded =>
    have above := (isEncodedReturn_iff.1 encoded).2
    exact iff_of_false (and_lowBits_ne (isEncoded_iff.2 above)) (by simp [encoded])
  case isFalse canonical => exact iff_of_true rfl (Bool.eq_false_iff.2 canonical)

/-- A tag comes off like the encoding of a return address, unless it fills the tag bits. -/
lemma xor_mask_eq_cleanReturn_iff {tag : Tag} (matched : matchesTag a tag = true) :
    a ^^^ tag.mask = cleanReturn a ↔ tag.value ≠ 0xFFFF := by
  have bits := matchesTag_iff.1 matched
  have full : tag.value = 0xFFFF ↔ a.toNat / 2 ^ 48 = 0xFFFF := by
    rw [← UInt16.toNat_inj, bits]
    rfl
  rw [xor_mask_of_matchesTag matched, cleanReturn]
  split
  case isTrue encoded =>
    exact iff_of_true rfl (full.not.2 (isEncodedReturn_iff.1 encoded).1)
  case isFalse canonical =>
    -- the tag is not zero, so the address is in the kernel half and keeps it
    have encoded := isEncoded_of_matchesTag matched
    have same : a.toNat / 2 ^ 48 = 0xFFFF := by
      rw [isEncodedReturn_iff] at canonical
      have above := isEncoded_iff.1 encoded
      omega
    exact iff_of_false (and_lowBits_ne encoded) (not_not.2 (full.2 same))

end ReturnAddresses

lemma addressText_inj {a b : UInt64} : addressText a = addressText b ↔ a = b := by
  refine ⟨fun same => ?_, congrArg addressText⟩
  have read := parseAddress_addressText a
  rw [same, parseAddress_addressText] at read
  exact (Except.ok.inj read).symm

/-- Sixteen bits are told apart by their texts. -/
lemma tagText_inj {a b : UInt64} (ha : a.toNat < 16 ^ 4) (hb : b.toNat < 16 ^ 4) :
    tagText a = tagText b ↔ a = b := by
  refine ⟨fun same => ?_, congrArg tagText⟩
  have digits : Numeral.padded 16 4 a.toNat = Numeral.padded 16 4 b.toNat := by
    simpa [tagText, Numeral.hexPadded, ← String.toList_inj] using same
  exact UInt64.toNat_inj.1 (Numeral.padded_injective (by decide) (by decide) ha hb digits)

section Traversal

variable {α β ε : Type} {f : α → Except ε β} {xs : List α}

/-- A traversal succeeds with the results of the elements, in their order. -/
lemma mapM_eq_ok_iff {ys : List β} :
    xs.mapM f = .ok ys ↔ List.Forall₂ (fun x y => f x = .ok y) xs ys := by
  induction xs generalizing ys with
  | nil => simp [pure, Except.pure, eq_comm]
  | cons x xs ih =>
    rw [List.mapM_cons, List.forall₂_cons_left_iff]
    cases head : f x with
    | error error => simp [bind, Except.bind]
    | ok y =>
      simp only [← ih]
      cases tail : xs.mapM f <;> simp [bind, Except.bind, pure, Except.pure, eq_comm]

lemma mapM_isOk_iff : (∃ ys, xs.mapM f = .ok ys) ↔ ∀ x ∈ xs, ∃ y, f x = .ok y := by
  simp only [mapM_eq_ok_iff]
  induction xs with
  | nil => simp
  | cons x xs ih => simp [List.forall₂_cons_left_iff, ← ih]

/-- A traversal fails with the error of the first element for which it does. -/
lemma mapM_eq_error_iff {error : ε} : xs.mapM f = .error error ↔
    ∃ front x back, xs = front ++ x :: back ∧ (∀ y ∈ front, ∃ z, f y = .ok z) ∧
      f x = .error error := by
  constructor
  · intro failed
    induction xs with
    | nil => cases failed
    | cons x xs ih =>
      cases head : f x with
      | error other =>
        simp only [List.mapM_cons, head, bind, Except.bind] at failed
        cases failed
        exact ⟨[], x, xs, rfl, nofun, head⟩
      | ok y =>
        have failed : xs.mapM f = .error error := by
          cases tail : xs.mapM f <;>
            simp_all [List.mapM_cons, bind, Except.bind, pure, Except.pure]
        obtain ⟨front, x', back, rfl, passed, refused⟩ := ih failed
        exact ⟨x :: front, x', back, rfl, List.forall_mem_cons.2 ⟨⟨y, head⟩, passed⟩, refused⟩
  · -- what stands before the element has results, which are given up
    rintro ⟨front, x, back, rfl, passed, refused⟩
    obtain ⟨ys, passed⟩ := mapM_isOk_iff.2 passed
    rw [List.mapM_append, passed, List.mapM_cons, refused]
    rfl

end Traversal

namespace AddressReport

/-- What a report says of an address is what the interposer makes of it under the configuration. -/
structure Faithful (report : AddressReport) (config : Config) (input : String) (addr : UInt64) :
    Prop where
  input : report.input = input
  address : parseAddress report.address = .ok addr
  encoded : report.encoded = true ↔ report.highBits ≠ "0x0000"
  encoded_of_matchesTag : report.matchesTag = true → report.encoded = true
  matchesTag : report.matchesTag = true ↔ config.classifyIncoming ⟨addr⟩ = .tagged
  realAddress_isSome : report.realAddress.isSome = report.matchesTag
  realAddress : ∀ text ∈ report.realAddress,
    parseAddress text = .ok ((⟨addr⟩ : PresentedAddr).resolve config.tag).value
  cleanReturn : ∃ clean, parseAddress report.cleanReturn = .ok clean ∧
    isEncodedReturn clean = false ∧ clean.toNat % 2 ^ 48 = addr.toNat % 2 ^ 48 ∧
    (clean = addr ↔ report.encodedReturn = false)
  views : report.matchesTag = true →
    (report.realAddress = some report.cleanReturn ↔ config.tag.value ≠ 0xFFFF)

variable {config : Config} {input : String} {addr : UInt64} {tag : Tag}

lemma mem_realAddress {text : String} : text ∈ (classify input addr tag).realAddress ↔
    PointerTagging.matchesTag addr tag = true ∧ text = addressText (addr ^^^ tag.mask) := by
  rw [classify]
  split
  case isTrue matched => simp [matched, eq_comm]
  case isFalse unmatched => simp [unmatched]

/-- The text of the tag bits tells whether there are any. -/
lemma encoded_iff : (classify input addr tag).encoded = true ↔
    (classify input addr tag).highBits ≠ "0x0000" := by
  have zero : "0x0000" = tagText 0 := by decide
  -- four digits have room for the tag bits, so that no others print as zero
  have small : ((addr &&& PointerTagging.highBits) >>> tagShift).toNat < 16 ^ 4 := by
    have lt := addr.toNat_lt
    rw [toNat_highBits_shiftRight]
    omega
  have shown : (classify input addr tag).highBits = "0x0000" ↔ addr.toNat / 2 ^ 48 = 0 := by
    rw [zero, ← toNat_highBits_shiftRight addr]
    exact (tagText_inj small (by decide)).trans UInt64.toNat_inj.symm
  exact isEncoded_iff.trans shown.not.symm

lemma faithful_classify (config : Config) (input : String) (addr : UInt64) :
    (classify input addr config.tag).Faithful config input addr where
  input := rfl
  address := parseAddress_addressText addr
  encoded := encoded_iff
  encoded_of_matchesTag := isEncoded_of_matchesTag
  matchesTag := by
    rw [Config.classifyIncoming, PresentedAddr.isTagged]
    split
    case isTrue matched => exact iff_of_true matched rfl
    case isFalse unmatched => exact iff_of_false unmatched (by decide)
  realAddress_isSome := by
    cases matched : PointerTagging.matchesTag addr config.tag <;> simp [classify, matched]
  realAddress text mem := by
    obtain ⟨matched, rfl⟩ := mem_realAddress.1 mem
    rw [parseAddress_addressText, PresentedAddr.resolve, PresentedAddr.isTagged, if_pos matched]
    rfl
  cleanReturn := ⟨PointerTagging.cleanReturn addr, parseAddress_addressText _,
    isEncodedReturn_cleanReturn addr, toNat_cleanReturn_mod addr, cleanReturn_eq_iff⟩
  views matched := by
    have shown : (classify input addr config.tag).cleanReturn ∈
        (classify input addr config.tag).realAddress ↔
          addr ^^^ config.tag.mask = PointerTagging.cleanReturn addr :=
      mem_realAddress.trans <| (and_iff_right matched).trans <| addressText_inj.trans eq_comm
    exact shown.trans (xor_mask_eq_cleanReturn_iff matched)

/-- An input has a report if it is an address. -/
lemma report_eq_ok_iff {report : AddressReport} :
    (parseAddress input).map (classify input · tag) = .ok report ↔
      ∃ addr, parseAddress input = .ok addr ∧ report = classify input addr tag := by
  cases parseAddress input <;> simp [Except.map, eq_comm]

/-- An input that is no address has an error, which names it. -/
lemma report_eq_error_iff {error : InvalidAddress} :
    (parseAddress input).map (classify input · tag) = .error error ↔
      (¬∃ addr, parseAddress input = .ok addr) ∧ error = ⟨input⟩ := by
  obtain ⟨addr, read, -⟩ | ⟨refused, -⟩ := parseAddress_cases input
  · simp [read, Except.map]
  · simp [refused, Except.map, eq_comm]

lemma report_isOk_iff : (∃ report, (parseAddress input).map (classify input · tag) = .ok report) ↔
    ∃ addr, parseAddress input = .ok addr := by
  simp only [report_eq_ok_iff]
  exact ⟨fun ⟨_, addr, read, _⟩ => ⟨addr, read⟩, fun ⟨addr, read⟩ => ⟨_, addr, read, rfl⟩⟩

/-- Reports are given on all inputs or on none, and each agrees with what the interposer does.

* There are reports exactly if every input is an address. They are those of the inputs, in the same
  order. Otherwise the error is the one of the first input that is no address.
* Every report keeps its input, and its address is read back as the one that it is about. It says
  encoded exactly if the text of the tag bits is not that of zero.
* It says that the tag matches, which encoded addresses only do, exactly if the interposer takes the
  address for a tagged one. There is a real address in exactly these cases, and it is read back as
  the one that the interposer resolves the address to.
* The cleaned return address is read back as one that carries no encoding, with the same bits below
  the tag, and as the address itself exactly if that carries none.
* Where the tag matches, real and cleaned address are the same unless all bits of the tag are set. -/
theorem faithful (config : Config) :
    (∀ inputs, (∃ reports, classifyAll inputs config.tag = .ok reports) ↔
      ∀ input ∈ inputs, ∃ addr, parseAddress input = .ok addr) ∧
    (∀ inputs reports, classifyAll inputs config.tag = .ok reports ↔
      List.Forall₂ (fun input report => ∃ addr, parseAddress input = .ok addr ∧
        report = classify input addr config.tag) inputs reports) ∧
    (∀ inputs error, classifyAll inputs config.tag = .error error ↔
      ∃ front input back, inputs = front ++ input :: back ∧
        (∀ before ∈ front, ∃ addr, parseAddress before = .ok addr) ∧
        (¬∃ addr, parseAddress input = .ok addr) ∧ error = ⟨input⟩) ∧
    ∀ (input : String) (addr : UInt64),
      (classify input addr config.tag).Faithful config input addr := by
  refine ⟨fun inputs => ?_, fun inputs reports => ?_, fun inputs error => ?_,
    faithful_classify config⟩
  · simp only [classifyAll, mapM_isOk_iff, report_isOk_iff]
  · simp only [classifyAll, mapM_eq_ok_iff, report_eq_ok_iff]
  · simp only [classifyAll, mapM_eq_error_iff, report_isOk_iff, report_eq_error_iff]

/-- In the kernel half a tag that fills the tag bits comes off, and the return address keeps it. The
first of two inputs that are no addresses is the one in the error. -/
theorem faithful_kernel_half :
    let config : Config := { Config.default with tag := ⟨0xFFFF, by decide⟩ }
    let report := classify "0xFFFF_8000_0000_1000" 0xFFFF800000001000 config.tag
    report.matchesTag = true ∧ report.realAddress = some "0x0000800000001000" ∧
      report.cleanReturn = "0xffff800000001000" ∧ report.realAddress ≠ some report.cleanReturn ∧
      parseAddress "0x0000800000001000" = .ok 0x800000001000 ∧
      classifyAll ["0xFFFF_8000_0000_1000", "seven", "eight"] config.tag = .error ⟨"seven"⟩ := by
  intro config report
  obtain ⟨-, -, fails, reports⟩ := faithful config
  have told : report.Faithful config _ 0xFFFF800000001000 := reports _ _
  have matched : report.matchesTag = true := by decide
  have shown : report.realAddress = some "0x0000800000001000" := by decide +kernel
  refine ⟨matched, shown, by decide +kernel, ?_, ?_, ?_⟩
  · exact mt (told.views matched).1 (by decide)
  · have resolved : ((⟨0xFFFF800000001000⟩ : PresentedAddr).resolve config.tag).value =
        0x800000001000 := by decide
    rw [← resolved]
    exact told.realAddress _ shown
  · refine (fails _ _).2 ⟨["0xFFFF_8000_0000_1000"], "seven", ["eight"], rfl, ?_, ?_, rfl⟩
    · intro before mem
      rw [List.mem_singleton.1 mem]
      exact ⟨0xFFFF800000001000, by rfl⟩
    · rintro ⟨addr, read⟩
      cases (show parseAddress "seven" = .error ⟨"seven"⟩ by rfl).symm.trans read

end AddressReport

end PointerTagging
