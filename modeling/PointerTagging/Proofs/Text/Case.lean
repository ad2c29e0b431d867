import Mathlib.Data.List.Forall2
import Mathlib.Tactic.Lemma
import PointerTagging.Proofs.Text.Numeral
import PointerTagging.Proofs.Text.Utf8

/-!
# The case of ASCII letters

Bytes that differ in the case of ASCII letters are the same in lower case (`SameLetter.lowerByte_eq`).
The bytes in lower case spell the text in lower case, or they spell none either
(`decode_map_lowerByte`), and trimming, prefixes and numerals do not go by the case.
-/

namespace PointerTagging.Text

/-- The same byte, or the same ASCII letter in the other case. -/
inductive SameLetter : UInt8 → UInt8 → Prop where
  | refl (b : UInt8) :
    SameLetter b b
  | lowered {k : Nat} :
    k < 26 →
    SameLetter (0x41 + k).toUInt8 (0x61 + k).toUInt8
  | raised {k : Nat} :
    k < 26 →
    SameLetter (0x61 + k).toUInt8 (0x41 + k).toUInt8

/-- A byte, if it is an ASCII capital in lower case. -/
def lowerByte (b : UInt8) : UInt8 := if 0x41 ≤ b ∧ b ≤ 0x5A then b + 0x20 else b

/-- Only bytes below 0x80 are changed, and into such. -/
lemma lowerByte_cases (b : UInt8) :
    lowerByte b = b ∨ b.toNat < 0x80 ∧ (lowerByte b).toNat < 0x80 := by
  have bytes : ∀ n < 256, lowerByte n.toUInt8 = n.toUInt8 ∨
      n.toUInt8.toNat < 0x80 ∧ (lowerByte n.toUInt8).toNat < 0x80 := by decide +kernel
  simpa using bytes b.toNat b.toNat_lt

/-- The case of a letter does not show in lower case. -/
lemma SameLetter.lowerByte_eq {a b : UInt8} (same : SameLetter a b) :
    lowerByte a = lowerByte b := by
  have letters : ∀ k < 26, lowerByte (0x41 + k).toUInt8 = lowerByte (0x61 + k).toUInt8 := by decide
  cases same with
  | refl => rfl
  | lowered small => exact letters _ small
  | raised small => exact (letters _ small).symm

/-- Bytes that differ in the case of letters are the same in lower case. -/
lemma map_lowerByte_eq {bs bs' : List UInt8} (same : List.Forall₂ SameLetter bs bs') :
    bs.map lowerByte = bs'.map lowerByte := by
  induction same with
  | nil => rfl
  | cons first _ ih => rw [List.map_cons, List.map_cons, first.lowerByte_eq, ih]

/-- What holds of a character and itself, and of every capital and its small letter, holds of a
character and what it is in lower case. -/
lemma of_toLower {p : Char → Char → Prop} (same : ∀ c, p c c)
    (capitals : ∀ k < 26, p (Char.ofNat (65 + k)) (Char.ofNat (65 + k)).toLower) (c : Char) :
    p c c.toLower := by
  by_cases capital : 'A'.val ≤ c.val ∧ c.val ≤ 'Z'.val
  case neg =>
    rw [show c.toLower = c from dif_neg capital]
    exact same c
  case pos =>
    have low : 65 ≤ c.toNat := capital.1
    have high : c.toNat ≤ 90 := capital.2
    have letter := capitals (c.toNat - 65) (by omega)
    rwa [Nat.add_sub_cancel' low, Char.ofNat_toNat] at letter

lemma isBlank_toLower : ∀ c, isBlank c.toLower = isBlank c :=
  of_toLower (p := fun c l => isBlank l = isBlank c) (fun _ => rfl) (by decide)

/-- Trimming does not go by the case. -/
lemma trim_map_toLower (cs : List Char) : trim (cs.map Char.toLower) = (trim cs).map Char.toLower := by
  have blank : isBlank ∘ Char.toLower = isBlank := funext isBlank_toLower
  rw [trim, trimStart, trimEnd, List.dropWhile_map, blank, ← List.map_reverse, List.dropWhile_map,
    blank, ← List.map_reverse, trim, trimStart, trimEnd]

namespace Numeral

variable {base : Nat}

lemma digit?_toLower (small : base ≤ 16) : ∀ c, digit? base c.toLower = digit? base c :=
  of_toLower (p := fun c l => digit? base l = digit? base c) (fun _ => rfl)
    ((by decide : ∀ base ≤ 16, ∀ k < 26,
      digit? base (Char.ofNat (65 + k)).toLower = digit? base (Char.ofNat (65 + k))) base small)

lemma valueFrom_map_toLower (small : base ≤ 16) (value : Nat) (cs : List Char) :
    valueFrom base value (cs.map Char.toLower) = valueFrom base value cs := by
  induction cs generalizing value with
  | nil => rfl
  | cons c cs ih =>
    rw [List.map_cons, valueFrom, valueFrom, digit?_toLower small]
    exact congrArg _ (funext fun d => ih _)

lemma unsigned_map_toLower (cs : List Char) :
    unsigned (cs.map Char.toLower) = (unsigned cs).map Char.toLower := by
  cases cs with
  | nil => rfl
  | cons c cs =>
    have sign : c.toLower = '+' ↔ c = '+' :=
      of_toLower (p := fun c l => l = '+' ↔ c = '+') (fun _ => Iff.rfl) (by decide) c
    by_cases signed : c = '+'
    case pos =>
      subst signed
      rfl
    case neg =>
      have same {d : Char} {ds : List Char} (other : d ≠ '+') : unsigned (d :: ds) = d :: ds := by
        unfold unsigned
        split
        case h_1 eq => exact absurd (List.cons.inj eq).1 other
        case h_2 => rfl
      rw [same signed, List.map_cons, same (mt sign.1 signed)]

/-- A numeral does not go by the case of its digits. -/
lemma read?_map_toLower (small : base ≤ 16) (bound : Nat) (cs : List Char) :
    read? base bound (cs.map Char.toLower) = read? base bound cs := by
  rw [read?, read?, unsigned_map_toLower]
  cases unsigned cs with
  | nil => rfl
  | cons d ds =>
    simp only [List.map_cons]
    rw [← List.map_cons, valueFrom_map_toLower small]

/-- A number does not go by the case of its prefix. -/
lemma hexBody?_map_toLower (cs : List Char) :
    hexBody? (cs.map Char.toLower) = (hexBody? cs).map (List.map Char.toLower) := by
  have bare {c d : Char} {cs : List Char} (other : c = '0' → ¬(d = 'x' ∨ d = 'X')) :
      hexBody? (c :: d :: cs) = none := by
    unfold hexBody?
    split <;> simp_all
  match cs with
  | [] => rfl
  | [c] =>
    have short (d : Char) : hexBody? [d] = none := by
      unfold hexBody?
      split <;> simp_all
    rw [List.map_singleton, short, short]
    rfl
  | c :: d :: cs =>
    have zero : c.toLower = '0' ↔ c = '0' :=
      of_toLower (p := fun c l => l = '0' ↔ c = '0') (fun _ => Iff.rfl) (by decide) c
    have mark : d.toLower = 'x' ∨ d.toLower = 'X' ↔ d = 'x' ∨ d = 'X' :=
      of_toLower (p := fun d l => l = 'x' ∨ l = 'X' ↔ d = 'x' ∨ d = 'X') (fun _ => Iff.rfl)
        (by decide) d
    by_cases behind : c = '0' ∧ (d = 'x' ∨ d = 'X')
    case pos => obtain ⟨rfl, rfl | rfl⟩ := behind <;> rfl
    case neg =>
      rw [bare (not_and.1 behind), List.map_cons, List.map_cons, bare]
      · rfl
      · rw [zero, mark]
        exact not_and.1 behind

end Numeral

namespace Utf8

/-- The bytes of a character in lower case. -/
lemma encodeChar_toLower (c : Char) : encodeChar c.toLower = (encodeChar c).map lowerByte := by
  have other {b : UInt8} (high : 0x80 ≤ b.toNat) : lowerByte b = b :=
    (lowerByte_cases b).resolve_right fun low => by omega
  obtain ⟨low, -⟩ | ⟨high, b, bs, bytes, first, rest⟩ := encodeChar_cases c
  · have ascii : ∀ n < 128, encodeChar (Char.ofNat n).toLower =
        (encodeChar (Char.ofNat n)).map lowerByte := by decide
    simpa using ascii c.toNat low
  · have same : c.toLower = c := by
      refine dif_neg fun capital => ?_
      have le : c.toNat ≤ 90 := capital.2
      omega
    rw [same, bytes, List.map_cons, other (by omega),
      List.map_congr_left fun b mem => other (rest b mem), List.map_id']

lemma encode_map_toLower (cs : List Char) :
    encode (cs.map Char.toLower) = (encode cs).map lowerByte := by
  rw [encode, List.flatMap_map, encode, List.map_flatMap]
  exact congrArg (cs.flatMap ·) (funext encodeChar_toLower)

/-- Only the bytes of a character are those of one in lower case. -/
lemma exists_encodeChar_eq {bs : List UInt8} {d : Char} (h : bs.map lowerByte = encodeChar d) :
    ∃ c, encodeChar c = bs := by
  obtain ⟨low, one⟩ | ⟨-, b, tail, many, first, rest⟩ := encodeChar_cases d
  · rw [one, List.map_eq_singleton_iff] at h
    obtain ⟨b, rfl, lower⟩ := h
    have small : b.toNat < 0x80 := by
      have value : (lowerByte b).toNat = d.toNat := by
        rw [lower]
        exact UInt8.toNat_ofNat_of_lt (show d.toNat < 256 by omega)
      obtain same | ⟨small, -⟩ := lowerByte_cases b
      · rw [same] at value
        omega
      · exact small
    refine ⟨Char.ofNat b.toNat, ?_⟩
    have same : (Char.ofNat b.toNat).toNat = b.toNat := toNat_ofNat_of_valid (by omega)
    simp only [encodeChar, same, if_pos small]
    exact congrArg ([·]) b.ofNat_toNat
  · have high : ∀ b ∈ encodeChar d, 0x80 ≤ b.toNat := by
      rw [many]
      exact List.forall_mem_cons.2 ⟨Nat.le_trans (by decide) first, rest⟩
    have same : ∀ b ∈ bs, lowerByte b = b := by
      intro b mem
      refine (lowerByte_cases b).resolve_right fun low => ?_
      have le := high (lowerByte b) (h ▸ List.mem_map_of_mem mem)
      omega
    exact ⟨d, by rw [← h, List.map_congr_left same, List.map_id']⟩

/-- Only the bytes of a text are those of one in lower case. -/
lemma exists_encode_eq {bs : List UInt8} {ds : List Char} (h : bs.map lowerByte = encode ds) :
    ∃ cs, encode cs = bs := by
  induction ds generalizing bs with
  | nil =>
    obtain rfl := List.map_eq_nil_iff.1 h
    exact ⟨[], rfl⟩
  | cons d ds ih =>
    rw [encode, List.flatMap_cons, List.map_eq_append_iff] at h
    obtain ⟨front, back, rfl, first, rest⟩ := h
    obtain ⟨cs, rfl⟩ := ih rest
    obtain ⟨c, rfl⟩ := exists_encodeChar_eq first
    exact ⟨c :: cs, List.flatMap_cons⟩

/-- Bytes in lower case are read as the text that they spell in lower case. -/
theorem decode_map_lowerByte (bs : List UInt8) :
    decode (bs.map lowerByte) = (decode bs).map (List.map Char.toLower) := by
  cases read : decode bs with
  | some cs =>
    rw [← decode_eq_some_iff.1 read, ← encode_map_toLower, decode_encode]
    rfl
  | none =>
    cases lower : decode (bs.map lowerByte) with
    | none => rfl
    | some ds =>
      obtain ⟨cs, same⟩ := exists_encode_eq (decode_eq_some_iff.1 lower).symm
      rw [← same, decode_encode] at read
      cases read

end Utf8

end PointerTagging.Text
