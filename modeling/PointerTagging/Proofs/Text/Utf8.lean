import Mathlib.Tactic.Lemma
import PointerTagging.Text.Utf8

/-!
# Reading encoded text

The decoder reads the bytes of a character as that character, wherever they stand
(`decode_encode_append`), so that decoding undoes encoding and no two texts have the same bytes. It
reads nothing else (`decode_eq_some_iff`): whatever it has read of a character that is not finished
(`Begun`) is the beginning of one that is encoded. So it refuses exactly the bytes that are not valid
as a string's (`decode_eq_none_iff`), and a text before or behind some bytes does not change how these
are read (`decode_append_encode`).
-/

namespace PointerTagging.Text.Utf8

/-- A byte below 0x80 is a character of its own. -/
lemma move_one : ∀ n < 128, move .boundary n.toUInt8 = .char (Char.ofNat n) := by decide

/-- What follows the first byte of a character of two bytes. -/
lemma move_two : ∀ a < 32, 2 ≤ a →
    move .boundary (0xC0 + a).toUInt8 = .more (.inside 0 0x80 0xBF a) := by
  decide

/-- What follows the first byte of a character of three bytes: no overlong form and no surrogate. -/
lemma move_three : ∀ a < 16, move .boundary (0xE0 + a).toUInt8 =
    .more (.inside 1 (if a = 0 then 0xA0 else 0x80) (if a = 0xD then 0x9F else 0xBF) a) := by
  decide

/-- What follows the first byte of a character of four bytes: no overlong form and nothing above
U+10FFFF. -/
lemma move_four : ∀ a < 5, move .boundary (0xF0 + a).toUInt8 =
    .more (.inside 2 (if a = 0 then 0x90 else 0x80) (if a = 4 then 0x8F else 0xBF) a) := by
  decide

/-- A continuation byte adds six bits. -/
lemma move_inside {left bits b : Nat} {low high : UInt8} (small : b < 64)
    (above : low.toNat ≤ 0x80 + b) (below : 0x80 + b ≤ high.toNat) :
    move (.inside left low high bits) (0x80 + b).toUInt8 =
      match left with
      | 0 => .char (Char.ofNat (bits * 64 + b))
      | left + 1 => .more (.inside left 0x80 0xBF (bits * 64 + b)) := by
  have value : (0x80 + b).toUInt8.toNat = 0x80 + b :=
    UInt8.toNat_ofNat_of_lt (show 0x80 + b < 256 by omega)
  have fits : low ≤ (0x80 + b).toUInt8 ∧ (0x80 + b).toUInt8 ≤ high := by
    rw [UInt8.le_iff_toNat_le, UInt8.le_iff_toNat_le, value]
    exact ⟨above, below⟩
  cases left <;> simp only [move, if_pos fits, value, Nat.add_sub_cancel_left]

section Steps

variable {state next : State} {b : UInt8} {bs : List UInt8} {c : Char}

/-- Reading on inside a character. -/
lemma decodeFrom_of_more (h : move state b = .more next) :
    decodeFrom state (b :: bs) = decodeFrom next bs := by
  rw [decodeFrom, h]

/-- Reading the last byte of a character. -/
lemma decodeFrom_of_char (h : move state b = .char c) :
    decodeFrom state (b :: bs) = (decodeFrom .boundary bs).map (c :: ·) := by
  rw [decodeFrom, h]

/-- No text has such a byte at such a place. -/
lemma decodeFrom_of_refuse (h : move state b = .refuse) : decodeFrom state (b :: bs) = none := by
  rw [decodeFrom, h]

end Steps

/-- A character is below U+110000 and no surrogate. -/
lemma toNat_valid (c : Char) :
    c.toNat < 0xD800 ∨ 0xDFFF < c.toNat ∧ c.toNat < 0x110000 := c.valid

/-- The bytes of a character are read as that character. -/
lemma decode_encodeChar_append (c : Char) (bs : List UInt8) :
    decode (encodeChar c ++ bs) = (decode bs).map (c :: ·) := by
  have valid := toNat_valid c
  have same : Char.ofNat c.toNat = c := Char.ofNat_toNat c
  unfold encodeChar decode
  generalize c.toNat = n at valid same
  dsimp only
  split
  case isTrue one => exact decodeFrom_of_char (same ▸ move_one n one)
  case isFalse =>
  split
  case isTrue two =>
    rw [List.cons_append, List.cons_append, List.nil_append,
      decodeFrom_of_more (move_two (n / 64) (by omega) (by omega)),
      decodeFrom_of_char (move_inside (by omega) (by simp) (by simp; omega)),
      show n / 64 * 64 + n % 64 = n by omega, same]
  case isFalse =>
  split
  case isTrue three =>
    -- the second byte leaves out what two bytes spell, and the surrogates
    have above : (if n / 4096 = 0 then 0xA0 else 0x80 : UInt8).toNat ≤ 0x80 + n / 64 % 64 := by
      split
      · simp
        omega
      · simp
    have below : 0x80 + n / 64 % 64 ≤ (if n / 4096 = 0xD then 0x9F else 0xBF : UInt8).toNat := by
      split <;> simp <;> omega
    rw [List.cons_append, List.cons_append, List.cons_append, List.nil_append,
      decodeFrom_of_more (move_three (n / 4096) (by omega)),
      decodeFrom_of_more (move_inside (by omega) above below),
      decodeFrom_of_char (move_inside (by omega) (by simp) (by simp; omega)),
      show (n / 4096 * 64 + n / 64 % 64) * 64 + n % 64 = n by omega, same]
  case isFalse =>
    -- the second byte leaves out what three bytes spell, and what lies above the last character
    have above : (if n / 262144 = 0 then 0x90 else 0x80 : UInt8).toNat ≤ 0x80 + n / 4096 % 64 := by
      split
      · simp
        omega
      · simp
    have below : 0x80 + n / 4096 % 64 ≤ (if n / 262144 = 4 then 0x8F else 0xBF : UInt8).toNat := by
      split <;> simp <;> omega
    rw [List.cons_append, List.cons_append, List.cons_append, List.cons_append, List.nil_append,
      decodeFrom_of_more (move_four (n / 262144) (by omega)),
      decodeFrom_of_more (move_inside (by omega) above below),
      decodeFrom_of_more (move_inside (by omega) (by simp) (by simp; omega)),
      decodeFrom_of_char (move_inside (by omega) (by simp) (by simp; omega)),
      show ((n / 262144 * 64 + n / 4096 % 64) * 64 + n / 64 % 64) * 64 + n % 64 = n by omega, same]

/-- The bytes of a text are read as that text, whatever follows. -/
theorem decode_encode_append (cs : List Char) (bs : List UInt8) :
    decode (encode cs ++ bs) = (decode bs).map (cs ++ ·) := by
  induction cs with
  | nil => simp [encode]
  | cons c cs ih =>
    rw [encode, List.flatMap_cons, List.append_assoc, decode_encodeChar_append]
    rw [encode] at ih
    rw [ih, Option.map_map]
    rfl

/-- Decoding undoes encoding. -/
theorem decode_encode (cs : List Char) : decode (encode cs) = some cs := by
  have h := decode_encode_append cs []
  rwa [List.append_nil, show decode [] = some [] from rfl, Option.map_some, List.append_nil] at h

/-- No two texts have the same bytes. -/
theorem encode_injective {cs ds : List Char} (h : encode cs = encode ds) : cs = ds := by
  have read := decode_encode cs
  rw [h, decode_encode] at read
  exact (Option.some.inj read).symm

/-! ## Only encoded text is read -/

/-- A number below U+110000 that is no surrogate is that of its character. -/
lemma toNat_ofNat_of_valid {n : Nat} (valid : n < 0xD800 ∨ 0xDFFF < n ∧ n < 0x110000) :
    (Char.ofNat n).toNat = n := by
  rw [Char.ofNat, dif_pos valid]
  rfl

/-- A character of two bytes. -/
lemma encodeChar_two {n : Nat} (low : 0x80 ≤ n) (high : n < 0x800) :
    encodeChar (Char.ofNat n) = [(0xC0 + n / 64).toUInt8, (0x80 + n % 64).toUInt8] := by
  have same : (Char.ofNat n).toNat = n := toNat_ofNat_of_valid (by omega)
  simp only [encodeChar, same]
  rw [if_neg (by omega), if_pos high]

/-- A character of three bytes. -/
lemma encodeChar_three {n : Nat} (low : 0x800 ≤ n) (high : n < 0x10000)
    (valid : n < 0xD800 ∨ 0xDFFF < n) :
    encodeChar (Char.ofNat n) =
      [(0xE0 + n / 4096).toUInt8, (0x80 + n / 64 % 64).toUInt8, (0x80 + n % 64).toUInt8] := by
  have same : (Char.ofNat n).toNat = n := toNat_ofNat_of_valid (by omega)
  simp only [encodeChar, same]
  rw [if_neg (by omega), if_neg (by omega), if_pos high]

/-- A character of four bytes. -/
lemma encodeChar_four {n : Nat} (low : 0x10000 ≤ n) (high : n < 0x110000) :
    encodeChar (Char.ofNat n) = [(0xF0 + n / 262144).toUInt8, (0x80 + n / 4096 % 64).toUInt8,
      (0x80 + n / 64 % 64).toUInt8, (0x80 + n % 64).toUInt8] := by
  have same : (Char.ofNat n).toNat = n := toNat_ofNat_of_valid (by omega)
  simp only [encodeChar, same]
  rw [if_neg (by omega), if_neg (by omega), if_neg (by omega)]

/-- The bytes that have been read of a character when the decoder stands in a state. -/
inductive Begun : State → List UInt8 → Prop where
  | boundary :
    Begun .boundary []
  | two {a : Nat} :
    2 ≤ a → a < 32 →
    Begun (.inside 0 0x80 0xBF a) [(0xC0 + a).toUInt8]
  | three {a : Nat} :
    a < 16 →
    Begun (.inside 1 (if a = 0 then 0xA0 else 0x80) (if a = 0xD then 0x9F else 0xBF) a)
      [(0xE0 + a).toUInt8]
  | threeLast {a : Nat} :
    32 ≤ a → a < 1024 → a < 0x360 ∨ 0x37F < a →
    Begun (.inside 0 0x80 0xBF a) [(0xE0 + a / 64).toUInt8, (0x80 + a % 64).toUInt8]
  | four {a : Nat} :
    a < 5 →
    Begun (.inside 2 (if a = 0 then 0x90 else 0x80) (if a = 4 then 0x8F else 0xBF) a)
      [(0xF0 + a).toUInt8]
  | fourMore {a : Nat} :
    16 ≤ a → a < 0x110 →
    Begun (.inside 1 0x80 0xBF a) [(0xF0 + a / 64).toUInt8, (0x80 + a % 64).toUInt8]
  | fourLast {a : Nat} :
    0x400 ≤ a → a < 0x4400 →
    Begun (.inside 0 0x80 0xBF a)
      [(0xF0 + a / 4096).toUInt8, (0x80 + a / 64 % 64).toUInt8, (0x80 + a % 64).toUInt8]

/-- What a byte does to a decoder that has read `bytes` of a character. -/
inductive Reads (bytes : List UInt8) (b : UInt8) : Move → Prop where
  | more {state : State} :
    Begun state (bytes ++ [b]) →
    Reads bytes b (.more state)
  | char {c : Char} :
    encodeChar c = bytes ++ [b] →
    Reads bytes b (.char c)
  | refuse :
    Reads bytes b .refuse

/-- The first bytes that are not refused. -/
lemma first_cases : ∀ n < 256, first n.toUInt8 = .refuse ∨ n < 128 ∨ 0xC2 ≤ n ∧ n < 0xE0 ∨
    0xE0 ≤ n ∧ n < 0xF0 ∨ 0xF0 ≤ n ∧ n < 0xF5 := by
  decide +kernel

/-- A first byte begins a character, or is one. -/
lemma reads_first (b : UInt8) : Reads [] b (first b) := by
  have small : b.toNat < 256 := b.toNat_lt
  obtain ⟨n, lt, rfl⟩ : ∃ n < 256, b = n.toUInt8 := ⟨b.toNat, small, b.ofNat_toNat.symm⟩
  obtain refused | one | ⟨low, high⟩ | ⟨low, high⟩ | ⟨low, high⟩ := first_cases n lt
  · rw [refused]
    exact .refuse
  · rw [show first n.toUInt8 = .char (Char.ofNat n) from move_one n one]
    refine .char ?_
    have same : (Char.ofNat n).toNat = n := toNat_ofNat_of_valid (by omega)
    simp only [encodeChar, same, if_pos one, List.nil_append]
  · obtain ⟨a, rfl⟩ := Nat.exists_eq_add_of_le (Nat.le_trans (by decide : 0xC0 ≤ 0xC2) low)
    rw [show first _ = _ from move_two a (by omega) (by omega)]
    exact .more (.two (by omega) (by omega))
  · obtain ⟨a, rfl⟩ := Nat.exists_eq_add_of_le low
    rw [show first _ = _ from move_three a (by omega)]
    exact .more (.three (by omega))
  · obtain ⟨a, rfl⟩ := Nat.exists_eq_add_of_le low
    rw [show first _ = _ from move_four a (by omega)]
    exact .more (.four (by omega))

/-- Inside a character it is enough to know what the continuation bytes do that are in range. -/
lemma reads_inside {left bits : Nat} {low high : UInt8} {bytes : List UInt8}
    (above : 0x80 ≤ low.toNat) (below : high.toNat ≤ 0xBF)
    (next : ∀ k < 64, low.toNat ≤ 0x80 + k → 0x80 + k ≤ high.toNat →
      Reads bytes (0x80 + k).toUInt8 (match left with
        | 0 => .char (Char.ofNat (bits * 64 + k))
        | left + 1 => .more (.inside left 0x80 0xBF (bits * 64 + k)))) (b : UInt8) :
    Reads bytes b (move (.inside left low high bits) b) := by
  by_cases fits : low ≤ b ∧ b ≤ high
  case neg =>
    rw [show move (.inside left low high bits) b = .refuse by cases left <;> exact if_neg fits]
    exact .refuse
  case pos =>
    obtain ⟨least, most⟩ := fits
    rw [UInt8.le_iff_toNat_le] at least most
    obtain ⟨k, eq⟩ := Nat.exists_eq_add_of_le (Nat.le_trans above least)
    obtain rfl : b = (0x80 + k).toUInt8 := by rw [← eq]; exact b.ofNat_toNat.symm
    rw [eq] at least most
    rw [move_inside (by omega) least most]
    exact next k (by omega) least most

/-- A byte goes on with the character that the bytes before it began, or it is refused. -/
lemma Begun.reads {state : State} {bytes : List UInt8} (begun : Begun state bytes) (b : UInt8) :
    Reads bytes b (move state b) := by
  cases begun with
  | boundary => exact reads_first b
  | @two a low high =>
    refine reads_inside (by decide) (by decide) (fun k small _ _ => .char ?_) b
    rw [encodeChar_two (by omega) (by omega), show (a * 64 + k) / 64 = a by omega,
      show (a * 64 + k) % 64 = k by omega]
    rfl
  | @three a high =>
    refine reads_inside (by split <;> decide) (by split <;> decide)
      (fun k small least most => .more ?_) b
    have long : 32 ≤ a * 64 + k := by
      split at least <;> simp at least <;> omega
    have valid : a * 64 + k < 0x360 ∨ 0x37F < a * 64 + k := by
      split at most <;> simp at most <;> omega
    have begun := Begun.threeLast long (by omega) valid
    rwa [show (a * 64 + k) / 64 = a by omega, show (a * 64 + k) % 64 = k by omega] at begun
  | @threeLast a low high valid =>
    refine reads_inside (by decide) (by decide) (fun k small _ _ => .char ?_) b
    rw [encodeChar_three (by omega) (by omega) (by omega),
      show (a * 64 + k) / 4096 = a / 64 by omega, show (a * 64 + k) / 64 % 64 = a % 64 by omega,
      show (a * 64 + k) % 64 = k by omega]
    rfl
  | @four a high =>
    refine reads_inside (by split <;> decide) (by split <;> decide)
      (fun k small least most => .more ?_) b
    have long : 16 ≤ a * 64 + k := by
      split at least <;> simp at least <;> omega
    have last : a * 64 + k < 0x110 := by
      split at most <;> simp at most <;> omega
    have begun := Begun.fourMore long last
    rwa [show (a * 64 + k) / 64 = a by omega, show (a * 64 + k) % 64 = k by omega] at begun
  | @fourMore a low high =>
    refine reads_inside (by decide) (by decide) (fun k small _ _ => .more ?_) b
    have begun := Begun.fourLast (a := a * 64 + k) (by omega) (by omega)
    rwa [show (a * 64 + k) / 4096 = a / 64 by omega, show (a * 64 + k) / 64 % 64 = a % 64 by omega,
      show (a * 64 + k) % 64 = k by omega] at begun
  | @fourLast a low high =>
    refine reads_inside (by decide) (by decide) (fun k small _ _ => .char ?_) b
    rw [encodeChar_four (by omega) (by omega), show (a * 64 + k) / 262144 = a / 4096 by omega,
      show (a * 64 + k) / 4096 % 64 = a / 64 % 64 by omega,
      show (a * 64 + k) / 64 % 64 = a % 64 by omega, show (a * 64 + k) % 64 = k by omega]
    rfl

/-- The bytes that are read, after those that began the first character, are those of the text. -/
lemma Begun.encode_eq {state : State} {bytes bs : List UInt8} {cs : List Char}
    (begun : Begun state bytes) (h : decodeFrom state bs = some cs) : encode cs = bytes ++ bs := by
  induction bs generalizing state bytes cs with
  | nil =>
    cases begun with
    | boundary =>
      obtain rfl : [] = cs := Option.some.inj h
      rfl
    | _ => cases h
  | cons b bs ih =>
    have reads := begun.reads b
    cases moves : move state b with
    | more next =>
      rw [moves] at reads
      cases reads with
      | more begun =>
        rw [decodeFrom_of_more moves] at h
        rw [ih begun h, List.append_assoc, List.singleton_append]
    | char c =>
      rw [moves] at reads
      cases reads with
      | char whole =>
        rw [decodeFrom_of_char moves] at h
        obtain ⟨rest, read, rfl⟩ := Option.map_eq_some_iff.1 h
        have same : encode rest = bs := ih .boundary read
        rw [encode, List.flatMap_cons, whole, List.append_assoc, List.singleton_append]
        exact congrArg (bytes ++ b :: ·) same
    | refuse =>
      rw [decodeFrom_of_refuse moves] at h
      cases h

/-- Bytes are read as a text exactly if they are its encoding. -/
theorem decode_eq_some_iff {bs : List UInt8} {cs : List Char} :
    decode bs = some cs ↔ encode cs = bs := by
  constructor
  · exact fun h => Begun.boundary.encode_eq h
  · rintro rfl
    exact decode_encode cs

/-- A character has the bytes that it has in a string. -/
lemma encodeChar_eq (c : Char) : encodeChar c = String.utf8EncodeChar c := by
  have valid := toNat_valid c
  unfold encodeChar String.utf8EncodeChar
  rw [show c.val.toNat = c.toNat from rfl]
  generalize c.toNat = n at valid
  dsimp only
  by_cases one : n < 0x80
  · rw [if_pos one, if_pos (by omega)]
  by_cases two : n < 0x800
  · rw [if_neg one, if_pos two, if_neg (by omega), if_pos (by omega),
      show n / 64 % 32 + 192 = 0xC0 + n / 64 by omega, Nat.add_comm (n % 64)]
  by_cases three : n < 0x10000
  · rw [if_neg one, if_neg two, if_pos three, if_neg (by omega), if_neg (by omega),
      if_pos (by omega), show n / 4096 % 16 + 224 = 0xE0 + n / 4096 by omega,
      Nat.add_comm (n / 64 % 64), Nat.add_comm (n % 64)]
  · rw [if_neg one, if_neg two, if_neg three, if_neg (by omega), if_neg (by omega),
      if_neg (by omega), show n / 262144 % 8 + 240 = 0xF0 + n / 262144 by omega,
      Nat.add_comm (n / 4096 % 64), Nat.add_comm (n / 64 % 64), Nat.add_comm (n % 64)]

/-- A text has the bytes that it has as a string. -/
lemma toByteArray_encode (cs : List Char) : (encode cs).toByteArray = cs.utf8Encode := by
  rw [encode, List.utf8Encode, show encodeChar = String.utf8EncodeChar from funext encodeChar_eq]

/-- Bytes are refused exactly if they are not valid. -/
theorem decode_eq_none_iff {bs : List UInt8} :
    decode bs = none ↔ ¬bs.toByteArray.IsValidUTF8 := by
  have valid : bs.toByteArray.IsValidUTF8 ↔ ∃ cs, decode bs = some cs := by
    constructor
    · rintro ⟨cs, same⟩
      rw [← toByteArray_encode, List.toByteArray_inj] at same
      exact ⟨cs, decode_eq_some_iff.2 same.symm⟩
    · rintro ⟨cs, read⟩
      exact ⟨cs, by rw [← decode_eq_some_iff.1 read, toByteArray_encode]⟩
  rw [valid, Option.eq_none_iff_forall_ne_some, not_exists]

/-! ## Texts behind one another -/

/-- Texts that are joined have their bytes joined. -/
lemma ofString_join (pieces : List String) :
    ofString (String.join pieces) = pieces.flatMap ofString := by
  induction pieces with
  | nil => rfl
  | cons piece pieces ih =>
    rw [String.join_cons, ofString, String.toList_append, encode, List.flatMap_append,
      List.flatMap_cons, ← ih]
    rfl

/-- A character is one byte below 0x80, or several that are not, the first of them no continuation
byte. -/
lemma encodeChar_cases (c : Char) :
    c.toNat < 0x80 ∧ encodeChar c = [c.toNat.toUInt8] ∨
    0x80 ≤ c.toNat ∧ ∃ b bs, encodeChar c = b :: bs ∧ 0xC0 ≤ b.toNat ∧ ∀ b ∈ bs, 0x80 ≤ b.toNat := by
  have valid := toNat_valid c
  have value {n : Nat} (small : n < 256) : n.toUInt8.toNat = n := UInt8.toNat_ofNat_of_lt small
  unfold encodeChar
  generalize c.toNat = n at valid
  dsimp only
  split
  case isTrue one => exact .inl ⟨one, rfl⟩
  case isFalse many =>
  have last : 0x80 ≤ (0x80 + n % 64).toUInt8.toNat := by rw [value (by omega)]; omega
  have second : 0x80 ≤ (0x80 + n / 64 % 64).toUInt8.toNat := by rw [value (by omega)]; omega
  have third : 0x80 ≤ (0x80 + n / 4096 % 64).toUInt8.toNat := by rw [value (by omega)]; omega
  refine .inr ⟨Nat.le_of_not_lt many, ?_⟩
  split
  case isTrue two =>
    exact ⟨_, _, rfl, by rw [value (by omega)]; omega, by simpa using last⟩
  case isFalse =>
  split
  case isTrue three =>
    exact ⟨_, _, rfl, by rw [value (by omega)]; omega, by simpa using ⟨second, last⟩⟩
  case isFalse =>
    exact ⟨_, _, rfl, by rw [value (by omega)]; omega, by simpa using ⟨third, second, last⟩⟩

/-- A character that has begun goes on with a continuation byte. -/
lemma Begun.refuses {state : State} {bytes : List UInt8} {b : UInt8} (begun : Begun state bytes)
    (inside : state ≠ .boundary) (outer : b.toNat < 0x80 ∨ 0xC0 ≤ b.toNat) :
    move state b = .refuse := by
  have misses {left bits : Nat} {low high : UInt8} (above : 0x80 ≤ low.toNat)
      (below : high.toNat ≤ 0xBF) : move (.inside left low high bits) b = .refuse := by
    have out : ¬(low ≤ b ∧ b ≤ high) := by
      rw [UInt8.le_iff_toNat_le, UInt8.le_iff_toNat_le]
      omega
    cases left <;> exact if_neg out
  cases begun with
  | boundary => exact absurd rfl inside
  | three => exact misses (by split <;> decide) (by split <;> decide)
  | four => exact misses (by split <;> decide) (by split <;> decide)
  | two | threeLast | fourMore | fourLast => exact misses (by decide) (by decide)

/-- A character that has begun is not finished by the bytes of a text. -/
lemma Begun.decodeFrom_encode {state : State} {bytes : List UInt8} (begun : Begun state bytes)
    (inside : state ≠ .boundary) (cs : List Char) : decodeFrom state (encode cs) = none := by
  cases cs with
  | nil =>
    cases begun with
    | boundary => exact absurd rfl inside
    | _ => rfl
  | cons c cs =>
    rw [encode, List.flatMap_cons]
    obtain ⟨low, one⟩ | ⟨-, b, bs, many, high, -⟩ := encodeChar_cases c
    · have value : c.toNat.toUInt8.toNat = c.toNat :=
        UInt8.toNat_ofNat_of_lt (show c.toNat < 256 by omega)
      rw [one, List.cons_append,
        decodeFrom_of_refuse (begun.refuses inside (.inl (value.symm ▸ low)))]
    · rw [many, List.cons_append, decodeFrom_of_refuse (begun.refuses inside (.inr high))]

/-- What stands before a text is read as it is read alone. -/
lemma Begun.decodeFrom_append {state : State} {bytes : List UInt8} (begun : Begun state bytes)
    (bs : List UInt8) (cs : List Char) :
    decodeFrom state (bs ++ encode cs) = (decodeFrom state bs).map (· ++ cs) := by
  induction bs generalizing state bytes with
  | nil =>
    by_cases boundary : state = .boundary
    case pos =>
      subst boundary
      exact decode_encode cs
    case neg =>
      have unfinished := begun.decodeFrom_encode boundary
      rw [List.nil_append, unfinished cs, show decodeFrom state [] = none from unfinished []]
      rfl
  | cons b bs ih =>
    have reads := begun.reads b
    rw [List.cons_append]
    cases moves : move state b with
    | more next =>
      rw [moves] at reads
      cases reads with
      | more begun => rw [decodeFrom_of_more moves, decodeFrom_of_more moves, ih begun]
    | char c =>
      rw [decodeFrom_of_char moves, decodeFrom_of_char moves, ih .boundary, Option.map_map,
        Option.map_map]
      rfl
    | refuse => rw [decodeFrom_of_refuse moves, decodeFrom_of_refuse moves, Option.map_none]

/-- A text behind some bytes makes them neither valid nor invalid. -/
theorem decode_append_encode (bs : List UInt8) (cs : List Char) :
    decode (bs ++ encode cs) = (decode bs).map (· ++ cs) :=
  Begun.boundary.decodeFrom_append bs cs

end PointerTagging.Text.Utf8
