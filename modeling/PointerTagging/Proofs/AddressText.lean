import PointerTagging.Proofs.Text.Grammar
import PointerTagging.Report.Address

/-!
# Addresses as text

An address is read from exactly the texts that the grammar of numbers gives it, once underscores are
dropped behind the prefix. It is read back from the text of a report and from its decimal digits,
wherever underscores are put into those (`addresses_read`).
-/

namespace PointerTagging

open Text

/-- The text `cs` with underscores put in, as many as one likes and anywhere. -/
inductive Separated (cs : List Char) : List Char → Prop where
  | refl :
    Separated cs cs
  | insert {front back : List Char} :
    Separated cs (front ++ back) →
    Separated cs (front ++ '_' :: back)

variable {cs ds : List Char} {value : Nat}

/-- The underscores that are put in are the ones that are dropped. -/
lemma Separated.dropSeparators_eq (separated : Separated cs ds) :
    dropSeparators ds = dropSeparators cs := by
  induction separated with
  | refl => rfl
  | insert _ ih =>
    rw [← ih]
    simp [dropSeparators]

/-- What holds of the characters of a text, and of underscores, holds with underscores put in. -/
lemma Separated.forall_mem {p : Char → Prop} (separated : Separated cs ds) (h : ∀ c ∈ cs, p c)
    (underscore : p '_') : ∀ c ∈ ds, p c := by
  induction separated with
  | refl => exact h
  | insert _ ih =>
    obtain ⟨front, back⟩ := List.forall_mem_append.1 ih
    exact List.forall_mem_append.2 ⟨front, List.forall_mem_cons.2 ⟨underscore, back⟩⟩

/-- An address is the number that its text is, below 2^64, and every other text is refused. -/
lemma parseAddress_cases (input : String) :
    (∃ addr, parseAddress input = .ok addr ∧
      Numeral.Number dropSeparators (trim input.toList) addr.toNat) ∨
    parseAddress input = .error ⟨input⟩ ∧
      ∀ value < UInt64.size, ¬Numeral.Number dropSeparators (trim input.toList) value := by
  unfold parseAddress
  dsimp only
  split
  case h_1 value read =>
    obtain ⟨number, below⟩ := Numeral.read_number_iff.1 read
    have toNat : value.toUInt64.toNat = value := UInt64.toNat_ofNat_of_lt' below
    exact .inl ⟨_, rfl, toNat.symm ▸ number⟩
  case h_2 read =>
    refine .inr ⟨rfl, fun value below number => ?_⟩
    cases read.symm.trans (Numeral.read_number_iff.2 ⟨number, below⟩)

/-- An address is read from the number that it is. -/
lemma parseAddress_eq_ok_iff {input : String} {addr : UInt64} : parseAddress input = .ok addr ↔
    Numeral.Number dropSeparators (trim input.toList) addr.toNat := by
  obtain ⟨other, eq, number⟩ | ⟨eq, none⟩ := parseAddress_cases input
  · rw [eq]
    constructor
    · rintro ⟨⟩
      exact number
    · intro number'
      rw [UInt64.toNat_inj.1 (number.unique number')]
  · rw [eq]
    exact iff_of_false nofun (none _ addr.toNat_lt)

/-- A text is refused, as it was given, exactly if it is no number below 2^64. -/
lemma parseAddress_eq_error_iff {input : String} {error : InvalidAddress} :
    parseAddress input = .error error ↔ error = ⟨input⟩ ∧
      ¬∃ value < 2 ^ 64, Numeral.Number dropSeparators (trim input.toList) value := by
  obtain ⟨addr, eq, number⟩ | ⟨eq, none⟩ := parseAddress_cases input
  · rw [eq]
    exact iff_of_false nofun fun h => h.2 ⟨_, addr.toNat_lt, number⟩
  · rw [eq, Except.error.injEq, eq_comm, iff_self_and]
    rintro - ⟨value, below, number⟩
    exact none value below number

/-- Printed digits are left when underscores that were put into them are dropped. -/
lemma Separated.dropSeparators_of_digits {base : Nat} (small : base ≤ 16)
    (digits : ∀ c ∈ cs, Numeral.isDigit base c = true) (separated : Separated cs ds) :
    dropSeparators ds = cs := by
  rw [separated.dropSeparators_eq, dropSeparators, List.filter_eq_self]
  intro c mem
  have other : c ≠ '_' := Numeral.of_isDigit small (p := (· ≠ '_')) (by decide) (digits c mem)
  simpa using other

/-- Digits with underscores have no white space to trim. -/
lemma Separated.isBlank_eq_false {base : Nat} (small : base ≤ 16)
    (digits : ∀ c ∈ cs, Numeral.isDigit base c = true) (separated : Separated cs ds) :
    ∀ c ∈ ds, isBlank c = false :=
  separated.forall_mem (fun c mem => Numeral.isBlank_of_isDigit small (digits c mem)) rfl

/-- An address is read back from sixteen hexadecimal digits, with underscores among them. -/
lemma parseAddress_of_padded {addr : UInt64}
    (separated : Separated (Numeral.padded 16 16 addr.toNat) ds) :
    parseAddress (String.ofList ('0' :: 'x' :: ds)) = .ok addr := by
  have digits : ∀ c ∈ Numeral.padded 16 16 addr.toNat, Numeral.isDigit 16 c = true :=
    fun c => Numeral.isDigit_of_mem_padded (by decide)
  have unblank : ∀ c ∈ '0' :: 'x' :: ds, isBlank c = false :=
    List.forall_mem_cons.2 ⟨rfl, List.forall_mem_cons.2
      ⟨rfl, separated.isBlank_eq_false (by decide) digits⟩⟩
  have value : Numeral.valueFrom 16 0 (Numeral.padded 16 16 addr.toNat) = some addr.toNat := by
    rw [Numeral.valueFrom_padded (by decide) (by decide), Nat.mod_eq_of_lt
      (show addr.toNat < 16 ^ 16 from addr.toNat_lt)]
  rw [parseAddress_eq_ok_iff, String.toList_ofList, trim_eq_self unblank]
  refine .hex (.lower ds) ?_
  rw [separated.dropSeparators_of_digits (by decide) digits]
  refine .plain ((Numeral.valueFrom_eq_some_iff (by decide)).1 ⟨?_, value⟩)
  exact List.ne_nil_of_length_eq_add_one (Numeral.length_padded 16 16 _)

/-- An address is read back from its decimal digits, with underscores among them. -/
lemma parseAddress_of_decimal {addr : UInt64}
    (separated : Separated (Numeral.digits 10 addr.toNat) ds) :
    parseAddress (String.ofList ds) = .ok addr := by
  have digits : ∀ c ∈ Numeral.digits 10 addr.toNat, Numeral.isDigit 10 c = true :=
    fun c => Numeral.isDigit_of_mem_digits (by decide)
  rw [parseAddress_eq_ok_iff, String.toList_ofList,
    trim_eq_self (separated.isBlank_eq_false (by decide) digits)]
  refine .decimal (fun body behind => ?_) ?_
  · -- the second character of the prefix is neither a decimal digit nor an underscore
    have plain : ∀ c ∈ ds, c ≠ 'x' ∧ c ≠ 'X' := by
      refine separated.forall_mem (fun c mem => ?_) (by decide)
      obtain ⟨d, mem, same⟩ := List.any_eq_true.1 (digits c mem)
      rw [eq_of_beq same]
      exact (by decide : ∀ d < 10, Numeral.digitChar d ≠ 'x' ∧ Numeral.digitChar d ≠ 'X') d
        (List.mem_range.1 mem)
    cases behind with
    | lower => exact (plain 'x' (by simp)).1 rfl
    | upper => exact (plain 'X' (by simp)).2 rfl
  · rw [separated.dropSeparators_of_digits (by decide) digits]
    exact .plain ((Numeral.valueFrom_eq_some_iff (by decide)).1
      ⟨Numeral.digits_ne_nil _, Numeral.valueFrom_digits (by decide) (by decide) _⟩)

/-- The text of an address has eighteen characters. -/
lemma length_addressText (addr : UInt64) : (addressText addr).length = 18 := by
  have body : (String.ofList (Numeral.padded 16 16 addr.toNat)).length = 16 := by
    rw [String.length_ofList, Numeral.length_padded]
  rw [addressText, Numeral.hexPadded, String.length_append, body]
  rfl

/-- An address is read back from its text. -/
lemma parseAddress_addressText (addr : UInt64) : parseAddress (addressText addr) = .ok addr := by
  have text : addressText addr =
      String.ofList ('0' :: 'x' :: Numeral.padded 16 16 addr.toNat) := by
    simp [← String.toList_inj, addressText, Numeral.hexPadded]
  rw [text]
  exact parseAddress_of_padded .refl

/-- Addresses are read from exactly the texts that the grammar of numbers gives them.

* A text, trimmed of the white space around it, is read as an address exactly if it begins with `0x`
  or `0X` and what is behind that, without its underscores, is a hexadecimal numeral of that value,
  or it does not and is, without its underscores, a decimal one. Every other text is refused as it
  was given, and so is a number that does not fit in a word.
* Every address is read back from the eighteen characters that a report prints it with, and from its
  decimal digits, as they are or with any number of underscores put in anywhere among the digits. -/
theorem addresses_read :
    (∀ input, Trimmed input.toList (trim input.toList) ∧
      (∀ addr, parseAddress input = .ok addr ↔
        Numeral.Number dropSeparators (trim input.toList) addr.toNat) ∧
      ∀ error, parseAddress input = .error error ↔ error = ⟨input⟩ ∧
        ¬∃ value < 2 ^ 64, Numeral.Number dropSeparators (trim input.toList) value) ∧
    ∀ addr : UInt64, (addressText addr).length = 18 ∧
      parseAddress (addressText addr) = .ok addr ∧
      parseAddress (Numeral.decimal addr.toNat) = .ok addr ∧
      (∀ ds, Separated (Numeral.padded 16 16 addr.toNat) ds →
        parseAddress (String.ofList ('0' :: 'x' :: ds)) = .ok addr) ∧
      ∀ ds, Separated (Numeral.digits 10 addr.toNat) ds →
        parseAddress (String.ofList ds) = .ok addr := by
  exact ⟨fun input => ⟨trimmed_trim _, fun _ => parseAddress_eq_ok_iff,
    fun _ => parseAddress_eq_error_iff⟩, fun addr => ⟨length_addressText addr,
    parseAddress_addressText addr, parseAddress_of_decimal .refl, fun _ => parseAddress_of_padded,
    fun _ => parseAddress_of_decimal⟩⟩

/-- An underscore among the digits that a report prints, and one behind them. -/
theorem addresses_read_separated :
    Separated (Numeral.padded 16 16 (4096 : UInt64).toNat) "000000000000_1000_".toList ∧
      parseAddress "0x000000000000_1000_" = .ok 4096 := by
  have separated :
      Separated (Numeral.padded 16 16 (4096 : UInt64).toNat) "000000000000_1000_".toList :=
    @Separated.insert _ "000000000000".toList "1000_".toList
      (@Separated.insert _ "0000000000001000".toList [] .refl)
  obtain ⟨-, -, -, padded, -⟩ := addresses_read.2 4096
  exact ⟨separated, padded _ separated⟩

/-- Underscores do not count, but the sign has to stand behind the prefix. -/
example : parseAddress " 0x_+1_0 " = .ok 16 ∧ parseAddress "+0x10" = .error ⟨"+0x10"⟩ :=
  ⟨by rfl, by rfl⟩

end PointerTagging
