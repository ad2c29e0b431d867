import Mathlib.Data.List.Induction
import PointerTagging.Proofs.Text.Numeral

/-!
# What numerals look like

The grammar of numerals, and what the readers accept of it. A numeral is one or more digits
(`Numeral.Digits`), behind a `+` or not (`Numeral.Spells`), and a number is one in base 16 behind `0x`
or one in base 10 (`Numeral.Number`). The readers take exactly those whose value is below their bound
(`Numeral.read?_eq_some_iff`, `Numeral.read_number_iff`). Trimming takes off all white space at both
ends, and nothing else (`trimmed_trim`).
-/

namespace PointerTagging.Text

/-- The text `core` is `cs` without the white space around it: it neither begins nor ends with any. -/
structure Trimmed (cs core : List Char) : Prop where
  around : ∃ before after, cs = before ++ core ++ after ∧
    (∀ c ∈ before, isBlank c = true) ∧ ∀ c ∈ after, isBlank c = true
  first : ∀ c ∈ core.head?, isBlank c = false
  last : ∀ c ∈ core.getLast?, isBlank c = false

/-- Trimming takes the white space off. -/
lemma trimmed_trim (cs : List Char) : Trimmed cs (trim cs) := by
  have front : cs.takeWhile isBlank ++ trimStart cs = cs := List.takeWhile_append_dropWhile
  have back : trim cs ++ ((trimStart cs).reverse.takeWhile isBlank).reverse = trimStart cs := by
    rw [trim, trimEnd, ← List.reverse_append, List.takeWhile_append_dropWhile, List.reverse_reverse]
  have unblank (ds : List Char) : ∀ c ∈ (ds.dropWhile isBlank).head?, isBlank c = false := by
    intro c mem
    have h := List.head?_dropWhile_not isBlank ds
    rw [mem] at h
    exact h
  refine ⟨⟨_, _, by rw [List.append_assoc, back, front], List.all_eq_true.1 List.all_takeWhile,
    fun c mem => List.all_eq_true.1 List.all_takeWhile c (List.mem_reverse.1 mem)⟩, ?first, ?last⟩
  case first =>
    intro c mem
    refine unblank cs c ?_
    rw [← trimStart, ← back, List.head?_append, mem]
    rfl
  case last =>
    rw [trim, trimEnd, List.getLast?_reverse]
    exact unblank _

/-- White space around a text does not change what is left of it. -/
lemma trim_padded {before after : List Char} (front : ∀ c ∈ before, isBlank c = true)
    (back : ∀ c ∈ after, isBlank c = true) (cs : List Char) :
    trim (before ++ (cs ++ after)) = trim cs := by
  have none : after.dropWhile isBlank = [] := by
    rw [← List.append_nil after, List.dropWhile_append_of_pos back, List.dropWhile_nil]
  have last (ds : List Char) : trimEnd (ds ++ after) = trimEnd ds := by
    rw [trimEnd, List.reverse_append,
      List.dropWhile_append_of_pos fun c mem => back c (List.mem_reverse.1 mem), trimEnd]
  rw [trim, trimStart, List.dropWhile_append_of_pos front, List.dropWhile_append, trim, trimStart]
  cases cs.dropWhile isBlank with
  | nil => rw [none]; rfl
  | cons c core => exact last (c :: core)

namespace Numeral

variable {base d : Nat} {c : Char} {cs : List Char} {value : Nat}

/-- The character is the digit of value `d`. A letter may be in either case. -/
def IsDigitOf (base : Nat) (c : Char) (d : Nat) : Prop :=
  d < base ∧ (c = digitChar d ∨ c = (digitChar d).toUpper)

/-- One or more digits, the most significant first, and the value that they spell. -/
inductive Digits (base : Nat) : List Char → Nat → Prop where
  | one {c : Char} {d : Nat} :
    IsDigitOf base c d →
    Digits base [c] d
  | more {cs : List Char} {value : Nat} {c : Char} {d : Nat} :
    Digits base cs value →
    IsDigitOf base c d →
    Digits base (cs ++ [c]) (value * base + d)

/-- A numeral: digits, behind a `+` or not. -/
inductive Spells (base : Nat) : List Char → Nat → Prop where
  | plain {cs : List Char} {value : Nat} :
    Digits base cs value →
    Spells base cs value
  | signed {cs : List Char} {value : Nat} :
    Digits base cs value →
    Spells base ('+' :: cs) value

/-- What is behind `0x` or `0X`. -/
inductive Behind : List Char → List Char → Prop where
  | lower (body : List Char) :
    Behind ('0' :: 'x' :: body) body
  | upper (body : List Char) :
    Behind ('0' :: 'X' :: body) body

/-- A number in base 16 behind the prefix, or in base 10 without it. What stands for it in the text is
`clean`ed first. -/
inductive Number (clean : List Char → List Char) : List Char → Nat → Prop where
  | hex {cs body : List Char} {value : Nat} :
    Behind cs body →
    Spells 16 (clean body) value →
    Number clean cs value
  | decimal {cs : List Char} {value : Nat} :
    (∀ body, ¬Behind cs body) →
    Spells 10 (clean cs) value →
    Number clean cs value

/-- A character is read as the digit that it is. -/
lemma digit?_eq_some_iff (small : base ≤ 16) : digit? base c = some d ↔ IsDigitOf base c d := by
  constructor
  · intro h
    simp only [digit?, Option.ite_none_right_eq_some, Option.some.injEq] at h
    obtain ⟨lt, eq⟩ := h
    rw [eq] at lt
    refine ⟨lt, ?_⟩
    split at eq
    case isTrue decimal =>
      have low : 48 ≤ c.toNat := decimal.1
      have high : c.toNat ≤ 57 := decimal.2
      have same : 48 + d = c.toNat := by rw [← eq]; exact Nat.add_sub_cancel' low
      left
      rw [digitChar, if_pos (by omega), show '0'.toNat = 48 from rfl, same, Char.ofNat_toNat]
    case isFalse =>
    split at eq
    case isTrue letter =>
      have low : 97 ≤ c.toNat := letter.1
      have same : c.toNat = 97 + (d - 10) := by
        rw [show 'a'.toNat = 97 from rfl] at eq
        omega
      left
      rw [digitChar, if_neg (by omega), show 'a'.toNat = 97 from rfl, ← same, Char.ofNat_toNat]
    case isFalse =>
    split at eq
    case isTrue capital =>
      have low : 65 ≤ c.toNat := capital.1
      have same : c.toNat = 65 + (d - 10) := by
        rw [show 'A'.toNat = 65 from rfl] at eq
        omega
      have upper : ∀ k < 6, Char.ofNat (65 + k) = (Char.ofNat (97 + k)).toUpper := by decide
      right
      rw [digitChar, if_neg (by omega), show 'a'.toNat = 97 from rfl, ← upper _ (by omega), ← same,
        Char.ofNat_toNat]
    case isFalse => exact absurd lt (by omega)
  · rintro ⟨lt, rfl | rfl⟩
    · exact digit?_digitChar small lt
    · exact (by decide : ∀ base ≤ 16, ∀ d < base, digit? base (digitChar d).toUpper = some d)
        base small d lt

/-- What holds of all digits below 16, in either case, holds of a digit. -/
lemma IsDigitOf.elim {p : Char → Prop} (small : base ≤ 16)
    (lower : ∀ d < 16, p (digitChar d)) (upper : ∀ d < 16, p (digitChar d).toUpper)
    (h : IsDigitOf base c d) : p c := by
  obtain ⟨lt, rfl | rfl⟩ := h
  · exact lower d (by omega)
  · exact upper d (by omega)

/-- Digits are read as the value that they spell. -/
lemma valueFrom_eq_some_iff (small : base ≤ 16) :
    cs ≠ [] ∧ valueFrom base 0 cs = some value ↔ Digits base cs value := by
  constructor
  · rintro ⟨nonempty, read⟩
    induction cs using List.reverseRecOn generalizing value with
    | nil => exact absurd rfl nonempty
    | append_singleton cs c ih =>
      rw [valueFrom_append] at read
      obtain ⟨front, readFront, read⟩ := Option.bind_eq_some_iff.1 read
      obtain ⟨d, digit, read⟩ := Option.bind_eq_some_iff.1 read
      obtain rfl := Option.some.inj read
      have digit := (digit?_eq_some_iff small).1 digit
      cases cs with
      | nil =>
        obtain rfl := Option.some.inj readFront
        rw [Nat.zero_mul, Nat.zero_add]
        exact .one digit
      | cons => exact .more (ih (by simp) readFront) digit
  · intro digits
    induction digits with
    | @one c d digit =>
      refine ⟨by simp, ?_⟩
      rw [valueFrom, (digit?_eq_some_iff small).2 digit, Nat.zero_mul]
      exact congrArg some (Nat.zero_add d)
    | @more cs value c d digits digit ih =>
      refine ⟨by simp, ?_⟩
      rw [valueFrom_append, ih.2, Option.bind_some, valueFrom, (digit?_eq_some_iff small).2 digit]
      rfl

/-- What holds of every digit holds of every character of a text of digits. -/
lemma Digits.forall_mem {p : Char → Prop} (digits : Digits base cs value)
    (h : ∀ c d, IsDigitOf base c d → p c) : ∀ c ∈ cs, p c := by
  induction digits with
  | one digit => exact List.forall_mem_singleton.2 (h _ _ digit)
  | more digits digit ih =>
    exact List.forall_mem_append.2 ⟨ih, List.forall_mem_singleton.2 (h _ _ digit)⟩

/-- The reader takes the numerals whose value is below the bound, and nothing else. -/
theorem read?_eq_some_iff (small : base ≤ 16) {bound : Nat} :
    read? base bound cs = some value ↔ Spells base cs value ∧ value < bound := by
  -- the sign is taken off first, so the rest has to be digits
  have rest : read? base bound cs = some value ↔
      Digits base (unsigned cs) value ∧ value < bound := by
    rw [← valueFrom_eq_some_iff small, read?]
    cases unsigned cs with
    | nil => simp
    | cons d ds => simp [Option.filter_eq_some_iff]
  have sign (c : Char) (d : Nat) (digit : IsDigitOf base c d) : c ≠ '+' :=
    digit.elim small (p := (· ≠ '+')) (by decide) (by decide)
  refine rest.trans (and_congr_left fun _ => ⟨fun digits => ?_, fun spells => ?_⟩)
  · unfold unsigned at digits
    split at digits
    case h_1 => exact .signed digits
    case h_2 => exact .plain digits
  · cases spells with
    | plain digits =>
      unfold unsigned
      split
      case h_1 cs => exact absurd rfl (digits.forall_mem sign '+' List.mem_cons_self)
      case h_2 => exact digits
    | signed digits => exact digits

/-- A numeral has one value. -/
lemma Spells.unique (small : base ≤ 16) {other : Nat} (spells : Spells base cs value)
    (spells' : Spells base cs other) : value = other := by
  have read := (read?_eq_some_iff small).2
    ⟨spells, Nat.lt_succ_of_le (Nat.le_add_right value other)⟩
  have read' := (read?_eq_some_iff small).2
    ⟨spells', Nat.lt_succ_of_le (Nat.le_add_left other value)⟩
  exact Option.some.inj (read.symm.trans read')

/-- The text behind the prefix is found. -/
lemma hexBody?_eq_some_iff {body : List Char} : hexBody? cs = some body ↔ Behind cs body := by
  constructor
  · intro h
    unfold hexBody? at h
    split at h
    case h_1 => cases h; exact .lower body
    case h_2 => cases h; exact .upper body
    case h_3 => cases h
  · rintro (_ | _) <;> rfl

/-- No text has two prefixes. -/
lemma Behind.unique {body body' : List Char} (behind : Behind cs body) (behind' : Behind cs body') :
    body = body' :=
  Option.some.inj ((hexBody?_eq_some_iff.2 behind).symm.trans (hexBody?_eq_some_iff.2 behind'))

/-- A number has one value. -/
lemma Number.unique {clean : List Char → List Char} {other : Nat} (number : Number clean cs value)
    (number' : Number clean cs other) : value = other := by
  cases number with
  | hex behind spells =>
    cases number' with
    | hex behind' spells' =>
      rw [behind.unique behind'] at spells
      exact spells.unique (by decide) spells'
    | decimal bare _ => exact absurd behind (bare _)
  | decimal bare spells =>
    cases number' with
    | hex behind _ => exact absurd behind (bare _)
    | decimal _ spells' => exact spells.unique (by decide) spells'

/-- A reader that goes by the prefix takes the numbers below the bound, and nothing else. -/
theorem read_number_iff {clean : List Char → List Char} {bound : Nat} :
    (match hexBody? cs with
      | some body => read? 16 bound (clean body)
      | none => read? 10 bound (clean cs)) = some value ↔
      Number clean cs value ∧ value < bound := by
  cases found : hexBody? cs with
  | some body =>
    have behind := hexBody?_eq_some_iff.1 found
    refine (read?_eq_some_iff (by decide)).trans (and_congr_left fun _ => ⟨.hex behind, ?_⟩)
    intro number
    cases number with
    | hex behind' spells =>
      rw [hexBody?_eq_some_iff.2 behind'] at found
      cases found
      exact spells
    | decimal bare spells => exact absurd behind (bare body)
  | none =>
    have bare (body : List Char) : ¬Behind cs body := by
      rw [← hexBody?_eq_some_iff, found]
      exact nofun
    refine (read?_eq_some_iff (by decide)).trans (and_congr_left fun _ => ⟨.decimal bare, ?_⟩)
    intro number
    cases number with
    | hex behind spells => exact absurd behind (bare _)
    | decimal _ spells => exact spells

end Numeral

end PointerTagging.Text
