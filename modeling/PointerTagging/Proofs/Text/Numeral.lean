import Mathlib.Tactic.Lemma
import Mathlib.Algebra.Group.Nat.Defs
import PointerTagging.Text.Blank
import PointerTagging.Text.Numeral

/-!
# Reading printed numerals

A numeral, printed with as few digits as it takes or with a fixed number of them, reads back as the
number that it was printed from (`valueFrom_digits`, `valueFrom_padded`, `read?_eq`). So no two
numbers print alike. The characters of a numeral are digits, which are neither white space nor
signs.
-/

namespace PointerTagging.Text.Numeral

variable {base : Nat}

/-- A digit is read as its value, in every base up to 16 that has it. -/
lemma digit?_digitChar (small : base ≤ 16) {d : Nat} (h : d < base) :
    digit? base (digitChar d) = some d :=
  (by decide : ∀ base ≤ 16, ∀ d < base, digit? base (digitChar d) = some d) base small d h

/-- True of the characters of printed digits. -/
def isDigit (base : Nat) (c : Char) : Bool := (List.range base).any fun d => c == digitChar d

/-- A printed digit is such a character. -/
lemma isDigit_digitChar {d : Nat} (h : d < base) : isDigit base (digitChar d) = true :=
  List.any_eq_true.mpr ⟨d, List.mem_range.mpr h, beq_self_eq_true _⟩

/-- What holds of all digits below 16 holds of a printed digit. -/
lemma of_isDigit {p : Char → Prop} (small : base ≤ 16) (digits : ∀ d < 16, p (digitChar d))
    {c : Char} (h : isDigit base c = true) : p c := by
  obtain ⟨d, mem, same⟩ := List.any_eq_true.mp h
  rw [eq_of_beq same]
  exact digits d (Nat.lt_of_lt_of_le (List.mem_range.mp mem) small)

/-- A printed numeral is not empty. -/
lemma digits_ne_nil (n : Nat) : digits base n ≠ [] := by
  rw [digits]
  split <;> simp

/-- A printed numeral consists of digits. -/
lemma isDigit_of_mem_digits (large : 2 ≤ base) {n : Nat} {c : Char} (mem : c ∈ digits base n) :
    isDigit base c = true := by
  fun_induction digits base n with
  | case1 n h =>
    rw [List.mem_singleton.mp mem]
    exact isDigit_digitChar (by omega)
  | case2 n h ih =>
    obtain mem | mem := List.mem_append.mp mem
    · exact ih mem
    · rw [List.mem_singleton.mp mem]
      exact isDigit_digitChar (Nat.mod_lt _ (by omega))

/-- A numeral that is printed with a fixed number of digits consists of digits. -/
lemma isDigit_of_mem_padded (large : 2 ≤ base) {width n : Nat} {c : Char}
    (mem : c ∈ padded base width n) : isDigit base c = true := by
  induction width generalizing n with
  | zero => cases mem
  | succ width ih =>
    obtain mem | mem := List.mem_append.mp mem
    · exact ih mem
    · rw [List.mem_singleton.mp mem]
      exact isDigit_digitChar (Nat.mod_lt _ (by omega))

/-- A numeral that is printed with a fixed number of digits has that many. -/
lemma length_padded (base width n : Nat) : (padded base width n).length = width := by
  induction width generalizing n with
  | zero => rfl
  | succ width ih => rw [padded, List.length_append, ih, List.length_singleton]

/-- A number below a power of the base takes no more digits than the exponent. -/
lemma length_digits_le {n width : Nat} (h : n < base ^ (width + 1)) :
    (digits base n).length ≤ width + 1 := by
  induction width generalizing n with
  | zero =>
    rw [digits, if_pos (.inl (by simpa using h))]
    exact Nat.le_refl 1
  | succ width ih =>
    rw [digits]
    split
    · simp
    · have shorter := ih (Nat.div_lt_of_lt_mul (Nat.pow_succ' ▸ h))
      simpa using shorter

/-- The value of a text is found from the left. -/
lemma valueFrom_append (value : Nat) (cs ds : List Char) :
    valueFrom base value (cs ++ ds) =
      (valueFrom base value cs).bind fun value => valueFrom base value ds := by
  induction cs generalizing value with
  | nil => rfl
  | cons c cs ih =>
    rw [List.cons_append, valueFrom, valueFrom, Option.bind_assoc]
    exact congrArg _ (funext fun d => ih _)

/-- One more digit. -/
lemma valueFrom_concat (small : base ≤ 16) {value : Nat} {cs : List Char} {read d : Nat}
    (h : valueFrom base value cs = some read) (digit : d < base) :
    valueFrom base value (cs ++ [digitChar d]) = some (read * base + d) := by
  rw [valueFrom_append, h, Option.bind_some, valueFrom, digit?_digitChar small digit]
  rfl

/-- A printed numeral has the value of the number. -/
theorem valueFrom_digits (large : 2 ≤ base) (small : base ≤ 16) (n : Nat) :
    valueFrom base 0 (digits base n) = some n := by
  fun_induction digits base n with
  | case1 n h =>
    have single : valueFrom base 0 ([] ++ [digitChar n]) = some (0 * base + n) :=
      valueFrom_concat small rfl (by omega)
    simpa using single
  | case2 n h ih =>
    rw [valueFrom_concat small ih (Nat.mod_lt _ (by omega)), Nat.div_add_mod']

/-- A numeral of a fixed number of digits has the value of the last digits of the number. -/
theorem valueFrom_padded (large : 2 ≤ base) (small : base ≤ 16) (width n : Nat) :
    valueFrom base 0 (padded base width n) = some (n % base ^ width) := by
  induction width generalizing n with
  | zero => rw [Nat.pow_zero, Nat.mod_one]; rfl
  | succ width ih =>
    rw [padded, valueFrom_concat small (ih _) (Nat.mod_lt _ (by omega)), Nat.pow_succ',
      Nat.mod_mul, Nat.mul_comm, Nat.add_comm]

/-- No two numbers print alike. -/
theorem digits_injective (large : 2 ≤ base) (small : base ≤ 16) {m n : Nat}
    (h : digits base m = digits base n) : m = n := by
  have read := valueFrom_digits large small m
  rw [h, valueFrom_digits large small] at read
  exact (Option.some.inj read).symm

/-- No two numbers print alike that a fixed number of digits has room for. -/
theorem padded_injective (large : 2 ≤ base) (small : base ≤ 16) {width m n : Nat}
    (hm : m < base ^ width) (hn : n < base ^ width)
    (h : padded base width m = padded base width n) : m = n := by
  have read := valueFrom_padded large small width m
  rw [h, valueFrom_padded large small, Nat.mod_eq_of_lt hm, Nat.mod_eq_of_lt hn] at read
  exact (Option.some.inj read).symm

/-- A text of digits carries no sign. -/
lemma unsigned_of_isDigit (small : base ≤ 16) {cs : List Char}
    (digits : ∀ c ∈ cs, isDigit base c = true) : unsigned cs = cs := by
  unfold unsigned
  split
  case h_1 cs =>
    have sign : '+' ≠ '+' := of_isDigit small (p := (· ≠ '+')) (by decide) (digits '+' (by simp))
    exact absurd rfl sign
  case h_2 => rfl

/-- A text of digits whose value is below the bound is read as that value. -/
theorem read?_eq (small : base ≤ 16) {cs : List Char} (nonempty : cs ≠ [])
    (digits : ∀ c ∈ cs, isDigit base c = true) {value bound : Nat}
    (h : valueFrom base 0 cs = some value) (below : value < bound) :
    read? base bound cs = some value := by
  unfold read?
  rw [unsigned_of_isDigit small digits]
  cases cs with
  | nil => exact absurd rfl nonempty
  | cons c cs =>
    simp only [h]
    exact Option.filter_some_pos (decide_eq_true below)

/-- A digit is not white space. -/
lemma isBlank_of_isDigit (small : base ≤ 16) {c : Char} (h : isDigit base c = true) :
    isBlank c = false :=
  of_isDigit small (p := (isBlank · = false)) (by decide) h

end PointerTagging.Text.Numeral

namespace PointerTagging.Text

/-- Trimming leaves a text without white space as it is. -/
lemma trim_eq_self {cs : List Char} (h : ∀ c ∈ cs, isBlank c = false) : trim cs = cs := by
  have dropped {ds : List Char} (same : ∀ c ∈ ds, isBlank c = false) :
      ds.dropWhile isBlank = ds := by
    cases ds with
    | nil => rfl
    | cons c ds => rw [List.dropWhile_cons_of_neg (by simp [same c])]
  rw [trim, trimStart, dropped h, trimEnd, dropped fun c mem => h c (List.mem_reverse.mp mem),
    List.reverse_reverse]

end PointerTagging.Text
