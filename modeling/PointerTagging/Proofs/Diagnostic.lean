import Mathlib.Tactic.Lemma
import PointerTagging.Diagnostic
import PointerTagging.Proofs.LineBuffer
import PointerTagging.Proofs.Text.Numeral
import PointerTagging.Proofs.Text.Utf8

/-!
# Reading diagnostics back

The lines of a session, those of the trace and those about symbols, fit the buffer that they are
written in (`Diagnostic.line_eq`, `Diagnostic.length_line_le`). No two of them are alike, and what
is written on standard error tells which of them were written, and in which order
(`Diagnostic.lines_injective`).
-/

namespace PointerTagging

open Text

/-- Two texts that go on with a character that does not belong to their first part have the same
first part. -/
lemma append_cons_inj {α : Type} {p : α → Bool} {xs ys s t : List α} {c d : α}
    (left : ∀ x ∈ xs, p x = true) (right : ∀ y ∈ ys, p y = true) (stop : p c = false)
    (stop' : p d = false) (h : xs ++ c :: s = ys ++ d :: t) : xs = ys ∧ c :: s = d :: t := by
  have part {zs rest : List α} {e : α} (all : ∀ z ∈ zs, p z = true) (other : p e = false) :
      (zs ++ e :: rest).takeWhile p = zs := by
    rw [List.takeWhile_append_of_pos all, List.takeWhile_cons_of_neg (by simp [other]),
      List.append_nil]
  have same : xs = ys := by rw [← part left stop, h, part right stop']
  exact ⟨same, List.append_cancel_left (same ▸ h)⟩

namespace Text

/-- True of the printable characters of ASCII. -/
def isPrintable (c : Char) : Bool := 0x20 ≤ c.toNat && c.toNat < 0x7F

/-- A digit is printable. -/
lemma isPrintable_of_isDigit {base : Nat} (small : base ≤ 16) {c : Char}
    (h : Numeral.isDigit base c = true) : isPrintable c = true :=
  Numeral.of_isDigit small (p := (isPrintable · = true)) (by decide) h

/-- A printable character takes one byte, which is no newline. -/
lemma encodeChar_of_isPrintable {c : Char} (h : isPrintable c = true) :
    Utf8.encodeChar c = [c.toNat.toUInt8] ∧ c.toNat.toUInt8 ≠ 0x0A := by
  simp only [isPrintable, Bool.and_eq_true, decide_eq_true_eq] at h
  refine ⟨if_pos (by omega), fun newline => ?_⟩
  have value : c.toNat.toUInt8.toNat = c.toNat :=
    UInt8.toNat_ofNat_of_lt (show c.toNat < 256 by omega)
  rw [newline] at value
  have ten : (0x0A : UInt8).toNat = 10 := rfl
  omega

/-- A printable text takes a byte for each character, none of them a newline. -/
lemma encode_of_isPrintable {cs : List Char} (h : ∀ c ∈ cs, isPrintable c = true) :
    (Utf8.encode cs).length = cs.length ∧ ∀ b ∈ Utf8.encode cs, b ≠ 0x0A := by
  induction cs with
  | nil => exact ⟨rfl, nofun⟩
  | cons c cs ih =>
    obtain ⟨first, rest⟩ := List.forall_mem_cons.mp h
    obtain ⟨single, other⟩ := encodeChar_of_isPrintable first
    obtain ⟨length, others⟩ := ih rest
    rw [Utf8.encode, List.flatMap_cons, single]
    refine ⟨congrArg (· + 1) length, List.forall_mem_cons.mpr ⟨other, others⟩⟩

/-- Printed digits before a character that is none are those of one number only. -/
lemma Numeral.digits_append_inj {base : Nat} (large : 2 ≤ base) (small : base ≤ 16) {m n : Nat}
    {c d : Char} {s t : List Char} (stop : isDigit base c = false) (stop' : isDigit base d = false)
    (h : digits base m ++ c :: s = digits base n ++ d :: t) : m = n ∧ c :: s = d :: t := by
  obtain ⟨same, rest⟩ := append_cons_inj (fun _ => isDigit_of_mem_digits large)
    (fun _ => isDigit_of_mem_digits large) stop stop' h
  exact ⟨digits_injective large small same, rest⟩

end Text

/-- A short printable text is written whole, between the beginning of every line and a newline. -/
theorem diagnosticLine_eq {text : String} (printable : ∀ c ∈ text.toList, isPrintable c = true)
    (short : text.toList.length ≤ 246) :
    diagnosticLine text = Utf8.ofString lineHead ++ Utf8.ofString text ++ [0x0A] := by
  obtain ⟨length, others⟩ := encode_of_isPrintable printable
  have head : Utf8.ofString lineHead = [0x74, 0x61, 0x67, 0x73, 0x68, 0x69, 0x6D, 0x3A, 0x20] := rfl
  have size : (Utf8.ofString lineHead ++ Utf8.ofString text).length ≤ 255 := by
    rw [List.length_append, head, Utf8.ofString, length]
    show 9 + text.toList.length ≤ 255
    omega
  have last : (Utf8.ofString lineHead ++ Utf8.ofString text).getLast? ≠ some 0x0A := by
    intro newline
    obtain mem | mem := List.mem_append.mp (List.mem_of_getLast? newline)
    · rw [head] at mem
      exact absurd mem (by decide)
    · exact others _ mem rfl
  rw [diagnosticLine_eq_ended, List.take_of_length_le size]
  exact if_pos ⟨last, Nat.lt_succ_of_le size⟩

namespace Diagnostic

/-- True of the lines of the trace. -/
def isTrace : Diagnostic → Bool
  | .malloc _ _ | .calloc _ _ _ | .realloc _ _ _ | .free _ => true
  | .rejected _ | .symbol _ => false

/-- True of the lines that a session writes whose settings were not read from an environment. -/
def isSession : Diagnostic → Bool
  | .rejected _ => false
  | _ => true

/-! ## The texts -/

section Texts

variable (size count : UInt64) (addr result : PresentedAddr)

/-- The digits of an address, behind `0x`. -/
lemma toList_address :
    (address addr).toList = '0' :: 'x' :: Numeral.digits 16 addr.value.toNat := by
  simp [address, Numeral.hex]

/-- The digits of a size. -/
lemma toList_amount : (amount size).toList = Numeral.digits 10 size.toNat := by
  simp [amount, Numeral.decimal]

/-- The text of a traced `malloc`. -/
lemma toList_malloc : (Diagnostic.malloc size result).text.toList =
    "malloc(".toList ++ (Numeral.digits 10 size.toNat ++ ')' :: ' ' :: '=' :: ' ' ::
      '0' :: 'x' :: Numeral.digits 16 result.value.toNat) := by
  simp [text, toList_address, toList_amount]

/-- The text of a traced `calloc`. -/
lemma toList_calloc : (Diagnostic.calloc count size result).text.toList =
    "calloc(".toList ++ (Numeral.digits 10 count.toNat ++ ',' :: ' ' ::
      (Numeral.digits 10 size.toNat ++ ')' :: ' ' :: '=' :: ' ' ::
        '0' :: 'x' :: Numeral.digits 16 result.value.toNat)) := by
  simp [text, toList_address, toList_amount]

/-- The text of a traced `realloc`. -/
lemma toList_realloc : (Diagnostic.realloc addr size result).text.toList =
    "realloc(0x".toList ++ (Numeral.digits 16 addr.value.toNat ++ ',' :: ' ' ::
      (Numeral.digits 10 size.toNat ++ ')' :: ' ' :: '=' :: ' ' ::
        '0' :: 'x' :: Numeral.digits 16 result.value.toNat)) := by
  simp [text, toList_address, toList_amount]

/-- The text of a traced `free`. -/
lemma toList_free : (Diagnostic.free addr).text.toList =
    "free(0x".toList ++ (Numeral.digits 16 addr.value.toNat ++ [')']) := by
  simp [text, toList_address]

/-- The text about a symbol that the loader does not find. -/
lemma toList_unresolved (s : Symbol) : (Diagnostic.symbol (.unresolved s)).text.toList =
    "could not resolve next `".toList ++ s.name.toList ++ "`".toList := by
  show ("could not resolve next `" ++ s.name ++ "`").toList = _
  rw [String.toList_append, String.toList_append]

/-- The text about a symbol whose slot holds no address. -/
lemma toList_unbound (s : Symbol) : (Diagnostic.symbol (.unbound s)).text.toList =
    "`".toList ++ s.name.toList ++
      "` is not bound; refusing to call through a null slot".toList := by
  show ("`" ++ s.name ++ "` is not bound; refusing to call through a null slot").toList = _
  rw [String.toList_append, String.toList_append]

end Texts

/-- A printable text of at most `n` characters. -/
structure Fits (n : Nat) (cs : List Char) : Prop where
  printable : ∀ c ∈ cs, isPrintable c = true
  length : cs.length ≤ n

namespace Fits

variable {m n : Nat} {cs ds : List Char}

/-- A text whose characters are tested. -/
lemma of_all (printable : cs.all isPrintable = true) (length : cs.length ≤ n) : Fits n cs :=
  ⟨List.all_eq_true.mp printable, length⟩

/-- One text behind another. -/
lemma append (first : Fits m cs) (second : Fits n ds) : Fits (m + n) (cs ++ ds) where
  printable := List.forall_mem_append.mpr ⟨first.printable, second.printable⟩
  length := by
    rw [List.length_append]
    exact Nat.add_le_add first.length second.length

/-- The digits of a size. -/
lemma decimal (size : UInt64) : Fits 20 (Numeral.digits 10 size.toNat) where
  printable := fun _ mem =>
    isPrintable_of_isDigit (by decide) (Numeral.isDigit_of_mem_digits (by decide) mem)
  length := Numeral.length_digits_le (Nat.lt_of_lt_of_le size.toNat_lt (by decide))

/-- The digits of an address. -/
lemma hex (addr : PresentedAddr) : Fits 16 (Numeral.digits 16 addr.value.toNat) where
  printable := fun _ mem =>
    isPrintable_of_isDigit (by decide) (Numeral.isDigit_of_mem_digits (by decide) mem)
  length := Numeral.length_digits_le (Nat.lt_of_lt_of_le addr.value.toNat_lt (by decide))

/-- What a traced call ends with: the address that it returns. -/
lemma result (addr : PresentedAddr) :
    Fits 22 (')' :: ' ' :: '=' :: ' ' :: '0' :: 'x' :: Numeral.digits 16 addr.value.toNat) :=
  append (of_all (by decide) (by decide) : Fits 6 [')', ' ', '=', ' ', '0', 'x']) (hex addr)

/-- A text between a comma and what follows. -/
lemma comma (rest : Fits n cs) : Fits (2 + n) (',' :: ' ' :: cs) :=
  append (of_all (by decide) (by decide) : Fits 2 [',', ' ']) rest

end Fits

/-- The lines of a session are printable and short. -/
lemma fits_text {d : Diagnostic} (session : d.isSession = true) : Fits 246 d.text.toList := by
  have short {n : Nat} {cs : List Char} (text : Fits n cs) (le : n ≤ 246) : Fits 246 cs :=
    ⟨text.printable, Nat.le_trans text.length le⟩
  cases d with
  | malloc size result =>
    rw [toList_malloc]
    have rest := Fits.append (.decimal size) (.result result)
    exact short (.append (m := 7) (.of_all (by decide) (by decide)) rest) (by decide)
  | calloc count size result =>
    rw [toList_calloc]
    have sizes := Fits.append (.decimal count) (.comma (.append (.decimal size) (.result result)))
    exact short (.append (m := 7) (.of_all (by decide) (by decide)) sizes) (by decide)
  | realloc addr size result =>
    rw [toList_realloc]
    have moved := Fits.append (.hex addr) (.comma (.append (.decimal size) (.result result)))
    exact short (.append (m := 10) (.of_all (by decide) (by decide)) moved) (by decide)
  | free addr =>
    rw [toList_free]
    have closed : Fits 17 (Numeral.digits 16 addr.value.toNat ++ [')']) :=
      .append (.hex addr) (.of_all (by decide) (by decide) : Fits 1 [')'])
    exact short (.append (m := 7) (.of_all (by decide) (by decide)) closed) (by decide)
  | rejected error => cases session
  | symbol error =>
    have name (s : Symbol) : Fits 18 s.name.toList := by
      cases s <;> exact .of_all (by decide) (by decide)
    cases error with
    | unresolved s =>
      rw [toList_unresolved]
      have begun : Fits 24 "could not resolve next `".toList := .of_all (by decide) (by decide)
      exact short (.append (n := 1) (begun.append (name s)) (.of_all (by decide) (by decide)))
        (by decide)
    | unbound s =>
      rw [toList_unbound]
      have begun : Fits 1 "`".toList := .of_all (by decide) (by decide)
      exact short (.append (n := 60) (begun.append (name s)) (.of_all (by decide) (by decide)))
        (by decide)

/-- The line of a report of a session holds its text whole. -/
theorem line_eq {d : Diagnostic} (session : d.isSession = true) :
    d.line = Utf8.ofString lineHead ++ Utf8.ofString d.text ++ [0x0A] :=
  diagnosticLine_eq (fits_text session).printable (fits_text session).length

/-- The line of a report of a session fits the buffer. -/
theorem length_line_le {d : Diagnostic} (session : d.isSession = true) :
    d.line.length ≤ LineBuffer.capacity := by
  obtain ⟨printable, short⟩ := fits_text session
  have length := (encode_of_isPrintable printable).1
  rw [line_eq session, List.length_append, List.length_append, Utf8.ofString, Utf8.ofString, length]
  show 9 + d.text.toList.length + 1 ≤ 256
  omega

/-! ## Reading the texts back -/

/-- How a text begins tells what is reported. -/
def initials : Diagnostic → List Char
  | .malloc _ _ => ['m', 'a']
  | .calloc _ _ _ => ['c', 'a']
  | .realloc _ _ _ => ['r', 'e']
  | .free _ => ['f', 'r']
  | .symbol (.unresolved _) => ['c', 'o']
  | .symbol (.unbound s) => '\x60' :: s.name.toList.take 1
  | .rejected _ => []

/-- The text of a report of a session begins so. -/
lemma take_text {d : Diagnostic} (session : d.isSession = true) :
    d.text.toList.take 2 = d.initials := by
  cases d with
  | malloc size result => rw [toList_malloc]; rfl
  | calloc count size result => rw [toList_calloc]; rfl
  | realloc addr size result => rw [toList_realloc]; rfl
  | free addr => rw [toList_free]; rfl
  | rejected error => cases session
  | symbol error =>
    cases error with
    | unresolved s => rw [toList_unresolved]; rfl
    | unbound s => rw [toList_unbound]; cases s <;> rfl

/-- Addresses with the same digits are the same. -/
lemma address_inj {addr addr' : PresentedAddr}
    (h : Numeral.digits 16 addr.value.toNat = Numeral.digits 16 addr'.value.toNat) : addr = addr' :=
  congrArg PresentedAddr.mk
    (UInt64.toNat_inj.mp (Numeral.digits_injective (by decide) (by decide) h))

/-- A size, and the address that is returned, are read off what a text ends with. -/
lemma result_inj {size size' : UInt64} {result result' : PresentedAddr}
    (h : Numeral.digits 10 size.toNat ++ ')' :: ' ' :: '=' :: ' ' :: '0' :: 'x' ::
        Numeral.digits 16 result.value.toNat =
      Numeral.digits 10 size'.toNat ++ ')' :: ' ' :: '=' :: ' ' :: '0' :: 'x' ::
        Numeral.digits 16 result'.value.toNat) : size = size' ∧ result = result' := by
  obtain ⟨size_eq, rest⟩ :=
    Numeral.digits_append_inj (by decide) (by decide) (by decide) (by decide) h
  simp only [List.cons.injEq, true_and] at rest
  exact ⟨UInt64.toNat_inj.mp size_eq, address_inj rest⟩

/-- No two symbols have the same name. -/
lemma symbol_name_inj {s t : Symbol} (h : s.name.toList = t.name.toList) : s = t := by
  revert h
  cases s <;> cases t <;> decide

/-- A text is read off what stands around it. -/
lemma append_append_inj {first last cs ds : List Char}
    (h : first ++ cs ++ last = first ++ ds ++ last) : cs = ds :=
  List.append_cancel_left (List.append_cancel_right h)

/-- No two reports of a session have the same text. -/
theorem text_injective {d e : Diagnostic} (session : d.isSession = true)
    (session' : e.isSession = true) (h : d.text.toList = e.text.toList) : d = e := by
  have kind : d.initials = e.initials := by rw [← take_text session, h, take_text session']
  cases d with
  | malloc size result =>
    cases e with
    | malloc size' result' =>
      rw [toList_malloc, toList_malloc] at h
      obtain ⟨rfl, rfl⟩ := result_inj (List.append_cancel_left h)
      rfl
    | symbol error => cases error <;> simp [initials] at kind
    | _ => simp [initials] at kind
  | calloc count size result =>
    cases e with
    | calloc count' size' result' =>
      rw [toList_calloc, toList_calloc] at h
      obtain ⟨count_eq, rest⟩ := Numeral.digits_append_inj (by decide) (by decide) (by decide)
        (by decide) (List.append_cancel_left h)
      simp only [List.cons.injEq, true_and] at rest
      obtain ⟨rfl, rfl⟩ := result_inj rest
      obtain rfl := UInt64.toNat_inj.mp count_eq
      rfl
    | symbol error => cases error <;> simp [initials] at kind
    | _ => simp [initials] at kind
  | realloc addr size result =>
    cases e with
    | realloc addr' size' result' =>
      rw [toList_realloc, toList_realloc] at h
      obtain ⟨addr_eq, rest⟩ := Numeral.digits_append_inj (by decide) (by decide) (by decide)
        (by decide) (List.append_cancel_left h)
      simp only [List.cons.injEq, true_and] at rest
      obtain ⟨rfl, rfl⟩ := result_inj rest
      obtain rfl := address_inj (congrArg (Numeral.digits 16) addr_eq)
      rfl
    | symbol error => cases error <;> simp [initials] at kind
    | _ => simp [initials] at kind
  | free addr =>
    cases e with
    | free addr' =>
      rw [toList_free, toList_free] at h
      obtain ⟨addr_eq, -⟩ := Numeral.digits_append_inj (by decide) (by decide) (by decide)
        (by decide) (List.append_cancel_left h)
      obtain rfl := address_inj (congrArg (Numeral.digits 16) addr_eq)
      rfl
    | symbol error => cases error <;> simp [initials] at kind
    | _ => simp [initials] at kind
  | rejected error => cases session
  | symbol error =>
    cases e with
    | symbol error' =>
      cases error with
      | unresolved s =>
        cases error' with
        | unresolved t =>
          rw [toList_unresolved, toList_unresolved] at h
          rw [symbol_name_inj (append_append_inj h)]
        | unbound t => simp [initials] at kind
      | unbound s =>
        cases error' with
        | unresolved t => simp [initials] at kind
        | unbound t =>
          rw [toList_unbound, toList_unbound] at h
          rw [symbol_name_inj (append_append_inj h)]
    | rejected error' => cases session'
    | _ => cases error <;> simp [initials] at kind

/-- No two reports of a session are written as the same line. -/
theorem line_injective {d e : Diagnostic} (session : d.isSession = true)
    (session' : e.isSession = true) (h : d.line = e.line) : d = e := by
  rw [line_eq session, line_eq session'] at h
  have texts := Utf8.encode_injective (List.append_cancel_left (List.append_cancel_right h))
  exact text_injective session session' texts

/-- What a session writes on standard error tells what was reported, and in which order. -/
theorem lines_injective {xs ys : List Diagnostic} (session : ∀ d ∈ xs, d.isSession = true)
    (session' : ∀ d ∈ ys, d.isSession = true) (h : lines xs = lines ys) : xs = ys := by
  -- each line ends with its only newline, so the first lines are the same, and then the others
  induction xs generalizing ys with
  | nil =>
    cases ys with
    | nil => rfl
    | cons e ys =>
      rw [lines, lines, List.flatMap_cons, line_eq (session' e List.mem_cons_self)] at h
      simp at h
  | cons d xs ih =>
    cases ys with
    | nil =>
      rw [lines, lines, List.flatMap_cons, line_eq (session d List.mem_cons_self)] at h
      simp at h
    | cons e ys =>
      obtain ⟨first, others⟩ := List.forall_mem_cons.mp session
      obtain ⟨first', others'⟩ := List.forall_mem_cons.mp session'
      rw [lines, lines, List.flatMap_cons, List.flatMap_cons, line_eq first, line_eq first'] at h
      simp only [List.append_assoc, List.singleton_append] at h
      have whole {d : Diagnostic} (session : d.isSession = true) :
          ∀ b ∈ Utf8.ofString d.text, (b != 0x0A) = true := fun b mem =>
        bne_iff_ne.mpr ((encode_of_isPrintable (fits_text session).printable).2 b mem)
      obtain ⟨texts, rest⟩ := append_cons_inj (whole first) (whole first') rfl rfl
        (List.append_cancel_left h)
      rw [text_injective first first' (Utf8.encode_injective texts),
        ih others others' (List.cons.inj rest).2]

end Diagnostic

end PointerTagging
