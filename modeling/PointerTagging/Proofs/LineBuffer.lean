import Mathlib.Data.List.Induction
import Mathlib.Tactic.Lemma
import PointerTagging.Diagnostic.LineBuffer
import PointerTagging.Proofs.Text.Utf8

/-!
# Diagnostic lines are append-only

Whatever calls are made on a line, none of them reaches outside of the buffer, so the line is always
the list of its bytes (`LineBuffer.ofBytes`), and a call does to that list what its steps do
(`LineBuffer.run?_ofBytes`). It grows at its end only, up to a newline in the last place
(`LineBuffer.append_only`).
-/

namespace PointerTagging

open Text

namespace LineBuffer

/-- What is appended at a time: bytes or a text. -/
inductive Piece where
  | bytes (data : List UInt8)
  | text (s : String)

/-- The bytes of a piece. -/
def Piece.data : Piece → List UInt8
  | .bytes data => data
  | .text s => Utf8.ofString s

/-- Appends a piece. -/
def Piece.put? (line : LineBuffer) : Piece → Option LineBuffer
  | .bytes data => line.push? data
  | .text s => line.write? s

/-- A call on a line. -/
inductive Call where
  | put (piece : Piece)
  | format (pieces : List String)
  | finish

/-- The line after a call. -/
def Call.act? (line : LineBuffer) : Call → Option LineBuffer
  | .put piece => piece.put? line
  | .format pieces => line.format? pieces
  | .finish => line.finish?

/-- The line after some calls. -/
def run? (calls : List Call) (line : LineBuffer) : Option LineBuffer := calls.foldlM Call.act? line

/-- What calls are made of. -/
inductive Step where
  | put (data : List UInt8)
  | finish

/-- The line after a step. -/
def Step.act? (line : LineBuffer) : Step → Option LineBuffer
  | .put data => line.push? data
  | .finish => line.finish?

/-- The steps of a call. -/
def Call.steps : Call → List Step
  | .put piece => [.put piece.data]
  | .format pieces =>
    .put (Utf8.ofString lineHead) :: pieces.map (.put <| Utf8.ofString ·) ++ [.finish]
  | .finish => [.finish]

/-- The line that these bytes make up, the other cells never written. -/
def ofBytes (bytes : List UInt8) : LineBuffer :=
  ⟨bytes ++ List.replicate (capacity - bytes.length) 0, bytes.length⟩

lemma empty_eq : empty = ofBytes [] := rfl

/-- The bytes of a line to which data is appended. -/
def pushed (bytes data : List UInt8) : List UInt8 := bytes ++ data.take (255 - bytes.length)

/-- The bytes of a line that is ended. -/
def ended (bytes : List UInt8) : List UInt8 :=
  if bytes.getLast? ≠ some 0x0A ∧ bytes.length < 256 then bytes ++ [0x0A] else bytes

/-- The bytes of a line after a step. -/
def Step.extend (bytes : List UInt8) : Step → List UInt8
  | .put data => pushed bytes data
  | .finish => ended bytes

variable {bytes data : List UInt8}

/-! ## One step -/

lemma length_pushed (fits : bytes.length ≤ 255) : (pushed bytes data).length ≤ 255 := by
  rw [pushed, List.length_append, List.length_take]
  omega

/-- Nothing is appended to a line that fills the buffer. -/
lemma pushed_of_full (full : 255 ≤ bytes.length) : pushed bytes data = bytes := by
  rw [pushed, Nat.sub_eq_zero_of_le full, List.take_zero, List.append_nil]

/-- Appending in two pieces is appending both at once. -/
lemma pushed_pushed (more : List UInt8) :
    pushed (pushed bytes data) more = pushed bytes (data ++ more) := by
  have room : 255 - (bytes.length + min (255 - bytes.length) data.length) =
      255 - bytes.length - data.length := by omega
  rw [pushed, pushed, pushed, List.length_append, List.length_take, room, List.append_assoc,
    List.take_append]

/-- A line that is ended ends in a newline or fills the buffer. -/
lemma ended_ended : ended (ended bytes) = ended bytes := by
  by_cases ends : bytes.getLast? ≠ some 0x0A ∧ bytes.length < 256
  case pos =>
    rw [show ended bytes = bytes ++ [0x0A] from if_pos ends]
    exact if_neg fun again => again.1 List.getLast?_concat
  case neg => rw [show ended bytes = bytes from if_neg ends, ended, if_neg ends]

lemma prefix_extend (bytes : List UInt8) (step : Step) : bytes <+: step.extend bytes := by
  cases step with
  | put data => exact List.prefix_append _ _
  | finish =>
    rw [Step.extend, ended]
    split
    · exact List.prefix_append _ _
    · exact List.prefix_refl _

lemma length_extend (fits : bytes.length ≤ 256) (step : Step) :
    (step.extend bytes).length ≤ 256 := by
  cases step with
  | put data =>
    by_cases full : 255 ≤ bytes.length
    · rwa [Step.extend, pushed_of_full full]
    · exact Nat.le_succ_of_le (length_pushed (by omega))
  | finish =>
    rw [Step.extend, ended]
    split
    case isTrue ends =>
      rw [List.length_append]
      exact ends.2
    case isFalse => exact fits

/-- Data that has room in the buffer is stored behind the line. -/
lemma store?_ofBytes (room : bytes.length + data.length ≤ capacity) :
    (ofBytes bytes).store? data = some (ofBytes (bytes ++ data)) := by
  have cells : (ofBytes bytes).cells.length = capacity := by
    rw [ofBytes, List.length_append, List.length_replicate]
    omega
  have behind : (ofBytes bytes).cells.drop (bytes.length + data.length) =
      List.replicate (capacity - (bytes ++ data).length) 0 := by
    rw [ofBytes, List.drop_length_add_append, List.drop_replicate, List.length_append,
      Nat.sub_add_eq]
  have before : (ofBytes bytes).cells.take bytes.length = bytes := List.take_left
  have fits : (ofBytes bytes).size + data.length ≤ (ofBytes bytes).cells.length := by
    rw [cells]
    exact room
  rw [store?, if_pos fits]
  show some (LineBuffer.mk ((ofBytes bytes).cells.take bytes.length ++ data ++
    (ofBytes bytes).cells.drop (bytes.length + data.length)) (bytes.length + data.length)) = _
  rw [before, behind, ofBytes, List.length_append]

lemma push?_ofBytes (fits : bytes.length ≤ 256) :
    (ofBytes bytes).push? data = some (ofBytes (pushed bytes data)) := by
  have part : first? data (min data.length (255 - bytes.length)) =
      some (data.take (255 - bytes.length)) := by
    rw [first?, if_pos (Nat.min_le_left _ _), Nat.min_comm, ← List.take_eq_take_min]
  have room : bytes.length + (data.take (255 - bytes.length)).length ≤ 256 := by
    rw [List.length_take]
    omega
  show (first? data (min data.length (255 - bytes.length)) >>= (ofBytes bytes).store?) = _
  rw [part, Option.bind_eq_bind, Option.bind_some, store?_ofBytes room, pushed]

/-- The last byte is read only if there is one. -/
lemma isOpen?_ofBytes (bytes : List UInt8) :
    (ofBytes bytes).isOpen? = some (decide (bytes.getLast? ≠ some 0x0A)) := by
  cases bytes using List.reverseRecOn with
  | nil => rfl
  | append_singleton front b =>
    have nonempty : (ofBytes (front ++ [b])).size ≠ 0 := by simp [ofBytes]
    have read : (ofBytes (front ++ [b])).cells[(ofBytes (front ++ [b])).size - 1]? = some b := by
      simp [ofBytes]
    rw [isOpen?, if_neg nonempty, read, List.getLast?_concat]
    by_cases newline : b = 0x0A <;> simp [newline]

lemma finish?_ofBytes (bytes : List UInt8) :
    (ofBytes bytes).finish? = some (ofBytes (ended bytes)) := by
  have size : (ofBytes bytes).size < capacity ↔ bytes.length < 256 := Iff.rfl
  rw [finish?, isOpen?_ofBytes, Option.bind_eq_bind, Option.bind_some, ended]
  simp only [decide_eq_true_eq, size]
  split
  case isTrue ends => exact store?_ofBytes ends.2
  case isFalse => rfl

/-- A step never reaches outside of the buffer. -/
lemma Step.act?_ofBytes (fits : bytes.length ≤ 256) (step : Step) :
    step.act? (ofBytes bytes) = some (ofBytes (step.extend bytes)) := by
  cases step with
  | put data => exact push?_ofBytes fits
  | finish => exact finish?_ofBytes bytes

lemma bytes?_ofBytes (bytes : List UInt8) : (ofBytes bytes).bytes? = some bytes := by
  have enough : bytes.length ≤ (ofBytes bytes).cells.length := by
    rw [ofBytes, List.length_append]
    exact Nat.le_add_right _ _
  exact (if_pos enough).trans (congrArg some List.take_left)

/-! ## Runs -/

lemma prefix_foldl_extend (steps : List Step) (bytes : List UInt8) :
    bytes <+: steps.foldl Step.extend bytes := by
  induction steps generalizing bytes with
  | nil => exact List.prefix_refl _
  | cons step steps ih => exact (prefix_extend bytes step).trans (ih _)

lemma length_foldl_extend (steps : List Step) (fits : bytes.length ≤ 256) :
    (steps.foldl Step.extend bytes).length ≤ 256 := by
  induction steps generalizing bytes with
  | nil => exact fits
  | cons step steps ih => exact ih (length_extend fits step)

lemma foldlM_ofBytes (steps : List Step) (fits : bytes.length ≤ 256) :
    steps.foldlM Step.act? (ofBytes bytes) = some (ofBytes (steps.foldl Step.extend bytes)) := by
  induction steps generalizing bytes with
  | nil => rfl
  | cons step steps ih =>
    rw [List.foldlM_cons, step.act?_ofBytes fits]
    exact ih (length_extend fits step)

/-- A call takes its steps. -/
lemma Call.act?_eq (call : Call) (line : LineBuffer) :
    call.act? line = call.steps.foldlM Step.act? line := by
  cases call with
  | put piece =>
    rw [Call.steps, List.foldlM_cons]
    cases piece <;> exact (bind_pure _).symm
  | format pieces =>
    have written (line : LineBuffer) : pieces.foldlM write? line =
        (pieces.map (Step.put <| Utf8.ofString ·)).foldlM Step.act? line := by
      rw [List.foldlM_map]
      rfl
    have closed (line : LineBuffer) : line.finish? = [Step.finish].foldlM Step.act? line :=
      (bind_pure _).symm
    simp only [Call.act?, format?, Call.steps, List.cons_append, List.foldlM_cons,
      List.foldlM_append, written, closed]
    rfl
  | finish => exact (bind_pure _).symm

/-- Calls take their steps, one after the other. -/
lemma run?_eq (calls : List Call) (line : LineBuffer) :
    run? calls line = (calls.flatMap Call.steps).foldlM Step.act? line := by
  induction calls generalizing line with
  | nil => rfl
  | cons call calls ih =>
    rw [run?, List.foldlM_cons, List.flatMap_cons, List.foldlM_append, call.act?_eq]
    exact congrArg _ (funext ih)

/-- Calls extend the bytes of a line by what their steps append. -/
theorem run?_ofBytes (calls : List Call) (fits : bytes.length ≤ 256) :
    run? calls (ofBytes bytes) =
      some (ofBytes ((calls.flatMap Call.steps).foldl Step.extend bytes)) := by
  rw [run?_eq, foldlM_ofBytes _ fits]

/-- Pieces are appended as one. -/
lemma foldlM_put? (pieces : List Piece) (fits : bytes.length ≤ 256) :
    pieces.foldlM Piece.put? (ofBytes bytes) =
      some (ofBytes (pushed bytes (pieces.flatMap Piece.data))) := by
  induction pieces generalizing bytes with
  | nil => simp [pushed]
  | cons piece pieces ih =>
    have first : piece.put? (ofBytes bytes) = some (ofBytes (pushed bytes piece.data)) := by
      cases piece <;> exact push?_ofBytes fits
    have fits' : (pushed bytes piece.data).length ≤ 256 := length_extend fits (.put piece.data)
    rw [List.foldlM_cons, first, Option.bind_eq_bind, Option.bind_some, ih fits', pushed_pushed,
      List.flatMap_cons]

/-- A formatted line is its head and its text, cut off and ended. -/
lemma format?_ofBytes (pieces : List String) (fits : bytes.length ≤ 256) :
    (ofBytes bytes).format? pieces =
      some (ofBytes (ended (pushed bytes (Utf8.ofString lineHead ++
        Utf8.ofString (String.join pieces))))) := by
  have text : (pieces.map Piece.text).flatMap Piece.data = Utf8.ofString (String.join pieces) := by
    rw [Utf8.ofString_join, List.flatMap_map]
    rfl
  have written (line : LineBuffer) :
      pieces.foldlM write? line = (pieces.map Piece.text).foldlM Piece.put? line := by
    rw [List.foldlM_map]
    rfl
  have headed : (pushed bytes (Utf8.ofString lineHead)).length ≤ 256 :=
    length_extend fits (.put (Utf8.ofString lineHead))
  rw [format?, write?, push?_ofBytes fits]
  simp only [Option.bind_eq_bind, Option.bind_some, written]
  rw [foldlM_put? _ headed, Option.bind_some, pushed_pushed, text, finish?_ofBytes]

/-- Only ending a line puts a byte into the last place. -/
lemma exists_finish_of_full {steps : List Step}
    (full : (steps.foldl Step.extend []).length = 256) :
    ∃ before after, steps = before ++ .finish :: after ∧
      (before.foldl Step.extend []).length = 255 ∧
      steps.foldl Step.extend [] = before.foldl Step.extend [] ++ [0x0A] := by
  induction steps using List.reverseRecOn with
  | nil => cases full
  | append_singleton steps step ih =>
    rw [List.foldl_append, List.foldl_cons, List.foldl_nil] at full ⊢
    have fits : (steps.foldl Step.extend []).length ≤ 256 := length_foldl_extend steps (by simp)
    -- the last step changes nothing, or it is the one
    have earlier (same : step.extend (steps.foldl Step.extend []) = steps.foldl Step.extend []) :
        ∃ before after, steps ++ [step] = before ++ .finish :: after ∧
          (before.foldl Step.extend []).length = 255 ∧
          step.extend (steps.foldl Step.extend []) = before.foldl Step.extend [] ++ [0x0A] := by
      rw [same] at full ⊢
      obtain ⟨before, after, eq, length, last⟩ := ih full
      exact ⟨before, after ++ [step], by rw [eq, List.append_assoc, List.cons_append], length, last⟩
    cases step with
    | put data =>
      refine earlier (pushed_of_full ?_)
      by_contra short
      have still : (pushed (steps.foldl Step.extend []) data).length ≤ 255 :=
        length_pushed (by omega)
      rw [Step.extend] at full
      omega
    | finish =>
      by_cases ends : (steps.foldl Step.extend []).getLast? ≠ some 0x0A ∧
          (steps.foldl Step.extend []).length < 256
      case neg => exact earlier (if_neg ends)
      case pos =>
        have closed : Step.finish.extend (steps.foldl Step.extend []) =
            steps.foldl Step.extend [] ++ [0x0A] := if_pos ends
        rw [closed] at full ⊢
        refine ⟨steps, [], rfl, ?_, rfl⟩
        rw [List.length_append, List.length_singleton] at full
        omega

/-- The bytes of a fresh line whose text is handed over in pieces. -/
lemma bytes?_format? (pieces : List String) :
    ∃ line, empty.format? pieces = some line ∧ line.bytes? =
      some (ended ((Utf8.ofString lineHead ++ Utf8.ofString (String.join pieces)).take 255)) := by
  rw [empty_eq]
  exact ⟨_, format?_ofBytes pieces (Nat.zero_le 256), bytes?_ofBytes _⟩

end LineBuffer

/-- The line of a text is its head and the text, cut off and ended. -/
theorem diagnosticLine_eq_ended (text : String) : diagnosticLine text =
    LineBuffer.ended ((Utf8.ofString lineHead ++ Utf8.ofString text).take 255) := by
  obtain ⟨line, made, bytes⟩ := LineBuffer.bytes?_format? [text]
  rw [diagnosticLine, LineBuffer.format, made, Option.getD_some, LineBuffer.bytes, bytes,
    Option.getD_some, String.join_cons, String.join_nil, String.append_empty]

namespace LineBuffer

/-- A diagnostic line grows at its end only, and stays inside of its buffer. After any calls on a
fresh line,

* the calls have had a result, so none of their steps has read or written outside of the buffer;
* the line has at most 255 bytes, or it has 256 and the last one is a newline that ending the line
  has put behind the 255 before it;
* the bytes of the line are the first ones of the line after any more calls;
* ending the line once more does not change what ending it gives;
* appending bytes and texts one by one gives the line that appending all of them at once gives, so
  that a diagnostic line does not depend on the pieces in which its text is handed over.

A diagnostic line in a fresh buffer is the first 255 bytes of its head and its text, and a newline
unless these end in one. -/
theorem append_only :
    (∀ calls, ∃ line bytes, run? calls empty = some line ∧ line.bytes? = some bytes ∧
      line.size = bytes.length ∧
      (bytes.length ≤ 255 ∨ bytes.length = 256 ∧ ∃ before after earlier front,
        calls.flatMap Call.steps = before ++ .finish :: after ∧
        before.foldlM Step.act? empty = some earlier ∧ earlier.bytes? = some front ∧
        front.length = 255 ∧ bytes = front ++ [0x0A]) ∧
      (∀ more, ∃ later grown, run? (calls ++ more) empty = some later ∧
        later.bytes? = some grown ∧ bytes <+: grown) ∧
      (∃ closed, line.finish? = some closed ∧ closed.finish? = some closed) ∧
      (∀ pieces : List Piece,
        pieces.foldlM Piece.put? line = line.push? (pieces.flatMap Piece.data)) ∧
      ∀ pieces, line.format? pieces = line.format? [String.join pieces]) ∧
    ∀ pieces, ∃ line, empty.format? pieces = some line ∧
      let start := (Utf8.ofString lineHead ++ Utf8.ofString (String.join pieces)).take 255
      let whole := if start.getLast? = some 0x0A then start else start ++ [0x0A]
      line.bytes? = some whole ∧ diagnosticLine (String.join pieces) = whole := by
  constructor
  · intro calls
    rw [empty_eq]
    let steps := calls.flatMap Call.steps
    let bytes := steps.foldl Step.extend []
    have fits : bytes.length ≤ 256 := length_foldl_extend steps (Nat.zero_le 256)
    refine ⟨ofBytes bytes, bytes, run?_ofBytes calls (Nat.zero_le 256), bytes?_ofBytes bytes, rfl,
      ?bounded, ?grows, ⟨_, finish?_ofBytes bytes, ?_⟩, ?pieces, ?formatted⟩
    case bounded =>
      obtain short | full := Nat.le_or_eq_of_le_succ fits
      · exact .inl short
      · obtain ⟨before, after, eq, length, last⟩ := exists_finish_of_full full
        exact .inr ⟨full, before, after, _, _, eq, foldlM_ofBytes before (Nat.zero_le 256),
          bytes?_ofBytes _, length, last⟩
    case grows =>
      intro more
      refine ⟨_, _, run?_ofBytes (calls ++ more) (Nat.zero_le 256), bytes?_ofBytes _, ?_⟩
      rw [List.flatMap_append, List.foldl_append]
      exact prefix_foldl_extend _ bytes
    case pieces =>
      intro pieces
      rw [foldlM_put? pieces fits, push?_ofBytes fits]
    case formatted =>
      intro pieces
      rw [format?_ofBytes pieces fits, format?_ofBytes _ fits, String.join_cons, String.join_nil,
        String.append_empty]
    rw [finish?_ofBytes, ended_ended]
  · intro pieces
    obtain ⟨line, made, bytes⟩ := bytes?_format? pieces
    have whole (start : List UInt8) (short : start.length < 256) : ended start =
        if start.getLast? = some 0x0A then start else start ++ [0x0A] := by
      by_cases newline : start.getLast? = some 0x0A <;> simp [ended, newline, short]
    have short : ((Utf8.ofString lineHead ++
        Utf8.ofString (String.join pieces)).take 255).length < 256 :=
      Nat.lt_succ_of_le (List.length_take_le _ _)
    rw [whole _ short] at bytes
    refine ⟨line, made, bytes, ?_⟩
    rw [diagnosticLine_eq_ended, whole _ short]

end LineBuffer

end PointerTagging
