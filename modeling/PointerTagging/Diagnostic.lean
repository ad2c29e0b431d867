import PointerTagging.Diagnostic.LineBuffer
import PointerTagging.Request
import PointerTagging.Setting
import PointerTagging.Symbol
import PointerTagging.Text.Numeral
/-!
# Diagnostics

What the library reports on standard error, as data, and the line that each report becomes.
-/

namespace PointerTagging

open Text

/-- A report on standard error. -/
inductive Diagnostic where
  /-- A traced `malloc` and its result. -/
  | malloc (size : UInt64) (result : PresentedAddr)
  /-- A traced `calloc` and its result. -/
  | calloc (count size : UInt64) (result : PresentedAddr)
  /-- A traced `realloc` and its result. -/
  | realloc (addr : PresentedAddr) (size : UInt64) (result : PresentedAddr)
  /-- A traced `free`. -/
  | free (addr : PresentedAddr)
  /-- A setting that is not used. -/
  | rejected (error : SettingError)
  /-- A symbol that cannot be called. -/
  | symbol (error : SymbolError)
  deriving DecidableEq, Repr

namespace Diagnostic

/-- An address in a diagnostic: as few digits as it takes. -/
def address (addr : PresentedAddr) : String := Numeral.hex addr.value.toNat

/-- A size in a diagnostic. -/
def amount (size : UInt64) : String := Numeral.decimal size.toNat

/-- The text of a report. -/
def text : Diagnostic → String
  | .malloc size result => "malloc(" ++ amount size ++ ") = " ++ address result
  | .calloc count size result =>
    "calloc(" ++ amount count ++ ", " ++ amount size ++ ") = " ++ address result
  | .realloc addr size result =>
    "realloc(" ++ address addr ++ ", " ++ amount size ++ ") = " ++ address result
  | .free addr => "free(" ++ address addr ++ ")"
  | .rejected error => error.message ++ "; using default"
  | .symbol error => error.message

/-- The bytes of the line for a report. -/
def line (report : Diagnostic) : List UInt8 := diagnosticLine report.text

end Diagnostic

/-- The bytes that a list of reports writes. -/
def Diagnostic.lines (reports : List Diagnostic) : List UInt8 := reports.flatMap Diagnostic.line

end PointerTagging
