import PointerTagging.Report.Address
import PointerTagging.Session.Machine
import PointerTagging.Text.Json
/-!
# Session logs

The answers of a session as JSON values, and its events as lines of text.
-/

namespace PointerTagging.Session

open Text

/-- Two hexadecimal digits for each byte. -/
def hexBytes (bytes : List UInt8) : String :=
  String.ofList (bytes.flatMap fun b => Numeral.padded 16 2 b.toNat)

/-- A size as decimal digits. -/
def sizeText (size : UInt64) : String := Numeral.decimal size.toNat

/-- A configuration as a JSON value. -/
def configJson (config : Config) : Json :=
  .record [
    ("policy", .string config.policy.name),
    ("tag", .number config.tag.value.toNat),
    ("threshold", .string (sizeText config.threshold)),
    ("trace", .bool config.trace)]

/-- An answer as a JSON value. -/
def Answer.toJson : Answer → Json
  | .pointer addr => .string (addressText addr)
  | .freed => .null
  | .size n => .string (sizeText n)
  | .stored => .string "ok"
  | .bytes data => .string (hexBytes data)
  | .fault => .string "fault"
  | .ready none => .string "ready"
  | .ready (some addr) => .string ("ready " ++ addressText addr)
  | .bootstrapping => .string "bootstrapping"
  | .failed => .string "failed"
  | .inArena b => .bool b
  | .chunk none => .null
  | .chunk (some addr) => .string (addressText addr)
  | .chunkSize none => .null
  | .chunkSize (some n) => .string (sizeText n)
  | .stats bound binds used =>
    .record [
      ("arena_used", .number used),
      ("binds", .list (binds.map .number)),
      ("bound", .list (bound.map .bool))]
  | .config c => configJson c

/-- The word for a call. -/
def Call.name : Call → String
  | .request (.malloc _) => "malloc"
  | .request (.calloc _ _) => "calloc"
  | .request (.realloc _ _) => "realloc"
  | .request (.free _) => "free"
  | .request (.usableSize _) => "usable"
  | .write _ _ => "write"
  | .read _ _ => "read"
  | .lookup _ => "lookup"
  | .arenaAlloc _ => "arena_alloc"
  | .arenaContains _ => "contains"
  | .arenaUsable _ => "arena_usable"
  | .stats => "stats"
  | .config => "config"

/-- The word for the end of a resolution. -/
def Outcome.name : Outcome → String
  | .ok => "ok"
  | .null => "null"
  | .unresolved => "unresolved"
  | .unbound => "unbound"

/-- A request of the heap as text. -/
def requestText : Request RealAddr → String
  | .malloc size => "malloc(" ++ sizeText size ++ ")"
  | .calloc count size => "calloc(" ++ sizeText count ++ ", " ++ sizeText size ++ ")"
  | .realloc addr size => "realloc(" ++ addressText addr.value ++ ", " ++ sizeText size ++ ")"
  | .free addr => "free(" ++ addressText addr.value ++ ")"
  | .usableSize addr => "malloc_usable_size(" ++ addressText addr.value ++ ")"

/-- What a request of the heap returns, as text behind it. -/
def responseText : Response RealAddr → String
  | .pointer addr => " = " ++ addressText addr.value
  | .freed => ""
  | .size n => " = " ++ sizeText n

/-- An event as a line of text. -/
def Event.text : Event → String
  | .real request response known =>
    "real " ++ requestText request ++ responseText response ++ (if known then "" else " unknown")
  | .cleared addr len fault =>
    "zero(" ++ addressText addr.value ++ ", " ++ sizeText len ++ ")" ++
      (if fault then " fault" else "")
  | .resolve s => "resolve " ++ s.name
  | .inside s call answer => "in " ++ s.name ++ ": " ++ call.name ++ " -> " ++ answer.toJson.compact
  | .resolved s outcome => "resolved " ++ s.name ++ " " ++ outcome.name

end PointerTagging.Session
