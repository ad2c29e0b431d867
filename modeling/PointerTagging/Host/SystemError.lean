/-!
# System errors

Why the system refuses a request, with the text and the number of each reason.
-/

namespace PointerTagging.Host

/-- Why the system refuses a request. -/
inductive SystemError where
  | notPermitted
  | notFound
  | noSuchProcess
  | argumentsTooLong
  | badFormat
  | badDescriptor
  | permissionDenied
  | busy
  | alreadyThere
  | notADirectory
  | isADirectory
  | invalidArgument
  | tooLarge
  | noSpace
  | nameTooLong
  | notEmpty
  | tooManyLinks
  deriving DecidableEq, Repr

namespace SystemError

/-- The number of the error. -/
def number : SystemError → Nat
  | .notPermitted => 1
  | .notFound => 2
  | .noSuchProcess => 3
  | .argumentsTooLong => 7
  | .badFormat => 8
  | .badDescriptor => 9
  | .permissionDenied => 13
  | .busy => 16
  | .alreadyThere => 17
  | .notADirectory => 20
  | .isADirectory => 21
  | .invalidArgument => 22
  | .tooLarge => 27
  | .noSpace => 28
  | .nameTooLong => 36
  | .notEmpty => 39
  | .tooManyLinks => 40

/-- The text of the error. -/
def text : SystemError → String
  | .notPermitted => "Operation not permitted"
  | .notFound => "No such file or directory"
  | .noSuchProcess => "No such process"
  | .argumentsTooLong => "Argument list too long"
  | .badFormat => "Exec format error"
  | .badDescriptor => "Bad file descriptor"
  | .permissionDenied => "Permission denied"
  | .busy => "Device or resource busy"
  | .alreadyThere => "File exists"
  | .notADirectory => "Not a directory"
  | .isADirectory => "Is a directory"
  | .invalidArgument => "Invalid argument"
  | .tooLarge => "File too large"
  | .noSpace => "No space left on device"
  | .nameTooLong => "File name too long"
  | .notEmpty => "Directory not empty"
  | .tooManyLinks => "Too many levels of symbolic links"

/-- The text of the error with its number. -/
def message (error : SystemError) : String :=
  error.text ++ " (os error " ++ toString error.number ++ ")"

/-- True of the errors that only say that there is nothing at a path. -/
def isAbsence : SystemError → Bool
  | .notFound => true
  | .notADirectory => true
  | _ => false

end SystemError

end PointerTagging.Host
