/-!
# Errors of the operating system

Why an operation on files or addresses failed, with the number the system gives to the cause.
-/

namespace GatewayDirectory

/-- A cause reported by the operating system, or bytes of a file that are no text. -/
inductive OsError where
  | notFound
  | permissionDenied
  | exists
  | notDirectory
  | isDirectory
  | nameTooLong
  | addressUnavailable
  | notText
deriving DecidableEq, Inhabited

/-- The message of a cause. -/
def OsError.message : OsError → String
  | .notFound => "No such file or directory (os error 2)"
  | .permissionDenied => "Permission denied (os error 13)"
  | .exists => "File exists (os error 17)"
  | .notDirectory => "Not a directory (os error 20)"
  | .isDirectory => "Is a directory (os error 21)"
  | .nameTooLong => "File name too long (os error 36)"
  | .addressUnavailable => "Cannot assign requested address (os error 99)"
  | .notText => "stream did not contain valid UTF-8"

end GatewayDirectory
