import GatewayDesk.Text.Utf8

/-!
# What can go wrong with files
-/

namespace GatewayDesk

/-- Why an operation on a file fails. -/
inductive FileError where
  | notFound
  | isDirectory
  | notDirectory
  | exists
  | nameTooLong
  | busy
  /-- The path holds a NUL character. -/
  | nulInPath
  /-- The contents of a file are not text. -/
  | notText
  /-- The contents of an input are not text. -/
  | badText (fault : Utf8.Fault)
  deriving DecidableEq, Repr

/-- The error in words. -/
def FileError.message : FileError → String
  | .notFound => "No such file or directory (os error 2)"
  | .isDirectory => "Is a directory (os error 21)"
  | .notDirectory => "Not a directory (os error 20)"
  | .exists => "File exists (os error 17)"
  | .nameTooLong => "File name too long (os error 36)"
  | .busy => "Device or resource busy (os error 16)"
  | .nulInPath => "file name contained an unexpected NUL byte"
  | .notText => "stream did not contain valid UTF-8"
  | .badText fault => fault.message

end GatewayDesk
