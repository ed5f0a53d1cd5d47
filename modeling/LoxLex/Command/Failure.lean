/-!
# Input that cannot be read
-/

namespace LoxLex

inductive ReadFailure
  | notFound
  | permissionDenied
  | notDirectory
  | isDirectory
  | nameTooLong
  | invalidUtf8
  | other (why : String)
deriving DecidableEq

def ReadFailure.text : ReadFailure → String
  | .notFound => "No such file or directory (os error 2)"
  | .permissionDenied => "Permission denied (os error 13)"
  | .notDirectory => "Not a directory (os error 20)"
  | .isDirectory => "Is a directory (os error 21)"
  | .nameTooLong => "File name too long (os error 36)"
  | .invalidUtf8 => "stream did not contain valid UTF-8"
  | .other why => why

end LoxLex
