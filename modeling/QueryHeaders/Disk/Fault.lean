/-!
Faults: how an operation on the disk fails.
-/
namespace QueryHeaders

inductive Fault where
  | notFound
  | notDirectory
  | isDirectory
  | exists
  /-- The bytes of a file are not text. -/
  | notText
  | other (text : String)
  deriving DecidableEq, Repr

def Fault.message : Fault → String
  | .notFound => "No such file or directory (os error 2)"
  | .notDirectory => "Not a directory (os error 20)"
  | .isDirectory => "Is a directory (os error 21)"
  | .exists => "File exists (os error 17)"
  | .notText => "stream did not contain valid UTF-8"
  | .other text => text

end QueryHeaders
