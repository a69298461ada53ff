import RestRoutes.Text.Literal

/-! Why the system refuses an operation on a file. -/

namespace RestRoutes.File

inductive Cause
  | missing
  /-- A directory on the way may not be searched. -/
  | denied
  | exists
  | notDirectory
  | isDirectory
  | nameTooLong
  /-- A name has a null character, which no file has in its name. -/
  | nullCharacter
deriving DecidableEq, Repr

structure Fault where
  cause : Cause
  path : String
deriving DecidableEq, Repr

/-- A numbered description of a cause, with the path that it is about. -/
def Fault.numbered (fault : Fault) (description : String) : String :=
  "[Errno " ++ description ++ ": " ++ Text.literal fault.path

def Fault.message (fault : Fault) : String :=
  match fault.cause with
  | .missing => fault.numbered "2] No such file or directory"
  | .denied => fault.numbered "13] Permission denied"
  | .exists => fault.numbered "17] File exists"
  | .notDirectory => fault.numbered "20] Not a directory"
  | .isDirectory => fault.numbered "21] Is a directory"
  | .nameTooLong => fault.numbered "36] File name too long"
  | .nullCharacter => "embedded null byte"

end RestRoutes.File
