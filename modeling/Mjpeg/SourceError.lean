import Mjpeg.IoError
import Mjpeg.Text.Quoted

/-!
# What can go wrong with a source of bytes
-/

namespace Mjpeg

/-- A reason why a source could not be opened or read. -/
inductive SourceError where
  /-- The location of the source makes no sense. -/
  | invalidUrl (url reason : String)
  /-- The request was not carried out. -/
  | request (detail : String)
  /-- The server answered, and refused. -/
  | status (code : Nat) (url : String)
  | io (error : IoError)
  deriving Repr, DecidableEq, Inhabited

/-- The text of an error. -/
def SourceError.message : SourceError → String
  | invalidUrl url reason => "invalid source url " ++ Text.quoted url ++ ": " ++ reason
  | request detail => "http request failed: " ++ detail
  | status code url => url ++ " answered with HTTP status " ++ toString code
  | io error => "source I/O error: " ++ error.message

end Mjpeg
