import AccessPoint.Error
import AccessPoint.Text.Utf8

/-!
# Files

What is found under the path of a file: nothing, or bytes that are text if they are UTF-8.
-/

namespace AccessPoint

/-- What is found under a path. -/
inductive File
  | missing
  | bytes (content : List UInt8)
  deriving DecidableEq, Repr

/-- The text of a file. -/
def File.text : File → Except Error String
  | missing => .error (.file .notFound)
  | bytes content =>
    match Text.ofUtf8? content with
    | some s => .ok s
    | none => .error (.file .invalidData)

end AccessPoint
