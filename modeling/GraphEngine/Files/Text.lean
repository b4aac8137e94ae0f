import GraphEngine.Files.Basic
import GraphEngine.Text.Utf8

/-!
Files that are read as texts of a limited length.
-/
namespace GraphEngine

/-- Why a file gives no text. -/
inductive TextFault where
  /-- Its size goes beyond what is allowed. -/
  | tooLong (size : Nat)
  | unreadable (reason : String)
deriving DecidableEq

namespace Files

/-- The size is looked at before the bytes are. -/
def text (files : Files) (place : String) (limit : Nat) : Except TextFault String :=
  match files.locate place >>= files.read with
  | .error fault => .error (.unreadable fault.message)
  | .ok content =>
      if limit < content.size then .error (.tooLong content.size)
      else match Utf8.decode? content.toList with
        | some text => .ok text
        | none => .error (.unreadable "stream did not contain valid UTF-8")

end Files
end GraphEngine
