import GraphEngine.Error

/-!
Faults that the operating system reports, and their wording.
-/
namespace GraphEngine

inductive SystemFault where
  | notFound
  | permissionDenied
  | alreadyThere
  | notADirectory
  | isADirectory
  | nameTooLong
  | notEmpty
  /-- A text that holds a zero byte leads nowhere, and the system is not even asked. -/
  | zeroByte
deriving DecidableEq

namespace SystemFault

def code? : SystemFault → Option Nat
  | .notFound => some 2
  | .permissionDenied => some 13
  | .alreadyThere => some 17
  | .notADirectory => some 20
  | .isADirectory => some 21
  | .nameTooLong => some 36
  | .notEmpty => some 39
  | .zeroByte => none

def description : SystemFault → String
  | .notFound => "No such file or directory"
  | .permissionDenied => "Permission denied"
  | .alreadyThere => "File exists"
  | .notADirectory => "Not a directory"
  | .isADirectory => "Is a directory"
  | .nameTooLong => "File name too long"
  | .notEmpty => "Directory not empty"
  | .zeroByte => "file name contained an unexpected NUL byte"

def message (fault : SystemFault) : String :=
  match fault.code? with
  | some code => s!"{fault.description} (os error {code})"
  | none => fault.description

def toError (fault : SystemFault) : EngineError := .io fault.message

end SystemFault
end GraphEngine
