import Std.Data.ExtTreeMap

/-!
Names of entities.

The caller chooses them. A guid that is safe can stand as the name of one directory, and so
cannot lead out of the area in which it is used.
-/
namespace GraphEngine

structure Guid where
  text : String
deriving DecidableEq

namespace Guid

instance : Ord Guid := ⟨compareOn Guid.text⟩

instance : Std.TransOrd Guid := inferInstanceAs (Std.TransCmp (compareOn Guid.text))

instance : Std.LawfulEqOrd Guid where
  eq_of_compare {a b} h := by
    cases a
    cases b
    exact congrArg Guid.mk (Std.LawfulEqOrd.eq_of_compare h)

/-- The most bytes that a name of a directory may have. -/
def sizeLimit : Nat := 255

def isSafe (guid : Guid) : Bool :=
  guid.text != "" && guid.text != "." && guid.text != ".." &&
    guid.text.toList.all (fun c => c != '/' && c != '\\' && c != '\x00') &&
    guid.text.utf8ByteSize ≤ sizeLimit

end Guid
end GraphEngine
