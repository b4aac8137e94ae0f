/-!
The fixed numbers of stored entities.

Every stored entity begins with four fixed bytes, the version of the format and the tag of its
kind; its payload follows.
-/
namespace GraphEngine.Format

/-- The letters `SPHX`. -/
def magic : List UInt8 := [0x53, 0x50, 0x48, 0x58]

def version : UInt8 := 1

def headerSize : Nat := 6

/-- The most bytes that are read as one entity. -/
def sizeLimit : Nat := 2147483648

end GraphEngine.Format
