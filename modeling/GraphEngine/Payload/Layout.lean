import GraphEngine.Double.Basic
import GraphEngine.Text.Utf8

/-!
How values are laid out in bytes.

A layout writes a value and reads it back from the front of a longer sequence, handing on what is
left. Words are written seven bits at a time with the lowest first, signed words by folding the
negative ones between the others, doubles as eight bytes, texts and lists behind their length.
-/
namespace GraphEngine.Payload

inductive Fault where
  | endOfBytes
  | wordTooLong
  | badFlag
  | badText
deriving DecidableEq

def Fault.message : Fault → String
  | .endOfBytes => "Hit the end of buffer, expected more data"
  | .wordTooLong =>
      "Found a varint that didn't terminate. Is the usize too big for this platform?"
  | .badFlag => "Found a bool that wasn't 0 or 1"
  | .badText => "Tried to parse invalid utf-8"

abbrev Reader (α : Type) := List UInt8 → Except Fault (α × List UInt8)

structure Layout (α : Type) where
  write : α → List UInt8
  read : Reader α

/-- The first `count` bytes and the rest. -/
def takeBytes (count : Nat) : Reader (List UInt8) := fun bytes =>
  let taken := bytes.take count
  if taken.length = count then .ok (taken, bytes.drop count) else .error .endOfBytes

/-- Groups of seven bits, the lowest first; all but the last have the high bit set. -/
def writeWord (n : Nat) : List UInt8 :=
  if n < 128 then [UInt8.ofNat n] else UInt8.ofNat (n % 128 + 128) :: writeWord (n / 128)
termination_by n

/-- A word has at most ten groups, and the tenth holds no more than the 64th bit. -/
def readWordFrom (index value : Nat) : Reader Nat
  | [] => .error .endOfBytes
  | byte :: rest =>
      let byte := byte.toNat
      let value := value + (byte % 128) <<< (7 * index)
      if byte < 128 then
        if index = 9 ∧ 1 < byte then .error .wordTooLong else .ok (value, rest)
      else if index = 9 then .error .wordTooLong
      else readWordFrom (index + 1) value rest

def word : Layout Nat := ⟨writeWord, readWordFrom 0 0⟩

/-- Zero, minus one, one, minus two, two and so on. -/
def fold (n : Int) : Nat := if 0 ≤ n then 2 * n.toNat else 2 * (-n).toNat - 1

def unfold (n : Nat) : Int := if n % 2 = 0 then (n / 2 : Nat) else -((n / 2 + 1 : Nat) : Int)

def long : Layout Int64 where
  write n := word.write (fold n.toInt)
  read bytes := do
    let (n, rest) ← word.read bytes
    return (Int64.ofInt (unfold n), rest)

/-- The bytes of a number, the lowest first. -/
def littleEndian : Nat → Nat → List UInt8
  | 0, _ => []
  | count + 1, n => UInt8.ofNat (n % 256) :: littleEndian count (n / 256)

def ofLittleEndian (bytes : List UInt8) : Nat :=
  bytes.foldr (fun byte n => byte.toNat + 256 * n) 0

def double : Layout Double where
  write d := littleEndian 8 d.bits.toNat
  read bytes := do
    let (taken, rest) ← takeBytes 8 bytes
    return (⟨UInt64.ofNat (ofLittleEndian taken)⟩, rest)

def flag : Layout Bool where
  write value := [if value then 1 else 0]
  read
    | [] => .error .endOfBytes
    | byte :: rest =>
        if byte = 0 then .ok (false, rest)
        else if byte = 1 then .ok (true, rest)
        else .error .badFlag

def text : Layout String where
  write value := word.write value.utf8ByteSize ++ Utf8.encode value
  read bytes := do
    let (size, rest) ← word.read bytes
    let (taken, rest) ← takeBytes size rest
    match Utf8.decode? taken with
    | some value => return (value, rest)
    | none => .error .badText

/-- The items read so far are kept last first. -/
def readItems {α : Type} (item : Reader α) : Nat → List α → Reader (List α)
  | 0, read, bytes => .ok (read.reverse, bytes)
  | count + 1, read, bytes => do
      let (value, rest) ← item bytes
      readItems item count (value :: read) rest

def list {α : Type} (item : Layout α) : Layout (List α) where
  write values := word.write values.length ++ values.flatMap item.write
  read bytes := do
    let (count, rest) ← word.read bytes
    readItems item.read count [] rest

def pair {α β : Type} (first : Layout α) (second : Layout β) : Layout (α × β) where
  write value := first.write value.1 ++ second.write value.2
  read bytes := do
    let (a, rest) ← first.read bytes
    let (b, rest) ← second.read rest
    return ((a, b), rest)

/-- The same bytes for another type of the same values. -/
def Layout.view {α β : Type} (layout : Layout α) (toBase : β → α) (ofBase : α → β) :
    Layout β where
  write value := layout.write (toBase value)
  read bytes := do
    let (value, rest) ← layout.read bytes
    return (ofBase value, rest)

end GraphEngine.Payload
