import GraphEngine.Text.Utf8

/-!
Bytes handled as texts: each character stands for the byte of its number.

Programs that know nothing of encodings take texts apart byte by byte. A raw text lets them do so
with the operations on texts, and nothing is lost where the bytes are not UTF-8.
-/
namespace GraphEngine.Raw

def ofBytes (bytes : List UInt8) : String :=
  String.ofList (bytes.map fun byte => Char.ofNat byte.toNat)

def toBytes (raw : String) : List UInt8 := raw.toList.map fun c => UInt8.ofNat c.toNat

def ofText (text : String) : String := ofBytes (Utf8.encode text)

def toText (raw : String) : String := Utf8.decodeLossy (toBytes raw)

end GraphEngine.Raw
