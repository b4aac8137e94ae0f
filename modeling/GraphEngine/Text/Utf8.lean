/-!
Bytes read as UTF-8 where not all of them may be.

`scan` gives one entry for each character and one empty entry for each run of bytes that begins a
character and does not complete it.
-/
namespace GraphEngine.Utf8

/-- A character of which some bytes are read; the next one must lie between the two bounds. -/
structure Pending where
  value : Nat
  bytesLeft : Nat
  low : Nat
  high : Nat

/-- Entries are collected last first. -/
structure Decoder where
  pending : Option Pending
  read : List (Option Char)

namespace Decoder

def start : Decoder := ⟨none, []⟩

/-- The first byte of a character decides how many follow and what the second may be. -/
def begin (read : List (Option Char)) (byte : Nat) : Decoder :=
  if byte < 0x80 then ⟨none, some (Char.ofNat byte) :: read⟩
  else if byte < 0xC2 then ⟨none, none :: read⟩
  else if byte < 0xE0 then ⟨some ⟨byte - 0xC0, 1, 0x80, 0xBF⟩, read⟩
  else if byte < 0xF0 then
    let low := if byte = 0xE0 then 0xA0 else 0x80
    let high := if byte = 0xED then 0x9F else 0xBF
    ⟨some ⟨byte - 0xE0, 2, low, high⟩, read⟩
  else if byte < 0xF5 then
    let low := if byte = 0xF0 then 0x90 else 0x80
    let high := if byte = 0xF4 then 0x8F else 0xBF
    ⟨some ⟨byte - 0xF0, 3, low, high⟩, read⟩
  else ⟨none, none :: read⟩

def feed (decoder : Decoder) (byte : UInt8) : Decoder :=
  let byte := byte.toNat
  match decoder.pending with
  | none => begin decoder.read byte
  | some pending =>
      if pending.low ≤ byte ∧ byte ≤ pending.high then
        let value := pending.value * 64 + (byte - 0x80)
        if pending.bytesLeft ≤ 1 then ⟨none, some (Char.ofNat value) :: decoder.read⟩
        else ⟨some ⟨value, pending.bytesLeft - 1, 0x80, 0xBF⟩, decoder.read⟩
      else begin (none :: decoder.read) byte

def finish (decoder : Decoder) : List (Option Char) :=
  match decoder.pending with
  | none => decoder.read.reverse
  | some _ => (none :: decoder.read).reverse

end Decoder

def scan (bytes : List UInt8) : List (Option Char) :=
  (bytes.foldl Decoder.feed .start).finish

/-- Each run that is no character becomes one replacement character. -/
def decodeLossy (bytes : List UInt8) : String :=
  String.ofList ((scan bytes).map (·.getD '\uFFFD'))

def decode? (bytes : List UInt8) : Option String := String.fromUTF8? ⟨bytes.toArray⟩

def encode (text : String) : List UInt8 := text.toUTF8.toList

end GraphEngine.Utf8
