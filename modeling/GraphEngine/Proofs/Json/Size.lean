import GraphEngine.Json.Printer
import Mathlib

/-!
How many bytes a text takes up within JSON: a few characters take two, control characters six, and
all others as many as without JSON.
-/
namespace GraphEngine.Json

variable {c : Char}

theorem utf8ByteSize_eq_sum (text : String) :
    text.utf8ByteSize = (text.toList.map Char.utf8Size).sum := by
  have ofChars (chars : List Char) :
      (String.ofList chars).utf8ByteSize = (chars.map Char.utf8Size).sum := by
    induction chars with
    | nil => rfl
    | cons c rest ih =>
        rw [String.utf8ByteSize_ofList] at ih ⊢
        rw [String.utf8Len_cons, ih, List.map_cons, List.sum_cons, Nat.add_comm]
  rw [← ofChars, String.ofList_toList]

/-- The characters that have an escape of their own. -/
def shortEscapes : List Char := ['"', '\\', '\x08', '\x0c', '\n', '\r', '\t']

def escapedSize (c : Char) : Nat :=
  if c ∈ shortEscapes then 2 else if c < ' ' then 6 else c.utf8Size

def escapedLength (text : String) : Nat := (text.toList.map escapedSize).sum

theorem utf8Size_of_le_delete (ascii : c.toNat ≤ 127) : c.utf8Size = 1 :=
  Char.utf8Size_eq_one_iff.mpr (UInt32.le_iff_toNat_le.mpr ascii)

theorem utf8Size_hexDigit {n : Nat} (h : n < 16) : (hexDigit n).utf8Size = 1 := by
  revert h n
  decide

theorem utf8ByteSize_escapeChar (c : Char) : (escapeChar c).utf8ByteSize = escapedSize c := by
  unfold escapeChar
  split
  · decide
  · decide
  · decide
  · decide
  · decide
  · decide
  · decide
  · next quote backslash backspace feed newline carriage tab =>
      have plain : c ∉ shortEscapes := by
        simp only [shortEscapes, List.mem_cons, List.not_mem_nil, or_false, not_or]
        exact ⟨quote, backslash, backspace, feed, newline, carriage, tab⟩
      rw [escapedSize, if_neg plain]
      split
      · next control =>
          have small : c.toNat < 32 := control
          have high := utf8Size_hexDigit (show c.toNat / 16 < 16 by omega)
          have low := utf8Size_hexDigit (show c.toNat % 16 < 16 by omega)
          rw [utf8ByteSize_eq_sum, String.toList_ofList]
          simp only [List.map_cons, List.map_nil, high, low]
          decide
      · exact String.utf8ByteSize_singleton

/-- Between quotes no character gets shorter, and none takes up more than six times as much. -/
theorem escapedSize_bounds (c : Char) :
    c.utf8Size ≤ escapedSize c ∧ escapedSize c ≤ 6 * c.utf8Size := by
  have pos := c.utf8Size_pos
  unfold escapedSize
  split
  · next short =>
      have ascii : shortEscapes.all (·.utf8Size = 1) = true := by decide
      have one : c.utf8Size = 1 := by simpa using List.all_eq_true.mp ascii c short
      omega
  · split
    · next control =>
        have small : c.toNat < 32 := control
        have one := utf8Size_of_le_delete (c := c) (by omega)
        omega
    · omega

theorem escapedLength_bounds (text : String) :
    text.utf8ByteSize ≤ escapedLength text ∧ escapedLength text ≤ 6 * text.utf8ByteSize := by
  rw [utf8ByteSize_eq_sum, escapedLength]
  induction text.toList with
  | nil => simp
  | cons c rest ih =>
      have bounds := escapedSize_bounds c
      simp only [List.map_cons, List.sum_cons]
      omega

theorem utf8ByteSize_emitString (out text : String) :
    (emitString out text).utf8ByteSize = out.utf8ByteSize + escapedLength text + 2 := by
  have escaped (out : String) (chars : List Char) :
      (chars.foldl (fun out c => out ++ escapeChar c) out).utf8ByteSize
        = out.utf8ByteSize + (chars.map escapedSize).sum := by
    induction chars generalizing out with
    | nil => rfl
    | cons c rest ih =>
        rw [List.foldl_cons, ih, String.utf8ByteSize_append, utf8ByteSize_escapeChar,
          List.map_cons, List.sum_cons, Nat.add_assoc]
  have quote : '"'.utf8Size = 1 := by decide
  rw [emitString, String.utf8ByteSize_push, escaped, String.utf8ByteSize_push, quote,
    escapedLength]
  omega

/-- Around a text in a field stand its quotes, those of the name, a colon and two braces. -/
theorem utf8ByteSize_record (name text : String) :
    (object [(name, .string text)]).compact.utf8ByteSize
      = escapedLength name + escapedLength text + 7 := by
  have size : '\x7b'.utf8Size = 1 ∧ ':'.utf8Size = 1 ∧ '\x7d'.utf8Size = 1 := by decide
  simp only [compact, emit, emitMembers, String.utf8ByteSize_push, utf8ByteSize_emitString,
    String.utf8ByteSize_empty, size]
  omega

end GraphEngine.Json
