import GraphEngine.Proofs.Text.Order

/-!
The bytes of a text, scanned one by one, give its characters and nothing else.
-/
namespace GraphEngine.Utf8

namespace Decoder

variable {read : List (Option Char)} {byte value left low high : Nat}

theorem begin_one (h : byte < 0x80) :
    begin read byte = ⟨none, some (Char.ofNat byte) :: read⟩ := by
  simp [begin, h]

theorem begin_two (least : 0xC2 ≤ byte) (most : byte < 0xE0) :
    begin read byte = ⟨some ⟨byte - 0xC0, 1, 0x80, 0xBF⟩, read⟩ := by
  simp [begin, most, show ¬ byte < 0x80 by omega, show ¬ byte < 0xC2 by omega]

theorem begin_three (least : 0xE0 ≤ byte) (most : byte < 0xF0) :
    begin read byte
      = ⟨some ⟨byte - 0xE0, 2, if byte = 0xE0 then 0xA0 else 0x80,
          if byte = 0xED then 0x9F else 0xBF⟩, read⟩ := by
  simp [begin, most, show ¬ byte < 0x80 by omega, show ¬ byte < 0xC2 by omega,
    show ¬ byte < 0xE0 by omega]

theorem begin_four (least : 0xF0 ≤ byte) (most : byte < 0xF5) :
    begin read byte
      = ⟨some ⟨byte - 0xF0, 3, if byte = 0xF0 then 0x90 else 0x80,
          if byte = 0xF4 then 0x8F else 0xBF⟩, read⟩ := by
  simp [begin, most, show ¬ byte < 0x80 by omega, show ¬ byte < 0xC2 by omega,
    show ¬ byte < 0xE0 by omega, show ¬ byte < 0xF0 by omega]

theorem feed_first (isByte : byte < 256) :
    feed ⟨none, read⟩ (UInt8.ofNat byte) = begin read byte := by
  simp [feed, UInt8.toNat_ofNat_of_lt' isByte]

theorem feed_more (isByte : byte < 256) (least : low ≤ byte) (most : byte ≤ high) :
    feed ⟨some ⟨value, left + 2, low, high⟩, read⟩ (UInt8.ofNat byte)
      = ⟨some ⟨value * 64 + (byte - 0x80), left + 1, 0x80, 0xBF⟩, read⟩ := by
  simp [feed, UInt8.toNat_ofNat_of_lt' isByte, least, most]

theorem feed_last (isByte : byte < 256) (least : low ≤ byte) (most : byte ≤ high) :
    feed ⟨some ⟨value, 1, low, high⟩, read⟩ (UInt8.ofNat byte)
      = ⟨none, some (Char.ofNat (value * 64 + (byte - 0x80))) :: read⟩ := by
  simp [feed, UInt8.toNat_ofNat_of_lt' isByte, least, most]

/-- The bounds on the second byte are such that every character passes, and it comes out again. -/
theorem foldl_feed_encodeChar (c : Char) (read : List (Option Char)) :
    (String.utf8EncodeChar c).foldl feed ⟨none, read⟩ = ⟨none, some c :: read⟩ := by
  have same : Char.ofNat c.val.toNat = c := Char.ofNat_toNat c
  have valid : c.val.toNat < 0xD800 ∨ 0xDFFF < c.val.toNat ∧ c.val.toNat < 0x110000 := c.valid
  -- The characters are written with quotients by powers of 64, and read group by group.
  have groups : ∀ k : Nat, k / 4096 = k / 64 / 64 ∧ k / 262144 = k / 64 / 64 / 64 := by
    intro k
    simp only [Nat.div_div_eq_div_mul, and_self]
  unfold String.utf8EncodeChar
  dsimp only
  generalize c.val.toNat = n at *
  simp only [(groups n).1, (groups n).2]
  split_ifs with one two three
  · rw [List.foldl_cons, feed_first (by omega), begin_one (by omega), same]
    rfl
  · rw [List.foldl_cons, feed_first (by omega), begin_two (by omega) (by omega), List.foldl_cons,
      feed_last (by omega) (by omega) (by omega), List.foldl_nil,
      show (n / 64 % 32 + 192 - 192) * 64 + (n % 64 + 128 - 128) = n by omega, same]
  · rw [List.foldl_cons, feed_first (by omega), begin_three (by omega) (by omega), List.foldl_cons,
      feed_more (by omega) (by split_ifs <;> omega) (by split_ifs <;> omega), List.foldl_cons,
      feed_last (by omega) (by omega) (by omega), List.foldl_nil,
      show ((n / 64 / 64 % 16 + 224 - 224) * 64 + (n / 64 % 64 + 128 - 128)) * 64
        + (n % 64 + 128 - 128) = n by omega, same]
  · rw [List.foldl_cons, feed_first (by omega), begin_four (by omega) (by omega), List.foldl_cons,
      feed_more (by omega) (by split_ifs <;> omega) (by split_ifs <;> omega), List.foldl_cons,
      feed_more (by omega) (by omega) (by omega), List.foldl_cons,
      feed_last (by omega) (by omega) (by omega), List.foldl_nil,
      show (((n / 64 / 64 / 64 % 8 + 240 - 240) * 64 + (n / 64 / 64 % 64 + 128 - 128)) * 64
        + (n / 64 % 64 + 128 - 128)) * 64 + (n % 64 + 128 - 128) = n by omega, same]

end Decoder

theorem scan_encode (text : String) : scan (encode text) = text.toList.map some := by
  have fed : ∀ (chars : List Char) (read : List (Option Char)),
      (chars.flatMap String.utf8EncodeChar).foldl Decoder.feed ⟨none, read⟩
        = ⟨none, (chars.map some).reverse ++ read⟩ := by
    intro chars
    induction chars with
    | nil => exact fun _ => rfl
    | cons c rest ih =>
        intro read
        rw [List.flatMap_cons, List.foldl_append, Decoder.foldl_feed_encodeChar, ih]
        simp
  rw [scan, encode_eq_flatMap, Decoder.start, fed, List.append_nil]
  exact List.reverse_reverse _

theorem decodeLossy_encode (text : String) : decodeLossy (encode text) = text := by
  rw [decodeLossy, scan_encode, List.map_map]
  simp [Function.comp_def]

end GraphEngine.Utf8
