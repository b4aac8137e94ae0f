import GraphEngine.Text.Utf8

/-!
Texts and their bytes: the bytes of a text are decoded as that text, and no other bytes are.
-/
namespace GraphEngine.Utf8

private theorem toList_loop (bytes : ByteArray) (index : Nat) (read : List UInt8) :
    ByteArray.toList.loop bytes index read = read.reverse ++ bytes.data.toList.drop index := by
  fun_induction ByteArray.toList.loop bytes index read with
  | case1 index read h ih =>
      have inside : index < bytes.data.toList.length := h
      have first : bytes.get! index = bytes.data.toList[index] :=
        getElem!_pos bytes.data index h
      rw [ih, List.drop_eq_getElem_cons inside, List.reverse_cons, List.append_assoc, first]
      rfl
  | case2 index read h =>
      have outside : bytes.data.toList.length ≤ index := Nat.le_of_not_lt h
      rw [List.drop_eq_nil_of_le outside, List.append_nil]

theorem toList_bytes (bytes : ByteArray) : bytes.toList = bytes.data.toList := by
  simp [ByteArray.toList, toList_loop]

theorem encode_eq (text : String) : encode text = text.toByteArray.data.toList :=
  toList_bytes _

theorem length_encode (text : String) : (encode text).length = text.utf8ByteSize := by
  rw [encode_eq]
  rfl

theorem decode?_eq_some_iff (bytes : List UInt8) (text : String) :
    decode? bytes = some text ↔ encode text = bytes := by
  rw [encode_eq, decode?, String.fromUTF8?]
  constructor
  · intro h
    split at h
    · cases h
      rfl
    · cases h
  · intro h
    have whole : (⟨bytes.toArray⟩ : ByteArray) = text.toByteArray := by
      rw [← h]
    rw [dif_pos (whole ▸ text.isValidUTF8)]
    exact congrArg some (String.toByteArray_inj.mp whole)

theorem decode?_encode (text : String) : decode? (encode text) = some text :=
  (decode?_eq_some_iff _ text).mpr rfl

end GraphEngine.Utf8
