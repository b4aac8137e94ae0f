import GraphEngine.Payload.Layout
import GraphEngine.Proofs.Text.Utf8
import Mathlib

/-!
Layouts that read back what they write, whatever bytes follow.

The condition on the size of what is written is the only one: counts and sizes are words, and a
value whose bytes can be counted by a word has no part that could not be.
-/
namespace GraphEngine.Payload

/-- One more than the greatest word. -/
def wordLimit : Nat := 18446744073709551616

structure Layout.Faithful {α : Type} (layout : Layout α) : Prop where
  write_ne_nil : ∀ value, layout.write value ≠ []
  read_write : ∀ value rest, (layout.write value).length < wordLimit →
    layout.read (layout.write value ++ rest) = .ok (value, rest)

theorem Layout.Faithful.length_pos {α : Type} {layout : Layout α} (faithful : layout.Faithful)
    (value : α) : 0 < (layout.write value).length :=
  List.length_pos_iff.mpr (faithful.write_ne_nil value)

theorem writeWord_of_lt {n : Nat} (h : n < 128) : writeWord n = [UInt8.ofNat n] := by
  rw [writeWord, if_pos h]

theorem writeWord_of_le {n : Nat} (h : 128 ≤ n) :
    writeWord n = UInt8.ofNat (n % 128 + 128) :: writeWord (n / 128) := by
  rw [writeWord, if_neg (Nat.not_lt.mpr h)]

theorem writeWord_ne_nil (n : Nat) : writeWord n ≠ [] := by
  rw [writeWord]
  split <;> simp

/-- The groups from `index` on stand for the bits from `7 * index` on. -/
theorem readWordFrom_writeWord (n index value : Nat) (rest : List UInt8) (hi : index ≤ 9)
    (hn : n <<< (7 * index) < wordLimit) :
    readWordFrom index value (writeWord n ++ rest) = .ok (value + n <<< (7 * index), rest) := by
  induction n using Nat.strongRecOn generalizing index value with
  | ind n ih =>
      simp only [Nat.shiftLeft_eq] at hn
      by_cases small : n < 128
      · have byte : (UInt8.ofNat n).toNat = n := by
          rw [UInt8.toNat_ofNat']
          omega
        have last : ¬ (index = 9 ∧ 1 < n) := by
          rintro ⟨rfl, h⟩
          have : 2 * 2 ^ (7 * 9) ≤ n * 2 ^ (7 * 9) := Nat.mul_le_mul_right _ h
          simp only [wordLimit] at hn
          omega
        simp only [writeWord_of_lt small, List.cons_append, List.nil_append, readWordFrom, byte,
          small, if_true, last, if_false, Nat.mod_eq_of_lt small]
      · have byte : (UInt8.ofNat (n % 128 + 128)).toNat = n % 128 + 128 := by
          rw [UInt8.toNat_ofNat']
          omega
        have notLast : index ≠ 9 := by
          rintro rfl
          have : 128 * 2 ^ (7 * 9) ≤ n * 2 ^ (7 * 9) :=
            Nat.mul_le_mul_right _ (Nat.le_of_not_lt small)
          simp only [wordLimit] at hn
          omega
        have power : 2 ^ (7 * (index + 1)) = 128 * 2 ^ (7 * index) := by
          rw [Nat.mul_add, Nat.pow_add, Nat.mul_comm]
        have group : n % 128 + n / 128 * 128 = n := by omega
        have next : (n / 128) <<< (7 * (index + 1)) = n / 128 * 128 * 2 ^ (7 * index) := by
          rw [Nat.shiftLeft_eq, power, Nat.mul_assoc]
        have step := ih (n / 128) (by omega) (index + 1)
          (value + (n % 128) <<< (7 * index)) (by omega) (by
            rw [next]
            exact Nat.lt_of_le_of_lt (Nat.mul_le_mul_right _ (by omega)) hn)
        simp only [writeWord_of_le (Nat.le_of_not_lt small), List.cons_append, readWordFrom, byte,
          show ¬ n % 128 + 128 < 128 by omega, if_false, notLast,
          show (n % 128 + 128) % 128 = n % 128 by omega]
        rw [step, next, Nat.shiftLeft_eq, Nat.shiftLeft_eq, Nat.add_assoc, ← Nat.add_mul, group]

theorem word_read_write {n : Nat} (h : n < wordLimit) (rest : List UInt8) :
    word.read (word.write n ++ rest) = .ok (n, rest) := by
  have := readWordFrom_writeWord n 0 0 rest (by omega) (by simpa using h)
  simpa [word] using this

theorem unfold_fold (n : Int) : unfold (fold n) = n := by
  unfold unfold fold
  split <;> split <;> omega

theorem fold_lt (n : Int64) : fold n.toInt < wordLimit := by
  have low := n.le_toInt
  have high := n.toInt_lt
  unfold fold wordLimit
  split <;> omega

theorem long_faithful : long.Faithful where
  write_ne_nil value := writeWord_ne_nil _
  read_write value rest _ := by
    simp only [long, word_read_write (fold_lt value) rest, bind, Except.bind, pure, Except.pure,
      unfold_fold, Int64.ofInt_toInt]

theorem littleEndian_length (count n : Nat) : (littleEndian count n).length = count := by
  induction count generalizing n with
  | zero => rfl
  | succ count ih => simp [littleEndian, ih]

theorem ofLittleEndian_littleEndian (count n : Nat) :
    ofLittleEndian (littleEndian count n) = n % 256 ^ count := by
  induction count generalizing n with
  | zero => simp [littleEndian, ofLittleEndian, Nat.mod_one]
  | succ count ih =>
      have step : ofLittleEndian (littleEndian (count + 1) n) =
          (UInt8.ofNat (n % 256)).toNat + 256 * ofLittleEndian (littleEndian count (n / 256)) := rfl
      have byte : (UInt8.ofNat (n % 256)).toNat = n % 256 := by simp
      rw [step, ih, byte, Nat.pow_succ', Nat.mod_mul]

theorem takeBytes_append {count : Nat} {taken : List UInt8} (h : taken.length = count)
    (rest : List UInt8) : takeBytes count (taken ++ rest) = .ok (taken, rest) := by
  subst h
  simp [takeBytes]

theorem double_faithful : double.Faithful where
  write_ne_nil value := by simp [double, littleEndian]
  read_write value rest _ := by
    have bits : UInt64.ofNat (ofLittleEndian (littleEndian 8 value.bits.toNat)) = value.bits := by
      have small : value.bits.toNat < 256 ^ 8 := value.bits.toNat_lt
      rw [ofLittleEndian_littleEndian, Nat.mod_eq_of_lt small, UInt64.ofNat_toNat]
    simp only [double, takeBytes_append (littleEndian_length 8 _), bind, Except.bind, pure,
      Except.pure, bits]

theorem flag_faithful : flag.Faithful where
  write_ne_nil value := by simp [flag]
  read_write value rest _ := by cases value <;> rfl

theorem text_faithful : text.Faithful where
  write_ne_nil value := by simp [text, word, writeWord_ne_nil]
  read_write value rest fits := by
    have size : value.utf8ByteSize < wordLimit := by
      simp only [text, List.length_append, Utf8.length_encode] at fits
      omega
    simp only [text, List.append_assoc, word_read_write size, bind, Except.bind,
      takeBytes_append (Utf8.length_encode value), Utf8.decode?_encode, pure, Except.pure]

theorem readItems_write {α : Type} {item : Layout α} (faithful : item.Faithful)
    (values read : List α) (rest : List UInt8)
    (fits : (values.flatMap item.write).length < wordLimit) :
    readItems item.read values.length read (values.flatMap item.write ++ rest) =
      .ok (read.reverse ++ values, rest) := by
  induction values generalizing read with
  | nil => simp [readItems]
  | cons value values ih =>
      simp only [List.flatMap_cons, List.length_append] at fits
      simp only [List.flatMap_cons, List.append_assoc, List.length_cons, readItems,
        faithful.read_write value _ (by omega), bind, Except.bind, ih (value :: read) (by omega),
        List.reverse_cons, List.singleton_append]

/-- Every item takes at least one byte. -/
theorem length_le_length_flatMap {α : Type} {item : Layout α} (faithful : item.Faithful)
    (values : List α) : values.length ≤ (values.flatMap item.write).length := by
  induction values with
  | nil => simp
  | cons value values ih =>
      have := faithful.length_pos value
      simp only [List.flatMap_cons, List.length_append, List.length_cons]
      omega

theorem list_faithful {α : Type} {item : Layout α} (faithful : item.Faithful) :
    (list item).Faithful where
  write_ne_nil values := by simp [list, word, writeWord_ne_nil]
  read_write values rest fits := by
    simp only [list, List.length_append] at fits
    have count : values.length < wordLimit := by
      have := length_le_length_flatMap faithful values
      omega
    simp only [list, List.append_assoc, word_read_write count, bind, Except.bind,
      readItems_write faithful values [] rest (by omega), List.reverse_nil, List.nil_append]

theorem pair_faithful {α β : Type} {first : Layout α} {second : Layout β}
    (hf : first.Faithful) (hs : second.Faithful) : (pair first second).Faithful where
  write_ne_nil value := by simp [pair, hf.write_ne_nil]
  read_write value rest fits := by
    simp only [pair, List.length_append] at fits
    simp only [pair, List.append_assoc, hf.read_write value.1 _ (by omega),
      hs.read_write value.2 _ (by omega), bind, Except.bind, pure, Except.pure]

theorem view_faithful {α β : Type} {layout : Layout α} (faithful : layout.Faithful)
    {toBase : β → α} {ofBase : α → β} (inverse : ∀ value, ofBase (toBase value) = value) :
    (layout.view toBase ofBase).Faithful where
  write_ne_nil value := faithful.write_ne_nil _
  read_write value rest fits := by
    simp only [Layout.view, faithful.read_write (toBase value) rest fits, bind, Except.bind,
      pure, Except.pure, inverse]

end GraphEngine.Payload
