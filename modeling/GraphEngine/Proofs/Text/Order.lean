import GraphEngine.Proofs.Text.Utf8
import Mathlib.Tactic.SplitIfs

/-!
The order of texts is the order of their bytes.

Texts are compared character by character. In UTF-8 that is the same as comparing byte by byte,
since the bytes of a character never begin those of another, and a later character has the later
bytes.
-/
namespace GraphEngine.Utf8

private theorem byte_cons_lt {m n : Nat} {rest others : List UInt8} (hm : m < 256) (hn : n < 256) :
    UInt8.ofNat m :: rest < UInt8.ofNat n :: others ↔ m < n ∨ m = n ∧ rest < others := by
  rw [List.cons_lt_cons_iff, UInt8.lt_iff_toNat_lt, ← UInt8.toNat_inj, UInt8.toNat_ofNat_of_lt' hm,
    UInt8.toNat_ofNat_of_lt' hn]

/-- The first byte in which two characters differ decides, whatever follows them. -/
theorem encodeChar_append_lt {c d : Char} (h : c < d) (rest others : List UInt8) :
    String.utf8EncodeChar c ++ rest < String.utf8EncodeChar d ++ others := by
  have order : c.val.toNat < d.val.toNat := h
  have limit : d.val.toNat < 1114112 := by
    rcases d.valid with small | ⟨_, large⟩
    · exact Nat.lt_trans small (by decide)
    · exact large
  have groups : ∀ k : Nat, k / 4096 = k / 64 / 64 ∧ k / 262144 = k / 64 / 64 / 64 := by
    intro k
    simp only [Nat.div_div_eq_div_mul, and_self]
  unfold String.utf8EncodeChar
  dsimp only
  generalize c.val.toNat = m at *
  generalize d.val.toNat = n at *
  simp only [(groups m).1, (groups m).2, (groups n).1, (groups n).2]
  -- Sixteen pairs of lengths; characters of different lengths differ in the first byte already.
  split_ifs
  all_goals simp (disch := omega) only [List.cons_append, List.nil_append, byte_cons_lt]
  all_goals omega

theorem encode_eq_flatMap (text : String) :
    encode text = text.toList.flatMap String.utf8EncodeChar := by
  rw [encode_eq, ← String.utf8Encode_toList, List.utf8Encode]
  simp

private theorem flatMap_encodeChar_lt {text other : List Char} (h : text < other) :
    text.flatMap String.utf8EncodeChar < other.flatMap String.utf8EncodeChar := by
  induction text generalizing other with
  | nil =>
      cases other with
      | nil => cases h
      | cons d others =>
          have some : String.utf8EncodeChar d ≠ [] := String.utf8EncodeChar_ne_nil
          rw [List.flatMap_nil, List.flatMap_cons]
          cases bytes : String.utf8EncodeChar d with
          | nil => exact absurd bytes some
          | cons byte more => exact .nil
  | cons c rest ih =>
      cases other with
      | nil => cases h
      | cons d others =>
          rw [List.flatMap_cons, List.flatMap_cons]
          rcases List.cons_lt_cons_iff.mp h with first | ⟨rfl, later⟩
          · exact encodeChar_append_lt first _ _
          · exact List.append_left_lt (ih later)

theorem encode_lt_encode {text other : String} : encode text < encode other ↔ text < other := by
  have forward : ∀ {a b : String}, a < b → encode a < encode b := by
    intro a b h
    rw [encode_eq_flatMap, encode_eq_flatMap]
    exact flatMap_encodeChar_lt h
  refine ⟨fun h => ?_, forward⟩
  by_cases same : text = other
  · subst same
    exact absurd h (List.lt_irrefl _)
  · by_cases before : text < other
    · exact before
    · have after : other < text := by
        refine Decidable.not_not.mp fun notAfter => same ?_
        exact String.le_antisymm (String.not_lt.mp notAfter) (String.not_lt.mp before)
      exact absurd (forward after) (List.lt_asymm h)

/-- Names in the order in which a map keeps them are in the order of their bytes. -/
theorem compare_eq_lt {text other : String} :
    compare text other = .lt ↔ encode text < encode other :=
  compareOfLessAndEq_eq_lt.trans encode_lt_encode.symm

end GraphEngine.Utf8
