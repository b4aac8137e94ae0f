import GraphEngine.Proofs.Payload.ReadBack
import GraphEngine.Proofs.Result

/-!
All the bytes that are read as one value.

A value is a row of parts. A word can be spelled with more groups than it needs, and every other
part in one way only, so the bytes of a value differ in nothing but the length of its words. What
is written spells each word in the shortest way.
-/
namespace GraphEngine.Payload

inductive Part where
  | word (n : Nat)
  | bytes (own : List UInt8)

namespace Part

def shortest : Part → List UInt8
  | .word n => writeWord n
  | .bytes own => own

def Spelled : Part → List UInt8 → Prop
  | .word n, spelling => Payload.word.read spelling = .ok (n, [])
  | .bytes own, spelling => spelling = own

end Part

/-- The bytes are one spelling of each part after another. -/
inductive Spells : List Part → List UInt8 → Prop where
  | nil : Spells [] []
  | cons {part : Part} {parts : List Part} {spelling rest : List UInt8} :
      part.Spelled spelling → Spells parts rest → Spells (part :: parts) (spelling ++ rest)

namespace Spells

variable {part : Part} {parts others : List Part} {bytes : List UInt8}

theorem nil_iff : Spells [] bytes ↔ bytes = [] := by
  constructor
  · intro h
    cases h
    rfl
  · rintro rfl
    exact .nil

theorem cons_iff : Spells (part :: parts) bytes ↔
    ∃ spelling rest, part.Spelled spelling ∧ Spells parts rest ∧ bytes = spelling ++ rest := by
  constructor
  · intro h
    cases h with
    | cons first others => exact ⟨_, _, first, others, rfl⟩
  · rintro ⟨spelling, rest, first, others, rfl⟩
    exact .cons first others

theorem single_iff : Spells [part] bytes ↔ part.Spelled bytes := by
  simp [cons_iff, nil_iff]

theorem append_iff : Spells (parts ++ others) bytes ↔
    ∃ first second, Spells parts first ∧ Spells others second ∧ bytes = first ++ second := by
  induction parts generalizing bytes with
  | nil => simp [nil_iff]
  | cons part parts ih =>
      rw [List.cons_append, cons_iff]
      constructor
      · rintro ⟨spelling, rest, spelled, spells, rfl⟩
        obtain ⟨first, second, before, after, rfl⟩ := ih.mp spells
        exact ⟨spelling ++ first, second, .cons spelled before, after,
          (List.append_assoc _ _ _).symm⟩
      · rintro ⟨first, second, before, after, rfl⟩
        obtain ⟨spelling, rest, spelled, spells, rfl⟩ := cons_iff.mp before
        exact ⟨spelling, rest ++ second, spelled, ih.mpr ⟨rest, second, spells, after, rfl⟩,
          List.append_assoc _ _ _⟩

end Spells

theorem readWordFrom_eq_ok {index value n : Nat} {bytes rest : List UInt8} :
    readWordFrom index value bytes = .ok (n, rest) ↔
      ∃ taken, readWordFrom index value taken = .ok (n, []) ∧ bytes = taken ++ rest := by
  induction bytes generalizing index value with
  | nil =>
      constructor
      · intro read
        cases read
      · rintro ⟨taken, read, whole⟩
        rw [(List.append_eq_nil_iff.mp whole.symm).1] at read
        cases read
  | cons byte bytes ih =>
      constructor
      · intro read
        simp only [readWordFrom] at read
        by_cases last : byte.toNat < 128
        · rw [if_pos last] at read
          refine ⟨[byte], ?_, ?_⟩
          · simp only [readWordFrom, if_pos last]
            split at read <;> simp_all
          · split at read <;> simp_all
        · rw [if_neg last] at read
          by_cases tenth : index = 9
          · simp [tenth] at read
          · rw [if_neg tenth] at read
            obtain ⟨taken, reads, rfl⟩ := ih.mp read
            refine ⟨byte :: taken, ?_, rfl⟩
            simpa only [readWordFrom, if_neg last, if_neg tenth] using reads
      · rintro ⟨_ | ⟨first, taken⟩, read, whole⟩
        · cases read
        · rw [List.cons_append, List.cons.injEq] at whole
          obtain ⟨rfl, rfl⟩ := whole
          simp only [readWordFrom] at read ⊢
          by_cases last : byte.toNat < 128
          · rw [if_pos last] at read ⊢
            split at read <;> simp_all
          · rw [if_neg last] at read ⊢
            by_cases tenth : index = 9
            · simp [tenth] at read
            · rw [if_neg tenth] at read ⊢
              exact ih.mpr ⟨taken, read, rfl⟩

theorem word_eq_ok {n : Nat} {bytes rest : List UInt8} :
    word.read bytes = .ok (n, rest) ↔
      ∃ taken, Spells [.word n] taken ∧ bytes = taken ++ rest := by
  simp only [Spells.single_iff]
  exact readWordFrom_eq_ok

/-- What the groups from `index` on add up to, and how many of them there must be. -/
theorem exists_of_readWordFrom {index value n : Nat} {spelling : List UInt8} (inWord : index ≤ 9)
    (read : readWordFrom index value spelling = .ok (n, [])) :
    ∃ m, n = value + m <<< (7 * index) ∧ m < 2 ^ (64 - 7 * index) ∧
      (writeWord m).length ≤ spelling.length ∧
        ((writeWord m).length = spelling.length → spelling = writeWord m) := by
  induction spelling generalizing index value with
  | nil => cases read
  | cons byte rest ih =>
      have width := byte.toNat_lt
      simp only [readWordFrom] at read
      by_cases last : byte.toNat < 128
      · rw [if_pos last, Nat.mod_eq_of_lt last] at read
        split at read
        · cases read
        · next small =>
            cases read
            refine ⟨byte.toNat, rfl, ?_, ?_⟩
            · rcases Nat.lt_or_eq_of_le inWord with before | rfl
              · calc byte.toNat < 2 ^ 7 := last
                  _ ≤ 2 ^ (64 - 7 * index) := Nat.pow_le_pow_right (by omega) (by omega)
              · exact Nat.lt_succ_of_le (by omega)
            · simp [writeWord_of_lt last]
      · rw [if_neg last] at read
        by_cases tenth : index = 9
        · simp [tenth] at read
        rw [if_neg tenth] at read
        obtain ⟨m, rfl, fits, shortest, unique⟩ := ih (by omega) read
        have room : 2 ^ (64 - 7 * index) = 128 * 2 ^ (64 - 7 * (index + 1)) := by
          rw [show 64 - 7 * index = 7 + (64 - 7 * (index + 1)) by omega, Nat.pow_add]
        have shift : 2 ^ (7 * (index + 1)) = 128 * 2 ^ (7 * index) := by
          rw [Nat.mul_add, Nat.pow_add, Nat.mul_comm]
        refine ⟨byte.toNat % 128 + 128 * m, ?_, by omega, ?_⟩
        · simp only [Nat.shiftLeft_eq, shift]
          ring
        · rcases Nat.eq_zero_or_pos m with rfl | positive
          · -- The word ends here already, and the groups that follow are all zero.
            rw [writeWord_of_lt (by omega), List.length_singleton] at shortest
            rw [writeWord_of_lt (by omega), List.length_singleton, List.length_cons]
            exact ⟨by omega, by omega⟩
          · rw [writeWord_of_le (by omega),
              show (byte.toNat % 128 + 128 * m) / 128 = m by omega,
              show (byte.toNat % 128 + 128 * m) % 128 + 128 = byte.toNat by omega,
              UInt8.ofNat_toNat, List.length_cons, List.length_cons]
            refine ⟨by omega, fun same => ?_⟩
            rw [← unique (by omega)]

theorem lt_wordLimit_of_spelled {n : Nat} {spelling : List UInt8}
    (spelled : (Part.word n).Spelled spelling) : n < wordLimit := by
  obtain ⟨m, rfl, fits, _⟩ := exists_of_readWordFrom (Nat.zero_le 9) spelled
  simpa [wordLimit] using fits

theorem Part.shortest_le {part : Part} {spelling : List UInt8} (spelled : part.Spelled spelling) :
    part.shortest.length ≤ spelling.length ∧
      (part.shortest.length = spelling.length → spelling = part.shortest) := by
  cases part with
  | word n =>
      obtain ⟨m, rfl, _, shortest, unique⟩ := exists_of_readWordFrom (Nat.zero_le 9) spelled
      rw [Nat.mul_zero, Nat.shiftLeft_zero, Nat.zero_add]
      exact ⟨shortest, unique⟩
  | bytes own =>
      cases spelled
      exact ⟨Nat.le_refl _, fun _ => rfl⟩

/-- No spelling is shorter than the one that is written, and no other is as short. -/
theorem Spells.shortest_le {parts : List Part} {bytes : List UInt8} (h : Spells parts bytes) :
    (parts.flatMap Part.shortest).length ≤ bytes.length ∧
      ((parts.flatMap Part.shortest).length = bytes.length →
        bytes = parts.flatMap Part.shortest) := by
  induction h with
  | nil => exact ⟨Nat.le_refl _, fun _ => rfl⟩
  | cons spelled _ ih =>
      obtain ⟨le, unique⟩ := Part.shortest_le spelled
      rw [List.flatMap_cons, List.length_append, List.length_append]
      refine ⟨Nat.add_le_add le ih.1, fun same => ?_⟩
      rw [← unique (by omega), ← ih.2 (by omega)]

/-- What the layout writes and all that it reads as a value, in terms of the parts of the value. -/
structure Layout.SpelledBy {α : Type} (layout : Layout α) (parts : α → List Part) : Prop where
  write_eq : ∀ value, layout.write value = (parts value).flatMap Part.shortest
  read_eq_ok : ∀ {bytes value rest}, layout.read bytes = .ok (value, rest) ↔
    ∃ taken, Spells (parts value) taken ∧ bytes = taken ++ rest

def longParts (n : Int64) : List Part := [.word (fold n.toInt)]

def doubleParts (d : Double) : List Part := [.bytes (littleEndian 8 d.bits.toNat)]

def flagParts (value : Bool) : List Part := [.bytes [if value then 1 else 0]]

def textParts (value : String) : List Part :=
  [.word value.utf8ByteSize, .bytes (Utf8.encode value)]

def listParts {α : Type} (item : α → List Part) (values : List α) : List Part :=
  .word values.length :: values.flatMap item

def pairParts {α β : Type} (first : α → List Part) (second : β → List Part) (value : α × β) :
    List Part :=
  first value.1 ++ second value.2

theorem fold_unfold (n : Nat) : fold (unfold n) = n := by
  unfold fold unfold
  split <;> split <;> omega

theorem toInt_ofInt_unfold {n : Nat} (small : n < wordLimit) :
    (Int64.ofInt (unfold n)).toInt = unfold n := by
  have bounds : -2 ^ 63 ≤ unfold n ∧ unfold n < 2 ^ 63 := by
    unfold wordLimit at small
    unfold unfold
    split <;> omega
  exact Int64.toInt_ofInt_of_le bounds.1 bounds.2

theorem long_spelledBy : long.SpelledBy longParts where
  write_eq value := by simp [long, longParts, word, Part.shortest]
  read_eq_ok {bytes value rest} := by
    simp only [long, longParts, Result.bind_eq_ok, Prod.exists]
    constructor
    · rintro ⟨n, left, read, returned⟩
      cases returned
      obtain ⟨taken, spells, rfl⟩ := word_eq_ok.mp read
      have small := lt_wordLimit_of_spelled (Spells.single_iff.mp spells)
      rw [toInt_ofInt_unfold small, fold_unfold]
      exact ⟨taken, spells, rfl⟩
    · rintro spelled
      exact ⟨_, rest, word_eq_ok.mpr spelled, by
        rw [unfold_fold, Int64.ofInt_toInt]
        rfl⟩

theorem takeBytes_eq_ok {count : Nat} {bytes taken rest : List UInt8} :
    takeBytes count bytes = .ok (taken, rest) ↔ taken.length = count ∧ bytes = taken ++ rest := by
  constructor
  · intro h
    simp only [takeBytes] at h
    split at h
    · next length =>
        cases h
        exact ⟨length, (List.take_append_drop count bytes).symm⟩
    · cases h
  · rintro ⟨length, rfl⟩
    exact takeBytes_append length rest

theorem littleEndian_ofLittleEndian (bytes : List UInt8) :
    littleEndian bytes.length (ofLittleEndian bytes) = bytes := by
  induction bytes with
  | nil => rfl
  | cons byte rest ih =>
      have width := byte.toNat_lt
      have step : ofLittleEndian (byte :: rest) = byte.toNat + 256 * ofLittleEndian rest := rfl
      rw [step, List.length_cons, littleEndian,
        show (byte.toNat + 256 * ofLittleEndian rest) % 256 = byte.toNat by omega,
        show (byte.toNat + 256 * ofLittleEndian rest) / 256 = ofLittleEndian rest by omega,
        UInt8.ofNat_toNat, ih]

theorem ofLittleEndian_lt (bytes : List UInt8) : ofLittleEndian bytes < 256 ^ bytes.length := by
  induction bytes with
  | nil => exact Nat.one_pos
  | cons byte rest ih =>
      have width := byte.toNat_lt
      have step : ofLittleEndian (byte :: rest) = byte.toNat + 256 * ofLittleEndian rest := rfl
      rw [step, List.length_cons, Nat.pow_succ']
      omega

theorem double_spelledBy : double.SpelledBy doubleParts where
  write_eq value := by simp [double, doubleParts, Part.shortest]
  read_eq_ok {bytes value rest} := by
    simp only [double, doubleParts, Result.bind_eq_ok, Prod.exists, takeBytes_eq_ok,
      Spells.single_iff, Part.Spelled]
    constructor
    · rintro ⟨taken, left, ⟨length, rfl⟩, returned⟩
      cases returned
      have small : ofLittleEndian taken < 2 ^ 64 := by
        have := ofLittleEndian_lt taken
        rwa [length] at this
      refine ⟨taken, ?_, rfl⟩
      rw [UInt64.toNat_ofNat_of_lt' small, ← length, littleEndian_ofLittleEndian]
    · rintro ⟨taken, rfl, rfl⟩
      refine ⟨_, rest, ⟨littleEndian_length 8 _, rfl⟩, ?_⟩
      have bits : ofLittleEndian (littleEndian 8 value.bits.toNat) = value.bits.toNat := by
        rw [ofLittleEndian_littleEndian]
        exact Nat.mod_eq_of_lt value.bits.toNat_lt
      rw [bits, UInt64.ofNat_toNat]
      rfl

theorem flag_spelledBy : flag.SpelledBy flagParts where
  write_eq value := by simp [flag, flagParts, Part.shortest]
  read_eq_ok {bytes value rest} := by
    simp only [flag, flagParts, Spells.single_iff, Part.Spelled, exists_eq_left]
    cases bytes with
    | nil => simp
    | cons byte others =>
        by_cases isZero : byte = 0
        · subst isZero
          cases value <;> simp
        · by_cases isOne : byte = 1
          · subst isOne
            cases value <;> simp
          · cases value <;> simp [isZero, isOne]

theorem text_spelledBy : text.SpelledBy textParts where
  write_eq value := by simp [text, textParts, word, Part.shortest]
  read_eq_ok {bytes value rest} := by
    simp only [text, textParts, Result.bind_eq_ok, Prod.exists, takeBytes_eq_ok]
    constructor
    · rintro ⟨size, _, read, taken, left, ⟨length, rfl⟩, ends⟩
      obtain ⟨spelling, spells, rfl⟩ := word_eq_ok.mp read
      split at ends
      · next decoded =>
          cases ends
          obtain rfl := (Utf8.decode?_eq_some_iff _ _).mp decoded
          rw [Utf8.length_encode] at length
          subst length
          exact ⟨spelling ++ Utf8.encode value,
            .cons (Spells.single_iff.mp spells) (Spells.single_iff.mpr rfl),
            (List.append_assoc _ _ _).symm⟩
      · cases ends
    · rintro ⟨taken, spells, rfl⟩
      obtain ⟨spelling, _, spelled, own, rfl⟩ := Spells.cons_iff.mp spells
      obtain rfl := Spells.single_iff.mp own
      refine ⟨_, _, word_eq_ok.mpr ⟨spelling, Spells.single_iff.mpr spelled,
        List.append_assoc _ _ _⟩, _, rest, ⟨Utf8.length_encode value, rfl⟩, ?_⟩
      simp only [Utf8.decode?_encode]
      rfl

theorem readItems_eq_ok {α : Type} {item : Layout α} {parts : α → List Part}
    (spelledBy : item.SpelledBy parts) {count : Nat} {read values : List α}
    {bytes rest : List UInt8} :
    readItems item.read count read bytes = .ok (values, rest) ↔
      ∃ later taken, values = read.reverse ++ later ∧ later.length = count ∧
        Spells (later.flatMap parts) taken ∧ bytes = taken ++ rest := by
  induction count generalizing read bytes with
  | zero =>
      simp only [readItems, List.length_eq_zero_iff, Except.ok.injEq, Prod.mk.injEq]
      constructor
      · rintro ⟨rfl, rfl⟩
        exact ⟨[], [], (List.append_nil _).symm, rfl, .nil, rfl⟩
      · rintro ⟨_, taken, rfl, rfl, spells, rfl⟩
        rw [Spells.nil_iff.mp spells]
        exact ⟨(List.append_nil _).symm, rfl⟩
  | succ count ih =>
      simp only [readItems, Result.bind_eq_ok, Prod.exists, spelledBy.read_eq_ok, ih]
      constructor
      · rintro ⟨value, _, ⟨first, spells, rfl⟩, later, taken, rfl, rfl, others, rfl⟩
        refine ⟨value :: later, first ++ taken, ?_, rfl, ?_, (List.append_assoc _ _ _).symm⟩
        · rw [List.reverse_cons, List.append_assoc, List.singleton_append]
        · exact Spells.append_iff.mpr ⟨first, taken, spells, others, rfl⟩
      · rintro ⟨_ | ⟨value, later⟩, taken, rfl, length, spells, rfl⟩
        · cases length
        · obtain ⟨first, second, spellsFirst, spellsOthers, rfl⟩ := Spells.append_iff.mp spells
          refine ⟨value, second ++ rest, ⟨first, spellsFirst, List.append_assoc _ _ _⟩, later,
            second, ?_, Nat.succ.inj length, spellsOthers, rfl⟩
          rw [List.reverse_cons, List.append_assoc, List.singleton_append]

theorem flatMap_write {α : Type} {item : Layout α} {parts : α → List Part}
    (spelledBy : item.SpelledBy parts) (values : List α) :
    values.flatMap item.write = (values.flatMap parts).flatMap Part.shortest := by
  rw [List.flatMap_assoc]
  exact List.flatMap_congr fun value _ => spelledBy.write_eq value

theorem list_spelledBy {α : Type} {item : Layout α} {parts : α → List Part}
    (spelledBy : item.SpelledBy parts) : (list item).SpelledBy (listParts parts) where
  write_eq values := by
    simp only [list, listParts, flatMap_write spelledBy, List.flatMap_cons, word, Part.shortest]
  read_eq_ok {bytes values rest} := by
    simp only [list, listParts, Result.bind_eq_ok, Prod.exists, readItems_eq_ok spelledBy]
    constructor
    · rintro ⟨count, _, read, _, taken, rfl, rfl, spells, rfl⟩
      obtain ⟨spelling, spelled, rfl⟩ := word_eq_ok.mp read
      exact ⟨spelling ++ taken, .cons (Spells.single_iff.mp spelled) spells,
        (List.append_assoc _ _ _).symm⟩
    · rintro ⟨_, spells, rfl⟩
      obtain ⟨spelling, taken, spelled, others, rfl⟩ := Spells.cons_iff.mp spells
      exact ⟨_, _, word_eq_ok.mpr ⟨spelling, Spells.single_iff.mpr spelled,
        List.append_assoc _ _ _⟩, values, taken, rfl, rfl, others, rfl⟩

theorem pair_spelledBy {α β : Type} {first : Layout α} {second : Layout β}
    {firstParts : α → List Part} {secondParts : β → List Part}
    (hf : first.SpelledBy firstParts) (hs : second.SpelledBy secondParts) :
    (pair first second).SpelledBy (pairParts firstParts secondParts) where
  write_eq value := by
    simp only [pair, pairParts, hf.write_eq, hs.write_eq, List.flatMap_append]
  read_eq_ok {bytes value rest} := by
    simp only [pair, pairParts, Result.bind_eq_ok, Prod.exists, hf.read_eq_ok, hs.read_eq_ok]
    constructor
    · rintro ⟨a, _, ⟨taken, spellsFirst, rfl⟩, b, left, ⟨others, spellsSecond, rfl⟩, returned⟩
      cases returned
      exact ⟨taken ++ others, Spells.append_iff.mpr ⟨_, _, spellsFirst, spellsSecond, rfl⟩,
        (List.append_assoc _ _ _).symm⟩
    · rintro ⟨_, spells, rfl⟩
      obtain ⟨taken, others, spellsFirst, spellsSecond, rfl⟩ := Spells.append_iff.mp spells
      exact ⟨value.1, others ++ rest, ⟨taken, spellsFirst, List.append_assoc _ _ _⟩, value.2,
        rest, ⟨others, spellsSecond, rfl⟩, rfl⟩

theorem view_spelledBy {α β : Type} {layout : Layout α} {parts : α → List Part}
    (spelledBy : layout.SpelledBy parts) {toBase : β → α} {ofBase : α → β}
    (inverse : ∀ value, ofBase (toBase value) = value)
    (onto : ∀ value, toBase (ofBase value) = value) :
    (layout.view toBase ofBase).SpelledBy fun value => parts (toBase value) where
  write_eq value := spelledBy.write_eq _
  read_eq_ok {bytes value rest} := by
    simp only [Layout.view, Result.bind_eq_ok, Prod.exists, spelledBy.read_eq_ok]
    constructor
    · rintro ⟨base, left, spelled, returned⟩
      cases returned
      rw [onto]
      exact spelled
    · rintro spelled
      exact ⟨toBase value, rest, spelled, by
        rw [inverse]
        rfl⟩

end GraphEngine.Payload
