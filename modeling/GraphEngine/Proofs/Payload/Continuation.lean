import GraphEngine.Payload.Layout
import GraphEngine.Proofs.Result
import Mathlib.Data.List.Basic

/-!
Readers that are given more bytes.

A reader takes its bytes from the front and never looks behind what it takes. So what it makes of
some bytes it also makes of longer ones, unless it has run out of them.
-/
namespace GraphEngine.Payload

/-- More bytes are left over, or they come after the fault. -/
structure Incremental {α : Type} (read : Reader α) : Prop where
  of_ok : ∀ {bytes value rest}, read bytes = .ok (value, rest) →
    ∀ more, read (bytes ++ more) = .ok (value, rest ++ more)
  of_error : ∀ {bytes fault}, read bytes = .error fault → fault ≠ .endOfBytes →
    ∀ more, read (bytes ++ more) = .error fault

namespace Incremental

variable {α β : Type} {read : Reader α} {first : Reader α} {next : α → Reader β}

theorem pure (value : α) : Incremental fun bytes => .ok (value, bytes) where
  of_ok read more := by
    cases read
    rfl
  of_error read := by cases read

theorem refuse (fault : Fault) : Incremental fun _ : List UInt8 => (.error fault : Except _ (α × _))
    where
  of_ok read := by cases read
  of_error read _ more := by
    cases read
    rfl

theorem bind (hf : Incremental first) (hn : ∀ value, Incremental (next value)) :
    Incremental fun bytes => do
      let (value, rest) ← first bytes
      next value rest where
  of_ok read more := by
    obtain ⟨⟨value, rest⟩, reads, goesOn⟩ := Result.bind_eq_ok.mp read
    exact Result.bind_eq_ok.mpr ⟨_, hf.of_ok reads more, (hn value).of_ok goesOn more⟩
  of_error read notEnd more := by
    rcases Result.bind_eq_error.mp read with fails | ⟨⟨value, rest⟩, reads, goesOn⟩
    · exact Result.bind_eq_error.mpr (.inl (hf.of_error fails notEnd more))
    · exact Result.bind_eq_error.mpr
        (.inr ⟨_, hf.of_ok reads more, (hn value).of_error goesOn notEnd more⟩)

/-- Of bytes that are read to their end no shorter row is read at all. -/
theorem read_cut (h : Incremental read) {cut more : List UInt8} {value : α}
    (whole : read (cut ++ more) = .ok (value, [])) (isCut : more ≠ []) :
    read cut = .error .endOfBytes := by
  cases reads : read cut with
  | ok result =>
      -- Otherwise the bytes cut off would be left over when all are read.
      obtain ⟨early, rest⟩ := result
      have again := whole.symm.trans (h.of_ok reads more)
      simp only [Except.ok.injEq, Prod.mk.injEq, List.nil_eq_append_iff] at again
      exact absurd again.2.2 isCut
  | error fault =>
      by_contra other
      have notEnd : fault ≠ .endOfBytes := fun same => other (congrArg Except.error same)
      cases whole.symm.trans (h.of_error reads notEnd more)

end Incremental

theorem incremental_readWordFrom (index value : Nat) : Incremental (readWordFrom index value) where
  of_ok {bytes n rest} read more := by
    induction bytes generalizing index value with
    | nil => cases read
    | cons byte bytes ih =>
        simp only [readWordFrom, List.cons_append] at read ⊢
        by_cases last : byte.toNat < 128
        · rw [if_pos last] at read ⊢
          split at read
          · cases read
          · next inWord =>
              cases read
              rw [if_neg inWord]
        · rw [if_neg last] at read ⊢
          by_cases tenth : index = 9
          · rw [if_pos tenth] at read
            cases read
          · rw [if_neg tenth] at read ⊢
            exact ih _ _ read
  of_error {bytes fault} read notEnd more := by
    induction bytes generalizing index value with
    | nil =>
        cases read
        exact absurd rfl notEnd
    | cons byte bytes ih =>
        simp only [readWordFrom, List.cons_append] at read ⊢
        by_cases last : byte.toNat < 128
        · rw [if_pos last] at read ⊢
          split at read
          · next outside =>
              cases read
              rw [if_pos outside]
          · cases read
        · rw [if_neg last] at read ⊢
          by_cases tenth : index = 9
          · rw [if_pos tenth] at read ⊢
            exact read
          · rw [if_neg tenth] at read ⊢
            exact ih _ _ read

theorem incremental_takeBytes (count : Nat) : Incremental (takeBytes count) where
  of_ok {bytes taken rest} read more := by
    simp only [takeBytes] at read ⊢
    split at read
    · next enough =>
        cases read
        have within : count ≤ bytes.length := by
          rw [List.length_take] at enough
          omega
        rw [List.take_append_of_le_length within, List.drop_append_of_le_length within,
          if_pos enough]
    · cases read
  of_error read notEnd := by
    simp only [takeBytes] at read
    split at read
    · cases read
    · cases read
      exact absurd rfl notEnd

theorem incremental_word : Incremental word.read := incremental_readWordFrom 0 0

theorem incremental_long : Incremental long.read :=
  incremental_word.bind fun n => .pure (Int64.ofInt (unfold n))

theorem incremental_double : Incremental double.read :=
  (incremental_takeBytes 8).bind fun taken =>
    .pure (⟨UInt64.ofNat (ofLittleEndian taken)⟩ : Double)

theorem incremental_flag : Incremental flag.read where
  of_ok {bytes value rest} read more := by
    cases bytes with
    | nil => cases read
    | cons byte bytes =>
        simp only [flag, List.cons_append] at read ⊢
        by_cases isZero : byte = 0
        · rw [if_pos isZero] at read ⊢
          cases read
          rfl
        · rw [if_neg isZero] at read ⊢
          split at read
          · next isOne =>
              cases read
              rw [if_pos isOne]
          · cases read
  of_error {bytes fault} read notEnd more := by
    cases bytes with
    | nil =>
        cases read
        exact absurd rfl notEnd
    | cons byte bytes =>
        simp only [flag, List.cons_append] at read ⊢
        split at read
        · cases read
        · next notZero =>
            split at read
            · cases read
            · next notOne =>
                cases read
                rw [if_neg notZero, if_neg notOne]

theorem incremental_text : Incremental text.read := by
  have decoded (value? : Option String) : Incremental fun rest : List UInt8 =>
      value?.elim (.error .badText) fun value => .ok (value, rest) := by
    cases value? with
    | some value => exact .pure value
    | none => exact .refuse .badText
  have reads := incremental_word.bind fun size =>
    (incremental_takeBytes size).bind fun taken => decoded (Utf8.decode? taken)
  refine cast (congrArg Incremental (funext fun bytes => ?_)) reads
  refine bind_congr fun _ => bind_congr fun cut => ?_
  obtain ⟨taken, rest⟩ := cut
  dsimp only
  cases Utf8.decode? taken <;> rfl

theorem incremental_readItems {α : Type} {item : Reader α} (h : Incremental item) (count : Nat)
    (read : List α) : Incremental (readItems item count read) := by
  induction count generalizing read with
  | zero => exact .pure read.reverse
  | succ count ih => exact h.bind fun value => ih (value :: read)

theorem incremental_list {α : Type} {item : Layout α} (h : Incremental item.read) :
    Incremental (list item).read :=
  incremental_word.bind fun count => incremental_readItems h count []

theorem incremental_pair {α β : Type} {first : Layout α} {second : Layout β}
    (hf : Incremental first.read) (hs : Incremental second.read) :
    Incremental (pair first second).read :=
  hf.bind fun a => hs.bind fun b => .pure (a, b)

theorem incremental_view {α β : Type} {layout : Layout α} (h : Incremental layout.read)
    (toBase : β → α) (ofBase : α → β) : Incremental (layout.view toBase ofBase).read :=
  h.bind fun value => .pure (ofBase value)

end GraphEngine.Payload
