import GraphEngine.Files.Text
import GraphEngine.Proofs.Text.Utf8

/-!
Texts in files: the text is that of all the bytes, of which there are not too many.
-/
namespace GraphEngine

theorem Content.length_toList (content : Content) : content.toList.length = content.size := by
  rw [toList, List.length_append, List.length_replicate, size]

namespace Files

variable {files : Files} {place text : String} {limit : Nat}

theorem text_eq_ok : files.text place limit = .ok text ↔ ∃ content,
    files.locate place >>= files.read = .ok content ∧ content.size ≤ limit ∧
      content.toList = Utf8.encode text := by
  unfold Files.text
  cases found : files.locate place >>= files.read with
  | error fault => simp
  | ok content =>
      simp only [Except.ok.injEq, exists_eq_left']
      by_cases long : limit < content.size
      · simp [long, Nat.not_le.mpr long]
      · have decoded := Utf8.decode?_eq_some_iff content.toList text
        rw [if_neg long, eq_comm (b := Utf8.encode text), ← decoded]
        cases Utf8.decode? content.toList <;> simp [Nat.le_of_not_lt long]

theorem size_text (read : files.text place limit = .ok text) : text.utf8ByteSize ≤ limit := by
  obtain ⟨content, _, fits, bytes⟩ := text_eq_ok.mp read
  rw [← Utf8.length_encode, ← bytes, Content.length_toList]
  exact fits

end Files
end GraphEngine
