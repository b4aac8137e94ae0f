import GraphEngine.Proofs.Json.ReadBack
import GraphEngine.Proofs.Text.Scan

/-!
JSON sent as bytes.

The bytes of a JSON text are read as the text is, so that a value comes out of the bytes as it has
been written into them.
-/
namespace GraphEngine.Json

variable {α : Type}

theorem scanEntries_map_some (chars : List Char) :
    Token.scanEntries (chars.map some) = Token.scan chars := by
  rw [Token.scanEntries, List.foldl_map]
  rfl

theorem ofBytes_encode (text : String) :
    Document.ofBytes (Utf8.encode text) = Document.ofText text := by
  rw [Document.ofBytes, Utf8.scan_encode, scanEntries_map_some]
  rfl

theorem ofBytes_compact (value : Json) :
    Document.ofBytes (Utf8.encode value.compact) = ⟨value.toTree, true⟩ := by
  rw [ofBytes_encode, ofText_compact]

/-- A record of one field gives its value back. -/
theorem field_record {read : Tree → Except Fault α} {name : String} {value : Json} {result : α}
    (reads : read value.toTree = .ok result) :
    (Document.ofBytes (Utf8.encode (object [(name, value)]).compact)).field read name
      = .ok result := by
  rw [ofBytes_compact, Document.field]
  simp [toTree, memberTrees, Tree.field, Tree.fieldIn, reads]

end GraphEngine.Json
