import GraphEngine.Files.Text
import GraphEngine.Settings.Basic
import GraphEngine.Toml.Document

/-!
Settings read from a file. What the file leaves out keeps its default, and a key that is not the
name of a setting, or a value that does not fit it, spoils the whole file.
-/
namespace GraphEngine.Settings

open Toml (Value)

/-- Counts are words of 64 bits. -/
def count? (value : Int) : Option Nat :=
  if 0 ≤ value ∧ value.toNat < UInt64.size then some value.toNat else none

def withEntry? (settings : Settings) : String × Value → Option Settings
  | ("data_dir", .text text) => some { settings with dataDir := text }
  | ("unordered_data_dir", .text text) => some { settings with stagingDir := text }
  | ("host", .text text) => some { settings with host := text }
  | ("port", .whole value) =>
      if 0 ≤ value ∧ value.toNat < UInt16.size then
        some { settings with port := UInt16.ofNat value.toNat }
      else none
  | ("persist_workers", .whole value) =>
      (count? value).map fun count => { settings with workers := count }
  | ("persist_queue_capacity", .whole value) =>
      (count? value).map fun count => { settings with queueCapacity := count }
  | ("node2vec_command", .texts texts) => some { settings with node2VecCommand := texts }
  | _ => none

def ofText (text : String) : Except EngineError Settings :=
  match (Toml.parse? text).bind fun entries => entries.foldlM withEntry? default with
  | some settings => .ok settings
  | none => .error (.serialization "Invalid config file: not a list of settings")

/-- The most bytes that a settings file may have. -/
def fileLimit : Nat := 1024 * 1024

def fileError (place : String) : TextFault → EngineError
  | .tooLong size =>
      .io s!"Config file size {size} bytes exceeds maximum allowed {fileLimit} bytes"
  | .unreadable reason => .io ("Cannot read config " ++ place ++ ": " ++ reason)

def load (files : Files) (place : String) : Except EngineError Settings := do
  ofText (← (files.text place fileLimit).mapError (fileError place))

end GraphEngine.Settings
