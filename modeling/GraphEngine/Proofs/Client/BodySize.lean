import GraphEngine.Client.Run
import GraphEngine.Proofs.Client.Transparency
import GraphEngine.Proofs.Files.Text
import GraphEngine.Proofs.Json.Size

/-!
Descriptors from files, and the size of the bodies that carry them.

A file is measured as it is, and a body with the descriptor between quotes. So the limit for files
does not keep bodies within theirs, although the two are one number.
-/
namespace GraphEngine.Client

open Http (AccessKey Request Response Server)

variable {call : Call} {key : Option AccessKey} {server : Server} {store : Store} {files : Files}
  {place text : String}

/-- Both calls that carry a descriptor have one field. -/
theorem length_body (carries : call = .canCompute text ∨ call = .compute text)
    (key : Option AccessKey) :
    (call.request key).body.length = 16 + Json.escapedLength text := by
  have named : Json.escapedLength "operation" = 9 := by decide
  have body : (call.request key).body
      = Utf8.encode (Json.object [("operation", .string text)]).compact := by
    rcases carries with rfl | rfl <;> rfl
  rw [body, Utf8.length_encode, Json.utf8ByteSize_record, named]
  omega

theorem respond_tooLarge (given : call.field? = some text)
    (admitted : server.isAdmitted (call.request key) = true)
    (large : Request.bodyLimit < (call.request key).body.length) (store : Store) :
    server.respond store (call.request key) = ⟨.empty 413, [], store⟩ := by
  have field : (call.request key).field call.route.fieldName = .error 413 := by
    rw [Request.field, isJson_request given, if_pos large]
    rfl
  rw [respond_of_admitted given admitted, field]

/-- No call answers with the status of a body that is too large. -/
theorem status_call_ne (server : Server) (store : Store) (route : Http.Route) (field : String) :
    (server.call store route field).response.status ≠ 413 := by
  have ok : (200 : Nat) ≠ 413 := by decide
  have ofError (error : EngineError) : (Response.ofError error).status ≠ 413 := by
    cases error <;> simp [Response.ofError, EngineError.httpStatus]
  have ofResult {α : Type} (members : α → List (String × Json))
      (result : Except EngineError α) : (Response.ofResult members result).status ≠ 413 := by
    cases result with
    | ok value => exact ok
    | error error => exact ofError error
  cases route with
  | health | hasInMemory => exact ok
  | canCompute | getScalar | hasOnDisk => exact ofResult _ _
  | compute =>
      simp only [Server.call, Server.compute]
      cases (server.engine.compute store field).result with
      | ok list => exact ok
      | error error => exact ofError error
  | readFromDisk =>
      simp only [Server.call, Server.readFromDisk]
      cases store.promote ⟨field⟩ with
      | ok changed => exact ok
      | error error => exact ofError error

theorem call_fromFile {descriptorCall : String → Call}
    (asked : (Asked.fromFile place descriptorCall).call files = .ok call) :
    ∃ text, files.text place descriptorLimit = .ok text ∧ call = descriptorCall text := by
  rw [Asked.call] at asked
  cases read : files.text place descriptorLimit with
  | error fault =>
      rw [read] at asked
      cases asked
  | ok text =>
      rw [read] at asked
      cases asked
      exact ⟨text, rfl, rfl⟩

/-- The body for a descriptor from a file has 16 bytes and those of the descriptor between quotes.
The server turns it away for its size if and only if these are too many, which they never are for a
file of at most 349522 bytes and always for one of more than 2097136. -/
theorem descriptor_size {descriptorCall : String → Call}
    (carries : descriptorCall = .canCompute ∨ descriptorCall = .compute)
    (asked : (Asked.fromFile place descriptorCall).call files = .ok call)
    (key : Option AccessKey) :
    ∃ text, call = descriptorCall text ∧ text.utf8ByteSize ≤ descriptorLimit ∧
      (call.request key).body.length = 16 + Json.escapedLength text ∧
      (text.utf8ByteSize ≤ 349522 → (call.request key).body.length ≤ Request.bodyLimit) ∧
      (2097136 < text.utf8ByteSize → Request.bodyLimit < (call.request key).body.length) ∧
      ∀ (server : Server) (store : Store), server.isAdmitted (call.request key) = true →
        ((server.respond store (call.request key)).response.status = 413 ↔
          Request.bodyLimit < (call.request key).body.length) ∧
        ((call.request key).body.length ≤ Request.bodyLimit →
          server.respond store (call.request key) = server.call store call.route text) := by
  obtain ⟨text, read, rfl⟩ := call_fromFile asked
  have isCall : descriptorCall text = .canCompute text ∨ descriptorCall text = .compute text := by
    rcases carries with rfl | rfl
    · exact .inl rfl
    · exact .inr rfl
  have given : (descriptorCall text).field? = some text := by
    rcases isCall with same | same <;> rw [same] <;> rfl
  have length := length_body isCall key
  have bounds := Json.escapedLength_bounds text
  have limit : Request.bodyLimit = 2097152 := rfl
  refine ⟨text, rfl, Files.size_text read, length, by omega, by omega, ?_⟩
  intro server store admitted
  refine ⟨⟨fun refused => ?_, fun large => ?_⟩,
    fun small => respond_of_fits given admitted small store⟩
  · by_contra small
    rw [respond_of_fits given admitted (Nat.le_of_not_lt small)] at refused
    exact status_call_ne _ _ _ _ refused
  · rw [respond_tooLarge given admitted large]
    rfl

def holding (content : Content) : Files := Files.empty.put ["descriptor"] (.file content)

theorem descriptor_size_quoteAndNewline :
    ∃ call, (Asked.fromFile "descriptor" .canCompute).call (holding (.ofBytes [0x22, 0x0a]))
        = .ok call ∧
      (call.request none).body.length = 20 ∧
      (Server.standardServer.respond .overTwoAreas (call.request none)).response.status ≠ 413 := by
  have asked : (Asked.fromFile "descriptor" .canCompute).call (holding (.ofBytes [0x22, 0x0a]))
      = .ok (.canCompute "\"\n") := by
    decide +kernel
  obtain ⟨text, same, _, length, _, _, answers⟩ := descriptor_size (.inl rfl) asked none
  cases same
  have size : ((Call.canCompute "\"\n").request none).body.length = 20 := by
    rw [length]
    decide
  refine ⟨_, asked, size, fun refused => ?_⟩
  have large := (answers Server.standardServer .overTwoAreas rfl).1.mp refused
  rw [size] at large
  exact absurd large (by decide)

def zeros (count : Nat) : String := String.ofList (List.replicate count '\x00')

theorem encode_zeros (count : Nat) : Utf8.encode (zeros count) = List.replicate count 0 := by
  have one : String.utf8EncodeChar '\x00' = [0] := by decide
  rw [zeros, Utf8.encode_eq, String.toByteArray_ofList, List.utf8Encode,
    List.toList_data_toByteArray, List.flatMap_replicate, one]
  exact List.flatten_replicate_singleton

theorem escapedLength_zeros (count : Nat) : Json.escapedLength (zeros count) = 6 * count := by
  have six : Json.escapedSize '\x00' = 6 := by decide
  rw [zeros, Json.escapedLength, String.toList_ofList, List.map_replicate, six]
  simp [Nat.mul_comm]

theorem zeros_turned_away :
    ∃ call, (Asked.fromFile "descriptor" .compute).call (holding ⟨[], 349523⟩) = .ok call ∧
      (⟨[], 349523⟩ : Content).size ≤ descriptorLimit ∧
      Request.bodyLimit < (call.request none).body.length ∧
      (Server.standardServer.respond .overTwoAreas (call.request none)).response.status = 413 := by
  have fits : (⟨[], 349523⟩ : Content).size ≤ descriptorLimit := by decide
  have read : (holding ⟨[], 349523⟩).text "descriptor" descriptorLimit = .ok (zeros 349523) := by
    refine Files.text_eq_ok.mpr ⟨⟨[], 349523⟩, by decide +kernel, fits, ?_⟩
    rw [encode_zeros]
    rfl
  have length := length_body (.inr (rfl : Call.compute (zeros 349523) = _)) none
  have large : Request.bodyLimit < ((Call.compute (zeros 349523)).request none).body.length := by
    rw [length, escapedLength_zeros]
    decide
  refine ⟨.compute (zeros 349523), ?_, fits, large, ?_⟩
  · rw [Asked.call, read]
    rfl
  · rw [respond_tooLarge rfl rfl large]
    rfl

end GraphEngine.Client
