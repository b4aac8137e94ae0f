import GraphEngine.Json.Tree

/-!
Reading a tree: as a value, or as a record with known fields.

Values are read with an allowance for nesting. The fields of a record are looked up by name among
its members; a name given twice is refused, and what no field is named after is skipped unread.
-/
namespace GraphEngine.Json

namespace Tree

mutual

/-- The value, if no more than `room` containers are nested and every part is good. -/
def toJson? (room : Nat) : Tree → Option Json
  | .null => some .null
  | .boolean value => some (.boolean value)
  | .number literal => literal.toNumber?.map .number
  | .string text => text.map .string
  | .array items closed =>
      if closed ∧ 0 < room then (itemsToJson? (room - 1) items).map .array else none
  | .object members closed =>
      if closed ∧ 0 < room then (membersToJson? (room - 1) [] members).map .object else none
  | .cut => none

def itemsToJson? (room : Nat) : List Tree → Option (List Json)
  | [] => some []
  | tree :: rest =>
      match toJson? room tree with
      | some value => (itemsToJson? room rest).map (value :: ·)
      | none => none

def membersToJson? (room : Nat) (read : List (String × Json)) :
    List (Option String × Tree) → Option (List (String × Json))
  | [] => some read
  | (some name, tree) :: rest =>
      match toJson? room tree with
      | some value => membersToJson? room (insertMember name value read) rest
      | none => none
  | (none, _) :: _ => none

end

/-- The text of a string that has one. -/
def text? : Tree → Option String
  | .string text => text
  | _ => none

/-- The named members of an object whose every name is a text. -/
def members? : Tree → Option (List (String × Tree))
  | .object members true => members.mapM fun (name, tree) => name.map (·, tree)
  | _ => none

/-- The values of a record's fields, which may also be given as an array in their order. -/
def fields? (names : List String) : Tree → Option (List (String × Tree))
  | .array items true => if items.length ≤ names.length then some (names.zip items) else none
  | tree => do
      let members ← tree.members?
      let known := members.filter fun member => names.contains member.1
      if (known.map Prod.fst).Nodup then some known else none

end Tree

/-- How many arrays and objects may be nested in a text. -/
def nestingLimit : Nat := 127

def parse? (text : String) : Option Json := do
  let tree ← (Document.ofText text).tree?
  tree.toJson? nestingLimit

/-- Why a text is not the record that was asked for. -/
inductive Fault where
  /-- It is not JSON. -/
  | malformed
  /-- It is JSON of another shape. -/
  | mismatch
deriving DecidableEq

namespace Tree

/-- The fault met on reading a tree as something that it is not. -/
def otherwise : Tree → Fault
  | .cut | .string none => .malformed
  | .number literal => if literal.toNumber?.isSome then .mismatch else .malformed
  | _ => .mismatch

def text (tree : Tree) : Except Fault String :=
  match tree with
  | .string (some text) => .ok text
  | tree => .error tree.otherwise

def flag (tree : Tree) : Except Fault Bool :=
  match tree with
  | .boolean value => .ok value
  | tree => .error tree.otherwise

/-- One pass over the members of an object in search of one field, read where it is met. -/
def fieldIn {α : Type} (read : Tree → Except Fault α) (field : String) (closed : Bool) :
    Option α → List (Option String × Tree) → Except Fault α
  | found, [] =>
      if closed then match found with
        | some value => .ok value
        | none => .error .mismatch
      else .error .malformed
  | found, (name, tree) :: rest =>
      match name with
      | none => .error .malformed
      | some name =>
          if name = field then
            match found, read tree with
            | some _, _ => .error .mismatch
            | none, .ok value => fieldIn read field closed (some value) rest
            | none, .error fault => .error fault
          else fieldIn read field closed found rest

/-- The only field of a record, by its name or as the only item of an array. -/
def field {α : Type} (read : Tree → Except Fault α) (name : String) :
    Tree → Except Fault α
  | .object members closed => fieldIn read name closed none members
  | .array [] closed => .error (if closed then .mismatch else .malformed)
  | .array (item :: rest) closed =>
      match read item with
      | .ok value => if rest.isEmpty ∧ closed then .ok value else .error .malformed
      | .error fault => .error fault
  | tree => .error tree.otherwise

end Tree

/-- A document that holds one field and nothing after it. -/
def Document.field {α : Type} (document : Document) (read : Tree → Except Fault α)
    (name : String) : Except Fault α :=
  match document.tree.field read name with
  | .ok value => if document.complete then .ok value else .error .malformed
  | .error fault => .error fault

end GraphEngine.Json
