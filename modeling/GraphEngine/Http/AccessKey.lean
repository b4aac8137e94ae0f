import GraphEngine.Http.Message
import GraphEngine.Text.Affix

/-!
The key that every request but a health check must carry, if one is set.
-/
namespace GraphEngine.Http

structure AccessKey where
  text : String
deriving DecidableEq

namespace AccessKey

/-- An empty text sets no key. -/
def ofText? (text : String) : Option AccessKey := if text = "" then none else some ⟨text⟩

/-- The bytes, filled up with zeros to the size. -/
def filled (size : Nat) (bytes : List UInt8) : List UInt8 :=
  bytes ++ List.replicate (size - bytes.length) 0

/-- Every byte is compared, also behind the first that differs. -/
def agree (left right : List UInt8) : Bool :=
  (left.zip right).foldl (fun same (one, other) => (one = other) && same) true

/-- Texts of different sizes are compared like others, so that the time tells nothing of the key. -/
def accepts (key : AccessKey) (provided : String) : Bool :=
  let given := Utf8.encode provided
  let expected := Utf8.encode key.text
  let size := max given.length expected.length
  agree (filled size given) (filled size expected) && given.length = expected.length

/-- What stands before the key, where a request says how it is to be understood. -/
def scheme : String := "Bearer "

/-- The key in the value of a header, with the scheme or without. -/
def provided (value : String) : String := (Affix.after? scheme value).getD value

def admits (key : AccessKey) (request : Request) : Bool :=
  match request.header? "authorization" with
  | some value => key.accepts (provided value)
  | none => false

end AccessKey
end GraphEngine.Http
