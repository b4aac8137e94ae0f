import GraphEngine.Http.MediaType
import GraphEngine.Json.Printer
import GraphEngine.Json.Reader

/-!
Requests and responses.

Names of headers are the same in either case, and of headers with one name the first counts.
-/
namespace GraphEngine.Http

structure Request where
  method : String
  /-- The path and what follows it; a whole address may stand around them. -/
  target : String
  headers : List (String × String)
  body : List UInt8

inductive Body where
  | none
  | json (value : Json)
  | text (text : String)
deriving DecidableEq

structure Response where
  status : Nat
  body : Body
deriving DecidableEq

namespace Request

def isSchemeChar (c : Char) : Bool := c.isAlphanum || c = '+' || c = '-' || c = '.'

/-- What follows the scheme of a whole address. -/
def afterScheme? : List Char → Option (List Char)
  | ':' :: '/' :: '/' :: rest => some rest
  | c :: rest => if isSchemeChar c then afterScheme? rest else none
  | [] => none

def endsPath (c : Char) : Bool := c = '?' || c = '#'

/-- In a whole address the path follows the host, and without one it is the top. -/
def path (request : Request) : String :=
  let target := request.target.toList
  match afterScheme? target with
  | none => String.ofList (target.takeWhile fun c => ! endsPath c)
  | some address =>
      let path := (address.dropWhile fun c => c ≠ '/' && ! endsPath c).takeWhile
        fun c => ! endsPath c
      if path = [] then "/" else String.ofList path

/-- Values of headers are texts only where every character can be seen, or is a tab. -/
def isVisible (c : Char) : Bool := (' ' ≤ c && c ≤ '~') || c = '\t'

def header? (request : Request) (name : String) : Option String :=
  ((request.headers.find? fun (given, _) => given.toLower = name).map Prod.snd).filter
    (·.toList.all isVisible)

def isJson (request : Request) : Bool :=
  match (request.header? "content-type").bind MediaType.parse? with
  | some type => type.isJson
  | none => false

/-- The most bytes that the body of a request may have. -/
def bodyLimit : Nat := 2 * 1024 * 1024

/-- The only field of a JSON body, or the status with which the request is turned away. -/
def field (request : Request) (name : String) : Except Nat String :=
  if ! request.isJson then .error 415
  else if bodyLimit < request.body.length then .error 413
  else match (Json.Document.ofBytes request.body).field Json.Tree.text name with
    | .ok value => .ok value
    | .error .malformed => .error 400
    | .error .mismatch => .error 422

end Request
end GraphEngine.Http
