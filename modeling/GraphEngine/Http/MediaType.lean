/-!
Media types, as a request names the format of its body.

A media type is `type/subtype`, and parameters may follow a semicolon. What comes after the last
plus sign of the subtype is its suffix.
-/
namespace GraphEngine.Http

structure MediaType where
  type : String
  subtype : String
  suffix : Option String
deriving DecidableEq

namespace MediaType

def isTokenChar (c : Char) : Bool :=
  c.isAlphanum || "!#$%&'*+-.^_|~".toList.contains c || c = '\x60'

def isQuotable (c : Char) : Bool := ' ' ≤ c && c ≠ '\x7f'

/-- Where a scan of parameters stands. -/
inductive Place where
  | beforeName
  | inName
  | beforeValue
  | inValue
  /-- In quotes, of which the first closes nothing. -/
  | inQuotes (isEmpty : Bool)
  | afterQuotes

def step? (place : Place) (c : Char) : Option Place :=
  match place with
  | .beforeName =>
      if c = ' ' then some .beforeName else if isTokenChar c then some .inName else none
  | .inName =>
      if isTokenChar c then some .inName else if c = '=' then some .beforeValue else none
  | .beforeValue =>
      if c = '"' then some (.inQuotes true) else if isTokenChar c then some .inValue else none
  | .inValue =>
      if isTokenChar c then some .inValue else if c = ';' then some .beforeName else none
  | .inQuotes isEmpty =>
      if c = '"' ∧ ¬ isEmpty then some .afterQuotes
      else if isQuotable c then some (.inQuotes false) else none
  | .afterQuotes =>
      if c = ' ' then some .afterQuotes else if c = ';' then some .beforeName else none

/-- Whether the text may end there. -/
def Place.isEnd : Place → Bool
  | .beforeName | .beforeValue | .inValue | .afterQuotes => true
  | .inName | .inQuotes _ => false

def areParameters (text : List Char) : Bool :=
  match text.foldlM step? .beforeName with
  | some place => place.isEnd
  | none => false

/-- The subtype and its suffix. A plus sign in front belongs to the subtype. -/
def splitSuffix (subtype : List Char) : List Char × Option (List Char) :=
  let reversed := subtype.reverse
  let suffix := reversed.takeWhile (· ≠ '+')
  match reversed.drop (suffix.length + 1) with
  | [] => (subtype, none)
  | start => (start.reverse, some suffix.reverse)

def lower (text : List Char) : String := String.ofList (text.map Char.toLower)

def parse? (text : String) : Option MediaType :=
  let type := text.toList.takeWhile (· ≠ '/')
  match text.toList.drop type.length with
  | [] => none
  | _ :: rest =>
      let subtype := rest.takeWhile (· ≠ ';')
      let parameters := rest.drop (subtype.length + 1)
      if type ≠ [] ∧ type.all isTokenChar ∧ subtype.all isTokenChar ∧
          areParameters parameters then
        let (subtype, suffix) := splitSuffix subtype
        some ⟨lower type, lower subtype, suffix.map lower⟩
      else none

def isJson (type : MediaType) : Bool :=
  type.type = "application" && (type.subtype = "json" || type.suffix = some "json")

end MediaType
end GraphEngine.Http
