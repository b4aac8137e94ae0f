import GraphEngine.Double.Nearest

/-!
JSON values.

Numbers are whole numbers of the signed and unsigned 64-bit range, or finite doubles. Members of
an object keep the order in which they were first given; `WellFormed` says that no name is given
twice in one object.
-/
namespace GraphEngine

namespace Json

/-- The signed and the unsigned words of 64 bits together. -/
abbrev IsWord (value : Int) : Prop :=
  -9223372036854775808 ≤ value ∧ value < 18446744073709551616

inductive Number where
  | integer (value : Int) (inRange : IsWord value)
  | real (value : Double) (finite : value.isFinite = true)
deriving DecidableEq

namespace Number

/-- A whole number is rounded where it has more digits than a double. -/
def toDouble : Number → Double
  | .integer value _ => Double.ofInt value
  | .real value _ => value

def toInt64? : Number → Option Int64
  | .integer value _ => if value ≤ Int64.maxValue.toInt then some (Int64.ofInt value) else none
  | .real _ _ => none

end Number
end Json

inductive Json where
  | null
  | boolean (value : Bool)
  | number (value : Json.Number)
  | string (text : String)
  | array (items : List Json)
  | object (members : List (String × Json))

namespace Json

mutual

def decEq : (v w : Json) → Decidable (v = w)
  | .null, .null => isTrue rfl
  | .boolean a, .boolean b | .number a, .number b | .string a, .string b =>
      decidable_of_iff (a = b) (by simp)
  | .array a, .array b => have := decEqItems a b; decidable_of_iff (a = b) (by simp)
  | .object a, .object b => have := decEqMembers a b; decidable_of_iff (a = b) (by simp)
  | .null, .boolean _ | .null, .number _ | .null, .string _ | .null, .array _ | .null, .object _
  | .boolean _, .null | .boolean _, .number _ | .boolean _, .string _ | .boolean _, .array _
  | .boolean _, .object _ | .number _, .null | .number _, .boolean _ | .number _, .string _
  | .number _, .array _ | .number _, .object _ | .string _, .null | .string _, .boolean _
  | .string _, .number _ | .string _, .array _ | .string _, .object _ | .array _, .null
  | .array _, .boolean _ | .array _, .number _ | .array _, .string _ | .array _, .object _
  | .object _, .null | .object _, .boolean _ | .object _, .number _ | .object _, .string _
  | .object _, .array _ => isFalse nofun

def decEqItems : (vs ws : List Json) → Decidable (vs = ws)
  | [], [] => isTrue rfl
  | v :: vs, w :: ws =>
      have := decEq v w
      have := decEqItems vs ws
      decidable_of_iff (v = w ∧ vs = ws) (by simp)
  | [], _ :: _ | _ :: _, [] => isFalse nofun

def decEqMembers : (vs ws : List (String × Json)) → Decidable (vs = ws)
  | [], [] => isTrue rfl
  | (k, v) :: vs, (l, w) :: ws =>
      have := decEq v w
      have := decEqMembers vs ws
      decidable_of_iff (k = l ∧ v = w ∧ vs = ws) (by simp [and_assoc])
  | [], _ :: _ | _ :: _, [] => isFalse nofun

end

instance : DecidableEq Json := decEq

instance : Inhabited Json := ⟨.null⟩

/-- A name that is already there keeps its place and takes the new value. -/
def insertMember (name : String) (value : Json) : List (String × Json) → List (String × Json)
  | [] => [(name, value)]
  | (k, v) :: rest =>
      if k = name then (k, value) :: rest else (k, v) :: insertMember name value rest

def member? (members : List (String × Json)) (name : String) : Option Json :=
  members.lookup name

/-- The value of a member; what is no object has none. -/
def get? (value : Json) (name : String) : Option Json :=
  match value with
  | .object members => member? members name
  | _ => none

mutual

def WellFormed : Json → Prop
  | .array items => WellFormedItems items
  | .object members => (members.map Prod.fst).Nodup ∧ WellFormedMembers members
  | _ => True

def WellFormedItems : List Json → Prop
  | [] => True
  | v :: rest => WellFormed v ∧ WellFormedItems rest

def WellFormedMembers : List (String × Json) → Prop
  | [] => True
  | (_, v) :: rest => WellFormed v ∧ WellFormedMembers rest

end

/-- The whole number as JSON; sizes and 64-bit words are in range. -/
def ofInt (n : Int) : Json :=
  if h : IsWord n then .number (.integer n h) else .null

def ofNat (n : Nat) : Json := ofInt n

/-- A double as JSON; infinities and not-a-number have no JSON number and become `null`. -/
def ofDouble (d : Double) : Json :=
  if h : d.isFinite = true then .number (.real d h) else .null

end Json
end GraphEngine
