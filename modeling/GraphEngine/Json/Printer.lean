import GraphEngine.Decimal.Layout
import GraphEngine.Json.Basic

/-!
JSON as text, on one line or laid out over several.
-/
namespace GraphEngine.Json

/--
Doubles are written out while the point stands within sixteen digits after and five zeros before
the first digit, and a whole one ends in `.0`.
-/
def doubleLayout : Decimal.Layout := ⟨.even, fun point => -5 < point && point ≤ 16, true⟩

def Number.text : Number → String
  | .integer value _ => toString value
  | .real value _ => doubleLayout.text value

def hexDigit (n : Nat) : Char := Nat.digitChar n

/-- Quotes, backslashes and control characters are escaped, all else stands as it is. -/
def escapeChar (c : Char) : String :=
  match c with
  | '"' => "\\\""
  | '\\' => "\\\\"
  | '\x08' => "\\b"
  | '\x0c' => "\\f"
  | '\n' => "\\n"
  | '\r' => "\\r"
  | '\t' => "\\t"
  | _ =>
      if c < ' ' then
        String.ofList ['\\', 'u', '0', '0', hexDigit (c.toNat / 16), hexDigit (c.toNat % 16)]
      else c.toString

def emitString (out : String) (text : String) : String :=
  (text.toList.foldl (fun out c => out ++ escapeChar c) (out.push '"')).push '"'

mutual

/-- The text so far, and then the value without any blanks. -/
def emit (out : String) : Json → String
  | .null => out ++ "null"
  | .boolean value => out ++ (if value then "true" else "false")
  | .number value => out ++ value.text
  | .string text => emitString out text
  | .array [] => out ++ "[]"
  | .array (item :: rest) => (emitItems (emit (out.push '[') item) rest).push ']'
  | .object [] => out ++ "\x7b\x7d"
  | .object ((name, value) :: rest) =>
      (emitMembers (emit ((emitString (out.push '\x7b') name).push ':') value) rest).push '\x7d'

def emitItems (out : String) : List Json → String
  | [] => out
  | item :: rest => emitItems (emit (out.push ',') item) rest

def emitMembers (out : String) : List (String × Json) → String
  | [] => out
  | (name, value) :: rest =>
      emitMembers (emit ((emitString (out.push ',') name).push ':') value) rest

end

def compact (value : Json) : String := emit "" value

/-- A new line indented by two blanks for each level. -/
def newLine (out : String) (level : Nat) : String :=
  out.push '\n' ++ String.ofList (List.replicate (2 * level) ' ')

mutual

/-- Every item and member on a line of its own, two blanks further in than its container. -/
def emitLines (level : Nat) (out : String) : Json → String
  | .array (item :: rest) =>
      let items :=
        emitItemLines (level + 1) (emitLines (level + 1) (newLine (out.push '[') (level + 1)) item)
          rest
      (newLine items level).push ']'
  | .object ((name, value) :: rest) =>
      let first := emitString (newLine (out.push '\x7b') (level + 1)) name ++ ": "
      let members := emitMemberLines (level + 1) (emitLines (level + 1) first value) rest
      (newLine members level).push '\x7d'
  | .null => out ++ "null"
  | .boolean value => out ++ (if value then "true" else "false")
  | .number value => out ++ value.text
  | .string text => emitString out text
  | .array [] => out ++ "[]"
  | .object [] => out ++ "\x7b\x7d"

def emitItemLines (level : Nat) (out : String) : List Json → String
  | [] => out
  | item :: rest => emitItemLines level (emitLines level (newLine (out.push ',') level) item) rest

def emitMemberLines (level : Nat) (out : String) : List (String × Json) → String
  | [] => out
  | (name, value) :: rest =>
      let start := emitString (newLine (out.push ',') level) name ++ ": "
      emitMemberLines level (emitLines level start value) rest

end

def pretty (value : Json) : String := emitLines 0 "" value

end GraphEngine.Json
