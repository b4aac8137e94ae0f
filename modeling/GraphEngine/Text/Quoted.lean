import GraphEngine.Text.Unicode

/-!
Texts in double quotes, as messages show names: quotes and backslashes are escaped, characters that
do not show by themselves are named or numbered, and all else stands as it is.
-/
namespace GraphEngine.Quoted

def hex (n : Nat) : String := String.ofList (Nat.toDigits 16 n)

/-- The letters, digits and signs of the common keyboard, which are all printable. -/
def isCommon (c : Char) : Bool := ' ' ≤ c && c ≤ '~'

def showsByItself (c : Char) : Bool :=
  isCommon c ||
    ! (Unicode.isIn Unicode.unprintable c.toNat || Unicode.isIn Unicode.extending c.toNat)

def quoteChar (c : Char) : String :=
  match c with
  | '"' => "\\\""
  | '\\' => "\\\\"
  | '\n' => "\\n"
  | '\r' => "\\r"
  | '\t' => "\\t"
  | '\x00' => "\\0"
  | _ => if showsByItself c then c.toString else "\\u\x7b" ++ hex c.toNat ++ "\x7d"

def quote (text : String) : String :=
  text.toList.foldl (fun out c => out ++ quoteChar c) "\"" ++ "\""

end GraphEngine.Quoted
