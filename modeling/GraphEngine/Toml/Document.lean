import GraphEngine.Toml.Token

/-!
Settings files: lines that give a value to a key.

Values are texts, whole numbers and lists of texts. Every other value, and every file with tables,
has no meaning here, and neither has a file in which a key is given twice.
-/
namespace GraphEngine.Toml

inductive Value where
  | text (text : String)
  | whole (value : Int)
  | texts (texts : List String)
deriving DecidableEq

/-- Digits of a base, with single underscores between digits. -/
def digits? (base : Nat) (value : Nat) : (afterDigit : Bool) → List Char → Option Nat
  | afterDigit, [] => if afterDigit then some value else none
  | afterDigit, c :: rest =>
      if c = '_' then if afterDigit then digits? base value false rest else none
      else match Lexer.hexDigit? c with
        | some digit =>
            if digit < base then digits? base (base * value + digit) true rest else none
        | none => none

/-- A number that is not zero does not begin with a zero. -/
def decimal? : List Char → Option Nat
  | ['0'] => some 0
  | '0' :: _ => none
  | digits => digits? 10 0 false digits

/-- Only decimal numbers have signs. -/
def whole? : List Char → Option Int
  | '+' :: rest => (decimal? rest).map Int.ofNat
  | '-' :: rest => (decimal? rest).map fun value => -(value : Int)
  | '0' :: 'x' :: rest => (digits? 16 0 false rest).map Int.ofNat
  | '0' :: 'o' :: rest => (digits? 8 0 false rest).map Int.ofNat
  | '0' :: 'b' :: rest => (digits? 2 0 false rest).map Int.ofNat
  | text => (decimal? text).map Int.ofNat

def isKeyChar (c : Char) : Bool := c.isAlphanum || c = '_' || c = '-'

/-- Where the next token stands. Items of a list are kept last first. -/
inductive Place where
  | lineStart
  | afterKey (key : String)
  | beforeValue (key : String)
  | itemOrEnd (key : String) (items : List String)
  | afterItem (key : String) (items : List String)
  | afterValue
deriving DecidableEq

/-- The entries so far, the last one first. -/
structure Reader where
  place : Place
  entries : List (String × Value)

namespace Reader

def start : Reader := ⟨.lineStart, []⟩

def move (reader : Reader) (place : Place) : Option Reader := some { reader with place }

def add (reader : Reader) (key : String) (value : Value) : Option Reader :=
  some ⟨.afterValue, (key, value) :: reader.entries⟩

def step? (reader : Reader) (token : Token) : Option Reader :=
  match reader.place, token with
  | .lineStart, .newLine => some reader
  | .lineStart, .word key =>
      if key.toList.all isKeyChar then reader.move (.afterKey key) else none
  | .lineStart, .text key true => reader.move (.afterKey key)
  | .afterKey key, .equals => reader.move (.beforeValue key)
  | .beforeValue key, .word text =>
      match whole? text.toList with
      | some value => reader.add key (.whole value)
      | none => none
  | .beforeValue key, .text text _ => reader.add key (.text text)
  | .beforeValue key, .openArray => reader.move (.itemOrEnd key [])
  | .itemOrEnd _ _, .newLine | .afterItem _ _, .newLine => some reader
  | .itemOrEnd key items, .text item _ => reader.move (.afterItem key (item :: items))
  | .itemOrEnd key items, .closeArray | .afterItem key items, .closeArray =>
      reader.add key (.texts items.reverse)
  | .afterItem key items, .comma => reader.move (.itemOrEnd key items)
  | .afterValue, .newLine => reader.move .lineStart
  | _, _ => none

def finish? (reader : Reader) : Option (List (String × Value)) :=
  if (reader.place = .lineStart ∨ reader.place = .afterValue) ∧
      (reader.entries.map Prod.fst).Nodup then
    some reader.entries.reverse
  else none

end Reader

/-- The entries of a file in their order. -/
def parse? (text : String) : Option (List (String × Value)) := do
  ((← (Token.scan text).foldlM Reader.step? Reader.start)).finish?

end GraphEngine.Toml
