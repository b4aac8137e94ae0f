/-!
The tokens of a settings file.

A word is any run of characters that are not blanks, quotes or marks; what it means depends on
where it stands. Four kinds of quotes make texts, and only those on one line can be keys.
-/
namespace GraphEngine.Toml

inductive Token where
  | newLine
  | equals
  | comma
  | openArray
  | closeArray
  | word (text : String)
  | text (text : String) (isKey : Bool)
  | broken
deriving DecidableEq

/-- The quotes around a text. -/
structure Quotes where
  /-- The double kind, in which a backslash begins an escape. -/
  isDouble : Bool
  spansLines : Bool
deriving DecidableEq

def Quotes.mark (quotes : Quotes) : Char := if quotes.isDouble then '"' else '\''

/-- What the next character belongs to. Characters read so far are kept last first. -/
inductive Mode where
  | between
  | word (read : List Char)
  | comment
  /-- After one or two quotes that may be the first of three. -/
  | opening (isDouble : Bool) (count : Nat)
  /-- After three opening quotes, where one line break is left out. -/
  | opened (quotes : Quotes)
  | text (quotes : Quotes) (read : List Char)
  /-- After quotes that may be the first of three. -/
  | closing (quotes : Quotes) (read : List Char) (count : Nat)
  | escape (quotes : Quotes) (read : List Char)
  | number (quotes : Quotes) (read : List Char) (digitsLeft value : Nat)
  /-- After a backslash, before the end of its line. -/
  | lineEnd (quotes : Quotes) (read : List Char)
  /-- After that, before the text goes on. -/
  | margin (quotes : Quotes) (read : List Char)
  | stopped

/-- Tokens are collected last first. -/
structure Lexer where
  mode : Mode
  tokens : List Token
  /-- A carriage return that was read just before, and that only a line feed may follow. -/
  due : List Char

namespace Lexer

def start : Lexer := ⟨.between, [], []⟩

def emit (lexer : Lexer) (token : Token) : Lexer :=
  { lexer with mode := .between, tokens := token :: lexer.tokens }

def enter (lexer : Lexer) (mode : Mode) : Lexer := { lexer with mode }

def stop (lexer : Lexer) : Lexer :=
  { lexer with mode := .stopped, tokens := .broken :: lexer.tokens }

def emitText (lexer : Lexer) (quotes : Quotes) (read : List Char) : Lexer :=
  lexer.emit (.text (String.ofList read.reverse) (! quotes.spansLines))

def emitWord (lexer : Lexer) (read : List Char) : Lexer :=
  lexer.emit (.word (String.ofList read.reverse))

def isBlank (c : Char) : Bool := c = ' ' || c = '\t'

/-- Control characters other than tabs stand nowhere in a file. -/
def isAllowed (c : Char) : Bool := (' ' ≤ c || c = '\t') && c ≠ '\x7f'

/-- Characters that end a word. -/
def isMark (c : Char) : Bool :=
  isBlank c || "=,[]\"'#\x7b\x7d".toList.contains c || ! isAllowed c

def escaped? : Char → Option Char
  | 'b' => some '\x08'
  | 't' => some '\t'
  | 'n' => some '\n'
  | 'f' => some '\x0c'
  | 'r' => some '\r'
  | 'e' => some '\x1b'
  | '"' => some '"'
  | '\\' => some '\\'
  | _ => none

/-- The number of digits in an escape by number. -/
def digitCount? : Char → Option Nat
  | 'x' => some 2
  | 'u' => some 4
  | 'U' => some 8
  | _ => none

def hexDigit? (c : Char) : Option Nat :=
  if c.isDigit then some (c.toNat - '0'.toNat)
  else if 'a' ≤ c ∧ c ≤ 'f' then some (c.toNat - 'a'.toNat + 10)
  else if 'A' ≤ c ∧ c ≤ 'F' then some (c.toNat - 'A'.toNat + 10)
  else none

/-- Surrogates and numbers beyond the last character stand for none. -/
def char? (value : Nat) : Option Char :=
  if value.isValidChar then some (Char.ofNat value) else none

def begin (lexer : Lexer) (c : Char) : Lexer :=
  match c with
  | '\n' => lexer.emit .newLine
  | '=' => lexer.emit .equals
  | ',' => lexer.emit .comma
  | '[' => lexer.emit .openArray
  | ']' => lexer.emit .closeArray
  | '#' => lexer.enter .comment
  | '"' => lexer.enter (.opening true 1)
  | '\'' => lexer.enter (.opening false 1)
  | _ =>
      if isBlank c then lexer.enter .between
      else if isMark c then lexer.stop
      else lexer.enter (.word [c])

/-- A line break in a text keeps the characters with which it is written. -/
def feedText (lexer : Lexer) (quotes : Quotes) (read : List Char) (c : Char) : Lexer :=
  if c = quotes.mark then
    if quotes.spansLines then lexer.enter (.closing quotes read 1)
    else lexer.emitText quotes read
  else if c = '\\' ∧ quotes.isDouble then lexer.enter (.escape quotes read)
  else if isAllowed c ∨ (c = '\n' ∧ quotes.spansLines) then
    lexer.enter (.text quotes (c :: lexer.due ++ read))
  else lexer.stop

def feedOpening (lexer : Lexer) (isDouble : Bool) (count : Nat) (c : Char) : Lexer :=
  let short : Quotes := ⟨isDouble, false⟩
  if c = short.mark then
    if count = 1 then lexer.enter (.opening isDouble 2)
    else lexer.enter (.opened ⟨isDouble, true⟩)
  else if count = 1 then lexer.feedText short [] c
  else (lexer.emitText short []).begin c

/-- Up to two quotes before the closing three belong to the text. -/
def feedClosing (lexer : Lexer) (quotes : Quotes) (read : List Char) (count : Nat)
    (c : Char) : Lexer :=
  let withQuotes (extra : Nat) : List Char := List.replicate extra quotes.mark ++ read
  if c = quotes.mark then
    if count = 4 then lexer.emitText quotes (withQuotes 2)
    else lexer.enter (.closing quotes read (count + 1))
  else if 3 ≤ count then (lexer.emitText quotes (withQuotes (count - 3))).begin c
  else lexer.feedText quotes (withQuotes count) c

def feedEscape (lexer : Lexer) (quotes : Quotes) (read : List Char) (c : Char) : Lexer :=
  match digitCount? c, escaped? c with
  | some count, _ => lexer.enter (.number quotes read count 0)
  | none, some escaped => lexer.enter (.text quotes (escaped :: read))
  | none, none =>
      if quotes.spansLines ∧ c = '\n' then lexer.enter (.margin quotes read)
      else if quotes.spansLines ∧ isBlank c then lexer.enter (.lineEnd quotes read)
      else lexer.stop

def feedNumber (lexer : Lexer) (quotes : Quotes) (read : List Char) (digitsLeft value : Nat)
    (c : Char) : Lexer :=
  match hexDigit? c with
  | none => lexer.stop
  | some digit =>
      let value := 16 * value + digit
      if 1 < digitsLeft then lexer.enter (.number quotes read (digitsLeft - 1) value)
      else match char? value with
        | some c => lexer.enter (.text quotes (c :: read))
        | none => lexer.stop

def feedChar (lexer : Lexer) (c : Char) : Lexer :=
  match lexer.mode with
  | .between => lexer.begin c
  | .word read =>
      if isMark c then (lexer.emitWord read).begin c else lexer.enter (.word (c :: read))
  | .comment =>
      if c = '\n' then lexer.emit .newLine
      else if isAllowed c then lexer
      else lexer.stop
  | .opening isDouble count => lexer.feedOpening isDouble count c
  | .opened quotes =>
      if c = '\n' then lexer.enter (.text quotes []) else lexer.feedText quotes [] c
  | .text quotes read => lexer.feedText quotes read c
  | .closing quotes read count => lexer.feedClosing quotes read count c
  | .escape quotes read => lexer.feedEscape quotes read c
  | .number quotes read digitsLeft value => lexer.feedNumber quotes read digitsLeft value c
  | .lineEnd quotes read =>
      if c = '\n' then lexer.enter (.margin quotes read)
      else if isBlank c then lexer
      else lexer.stop
  | .margin quotes read =>
      if c = '\n' ∨ isBlank c then lexer else lexer.feedText quotes read c
  | .stopped => lexer

def feed (lexer : Lexer) (c : Char) : Lexer :=
  if lexer.due = [] ∧ c = '\r' then { lexer with due := [c] }
  else if lexer.due ≠ [] ∧ c ≠ '\n' then { lexer.stop with due := [] }
  else { lexer.feedChar c with due := [] }

def finish (lexer : Lexer) : List Token :=
  let ended := if lexer.due ≠ [] then lexer.stop else match lexer.mode with
    | .between | .comment | .stopped => lexer
    | .word read => lexer.emitWord read
    | .opening isDouble 2 => lexer.emitText ⟨isDouble, false⟩ []
    | .closing quotes read 3 => lexer.emitText quotes read
    | .closing quotes read 4 => lexer.emitText quotes (quotes.mark :: read)
    | _ => lexer.stop
  ended.tokens.reverse

end Lexer

/-- A mark of the byte order in front is left out. -/
def dropByteOrder : List Char → List Char
  | '\uFEFF' :: rest => rest
  | text => text

def Token.scan (text : String) : List Token :=
  ((dropByteOrder text.toList).foldl Lexer.feed .start).finish

end GraphEngine.Toml
