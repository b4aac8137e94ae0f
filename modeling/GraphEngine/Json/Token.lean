import GraphEngine.Decimal.Scaled
import GraphEngine.Json.Basic

/-!
The tokens of a JSON text.

Tokens keep what a later reader may accept or refuse: a number before it is rounded, and a string
even if it has no text, because its surrogate escapes do not pair up or because some of its bytes
are no character. Where the text stops being tokens, one `broken` token ends the list.
-/
namespace GraphEngine.Json

/--
A number as written: `± coefficient * 10 ^ exponent`, as far as the coefficient has room for the
digits. A whole one has neither point nor exponent, and all of its digits.
-/
structure Literal where
  isNegative : Bool
  decimal : Decimal
  isWhole : Bool
deriving DecidableEq

namespace Literal

def toReal? (literal : Literal) : Option Number :=
  let double := literal.decimal.scaledDouble literal.isNegative
  if h : double.isFinite = true then some (.real double h) else none

/--
Whole literals of the 64-bit range are integers, apart from `-0`. All others are doubles, and one
too large for a double is no number.
-/
def toNumber? (literal : Literal) : Option Number :=
  let size : Int := literal.decimal.coefficient
  let value := if literal.isNegative then -size else size
  if h : literal.isWhole ∧ ¬ (literal.isNegative ∧ size = 0) ∧ IsWord value then
    some (.integer value h.2.2)
  else literal.toReal?

end Literal

inductive Token where
  | openArray
  | closeArray
  | openObject
  | closeObject
  | comma
  | colon
  | null
  | boolean (value : Bool)
  | number (literal : Literal)
  /-- A string may have no text. -/
  | string (text : Option String)
  | broken
deriving DecidableEq

namespace Token

/-- The part of a number to which the last character belongs. -/
inductive NumberPart where
  | sign
  | zero
  | whole
  | point
  | fraction
  | mark
  | markSign
  | power
deriving DecidableEq

def digit (c : Char) : Nat := c.toNat - '0'.toNat

/-- The digits before the exponent, gathered in a word of 64 bits. -/
structure Digits where
  coefficient : Nat
  exponent : Int
  /-- One digit did not fit, and with it those behind it are left out. -/
  isFull : Bool

namespace Digits

def none : Digits := ⟨0, 0, false⟩

/-- Whether one more digit is gathered. -/
abbrev Fits (digits : Digits) (c : Char) : Prop :=
  digits.isFull = false ∧ 10 * digits.coefficient + digit c < 0x10000000000000000

/-- A digit that is left out before the point still counts for the size of the number. -/
def pushWhole (digits : Digits) (c : Char) : Digits :=
  if digits.Fits c then { digits with coefficient := 10 * digits.coefficient + digit c }
  else { digits with exponent := digits.exponent + 1, isFull := true }

def pushFraction (digits : Digits) (c : Char) : Digits :=
  if digits.Fits c then
    { digits with
      coefficient := 10 * digits.coefficient + digit c
      exponent := digits.exponent - 1 }
  else { digits with isFull := true }

/-- Behind the point a digit may fit again. -/
def reopen (digits : Digits) : Digits := { digits with isFull := false }

end Digits

structure NumberScan where
  part : NumberPart
  isNegative : Bool
  digits : Digits
  powerIsNegative : Bool
  power : Nat

namespace NumberScan

def literal (scan : NumberScan) : Literal where
  isNegative := scan.isNegative
  decimal :=
    ⟨scan.digits.coefficient,
      scan.digits.exponent + (if scan.powerIsNegative then -(scan.power : Int) else scan.power)⟩
  isWhole := (scan.part = .zero ∨ scan.part = .whole) ∧ scan.digits.isFull = false

/-- The token, should the number end here. -/
def token (scan : NumberScan) : Token :=
  match scan.part with
  | .zero | .whole | .fraction | .power => .number scan.literal
  | .sign | .point | .mark | .markSign => .broken

def start (isNegative : Bool) : NumberScan := ⟨.sign, isNegative, .none, false, 0⟩

def ofDigit (isNegative : Bool) (c : Char) : NumberScan :=
  ⟨if c = '0' then .zero else .whole, isNegative, Digits.none.pushWhole c, false, 0⟩

/-- The longer number, if the character belongs to it. -/
def extend? (scan : NumberScan) (c : Char) : Option NumberScan :=
  let withPower := { scan with part := .power, power := 10 * scan.power + digit c }
  let withFraction := { scan with part := .fraction, digits := scan.digits.pushFraction c }
  match scan.part with
  | .sign => if c.isDigit then some (ofDigit scan.isNegative c) else none
  | .zero | .whole =>
      if c = '.' then some { scan with part := .point, digits := scan.digits.reopen }
      else if c = 'e' ∨ c = 'E' then some { scan with part := .mark }
      else if c.isDigit ∧ scan.part = .whole then
        some { scan with digits := scan.digits.pushWhole c }
      else none
  | .point => if c.isDigit then some withFraction else none
  | .fraction =>
      if c = 'e' ∨ c = 'E' then some { scan with part := .mark }
      else if c.isDigit then some withFraction else none
  | .mark =>
      if c = '+' then some { scan with part := .markSign }
      else if c = '-' then some { scan with part := .markSign, powerIsNegative := true }
      else if c.isDigit then some withPower else none
  | .markSign | .power => if c.isDigit then some withPower else none

end NumberScan

structure StringScan where
  /-- The characters so far, the last one first. -/
  read : List Char
  /-- The first half of a surrogate pair, when the last escape was one. -/
  half : Option Nat
  hasText : Bool

namespace StringScan

def start : StringScan := ⟨[], none, true⟩

def push (scan : StringScan) (c : Char) : StringScan :=
  ⟨c :: scan.read, none, scan.hasText && scan.half.isNone⟩

def isFirstHalf (unit : Nat) : Bool := 0xD800 ≤ unit && unit < 0xDC00

def isSecondHalf (unit : Nat) : Bool := 0xDC00 ≤ unit && unit < 0xE000

/-- Two halves make one character; a half on its own leaves the string without a text. -/
def pushUnit (scan : StringScan) (unit : Nat) : StringScan :=
  match scan.half with
  | some first =>
      if isSecondHalf unit then
        ⟨Char.ofNat (0x10000 + (first - 0xD800) * 0x400 + (unit - 0xDC00)) :: scan.read, none,
          scan.hasText⟩
      else { scan with half := none, hasText := false }
  | none =>
      if isFirstHalf unit then { scan with half := some unit }
      else if isSecondHalf unit then { scan with hasText := false }
      else scan.push (Char.ofNat unit)

/-- Bytes that are no character leave the string without a text as well. -/
def pushBroken (scan : StringScan) : StringScan := { scan with half := none, hasText := false }

def token (scan : StringScan) : Token :=
  .string (if scan.hasText && scan.half.isNone then some (String.ofList scan.read.reverse)
    else none)

/-- The character that a one-letter escape stands for. -/
def escaped? : Char → Option Char
  | '"' => some '"'
  | '\\' => some '\\'
  | '/' => some '/'
  | 'b' => some '\x08'
  | 'f' => some '\x0c'
  | 'n' => some '\n'
  | 'r' => some '\r'
  | 't' => some '\t'
  | _ => none

def hexDigit? (c : Char) : Option Nat :=
  if c.isDigit then some (c.toNat - '0'.toNat)
  else if 'a' ≤ c ∧ c ≤ 'f' then some (c.toNat - 'a'.toNat + 10)
  else if 'A' ≤ c ∧ c ≤ 'F' then some (c.toNat - 'A'.toNat + 10)
  else none

end StringScan

/-- What the character under the scan belongs to. -/
inductive Mode where
  | between
  /-- A word of which these characters are still to come. -/
  | word (rest : List Char) (token : Token)
  | number (scan : NumberScan)
  | string (scan : StringScan)
  | escape (scan : StringScan)
  | unit (scan : StringScan) (digitsLeft : Nat) (value : Nat)
  | stopped

/-- Tokens are collected last first. -/
structure Lexer where
  mode : Mode
  tokens : List Token

namespace Lexer

def start : Lexer := ⟨.between, []⟩

def emit (lexer : Lexer) (token : Token) : Lexer := ⟨.between, token :: lexer.tokens⟩

def stop (lexer : Lexer) : Lexer := ⟨.stopped, .broken :: lexer.tokens⟩

def isBlank (c : Char) : Bool := c = ' ' || c = '\n' || c = '\r' || c = '\t'

/-- The first character of a token, or a blank. -/
def begin (lexer : Lexer) (c : Char) : Lexer :=
  match c with
  | '[' => lexer.emit .openArray
  | ']' => lexer.emit .closeArray
  | '{' => lexer.emit .openObject
  | '}' => lexer.emit .closeObject
  | ',' => lexer.emit .comma
  | ':' => lexer.emit .colon
  | '"' => { lexer with mode := .string .start }
  | 'n' => { lexer with mode := .word ['u', 'l', 'l'] .null }
  | 't' => { lexer with mode := .word ['r', 'u', 'e'] (.boolean true) }
  | 'f' => { lexer with mode := .word ['a', 'l', 's', 'e'] (.boolean false) }
  | '-' => { lexer with mode := .number (.start true) }
  | _ =>
      if c.isDigit then { lexer with mode := .number (.ofDigit false c) }
      else if isBlank c then { lexer with mode := .between }
      else lexer.stop

/-- The end of a number lies before the first character that does not belong to it. -/
def endNumber (lexer : Lexer) (scan : NumberScan) (next : Char) : Lexer :=
  match scan.token with
  | .broken => lexer.stop
  | token => if scan.part = .zero ∧ next.isDigit then lexer.stop else (lexer.emit token).begin next

def feed (lexer : Lexer) (c : Char) : Lexer :=
  match lexer.mode with
  | .between => lexer.begin c
  | .word (expected :: rest) token =>
      if c ≠ expected then lexer.stop
      else if rest.isEmpty then lexer.emit token
      else { lexer with mode := .word rest token }
  | .word [] token => (lexer.emit token).begin c
  | .number scan =>
      match scan.extend? c with
      | some longer => { lexer with mode := .number longer }
      | none => lexer.endNumber scan c
  | .string scan =>
      if c = '"' then lexer.emit scan.token
      else if c = '\\' then { lexer with mode := .escape scan }
      else if c < ' ' then lexer.stop
      else { lexer with mode := .string (scan.push c) }
  | .escape scan =>
      if c = 'u' then { lexer with mode := .unit scan 4 0 }
      else match StringScan.escaped? c with
        | some escaped => { lexer with mode := .string (scan.push escaped) }
        | none => lexer.stop
  | .unit scan digitsLeft value =>
      match StringScan.hexDigit? c with
      | none => lexer.stop
      | some digit =>
          let value := 16 * value + digit
          if digitsLeft ≤ 1 then { lexer with mode := .string (scan.pushUnit value) }
          else { lexer with mode := .unit scan (digitsLeft - 1) value }
  | .stopped => lexer

/-- Outside strings a run of bytes that is no character counts as one that begins no token. -/
def feedEntry (lexer : Lexer) : Option Char → Lexer
  | some c => lexer.feed c
  | none =>
      match lexer.mode with
      | .string scan => { lexer with mode := .string scan.pushBroken }
      | _ => lexer.feed '\x00'

/-- The tokens in order, once the text has ended. -/
def finish (lexer : Lexer) : List Token :=
  match lexer.mode with
  | .between | .stopped => lexer.tokens.reverse
  | .number scan => (scan.token :: lexer.tokens).reverse
  | .word .. | .string _ | .escape _ | .unit .. => (.broken :: lexer.tokens).reverse

end Lexer

def scan (chars : List Char) : List Token := (chars.foldl Lexer.feed .start).finish

/-- The tokens of decoded bytes. -/
def scanEntries (entries : List (Option Char)) : List Token :=
  (entries.foldl Lexer.feedEntry .start).finish

end Token
end GraphEngine.Json
