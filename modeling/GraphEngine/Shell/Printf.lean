import GraphEngine.Double.Nearest

/-!
Output that is laid out by a format.

The format is used again for as long as there are values left, and missing values count as empty.
All texts are raw.
-/
namespace GraphEngine.Shell.Printf

def digit? (c : Char) : Option Nat :=
  if c.isDigit then some (c.toNat - '0'.toNat)
  else if 'a' ≤ c.toLower ∧ c.toLower ≤ 'z' then some (c.toLower.toNat - 'a'.toNat + 10)
  else none

/-- The number that the digits in front make, and what follows them. -/
def digits (base : Nat) (text : List Char) : Nat × List Char :=
  let front := text.takeWhile fun c => (digit? c).any (· < base)
  (front.foldl (fun value c => base * value + (digit? c).getD 0) 0, text.drop front.length)

def byte (value : Nat) : Char := Char.ofNat (value % 256)

/-- What stands after a backslash, and what is left. -/
def escape (text : List Char) : Char × List Char :=
  let octal := digits 8 (text.take 3)
  match text with
  | [] => ('\\', [])
  | c :: rest =>
      match "abfnrtv\\".toList.zip "\x07\x08\x0c\n\r\t\x0b\\".toList |>.lookup c with
      | some meant => (meant, rest)
      | none => if octal.2.length < min 3 text.length
          then (byte octal.1, octal.2 ++ text.drop 3) else ('\\', text)

/-- A text with its escapes replaced, and whether it stops everything that follows. A zero in
front of octal digits does not count as one of them. -/
def unescape : Nat → List Char → List Char × Bool
  | 0, _ | _, [] => ([], false)
  | _ + 1, '\\' :: 'c' :: _ => ([], true)
  | limit + 1, c :: rest =>
      let (c, rest) := match c, rest with
        | '\\', '0' :: rest =>
            let octal := digits 8 (rest.take 3)
            (byte octal.1, octal.2 ++ rest.drop 3)
        | '\\', rest => escape rest
        | c, rest => (c, rest)
      let (text, stops) := unescape limit rest
      (c :: text, stops)

def unescaped (text : String) : String × Bool :=
  let (chars, stops) := unescape (text.length + 1) text.toList
  (String.ofList chars, stops)

structure Directive where
  flags : List Char
  width : Nat
  precision : Option Nat
  letter : Char
  /-- The directive as it is written. -/
  text : String

inductive Piece where
  | char (c : Char)
  | directive (directive : Directive)

def directive (text : List Char) : Directive × List Char :=
  let flags := text.takeWhile ("#-+ 0".toList.contains ·)
  let (width, rest) := digits 10 (text.drop flags.length)
  let (precision, rest) := match rest with
    | '.' :: rest =>
        let (precision, rest) := digits 10 rest
        (some precision, rest)
    | rest => (none, rest)
  let written := '%' :: text.take (text.length - rest.length + 1)
  (⟨flags, width, precision, rest.headD '\x00', String.ofList written⟩, rest.tail)

def pieces : Nat → List Char → List Piece
  | 0, _ | _, [] => []
  | limit + 1, '\\' :: rest =>
      let (c, rest) := escape rest
      .char c :: pieces limit rest
  | limit + 1, '%' :: '%' :: rest => .char '%' :: pieces limit rest
  | limit + 1, '%' :: rest =>
      let (directive, rest) := directive rest
      .directive directive :: pieces limit rest
  | limit + 1, c :: rest => .char c :: pieces limit rest

/-- A whole number in whatever base its beginning tells, and what is left. -/
def natural? (text : List Char) : Option (Nat × List Char) :=
  match text with
  | '0' :: x :: rest =>
      if (x = 'x' ∨ x = 'X') ∧ (digits 16 rest).2 ≠ rest then some (digits 16 rest)
      else some (digits 8 text)
  | text => if (digits 10 text).2 = text then none else some (digits 10 text)

/-- A fraction with a power of ten for its denominator, and what is left. -/
def fraction? (text : List Char) : Option ((Nat × Nat) × List Char) :=
  let (whole, rest) := digits 10 text
  let decimals := match rest with
    | '.' :: rest => rest.takeWhile Char.isDigit
    | _ => []
  let left := if decimals.isEmpty then rest else rest.drop (decimals.length + 1)
  if left = text then none
  else
    let den := Nat.pow 10 decimals.length
    some ((whole * den + (digits 10 decimals).1, den), left)

/-- What stands after a sign, and whether that is a minus. -/
def unsign (text : List Char) : Bool × List Char :=
  match text with
  | '-' :: rest => (true, rest)
  | '+' :: rest => (false, rest)
  | rest => (false, rest)

/-- A number with a sign or without one. A quote in front of a character stands for its number.
What is wrong comes with it. -/
def read {α : Type} (read? : List Char → Option (α × List Char)) (ofNat : Nat → α)
    (value : String) : Bool × α × List String :=
  match value.toList with
  | '"' :: c :: _ | '\'' :: c :: _ => (false, ofNat c.toNat, [])
  | chars =>
      let (isNegative, rest) := unsign (chars.dropWhile (· = ' '))
      match read? rest with
      | some (number, []) => (isNegative, number, [])
      | some (number, _) => (isNegative, number, [value ++ ": not completely converted"])
      | none =>
          (false, ofNat 0, if value = "" then [] else [value ++ ": expected numeric value"])

namespace Directive

def has (directive : Directive) (flag : Char) : Bool := directive.flags.contains flag

def align (directive : Directive) (text : List Char) : List Char :=
  let blanks := List.replicate (directive.width - text.length) ' '
  if directive.has '-' then text ++ blanks else blanks ++ text

/-- A number with its sign, filled up by zeros where they are asked for. -/
def alignNumber (directive : Directive) (mayFill isNegative : Bool) (digits : List Char) :
    List Char :=
  let sign := if isNegative then ['-'] else if directive.has '+' then ['+']
    else if directive.has ' ' then [' '] else []
  if directive.has '0' && ! directive.has '-' && mayFill then
    sign ++ List.replicate (directive.width - sign.length - digits.length) '0' ++ digits
  else directive.align (sign ++ digits)

def pad (width : Nat) (digits : List Char) : List Char :=
  List.replicate (width - digits.length) '0' ++ digits

def whole (directive : Directive) (base : Nat) (isNegative : Bool) (value : Nat) : List Char :=
  let digits := if value = 0 ∧ directive.precision = some 0 then [] else Nat.toDigits base value
  directive.alignNumber directive.precision.isNone isNegative
    (pad (directive.precision.getD 0) digits)

/-- A double with a given number of digits after the point. -/
def fixed (directive : Directive) (isNegative : Bool) (value : Nat × Nat) : List Char :=
  let places := directive.precision.getD 6
  let double := Double.nearest false value.1 value.2
  let shown := Double.roundHalfEven (double.numerator * Nat.pow 10 places) double.denominator
  let digits := pad (places + 1) (Nat.toDigits 10 shown)
  let point := if places = 0 then [] else ['.']
  directive.alignNumber true isNegative
    (digits.take (digits.length - places) ++ point ++ digits.drop (digits.length - places))

/-- The text for a value, what is wrong with it, and whether the output stops there; there is none
if the letter is not known. -/
def lay? (directive : Directive) (value : String) : Option (List Char × List String × Bool) :=
  let cut (text : String) :=
    directive.align (text.toList.take (directive.precision.getD text.length))
  let size : Nat := 18446744073709551616
  let unsigned (base : Nat) :=
    let (isNegative, number, wrong) := read natural? id value
    let unsigned := { directive with flags := directive.flags.filter fun c => c = '-' || c = '0' }
    some (unsigned.whole base false (if isNegative then size - number else number), wrong, false)
  match directive.letter with
  | 's' => some (cut value, [], false)
  | 'c' => some (directive.align [value.toList.headD '\x00'], [], false)
  | 'b' =>
      let (text, stops) := unescaped value
      some (cut text, [], stops)
  | 'd' | 'i' =>
      let (isNegative, number, wrong) := read natural? id value
      some (directive.whole 10 isNegative number, wrong, false)
  | 'u' => unsigned 10
  | 'o' => unsigned 8
  | 'x' => unsigned 16
  | 'X' => (unsigned 16).map fun (text, rest) => (text.map Char.toUpper, rest)
  | 'f' =>
      let (isNegative, number, wrong) := read fraction? (·, 1) value
      some (directive.fixed isNegative number, wrong, false)
  | _ => none

end Directive

/-- What has been written, the last text first, and what is left. -/
structure Progress where
  written : List (List Char)
  values : List String
  wrong : List String
  isStopped : Bool
  /-- A directive that is not known, at which the output ends. -/
  unknown : Option String

namespace Progress

def apply (progress : Progress) (piece : Piece) : Progress :=
  if progress.isStopped then progress
  else match piece with
    | .char c => { progress with written := [c] :: progress.written }
    | .directive directive =>
        match directive.lay? (progress.values.headD "") with
        | none => { progress with unknown := some directive.text, isStopped := true }
        | some (text, wrong, isStopped) =>
            { progress with
              written := text :: progress.written
              values := progress.values.tail
              wrong := progress.wrong ++ wrong
              isStopped }

/-- Each use but the first takes at least one value. -/
def applyAll (pieces : List Piece) : Nat → Progress → Progress
  | 0, progress => progress
  | limit + 1, progress =>
      let next := pieces.foldl apply progress
      let tookNone := next.values.length = progress.values.length
      if next.isStopped ∨ next.values.isEmpty ∨ tookNone then next
      else applyAll pieces limit next

def text (progress : Progress) : String := String.ofList progress.written.reverse.flatten

end Progress

def lay (format : String) (values : List String) : Progress :=
  Progress.applyAll (pieces (format.length + 1) format.toList) (values.length + 1)
    ⟨[], values, [], false, none⟩

end GraphEngine.Shell.Printf
