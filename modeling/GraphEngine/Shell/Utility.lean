import GraphEngine.Shell.Machine
import GraphEngine.Shell.Printf

/-!
Commands that look at nothing but their arguments, their input, and files.
-/
namespace GraphEngine.Shell

/-- A command: its arguments, and the status that it ends with. -/
abbrev Utility := List String → Effect Nat

namespace Utility

open Effect

/-- A complaint of a program. -/
def problem (text : String) : Effect Unit := do write 2 ((← state).name ++ ": " ++ text ++ "\n")

/-- The texts with their escapes replaced and blanks between them, and whether one of them stops
the output. -/
def echoed : List String → String × Bool
  | [] => ("", false)
  | text :: rest =>
      let (text, stops) := Printf.unescaped text
      if stops || rest.isEmpty then (text, stops)
      else
        let (others, stops) := echoed rest
        (text ++ " " ++ others, stops)

def echo : Utility := fun arguments => do
  let isLine := arguments.head? ≠ some "-n"
  let (text, stops) := echoed (if isLine then arguments else arguments.tail)
  put (if isLine && ! stops then text ++ "\n" else text)
  return 0

def printf : Utility := fun arguments => do
  match if arguments.head? = some "--" then arguments.tail else arguments with
  | [] => fault "usage: printf format [arg ...]"
  | format :: values => do
      let progress := Printf.lay format values
      progress.wrong.forM warn
      put progress.text
      if let some directive := progress.unknown then fault (directive ++ ": invalid directive")
      return if progress.wrong.isEmpty then 0 else 1

/-- A number that an argument has to be. -/
def number (text : String) : Effect Int := do
  match text.trimAscii.copy.toInt? with
  | some value => return value
  | none => fault ("Illegal number: " ++ text)

def count (text : String) : Effect Nat := do
  match ← number text with
  | .ofNat value => return value
  | _ => fault ("Illegal number: " ++ text)

def unaryNames : List String := ["-e", "-f", "-d", "-r", "-w", "-x", "-s", "-n", "-z"]

def binaryNames : List String := ["=", "!=", "-eq", "-ne", "-lt", "-le", "-gt", "-ge"]

/-- What a condition of one argument says of it. -/
def unary (name operand : String) : Effect Bool := do
  let files := (← get).files
  let node? := (files.locate (Raw.toText operand) >>= files.find).toOption
  return match name, node? with
    | "-n", _ => operand ≠ ""
    | "-z", _ => operand = ""
    | "-e", node? | "-r", node? => node?.isSome
    | "-f", some (.file _) => true
    | "-d", some (.directory _) | "-x", some (.directory _) => true
    | "-w", some (.file _) => true
    | "-w", some (.directory isWritable) => isWritable
    | "-s", some (.file content) => content.size ≠ 0
    | "-s", some (.directory _) => true
    | _, _ => false

def binary (a name b : String) : Effect Bool := do
  match name with
  | "=" => return a = b
  | "!=" => return a ≠ b
  | name => do
      let a ← number a
      let b ← number b
      return match name with
        | "-eq" => a = b
        | "-ne" => a ≠ b
        | "-lt" => a < b
        | "-le" => a ≤ b
        | "-gt" => b < a
        | _ => b ≤ a

/-- A condition at the beginning of the arguments, of the given rank: alternatives, conjunctions,
negations, and single ones. What follows it is left. -/
def condition : Nat → Nat → List String → Effect (Bool × List String)
  | 0, _, arguments => return (false, arguments)
  | limit + 1, rank, arguments => do
      match rank, arguments with
      | 0, arguments => do
          let (first, rest) ← condition limit 1 arguments
          if rest.head? ≠ some "-o" then return (first, rest)
          let (second, rest) ← condition limit 0 rest.tail
          return (first || second, rest)
      | 1, arguments => do
          let (first, rest) ← condition limit 2 arguments
          if rest.head? ≠ some "-a" then return (first, rest)
          let (second, rest) ← condition limit 1 rest.tail
          return (first && second, rest)
      | 2, "!" :: next :: rest => do
          if binaryNames.contains next ∧ ! rest.isEmpty then condition limit 3 arguments
          else
            let (holds, rest) ← condition limit 2 (next :: rest)
            return (! holds, rest)
      | 2, arguments => condition limit 3 arguments
      | _, a :: name :: b :: rest =>
          if binaryNames.contains name then return (← binary a name b, rest)
          else if unaryNames.contains a then return (← unary a name, b :: rest)
          else if a = "(" then do
            let (holds, rest) ← condition limit 0 (name :: b :: rest)
            if rest.head? ≠ some ")" then fault "closing paren expected"
            return (holds, rest.tail)
          else return (a ≠ "", name :: b :: rest)
      | _, [a, operand] =>
          if unaryNames.contains a then return (← unary a operand, [])
          else return (a ≠ "", [operand])
      | _, [a] => return (a ≠ "", [])
      | _, [] => return (false, [])

def test : Utility := fun arguments => do
  match ← condition (4 * arguments.length + 4) 0 arguments with
  | (holds, []) => return if holds then 0 else 1
  | (_, extra :: _) => fault (extra ++ ": unexpected operator")

def bracket : Utility := fun arguments => do
  if arguments.getLast? ≠ some "]" then fault "missing ]"
  test arguments.dropLast

/-- The texts of files, or of what is left to read if none are named. What cannot be read is
complained about and left out. -/
def texts (wording : String → String) (places : List String) :
    Effect (List (String × List Char) × Nat) := do
  let mut found : List (String × List Char) := []
  let mut status := 0
  for place in if places.isEmpty then ["-"] else places do
    let files := (← get).files
    if place = "-" then found := (place, ← readUpTo none) :: found
    else match files.locate (Raw.toText place) >>= files.read with
      | .ok content => found := (place, (Raw.ofBytes content.toList).toList) :: found
      | .error fault =>
          problem (wording place ++ ": " ++ fault.description)
          status := 1
  return (found.reverse, status)

def cat : Utility := fun places => do
  let (found, status) ← texts id places
  for (_, text) in found do put (String.ofList text)
  return status

/-- The lines of a text, each with its end, where the last one may have none. -/
def lines (text : List Char) : List (List Char) :=
  match text.splitOn '\n' with
  | [] => []
  | pieces =>
      pieces.dropLast.map (· ++ ['\n']) ++ (pieces.getLast?.filter (! ·.isEmpty)).toList

/-- The number of lines, words, or bytes. -/
def size (letter : Char) (text : List Char) : Nat :=
  match letter with
  | 'l' => text.count '\n'
  | 'w' => ((text.splitOnP fun c => c = ' ' || c = '\n' || c = '\t').filter (! ·.isEmpty)).length
  | _ => text.length

def wc : Utility := fun arguments => do
  let options := arguments.takeWhile (·.startsWith "-")
  let asked := options.flatMap (·.toList.tail)
  let letters := ['l', 'w', 'c'].filter fun letter => asked.isEmpty || asked.contains letter
  let (found, status) ← texts id (arguments.drop options.length)
  for (place, text) in found do
    let sizes := letters.map fun letter => toString (size letter text)
    let width := if letters.length = 1 then 0 else if place = "-" then 7 else
      (toString text.length).length
    let column (size : String) := String.ofList (List.replicate (width - size.length) ' ') ++ size
    put (" ".intercalate (sizes.map column) ++ (if place = "-" then "" else " " ++ place) ++ "\n")
  return status

/-- The first or the last lines or bytes. -/
def part (isFirst : Bool) : Utility := fun arguments => do
  let keep {α : Type} (count : Nat) (items : List α) : List α :=
    if isFirst then items.take count else items.drop (items.length - count)
  let (isBytes, given, places) : Bool × String × List String := match arguments with
    | "-c" :: given :: places => (true, given, places)
    | "-n" :: given :: places => (false, given, places)
    | places => (false, "10", places)
  let size ← count given
  let (found, status) ← texts (fun place => "cannot open '" ++ place ++ "' for reading") places
  for (_, text) in found do
    put (String.ofList (if isBytes then keep size text else (keep size (lines text)).flatten))
  return status

/-- The characters that a set stands for. -/
def members : List Char → List Char
  | first :: '-' :: last :: rest =>
      (List.range (last.toNat + 1 - first.toNat)).map (fun n => Char.ofNat (first.toNat + n))
        ++ members rest
  | c :: rest => c :: members rest
  | [] => []

def setOf (text : String) : List Char := members (Printf.unescaped text).1.toList

def tr : Utility := fun arguments => do
  let text ← readUpTo none
  match arguments with
  | ["-d", set] => put (String.ofList (text.filter (! (setOf set).contains ·)))
  | [set, others] =>
      let members := setOf set
      let others := setOf others
      let last := others.getLastD ' '
      let pairs := members.zip (others ++ List.replicate members.length last)
      put (String.ofList (text.map fun c => (pairs.reverse.lookup c).getD c))
  | _ => return 1
  return 0

def withoutSlashes (place : String) : List Char :=
  (place.toList.reverse.dropWhile (· = '/')).reverse

/-- The last name of a place, without an ending that is not all of it. -/
def basename : Utility := fun arguments => do
  let place := arguments.headD ""
  let name := ((withoutSlashes place).reverse.takeWhile (· ≠ '/')).reverse
  let ending := (arguments.getD 1 "").toList
  let isEnded := name ≠ ending ∧ ending.isSuffixOf name
  let name := if isEnded then name.take (name.length - ending.length) else name
  put ((if name.isEmpty ∧ place ≠ "" then "/" else String.ofList name) ++ "\n")
  return 0

/-- A character of an expression that lines are searched for, which may be repeated. -/
structure Atom where
  /-- Any character, if there are no others. -/
  members? : Option (List Char)
  isNegated : Bool
  isRepeated : Bool

namespace Atom

def covers (atom : Atom) (c : Char) : Bool :=
  atom.members?.all fun members => members.contains c != atom.isNegated

def ofExpression : Nat → List Char → List Atom
  | 0, _ | _, [] => []
  | limit + 1, c :: rest =>
      let (atom, rest) : Atom × List Char := match c, rest with
        | '.', rest => (⟨none, false, false⟩, rest)
        | '\\', c :: rest => (⟨some [c], false, false⟩, rest)
        | '[', rest =>
            let isNegated := rest.head? = some '^'
            let rest := if isNegated then rest.tail else rest
            let inside := rest.take 1 ++ (rest.drop 1).takeWhile (· ≠ ']')
            (⟨some (members inside), isNegated, false⟩, rest.drop (inside.length + 1))
        | c, rest => (⟨some [c], false, false⟩, rest)
      match rest with
      | '*' :: rest => { atom with isRepeated := true } :: ofExpression limit rest
      | rest => atom :: ofExpression limit rest

/-- What follows the longest match at the beginning of a text. -/
def afterMatch? (isAtEnd : Bool) : List Atom → List Char → Option (List Char)
  | [], text => if isAtEnd && ! text.isEmpty then none else some text
  | atom :: atoms, text =>
      if atom.isRepeated then
        let run := text.takeWhile atom.covers
        (List.range (run.length + 1)).reverse.findSome? fun count =>
          afterMatch? isAtEnd atoms (text.drop count)
      else match text with
        | c :: text => if atom.covers c then afterMatch? isAtEnd atoms text else none
        | [] => none

end Atom

/-- A text in which an expression is replaced, once or wherever it is found. -/
structure Replacement where
  atoms : List Atom
  isAtStart : Bool
  isAtEnd : Bool
  text : List Char
  isEverywhere : Bool

namespace Replacement

/-- The pieces between a character, which a backslash protects. -/
def pieces (mark : Char) : List Char → List (List Char)
  | [] => [[]]
  | '\\' :: c :: rest =>
      match pieces mark rest with
      | first :: others => ((if c = mark then [c] else ['\\', c]) ++ first) :: others
      | [] => []
  | c :: rest =>
      if c = mark then [] :: pieces mark rest
      else match pieces mark rest with
        | first :: others => (c :: first) :: others
        | [] => []

def ofText? (text : String) : Option Replacement :=
  match text.toList with
  | 's' :: mark :: rest =>
      match pieces mark rest with
      | [expression, text, flags] =>
          let isAtStart := expression.head? = some '^'
          let isAtEnd := expression.getLast? = some '$'
          let expression := if isAtStart then expression.tail else expression
          let expression := if isAtEnd then expression.dropLast else expression
          some ⟨Atom.ofExpression (expression.length + 1) expression, isAtStart, isAtEnd, text,
            flags.contains 'g'⟩
      | _ => none
  | _ => none

/-- The text that stands for a match. -/
def shown (found : List Char) : List Char → List Char
  | '\\' :: 'n' :: rest => '\n' :: shown found rest
  | '\\' :: c :: rest => c :: shown found rest
  | '&' :: rest => found ++ shown found rest
  | c :: rest => c :: shown found rest
  | [] => []

def apply (replacement : Replacement) : Nat → List Char → List Char
  | 0, text => text
  | limit + 1, text =>
      match replacement.atoms |> (Atom.afterMatch? replacement.isAtEnd · text), text with
      | some rest, text =>
          let found := text.take (text.length - rest.length)
          shown found replacement.text ++
            if ! replacement.isEverywhere ∨ replacement.isAtStart then rest
            else match found, rest with
              | [], c :: rest => c :: apply replacement limit rest
              | [], [] => []
              | _, [] => []
              | _, rest => apply replacement limit rest
      | none, c :: text =>
          c :: if replacement.isAtStart then text else apply replacement limit text
      | none, [] => []

end Replacement

def sed : Utility := fun arguments => do
  match Replacement.ofText? (arguments.headD "") with
  | none => return 1
  | some replacement =>
      let (found, status) ← texts (fun place => "can't read " ++ place) arguments.tail
      for (_, text) in found do
        for line in lines text do
          let ended := if line.getLast? = some '\n' then ['\n'] else []
          let line := line.take (line.length - ended.length)
          put (String.ofList (replacement.apply (line.length + 1) line ++ ended))
      return status

/-- The commands that both shells and programs have. -/
def shared : List (String × Utility) :=
  [("echo", echo), ("printf", printf), ("test", test), ("[", bracket),
    ("true", fun _ => return 0), ("false", fun _ => return 1)]

def programs : List (String × Utility) :=
  shared ++ [("cat", cat), ("wc", wc), ("head", part true), ("tail", part false), ("tr", tr),
    ("basename", basename), ("sed", sed)]

end Utility
end GraphEngine.Shell
