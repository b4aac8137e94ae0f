/-!
Arguments of a command.

A switch is given by its long name after two dashes or by a letter after one; letters can share a
dash. The text of a switch is attached to it or is the next argument. No switch is given twice,
and two dashes alone end the switches.
-/
namespace GraphEngine.CommandLine

inductive Takes where
  | nothing
  | text
  /-- A text that is not empty. -/
  | place
deriving DecidableEq

structure Switch where
  name : String
  letter : Option Char
  takes : Takes
deriving DecidableEq

/-- The arguments that may stand in one part of a command line. -/
structure Grammar where
  switches : List Switch
  /-- The most arguments without a dash. -/
  plainLimit : Nat
  /-- Whether an argument without a dash names a command, to which the rest belongs. -/
  hasCommands : Bool

/-- Why nothing is run. -/
inductive Refusal where
  | usage
  /-- Only the version is asked for. -/
  | version
deriving DecidableEq

structure Given where
  /-- Switches with their texts, the last one first. -/
  switches : List (String × String)
  /-- Arguments without a dash, the last one first. -/
  plain : List String
  command : Option (String × List String)
deriving DecidableEq

namespace Given

def none : Given := ⟨[], [], .none⟩

def has (given : Given) (name : String) : Bool := given.switches.any (·.1 = name)

def text? (given : Given) (name : String) : Option String := given.switches.lookup name

def addSwitch (given : Given) (switch : Switch) (text : String) : Except Refusal Given :=
  if switch.name = "version" then .error .version
  else if given.has switch.name ∨ (switch.takes = .place ∧ text = "") then .error .usage
  else .ok { given with switches := (switch.name, text) :: given.switches }

def addPlain (given : Given) (limit : Nat) (text : String) : Except Refusal Given :=
  if given.plain.length < limit then .ok { given with plain := text :: given.plain }
  else .error .usage

end Given

/-- What the next argument is. -/
inductive Expecting where
  | anything
  | textOf (switch : Switch)
  | plain

namespace Grammar

def ofName? (known : Grammar) (name : String) : Option Switch :=
  known.switches.find? (·.name = name)

def ofLetter? (known : Grammar) (letter : Char) : Option Switch :=
  known.switches.find? (·.letter = some letter)

/-- A switch by its name, with the text after an equals sign if there is one. -/
def readName (known : Grammar) (given : Given) (text : List Char) :
    Except Refusal (Given × Expecting) :=
  let name := text.takeWhile (· ≠ '=')
  let attached := text.drop name.length
  match known.ofName? (String.ofList name) with
  | none => .error .usage
  | some switch =>
      match switch.takes, attached with
      | .nothing, [] => return (← given.addSwitch switch "", .anything)
      | .nothing, _ :: _ => .error .usage
      | _, [] => .ok (given, .textOf switch)
      | _, _ :: attached =>
          return (← given.addSwitch switch (String.ofList attached), .anything)

/-- The text of a letter's switch follows at once or after an equals sign. -/
def attachedText (rest : List Char) : String :=
  String.ofList (match rest with
    | '=' :: rest => rest
    | rest => rest)

def readLetters (known : Grammar) (given : Given) : List Char →
    Except Refusal (Given × Expecting)
  | [] => .ok (given, .anything)
  | letter :: rest =>
      match known.ofLetter? letter with
      | none => .error .usage
      | some switch =>
          if switch.takes = .nothing then do
            known.readLetters (← given.addSwitch switch "") rest
          else if rest.isEmpty then .ok (given, .textOf switch)
          else return (← given.addSwitch switch (attachedText rest), .anything)

/-- An argument with a dash is never the text of the switch before it, unless it is a dash alone. -/
def isText (argument : String) : Bool := argument = "-" || ! argument.startsWith "-"

def read (known : Grammar) (given : Given) : Expecting → List String → Except Refusal Given
  | .textOf _, [] => .error .usage
  | _, [] => .ok given
  | .textOf switch, argument :: rest =>
      if isText argument then do
        known.read (← given.addSwitch switch argument) .anything rest
      else .error .usage
  | .plain, argument :: rest => do
      known.read (← given.addPlain known.plainLimit argument) .plain rest
  | .anything, argument :: rest =>
      match argument.toList with
      | ['-', '-'] => known.read given .plain rest
      | '-' :: '-' :: text => do
          let (given, expecting) ← known.readName given text
          known.read given expecting rest
      | '-' :: letter :: letters => do
          let (given, expecting) ← known.readLetters given (letter :: letters)
          known.read given expecting rest
      | _ =>
          if known.hasCommands then .ok { given with command := some (argument, rest) }
          else do known.read (← given.addPlain known.plainLimit argument) .anything rest

def parse (known : Grammar) (arguments : List String) : Except Refusal Given :=
  known.read .none .anything arguments

end Grammar

/-- Whether the switch is given in one of the two parts. -/
def eitherHas (name : String) (outer inner : Given) : Bool := outer.has name || inner.has name

end GraphEngine.CommandLine
