/-!
Scripts of the shell, as they are read.

A word is a list of parts, and each part remembers whether it stood in quotes: what is quoted is
neither cut at blanks nor taken for a pattern. All texts are raw.
-/
namespace GraphEngine.Shell

/-- What is done where a parameter has no value. -/
inductive Fallback where
  /-- The word stands in for the value. -/
  | default
  /-- The word becomes the value. -/
  | assign
  /-- The word says what is wrong. -/
  | complain
  /-- The word stands in wherever there is a value. -/
  | alternative
deriving DecidableEq

inductive Opening where
  | read
  | write
  | append
deriving DecidableEq

mutual

inductive Part where
  | char (c : Char) (isQuoted : Bool)
  /-- Quotes, which make a field even of nothing. -/
  | quotes
  | parameter (name : String) (isQuoted : Bool) (use : Use)
  /-- What a script prints. -/
  | output (script : Command) (isQuoted : Bool)

/-- What is made of the value of a parameter. -/
inductive Use where
  | value
  | length
  | fallback (kind : Fallback) (coversEmpty : Bool) (word : List Part)
  /-- What matches the pattern is cut off. -/
  | trim (fromEnd isLongest : Bool) (pattern : List Part)

inductive Redirection where
  | file (descriptor : Nat) (opening : Opening) (name : List Part)
  /-- The descriptor becomes the same as the one that the word names, or is closed by a dash. -/
  | duplicate (descriptor : Nat) (source : List Part)
  /-- The descriptor reads a document that the script holds. -/
  | document (descriptor : Nat) (content : List Part)

inductive Command where
  | simple (line : Nat) (assignments : List (String × List Part)) (words : List (List Part))
      (redirections : List Redirection)
  | pipeline (commands : List Command)
  | negation (command : Command)
  | both (first second : Command)
  | either (first second : Command)
  | sequence (commands : List Command)
  /-- Commands in a process of their own, which may be waited for. -/
  | subshell (isAwaited : Bool) (body : Command)
  | redirected (body : Command) (redirections : List Redirection)
  | branch (condition thenBranch elseBranch : Command)
  | loop (isUntil : Bool) (condition body : Command)
  | each (name : String) (words : List (List Part)) (body : Command)
  | choice (word : List Part) (cases : List (List (List Part) × Command))
  | function (name : String) (body : Command)

end

abbrev Word := List Part

namespace Word

/-- The text of a word without quotes and parameters. -/
def plain? (word : Word) : Option String :=
  (word.mapM fun (part : Part) => match part with
    | .char c false => some c
    | _ => none).map String.ofList

def isNameStart (c : Char) : Bool := c.isAlpha || c = '_'

def isNameChar (c : Char) : Bool := c.isAlphanum || c = '_'

def isName (text : String) : Bool :=
  match text.toList with
  | [] => false
  | c :: rest => isNameStart c && rest.all isNameChar

def isPlainNameChar : Part → Bool
  | .char c false => isNameChar c
  | _ => false

/-- The name and the value, if the word is an assignment. -/
def assignment? (word : Word) : Option (String × Word) :=
  match word.dropWhile isPlainNameChar with
  | .char '=' false :: value =>
      ((plain? (word.takeWhile isPlainNameChar)).filter isName).map fun name => (name, value)
  | _ => none

end Word
end GraphEngine.Shell
