import GraphEngine.Shell.Script

/-!
Reading the commands of a script.

A script is read line by line, because an earlier line may run before a later one turns out to be
wrong. Words hold scripts and scripts hold words, so whoever reads either is given a reader for what
is one level further in.
-/
namespace GraphEngine.Shell

/-- Why a script cannot be read, and the line up to which it was read. -/
structure Misreading where
  line : Nat
  message : String
deriving DecidableEq

inductive Token where
  | endOfFile
  | newLine
  | mark (text : String)
  | redirection (descriptor : Nat) (mark : String)
  | word (word : Word)

structure Source where
  rest : List Char
  line : Nat
  /-- Lines that have been read ahead, as those of documents are. -/
  linesAhead : Nat
  /-- A token that is to be read again. -/
  pushed : Option Token

abbrev Reader := StateT Source (Except Misreading)

namespace Reader

variable {α σ : Type}

def ofText (text : String) : Source := ⟨text.toList, 1, 0, none⟩

def fail (message : String) : Reader α := do throw ⟨(← get).line, message⟩

/-- A step after another until one gives a result; each has to read something. -/
def repeatUntil (step : σ → Reader (Except σ α)) (start : σ) : Reader α := do
  go ((← get).rest.length + 3) start
where
  go : Nat → σ → Reader α
    | 0, _ => fail "too long"
    | limit + 1, state => do
        match ← step state with
        | .ok result => return result
        | .error state => go limit state

/-- A line that ends in a backslash goes on in the next one. -/
def joinLines : List Char → Nat → List Char × Nat
  | '\\' :: '\n' :: rest, line => joinLines rest (line + 1)
  | rest, line => (rest, line)

def peek : Reader (Option Char) := do
  let source ← get
  let (rest, line) := joinLines source.rest source.line
  set { source with rest, line }
  return rest.head?

def advance : Reader Unit := modify fun source =>
  let ended := if source.rest.head? = some '\n' then 1 else 0
  { source with
    rest := source.rest.tail
    line := source.line + ended * (1 + source.linesAhead)
    linesAhead := if ended = 1 then 0 else source.linesAhead }

def skipIf (c : Char) : Reader Bool := do
  if (← peek) = some c then
    advance
    return true
  else return false

def takeWhile (holds : Char → Bool) : Reader String := do
  let source ← get
  set { source with rest := source.rest.dropWhile holds }
  return String.ofList (source.rest.takeWhile holds)

/-- Where the parts of a word stand. -/
inductive Setting where
  | plain
  | quotes
  | braces (isQuoted : Bool)
  | document
deriving DecidableEq

namespace Setting

def isQuoted : Setting → Bool
  | .plain | .braces false => false
  | _ => true

/-- What a backslash protects in quotes. -/
def protects (setting : Setting) (c : Char) : Bool :=
  c = '\\' || c = '\x60' || c = '$' || (c = '"' && setting ≠ .document)
    || (c = '}' && setting = .braces true)

def missingEnd? : Setting → Option String
  | .plain | .document => none
  | .quotes | .braces true => some "Unterminated quoted string"
  | .braces false => some "Missing '\x7d'"

end Setting

def isMeta (c : Char) : Bool := " \t\n&();<>|".toList.contains c

def isSpecial (c : Char) : Bool := "#$*-?@!".toList.contains c

/-- The text up to the single quote that ends it. -/
def singleQuoted : Reader Word := do
  let text := (← get).rest.takeWhile (· ≠ '\'')
  for _ in text do advance
  if (← get).rest.isEmpty then fail "Unterminated quoted string"
  advance
  return .quotes :: text.map (.char · true)

/-- The name of a parameter after a dollar sign and perhaps a brace. -/
def parameterName? : Reader (Option String) := do
  match ← peek with
  | none => return none
  | some c =>
      if Word.isNameStart c then return some (← takeWhile Word.isNameChar)
      else if c.isDigit || isSpecial c then
        advance
        return some c.toString
      else return none

/-- The use of a parameter after its name in braces, up to the closing one. -/
def use (parts : Setting → Reader Word) (isQuoted : Bool) : Reader Use := do
  let coversEmpty ← skipIf ':'
  let fallback (kind : Fallback) : Reader Use := do
    advance
    return .fallback kind coversEmpty (← parts (.braces isQuoted))
  match ← peek with
  | some '-' => fallback .default
  | some '=' => fallback .assign
  | some '?' => fallback .complain
  | some '+' => fallback .alternative
  | some c =>
      if c = '%' ∨ c = '#' then
        advance
        let isLongest ← skipIf c
        return .trim (c = '%') isLongest (← parts (.braces false))
      else if c = '}' then
        advance
        return .value
      else fail "Bad substitution"
  | none => fail "Missing '\x7d'"

/-- What follows a dollar sign and an opening brace. -/
def braced (parts : Setting → Reader Word) (isQuoted : Bool) : Reader Part := do
  let before ← get
  if ← skipIf '#' then
    if let some name ← parameterName? then
      if ← skipIf '}' then return .parameter name isQuoted .length
  set before
  let digits ← takeWhile Char.isDigit
  let name? ← if digits.isEmpty then parameterName? else pure (some digits)
  match name? with
  | some name => return .parameter name isQuoted (← use parts isQuoted)
  | none => fail "Bad substitution"

/-- What follows a dollar sign; by itself it is a character like others. -/
def dollar (script : Reader Command) (parts : Setting → Reader Word) (isQuoted : Bool) :
    Reader Part := do
  if ← skipIf '(' then return .output (← script) isQuoted
  else if ← skipIf '{' then braced parts isQuoted
  else match ← parameterName? with
    | some name => return .parameter name isQuoted .value
    | none => return .char '$' isQuoted

/-- Quotes around nothing but all arguments stand for no field where there are none. -/
def inQuotes (parts : Word) : Word :=
  match parts with
  | [.parameter "@" true .value] => parts
  | parts => .quotes :: parts

/-- The parts that a word goes on with from a character, if that does not end it. -/
def wordStep (script : Reader Command) (parts : Setting → Reader Word) (setting : Setting)
    (c : Char) : Reader (Option Word) := do
  if setting = .plain ∧ isMeta c then return none
  advance
  let isQuoted := setting.isQuoted
  match setting, c with
  | _, '\\' =>
      match (← get).rest.head? with
      | none => return some [.char '\\' true]
      | some c =>
          advance
          if isQuoted && ! setting.protects c then
            return some [.char '\\' true, .char c true]
          else return some [.char c true]
  | _, '$' => return some [← dollar script parts isQuoted]
  | .plain, '\'' | .braces false, '\'' => return some (← singleQuoted)
  | .plain, '"' | .braces _, '"' => return some (inQuotes (← parts .quotes))
  | .quotes, '"' | .braces _, '}' => return none
  | _, c => return some [.char c isQuoted]

/-- The parts of a word up to where its setting ends; those read so far are last first. -/
def partsFrom (script : Reader Command) : Nat → Setting → Word → Reader Word
  | 0, _, _ => fail "too long"
  | limit + 1, setting, read => do
      match ← peek with
      | none =>
          match setting.missingEnd? with
          | some message => fail message
          | none => return read.reverse
      | some c =>
          match ← wordStep script (partsFrom script limit · []) setting c with
          | none => return read.reverse
          | some more => partsFrom script limit setting (more.reverse ++ read)

def parts (script : Reader Command) (setting : Setting) : Reader Word := do
  partsFrom script ((← get).rest.length + 2) setting []

/-- The lines of a document and those after it. -/
def documentLines (mark : List Char) (dropsTabs : Bool) :
    List (List Char) → List (List Char) × List (List Char)
  | [] => ([], [])
  | line :: rest =>
      let line := if dropsTabs then line.dropWhile (· = '\t') else line
      if line = mark then ([], rest)
      else
        let (document, rest) := documentLines mark dropsTabs rest
        ((line ++ ['\n']) :: document, rest)

/-- The document that begins after the end of the line is taken out of what is left. -/
def document (script : Reader Command) (mark : Word) (dropsTabs : Bool) : Reader Word := do
  let source ← get
  let thisLine := source.rest.takeWhile (· ≠ '\n')
  let after := source.rest.drop (thisLine.length + 1)
  let markText := mark.filterMap fun (part : Part) => match part with
    | .char c _ => some c
    | _ => none
  let (lines, others) := documentLines markText dropsTabs (after.splitOn '\n')
  let rest := thisLine ++ '\n' :: (List.intercalate ['\n'] others)
  let linesAhead := source.linesAhead + lines.length + 1
  let text := lines.flatten
  if (Word.plain? mark).isNone then
    set { source with rest, linesAhead }
    return text.map (.char · true)
  else
    set { source with rest := text }
    let word ← parts script .document
    set { source with rest, linesAhead }
    return word

def skipBlanks : Reader Unit := do
  let _ ← takeWhile fun c => c = ' ' || c = '\t'
  if (← peek) = some '#' then
    modify fun source => { source with rest := source.rest.dropWhile (· ≠ '\n') }

/-- The marks that begin with a character. -/
def marks : Char → List String
  | ';' => [";;", ";"]
  | '&' => ["&&", "&"]
  | '|' => ["||", "|"]
  | '(' => ["("]
  | ')' => [")"]
  | '<' => ["<<-", "<<", "<&", "<"]
  | '>' => [">>", ">&", ">|", ">"]
  | _ => []

def mark? (c : Char) : Reader (Option String) := do
  let rest := (← get).rest
  match (marks c).find? (·.toList.isPrefixOf rest) with
  | none => return none
  | some mark =>
      for _ in mark.toList do advance
      return some mark

/-- A mark, or a redirection with the descriptor that it has by itself. -/
def markToken (descriptor? : Option Nat) (mark : String) : Token :=
  if mark.startsWith "<" then .redirection (descriptor?.getD 0) mark
  else if mark.startsWith ">" then .redirection (descriptor?.getD 1) mark
  else .mark mark

def freshToken (script : Reader Command) : Reader Token := do
  let _ ← peek
  skipBlanks
  match ← peek with
  | none => return .endOfFile
  | some '\n' =>
      advance
      return .newLine
  | some c =>
      if let some mark ← mark? c then return markToken none mark
      let word ← parts script .plain
      match word, ← peek with
      | [.char digit false], some next =>
          if digit.isDigit ∧ (next = '<' ∨ next = '>') then
            let mark := (← mark? next).getD ""
            return markToken (some (digit.toNat - '0'.toNat)) mark
          else return .word word
      | _, _ => return .word word

def next (script : Reader Command) : Reader Token := do
  match (← get).pushed with
  | some token =>
      modify fun source => { source with pushed := none }
      return token
  | none => freshToken script

def push (token : Token) : Reader Unit := modify fun source => { source with pushed := some token }

def reservedWords : List String :=
  ["!", "case", "do", "done", "elif", "else", "esac", "fi", "for", "if", "in", "then", "until",
    "while", "\x7b", "\x7d"]

def keyword? : Token → Option String
  | .word word => (Word.plain? word).filter reservedWords.contains
  | _ => none

def isMark (text : String) : Token → Bool
  | .mark found => found = text
  | _ => false

def tokenName (token : Token) : String :=
  match token with
  | .endOfFile => "end of file"
  | .newLine => "newline"
  | .mark text => "\"" ++ text ++ "\""
  | .redirection .. => "redirection"
  | .word _ => (keyword? token).elim "word" fun text => "\"" ++ text ++ "\""

def unexpected (token : Token) : Reader α := fail (tokenName token ++ " unexpected")

def expected (token : Token) (wanted : String) : Reader α :=
  fail (tokenName token ++ " unexpected (expecting \"" ++ wanted ++ "\")")

end Reader
end GraphEngine.Shell
