import GraphEngine.Shell.Reader

/-!
Commands as they are put together of words and marks.
-/
namespace GraphEngine.Shell.Reader

/-- The readers for what is one level further in. -/
structure Inner where
  /-- Commands up to a token that ends them. -/
  commands : (mayBeEmpty : Bool) → Reader Command
  /-- A single command. -/
  one : Reader Command

namespace Inner

variable (inner : Inner)

/-- The script in a substitution, and the parenthesis that ends it. -/
def enclosed : Reader Command := do
  let pushed := (← get).pushed
  modify fun source => { source with pushed := none }
  let script ← inner.commands true
  match (← get).pushed with
  | some (.mark ")") =>
      modify fun source => { source with pushed }
      return script
  | token => expected (token.getD .endOfFile) ")"

def next : Reader Token := Reader.next inner.enclosed

def nextWord : Reader Word := do
  match ← inner.next with
  | .word word => return word
  | token => unexpected token

/-- The next token that is not the end of a line. -/
def nextBeyondLines : Reader Token := do
  repeatUntil (fun () => do
    match ← inner.next with
    | .newLine => return .error ()
    | token => return .ok token) ()

/-- A keyword that has to come next. -/
def expect (wanted : String) : Reader Unit := do
  let token ← inner.nextBeyondLines
  if keyword? token ≠ some wanted then expected token wanted

def redirection (descriptor : Nat) (mark : String) : Reader Redirection := do
  let word ← inner.nextWord
  match mark with
  | "<" => return .file descriptor .read word
  | ">>" => return .file descriptor .append word
  | "<&" | ">&" => return .duplicate descriptor word
  | "<<" => return .document descriptor (← document inner.enclosed word false)
  | "<<-" => return .document descriptor (← document inner.enclosed word true)
  | _ => return .file descriptor .write word

/-- What has been read of a simple command, each list with its last member first. -/
structure Draft where
  assignments : List (String × Word)
  words : List Word
  redirections : List Redirection

def functionNamed (word : Word) : Reader Command := do
  let token ← inner.next
  if ! isMark ")" token then expected token ")"
  match (Word.plain? word).filter Word.isName with
  | none => fail "Bad function name"
  | some name =>
      push (← inner.nextBeyondLines)
      return .function name (← inner.one)

def simple : Reader Command := do
  let line := (← get).line
  repeatUntil (fun (draft : Draft) => do
    match ← inner.next with
    | .word word =>
        match Word.assignment? word, draft.words with
        | some assignment, [] =>
            return .error { draft with assignments := assignment :: draft.assignments }
        | _, _ => return .error { draft with words := word :: draft.words }
    | .redirection descriptor mark =>
        let read ← inner.redirection descriptor mark
        return .error { draft with redirections := read :: draft.redirections }
    | token =>
        if let (⟨[], [word], []⟩, .mark "(") := (draft, token) then
          return .ok (← inner.functionNamed word)
        if isMark "(" token then unexpected token
        push token
        return .ok (.simple line draft.assignments.reverse draft.words.reverse
          draft.redirections.reverse)) ⟨[], [], []⟩

/-- The rest of a branch after its condition has been announced. -/
def branches : Nat → Reader Command
  | 0 => fail "too long"
  | limit + 1 => do
      let condition ← inner.commands false
      inner.expect "then"
      let thenBranch ← inner.commands false
      let token ← inner.next
      match keyword? token with
      | some "elif" => return .branch condition thenBranch (← branches limit)
      | some "else" =>
          let elseBranch ← inner.commands false
          inner.expect "fi"
          return .branch condition thenBranch elseBranch
      | some "fi" => return .branch condition thenBranch (.sequence [])
      | _ => expected token "fi"

def block : Reader Command := do
  inner.expect "do"
  let body ← inner.commands false
  inner.expect "done"
  return body

/-- The words that a name stands for in turn, up to the end of the line. -/
def loopWords : Reader (List Word) := do
  repeatUntil (fun words => do
    match ← inner.next with
    | .word word => return .error (word :: words)
    | .newLine | .mark ";" => return .ok words.reverse
    | token => unexpected token) []

def each : Reader Command := do
  match (Word.plain? (← inner.nextWord)).filter Word.isName with
  | none => fail "Bad for loop variable"
  | some name =>
      let token ← inner.nextBeyondLines
      let words ← if keyword? token = some "in" then inner.loopWords
        else do
          if ! isMark ";" token then push token
          pure [[.parameter "@" true .value]]
      return .each name words (← inner.block)

/-- The patterns of one case, up to the parenthesis that ends them. -/
def patterns (first : Word) : Reader (List Word) := do
  repeatUntil (fun patterns => do
    match ← inner.next with
    | .mark "|" => return .error ((← inner.nextWord) :: patterns)
    | .mark ")" => return .ok patterns.reverse
    | token => expected token ")") [first]

def cases : Reader (List (List Word × Command)) := do
  repeatUntil (fun cases => do
    let token ← inner.nextBeyondLines
    if keyword? token = some "esac" then return .ok cases.reverse
    let first ← match token with
      | .word word => pure word
      | .mark "(" => inner.nextWord
      | token => expected token ")"
    let patterns ← inner.patterns first
    let cases := (patterns, ← inner.commands true) :: cases
    let token ← inner.next
    if keyword? token = some "esac" then return .ok cases.reverse
    else if isMark ";;" token then return .error cases
    else expected token ";;") []

def choice : Reader Command := do
  let word ← inner.nextWord
  inner.expect "in"
  return .choice word (← inner.cases)

/-- A compound command, of which the first token has been read, if it is one. -/
def compound? (token : Token) : Reader (Option Command) := do
  match keyword? token, token with
  | some "if", _ => return some (← inner.branches ((← get).rest.length + 1))
  | some "while", _ => return some (.loop false (← inner.commands false) (← inner.block))
  | some "until", _ => return some (.loop true (← inner.commands false) (← inner.block))
  | some "for", _ => return some (← inner.each)
  | some "case", _ => return some (← inner.choice)
  | some "\x7b", _ =>
      let body ← inner.commands false
      inner.expect "\x7d"
      return some body
  | none, .mark "(" =>
      let body ← inner.commands false
      let token ← inner.next
      if ! isMark ")" token then expected token ")"
      return some (.subshell true body)
  | _, _ => return none

def command : Reader Command := do
  let token ← inner.nextBeyondLines
  match ← inner.compound? token, token with
  | some body, _ =>
      let redirections ← repeatUntil (fun read => do
        match ← inner.next with
        | .redirection descriptor mark =>
            return .error ((← inner.redirection descriptor mark) :: read)
        | token =>
            push token
            return .ok read.reverse) []
      return if redirections.isEmpty then body else .redirected body redirections
  | none, .word _ | none, .redirection .. =>
      if (keyword? token).isSome then unexpected token
      push token
      inner.simple
  | none, token => unexpected token

def pipeline : Reader Command := do
  let token ← inner.nextBeyondLines
  let isNegated := keyword? token = some "!"
  if ! isNegated then push token
  let first ← inner.one
  let commands ← repeatUntil (fun commands => do
    match ← inner.next with
    | .mark "|" => return .error ((← inner.one) :: commands)
    | token =>
        push token
        return .ok commands.reverse) [first]
  let whole := match commands with
    | [command] => command
    | commands => .pipeline commands
  return if isNegated then .negation whole else whole

def andOr : Reader Command := do
  let first ← inner.pipeline
  repeatUntil (fun left => do
    match ← inner.next with
    | .mark "&&" => return .error (.both left (← inner.pipeline))
    | .mark "||" => return .error (.either left (← inner.pipeline))
    | token =>
        push token
        return .ok left) first

def endsCommands (token : Token) : Bool :=
  match keyword? token, token with
  | some text, _ => ["do", "done", "elif", "else", "esac", "fi", "then", "\x7d"].contains text
  | none, .endOfFile | none, .mark ")" | none, .mark ";;" => true
  | _, _ => false

def finish (commands : List Command) : Command :=
  match commands with
  | [command] => command
  | commands => .sequence commands.reverse

/-- The command before a mark, which may be the one for commands that are not waited for. -/
def ended (command : Command) (token : Token) : Command :=
  if isMark "&" token then .subshell false command else command

def list (mayBeEmpty : Bool) : Reader Command := do
  repeatUntil (fun commands => do
    let token ← inner.nextBeyondLines
    push token
    let mayEnd := mayBeEmpty || ! commands.isEmpty || token matches .endOfFile
    if endsCommands token && mayEnd then return .ok (finish commands)
    let command ← inner.andOr
    match ← inner.next with
    | .newLine => return .error (command :: commands)
    | token =>
        if isMark "&" token || isMark ";" token then
          return .error (ended command token :: commands)
        push token
        return .ok (finish (command :: commands))) []

/-- The commands up to the end of the line. -/
def line : Reader Command := do
  repeatUntil (fun commands => do
    match ← inner.next with
    | .newLine | .endOfFile => return .ok (finish commands)
    | token =>
        push token
        let command ← inner.andOr
        match ← inner.next with
        | .newLine | .endOfFile => return .ok (finish (command :: commands))
        | token =>
            if isMark "&" token || isMark ";" token then
              return .error (ended command token :: commands)
            unexpected token) []

end Inner

/-- Readers up to a depth. -/
def upTo : Nat → Inner
  | 0 => ⟨fun _ => fail "too deep", fail "too deep"⟩
  | depth + 1 =>
      let inner := upTo depth
      ⟨inner.list, inner.command⟩

/-- The commands up to the end of the line, or none where the text has ended. -/
def line? : Reader (Option Command) := do
  let source ← get
  if source.rest.isEmpty then return none
  return some (← (upTo (source.rest.length + 1)).line)

end GraphEngine.Shell.Reader
