import GraphEngine.Shell.Expansion
import GraphEngine.Shell.Grammar
import GraphEngine.Shell.Utility

/-!
Running commands.

Commands hold commands and programs run commands again, so whoever runs one is given a way to run
what is one level further in. A command may be tested, which keeps a failure from ending the shell.
-/
namespace GraphEngine.Shell

inductive Task where
  | command (command : Command) (isTested : Bool)
  /-- The commands of a text, each line of which runs before the next one is read. -/
  | text (script : String) (isTested : Bool)
  /-- A program in the process that it has been given. -/
  | program (name : String) (arguments : List String)

structure Inner where
  run : Task → Effect Unit

namespace Inner

open Effect

variable (inner : Inner)

/-- An action, and then what is to be done at the end of the shell. Its status remains unless that
names another one. -/
def toEnd (action : Effect Unit) : Effect Unit := do
  if let .error (.killed signal) ← attempt action then leave (.killed signal)
  let state ← state
  if let some will := state.lastWill then
    modifyState fun state => { state with lastWill := none }
    match ← attempt (inner.run (.text will false)) with
    | .error (.killed signal) => leave (.killed signal)
    | .error .shell => return
    | _ => setStatus state.status

/-- A shell inside this one. -/
def process (action : Effect Unit) : Effect Ending :=
  isolated do
    modifyState fun state => { state with lastWill := none }
    inner.toEnd action

/-- What a script prints. -/
def output (script : Command) : Effect String := do
  let index ← addStream (.collected [])
  let ending ← inner.process do
    connect 1 index
    inner.run (.command script false)
  setStatus ending.status
  return collected (← get).streams[index]?

def expander : Expander := ⟨inner.output⟩

/-- The directories in which programs are. -/
def programPlaces : List Path := [["usr", "bin"], ["bin"]]

def shellNames : List String := ["sh", "dash"]

def isProgram (name : String) : Bool :=
  (shellNames ++ ["env"]).contains name || (Utility.programs.lookup name).isSome

/-- The program that is called by a name or by its place. -/
def program (files : Files) (word : String) : Except SystemFault String := do
  if ! word.toList.contains '/' then
    if isProgram word then return word else throw .notFound
  let path ← files.locate (Raw.toText word)
  let name := path.getLastD ""
  if programPlaces.contains path.dropLast ∧ isProgram name then return name
  let _ ← files.find path
  throw .permissionDenied

/-- A program with its arguments, in a process of its own. -/
def launch (words : List String) : Effect (Except SystemFault Ending) := do
  match program (← get).files (words.headD "") with
  | .error fault => return .error fault
  | .ok name =>
      return .ok (← isolated do
        modifyState fun state =>
          { state with
            name := words.headD ""
            bindings := state.bindings.filter fun _ held => held.isExported
            functions := ∅
            endsOnFailure := false
            lastWill := none
            commandName := none }
        inner.run (.program name words.tail))

def complainOf (name : String) (fault : SystemFault) : Effect Unit := do
  warn (name ++ ": " ++ if fault = .permissionDenied then fault.description else "not found")
  setStatus (if fault = .notFound then 127 else 126)

def openingFault (opening : Opening) (place : String) (fault : SystemFault) : String :=
  let isRead := opening = .read
  let reason := if fault = .notFound ∨ fault = .notADirectory then
    if isRead then "No such file" else "Directory nonexistent" else fault.description
  (if isRead then "cannot open " else "cannot create ") ++ place ++ ": " ++ reason

/-- The stream that a redirection leads to, or what is wrong with it. -/
def stream (redirection : Redirection) : Effect (Except String (Option Nat)) := do
  match redirection with
  | .document _ content => do
      let text ← inner.expander.text content
      return .ok (some (← addStream (.supplied text.toList)))
  | .duplicate _ source => do
      match ← inner.expander.text source with
      | "-" => return .ok none
      | text =>
          match text.toNat?, ← streamOf (text.toNat?.getD 0) with
          | some _, some (index, _) => return .ok (some index)
          | some _, none => return .error (text ++ ": Bad file descriptor")
          | none, _ => fault "Syntax error: Bad fd number"
  | .file _ opening name => do
      let place ← inner.expander.text name
      let files := (← get).files
      let opened : Except SystemFault (Stream × Files) := do
        let text := Raw.toText place
        if opening = .read then
          let path ← files.locate text
          match ← files.find path with
          | .file content => return (.supplied (Raw.ofBytes content.toList).toList, files)
          | .directory _ => return (.nowhere, files)
        else
          let path ← files.locateForWriting text
          if path = Files.nowhere then return (.nowhere, files)
          if opening = .append ∧ files.isFile path then return (.file path, files)
          return (.file path, ← files.createFile path)
      match opened with
      | .ok (stream, files) => do
          modify fun machine => { machine with files }
          return .ok (some (← addStream stream))
      | .error fault => return .error (openingFault opening place fault)

def descriptor : Redirection → Nat
  | .file descriptor _ _ | .duplicate descriptor _ | .document descriptor _ => descriptor

/-- All the redirections in turn, up to one that fails. The result is false if one does. -/
def redirect : List Redirection → Effect Bool
  | [] => return true
  | redirection :: rest => do
      match ← inner.stream redirection with
      | .ok index? => do
          connect (descriptor redirection) index?
          redirect rest
      | .error reason => do
          warn reason
          setStatus 2
          return false

/-- An action with some descriptors redirected, if that is possible. -/
def withRedirections (redirections : List Redirection) (action : Effect Unit) : Effect Unit := do
  let before := (← state).descriptors
  followedBy (do if ← inner.redirect redirections then action)
    (modifyState fun state => { state with descriptors := before })

/-- A failure that nobody tests may end the shell. -/
def checkStatus (isTested : Bool) : Effect Unit := do
  let state ← state
  if ! isTested ∧ state.status ≠ 0 ∧ state.endsOnFailure then leave .shell

def signal? (text : String) : Option Signal :=
  match text.toNat? with
  | some number => some ⟨number⟩
  | none => Signal.ofName? text.toUpper

def kill : Utility := fun arguments => do
  let (name, targets) := match arguments with
    | "-s" :: name :: targets => (name, targets)
    | first :: targets =>
        if first.startsWith "-" then ((first.drop 1).copy, targets) else ("TERM", arguments)
    | [] => ("TERM", [])
  match signal? name with
  | none => fault ("invalid signal number or name: " ++ name)
  | some signal =>
      for target in targets do
        if (← Utility.count target) ≠ processNumber then
          warn "No such process\n"
          return 1
        if ! signal.isHarmless then leave (.killed signal)
      return 0

/-- The variables get the words of a line, the last one all that are left. -/
def assignWords : List String → List String → Effect Unit
  | [], _ => return
  | [last], words => setVariable last (" ".intercalate words)
  | name :: names, words => do
      setVariable name (words.headD "")
      assignWords names words.tail

def read : Utility := fun arguments => do
  let names := if arguments.head? = some "-r" then arguments.tail else arguments
  let line ← readUpTo (some '\n')
  let text := String.ofList (line.filter (· ≠ '\n'))
  assignWords names ((text.splitOn " ").filter (· ≠ ""))
  return if line.getLast? = some '\n' then 0 else 1

def setArguments : Utility := fun arguments => do
  match arguments with
  | "-e" :: rest | "+e" :: rest => do
      modifyState fun state => { state with endsOnFailure := arguments.head? = some "-e" }
      if ! rest.isEmpty then modifyState fun state => { state with arguments := rest }
  | "--" :: rest | rest => modifyState fun state => { state with arguments := rest }
  return 0

def shift : Utility := fun arguments => do
  let size ← arguments.head?.elim (pure 1) Utility.count
  if (← state).arguments.length < size then fault "can't shift that many"
  modifyState fun state => { state with arguments := state.arguments.drop size }
  return 0

def trap : Utility := fun arguments => do
  match arguments with
  | [will, name] =>
      if name = "EXIT" ∨ name = "0" then
        modifyState fun state => { state with lastWill := if will = "-" then none else some will }
  | _ => return 0
  return 0

def exec : Utility := fun words => do
  if words.isEmpty then return 0
  modifyState fun state => { state with lastWill := none }
  match ← inner.launch words with
  | .ok (.exited status) => setStatus status
  | .ok (.killed signal) => leave (.killed signal)
  | .error fault => complainOf (words.headD "") fault
  leave .shell

/-- An end with the status that is given, or else the one there is. -/
def leaveWith (cause : Leave) : Utility := fun arguments => do
  if let text :: _ := arguments then setStatus (← Utility.count text)
  leave cause

def leaveLoops (goesOn : Bool) : Utility := fun arguments => do
  setStatus 0
  leave (.loops (← arguments.head?.elim (pure 1) Utility.count) goesOn)

/-- The commands that an error in them ends the shell with. -/
def special : List (String × Utility) :=
  [(":", fun _ => return 0), ("exit", leaveWith .shell), ("return", leaveWith .function),
    ("break", leaveLoops false), ("continue", leaveLoops true), ("shift", shift),
    ("set", setArguments), ("trap", trap), ("exec", inner.exec),
    ("eval", fun arguments => do
      setStatus 0
      inner.run (.text (" ".intercalate arguments) false)
      return (← state).status),
    ("export", fun arguments => do
      for argument in arguments do
        let name := argument.toList.takeWhile (· ≠ '=')
        let value := argument.toList.drop (name.length + 1)
        if name.length < argument.length then
          setVariable (String.ofList name) (String.ofList value)
        exportVariable (String.ofList name)
      return 0),
    ("unset", fun arguments => do
      for name in arguments do
        modifyState fun state => { state with bindings := state.bindings.erase name }
      return 0)]

def ordinary : List (String × Utility) :=
  Utility.shared ++ [("kill", kill), ("read", read), ("wait", fun _ => return 0)]

/-- An error ends the shell only in those commands that are special. -/
def runOwn (name : String) (utility : Utility) (isSpecial : Bool) (arguments : List String) :
    Effect Unit := do
  let before := (← state).commandName
  modifyState fun state => { state with commandName := some name }
  let result ← attempt (utility arguments)
  modifyState fun state => { state with commandName := before }
  match result with
  | .ok status => setStatus status
  | .error .fault => if isSpecial then leave .fault
  | .error cause => leave cause

def runFunction (body : Command) (arguments : List String) (isTested : Bool) : Effect Unit := do
  let before := (← state).arguments
  modifyState fun state => { state with arguments }
  let result ← attempt (inner.run (.command body isTested))
  modifyState fun state => { state with arguments := before }
  match result with
  | .ok () | .error .function => return
  | .error cause => leave cause

def runWords (words : List String) (isTested : Bool) : Effect Unit := do
  let name := words.headD ""
  match (← state).functions[name]?, inner.special.lookup name, ordinary.lookup name with
  | some body, _, _ => inner.runFunction body words.tail isTested
  | none, some utility, _ => runOwn name utility true words.tail
  | none, none, some utility => runOwn name utility false words.tail
  | none, none, none =>
      match ← inner.launch words with
      | .ok ending => setStatus ending.status
      | .error fault => complainOf name fault

def assign (assignments : List (String × Word)) (isExported : Bool) : Effect Unit :=
  assignments.forM fun (name, value) => do
    setVariable name (← inner.expander.text value)
    if isExported then exportVariable name

def simple (line : Nat) (assignments : List (String × Word)) (words : List Word)
    (redirections : List Redirection) (isTested : Bool) : Effect Unit := do
  modifyState fun state => { state with line }
  let before ← state
  if words.isEmpty then setStatus 0
  let words := (← words.mapM inner.expander.fields).flatten
  let name := words.headD ""
  if words.isEmpty ∨ (inner.special.lookup name).isSome then inner.assign assignments false
  if words = ["exec"] then
    if ! (← inner.redirect redirections) then leave .fault
  else inner.withRedirections redirections do
    if words.isEmpty then return
    if (inner.special.lookup name).isSome then inner.runWords words isTested
    else
      inner.assign assignments true
      followedBy (inner.runWords words isTested) do
        for (name, _) in assignments do
          modifyState fun state => { state with bindings := match before.bindings[name]? with
            | some held => state.bindings.insert name held
            | none => state.bindings.erase name }

/-- Each of the commands reads what the one before it has written. -/
def pipeline (isTested : Bool) : List Command → Effect Unit
  | [] => return
  | [last] => do
      let ending ← inner.process (inner.run (.command last isTested))
      setStatus ending.status
  | first :: rest => do
      let index ← addStream (.collected [])
      let _ ← inner.process do
        connect 1 index
        inner.run (.command first isTested)
      setStream index (.supplied (collected (← get).streams[index]?).toList)
      let before := (← state).descriptors
      connect 0 index
      followedBy (pipeline isTested rest)
        (modifyState fun state => { state with descriptors := before })

/-- The body of a loop, once. The result is whether the loop goes on. -/
def turn (body : Effect Unit) : Effect Bool := do
  match ← attempt body with
  | .ok () => return true
  | .error (.loops count goesOn) => do
      if 1 < count then leave (.loops (count - 1) goesOn)
      return goesOn
  | .error cause => leave cause

/-- More turns than any loop is expected to take. -/
def turnLimit : Nat := 1000000

def loop (isUntil : Bool) (condition body : Command) (isTested : Bool) : Effect Unit :=
  go turnLimit 0
where
  go : Nat → Nat → Effect Unit
    | 0, status => setStatus status
    | limit + 1, status => do
        let wasReached ← turn (inner.run (.command condition true))
        if ! wasReached ∨ ((← state).status = 0) = isUntil then setStatus status
        else if ← turn (inner.run (.command body isTested)) then go limit (← state).status

def each (name : String) (words : List Word) (body : Command) (isTested : Bool) :
    Effect Unit := do
  let values := (← words.mapM inner.expander.fields).flatten
  if values.isEmpty then setStatus 0
  go values
where
  go : List String → Effect Unit
    | [] => return
    | value :: rest => do
        setVariable name value
        if ← turn (inner.run (.command body isTested)) then go rest

def choice (word : Word) (cases : List (List Word × Command)) (isTested : Bool) :
    Effect Unit := do
  let text := (← inner.expander.text word).toList
  let found ← cases.findM? fun (patterns, _) =>
    patterns.anyM fun pattern => return Pattern.isMatch (← inner.expander.pattern pattern) text
  match found with
  | some (_, body) => inner.run (.command body isTested)
  | none => setStatus 0

def command (command : Command) (isTested : Bool) : Effect Unit := do
  match command with
  | .simple line assignments words redirections => do
      inner.simple line assignments words redirections isTested
      checkStatus isTested
  | .pipeline commands => do
      inner.pipeline isTested commands
      checkStatus isTested
  | .negation command => do
      inner.run (.command command true)
      setStatus (if (← state).status = 0 then 1 else 0)
  | .both first second => do
      inner.run (.command first true)
      if (← state).status = 0 then inner.run (.command second isTested)
  | .either first second => do
      inner.run (.command first true)
      if (← state).status ≠ 0 then inner.run (.command second isTested)
  | .sequence commands => do
      if commands.isEmpty then setStatus 0
      commands.forM fun command => inner.run (.command command isTested)
  | .subshell isAwaited body => do
      let ending ← inner.process do
        if ! isAwaited then connect 0 (← addStream .nowhere)
        inner.run (.command body isTested)
      setStatus (if isAwaited then ending.status else 0)
      checkStatus isTested
  | .redirected body redirections => do
      inner.withRedirections redirections (inner.run (.command body isTested))
      checkStatus isTested
  | .branch condition thenBranch elseBranch => do
      inner.run (.command condition true)
      inner.run (.command (if (← state).status = 0 then thenBranch else elseBranch) isTested)
  | .loop isUntil condition body => inner.loop isUntil condition body isTested
  | .each name words body => inner.each name words body isTested
  | .choice word cases => inner.choice word cases isTested
  | .function name body => do
      modifyState fun state => { state with functions := state.functions.insert name body }
      setStatus 0

/-- Each line of the text runs before the next one is read. -/
def text (script : String) (isTested : Bool) : Effect Unit :=
  go (script.length + 1) (Reader.ofText script)
where
  go : Nat → Source → Effect Unit
    | 0, _ => return
    | limit + 1, source => do
        match Reader.line?.run source with
        | .error misreading => do
            modifyState fun state => { state with line := misreading.line }
            fault ("Syntax error: " ++ misreading.message)
        | .ok (none, _) => return
        | .ok (some command, source) => do
            inner.run (.command command isTested)
            go limit source

/-- A shell from its beginning to its end: where its commands come from, and what they are given. -/
def shell (name : String) (arguments : List String) : Effect Unit :=
  inner.toEnd do
    let options := arguments.takeWhile (·.startsWith "-")
    let letters := options.flatMap (·.toList)
    modifyState fun state =>
      { state with name, line := 0, status := 0, endsOnFailure := letters.contains 'e' }
    match arguments.drop options.length with
    | [] =>
        if letters.contains 'c' then fault "-c requires an argument"
        inner.run (.text (String.ofList (← readUpTo none)) false)
    | first :: rest =>
        if letters.contains 'c' then
          modifyState fun state => { state with name := rest.headD name, arguments := rest.tail }
          inner.run (.text first false)
        else
          let files := (← get).files
          match files.locate (Raw.toText first) >>= files.read with
          | .ok content =>
              modifyState fun state => { state with name := first, arguments := rest }
              inner.run (.text (Raw.ofBytes content.toList) false)
          | .error _ => fault ("cannot open " ++ first ++ ": No such file")

/-- A program with some variables more. -/
def env (arguments : List String) : Effect Unit := do
  let isAssignment (argument : String) : Bool := argument.toList.contains '='
  for argument in arguments.takeWhile isAssignment do
    let name := argument.toList.takeWhile (· ≠ '=')
    let value := argument.toList.drop (name.length + 1)
    setVariable (String.ofList name) (String.ofList value)
    exportVariable (String.ofList name)
  let words := arguments.dropWhile isAssignment
  match ← inner.launch words with
  | .ok (.exited status) => setStatus status
  | .ok (.killed signal) => leave (.killed signal)
  | .error fault =>
      Utility.problem ("'" ++ words.headD "" ++ "': " ++ fault.description)
      setStatus (if fault = .notFound then 127 else 126)

def perform (task : Task) : Effect Unit := do
  match task with
  | .command command isTested => inner.command command isTested
  | .text script isTested => inner.text script isTested
  | .program name arguments =>
      if shellNames.contains name then inner.shell name arguments
      else if name = "env" then inner.env arguments
      else setStatus (← (Utility.programs.lookup name).elim (pure 1) (· arguments))

end Inner
end GraphEngine.Shell
