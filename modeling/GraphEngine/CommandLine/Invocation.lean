import GraphEngine.CommandLine.Arguments
import GraphEngine.Settings.Basic

/-!
What the arguments of the server's command line ask for.
-/
namespace GraphEngine.CommandLine

inductive Command where
  | server
  | operations
  | inspect (guid : Guid)
deriving DecidableEq

structure Invocation where
  isVerbose : Bool
  isQuiet : Bool
  /-- Whether results are printed as JSON. -/
  printsJson : Bool
  settingsFile : Option String
  overrides : Overrides
  command : Command
deriving DecidableEq

namespace Invocation

def everywhere : List Switch :=
  [⟨"verbose", some 'v', .nothing⟩, ⟨"quiet", some 'q', .nothing⟩,
    ⟨"json-mode", none, .nothing⟩]

def configSwitch : Switch := ⟨"config", some 'c', .place⟩

def dataDirSwitch : Switch := ⟨"data-dir", some 'D', .place⟩

def start : Grammar := ⟨everywhere ++ [⟨"version", some 'V', .nothing⟩], 0, true⟩

def serverGrammar : Grammar :=
  ⟨everywhere ++
      [⟨"host", some 'H', .text⟩, ⟨"port", some 'p', .text⟩, dataDirSwitch,
        ⟨"unordered-data-dir", some 'U', .place⟩, configSwitch], 0, false⟩

def operationsGrammar : Grammar := ⟨everywhere ++ [configSwitch], 0, false⟩

def inspectGrammar : Grammar := ⟨everywhere ++ [dataDirSwitch, configSwitch], 1, false⟩

/-- A port as it is given on the command line, where a zero may have a minus sign. -/
def port? (text : String) : Option UInt16 :=
  match text.toList with
  | '-' :: digits =>
      (Settings.port? (String.ofList digits)).filter fun port =>
        port = 0 ∧ digits.all Char.isDigit
  | _ => Settings.port? text

def givenPort (given : Given) : Except Refusal (Option UInt16) :=
  match given.text? "port" with
  | none => .ok none
  | some text => match port? text with
    | some port => .ok (some port)
    | none => .error .usage

/-- The guid of `inspect` is its only argument without a dash. -/
def givenGuid (given : Given) : Except Refusal Guid :=
  match given.plain with
  | [guid] => .ok ⟨guid⟩
  | _ => .error .usage

def make (outer inner : Given) (command : Command) : Except Refusal Invocation := do
  let port ← givenPort inner
  return {
    isVerbose := eitherHas "verbose" outer inner
    isQuiet := eitherHas "quiet" outer inner
    printsJson := eitherHas "json-mode" outer inner
    settingsFile := inner.text? "config"
    overrides :=
      ⟨inner.text? "host", port, inner.text? "data-dir", inner.text? "unordered-data-dir"⟩
    command }

/-- Without a command the server is started as it is set up. -/
def parse (arguments : List String) : Except Refusal Invocation := do
  let outer ← start.parse arguments
  match outer.command with
  | none => make outer .none .server
  | some ("server", rest) => make outer (← serverGrammar.parse rest) .server
  | some ("operations", rest) => make outer (← operationsGrammar.parse rest) .operations
  | some ("inspect", rest) => do
      let inner ← inspectGrammar.parse rest
      make outer inner (.inspect (← givenGuid inner))
  | some _ => .error .usage

end Invocation
end GraphEngine.CommandLine
