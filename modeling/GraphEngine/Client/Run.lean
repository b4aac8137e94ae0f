import GraphEngine.Client.Basic
import GraphEngine.CommandLine.Arguments
import GraphEngine.Files.Text
import GraphEngine.Version

/-!
The caller's command line: one call, and what is shown of its answer.

A run depends on nothing but its arguments, the environment, the files, and what the server
answers to the one request that is sent.
-/
namespace GraphEngine.Client

open CommandLine (Grammar Refusal)
open Http (AccessKey Request)

/-- A call, or one that waits for a descriptor from a file. -/
inductive Asked where
  | ready (call : Call)
  | fromFile (place : String) (call : String → Call)

structure Invocation where
  /-- The address, without slashes at its end. -/
  server : String
  key : Option AccessKey
  asked : Asked

namespace Invocation

def start : Grammar :=
  ⟨[⟨"url", none, .text⟩, ⟨"api-key", none, .text⟩, ⟨"version", some 'V', .nothing⟩], 0, true⟩

def fileGrammar : Grammar := ⟨[⟨"file", some 'f', .place⟩], 0, false⟩

def guidGrammar : Grammar := ⟨[], 1, false⟩

def healthGrammar : Grammar := ⟨[], 0, false⟩

def withFile (call : String → Call) (arguments : List String) : Except Refusal Asked := do
  match (← fileGrammar.parse arguments).text? "file" with
  | some place => return .fromFile place call
  | none => .error .usage

def withGuid (call : Guid → Call) (arguments : List String) : Except Refusal Asked := do
  match (← guidGrammar.parse arguments).plain with
  | [guid] => return .ready (call ⟨guid⟩)
  | _ => .error .usage

/-- What is asked for by the name of a command and the arguments after it. -/
def ofCommand (command : String) (arguments : List String) : Except Refusal Asked :=
  match command with
  | "can-compute" => withFile .canCompute arguments
  | "compute" => withFile .compute arguments
  | "get-scalar" => withGuid .getScalar arguments
  | "has-in-memory" => withGuid .hasInMemory arguments
  | "has-on-disk" => withGuid .hasOnDisk arguments
  | "read-from-disk" => withGuid .readFromDisk arguments
  | "health" => do
      let _ ← healthGrammar.parse arguments
      return .ready .health
  | _ => .error .usage

def withoutSlashes (address : String) : String :=
  String.ofList (address.toList.reverse.dropWhile (· = '/')).reverse

/-- A switch stands above the variable that says the same. -/
def parse (arguments : List String) (environment : String → Option String) :
    Except Refusal Invocation := do
  let given ← start.parse arguments
  match given.command with
  | none => .error .usage
  | some (command, rest) =>
      let asked ← ofCommand command rest
      let server := (given.text? "url").or (environment "SPHYNX_URL")
      let key := (given.text? "api-key").or (environment "SPHYNX_API_KEY")
      return ⟨withoutSlashes (server.getD "http://localhost:8080"),
        key.bind AccessKey.ofText?, asked⟩

end Invocation

/-- The most bytes that a descriptor file may have. -/
def descriptorLimit : Nat := 2 * 1024 * 1024

def descriptorFailure (place : String) : TextFault → Failure
  | .tooLong size => .unreadable
      s!"Descriptor size {size} bytes exceeds maximum allowed {descriptorLimit} bytes"
  | .unreadable reason => .unreadable ("Cannot read " ++ place ++ ": " ++ reason)

def Asked.call (files : Files) : Asked → Except Failure Call
  | .ready call => .ok call
  | .fromFile place call => do
      return call (← (files.text place descriptorLimit).mapError (descriptorFailure place))

/-- The path in an address, after the scheme and the host. -/
def pathOf (address : String) : String :=
  let place := (Affix.after? "http://" address).getD address
  String.ofList (place.toList.dropWhile (· ≠ '/'))

/-- Characters that the value of a header may have; those beyond ASCII are sent as they are. -/
def isSendable (c : Char) : Bool := (' ' ≤ c && c ≠ '\x7f') || c = '\t'

/-- The request for a call, unless the key cannot be sent. -/
def requestTo? (server : String) (key : Option AccessKey) (call : Call) : Option Request :=
  if (key.toList.all fun key => key.text.toList.all isSendable) then
    let request := call.request key
    some { request with target := pathOf server ++ request.target }
  else none

/-- The request that was sent, and what came of it. -/
def send (server : String) (key : Option AccessKey) (call : Call)
    (respond : Request → Option Reply) : Option Request × Except Failure Answer :=
  match requestTo? server key call with
  | none => (none, .error (.unreachable server "builder error"))
  | some request =>
      match respond request with
      | some reply => (some request, reply.read call)
      | none =>
          (none, .error (.unreachable server
            ("error sending request for url (" ++ server ++ call.route.path ++ ")")))

/-- How a run ended, and what it showed. -/
structure Report where
  status : Nat
  sent : Option Request
  printed : String
  complaint : String

/-- What is shown of an answer. -/
def Answer.shown (call : Call) : Answer → Json
  | .value shown => shown
  | .flag holds => .object [(call.route.answerName, .boolean holds)]
  | .text shown => .object [(call.route.answerName, .string shown)]
  | .done => .object []

def report (call : Call) (sent : Option Request) : Except Failure Answer → Report
  | .ok answer => ⟨0, sent, (answer.shown call).pretty ++ "\n", ""⟩
  | .error failure => ⟨1, sent, "", failure.message ++ "\n"⟩

def execute (invocation : Invocation) (files : Files) (respond : Request → Option Reply) :
    Report :=
  match invocation.asked.call files with
  | .error failure => ⟨1, none, "", failure.message ++ "\n"⟩
  | .ok call =>
      let (sent, result) := send invocation.server invocation.key call respond
      report call sent result

def versionLine : String := "sphynx-client " ++ version ++ "\n"

/-- The status 2 stands for arguments that are not understood. -/
def run (arguments : List String) (environment : String → Option String) (files : Files)
    (respond : Request → Option Reply) : Report :=
  match Invocation.parse arguments environment with
  | .ok invocation => execute invocation files respond
  | .error .version => ⟨0, none, versionLine, ""⟩
  | .error .usage => ⟨2, none, "", ""⟩

end GraphEngine.Client
