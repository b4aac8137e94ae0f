import GraphEngine.CommandLine.Invocation
import GraphEngine.Http.Server
import GraphEngine.Settings.File

/-!
Running the server's command line: what it prints, what it logs, and how it ends.

Nobody may listen here, so a server gets as far as asking for its address.
-/
namespace GraphEngine

namespace CommandLine

inductive Severity where
  | info
  | warning
  | error
deriving DecidableEq

def Severity.name : Severity → String
  | .info => "INFO"
  | .warning => "WARN"
  | .error => "ERROR"

structure LogLine where
  severity : Severity
  message : String
deriving DecidableEq

/-- How a run ended, and what it showed on the way. -/
structure Report where
  status : Nat
  printed : String
  log : List LogLine
  files : Files

/-- Variables that are empty count as not set. -/
def filledIn (environment : Environment) : Environment := fun name =>
  (environment name).filter (· ≠ "")

def settings (invocation : Invocation) (environment : Environment) (files : Files) :
    Except EngineError Settings := do
  let base ← match invocation.settingsFile with
    | some place => Settings.load files place
    | none => .ok .default
  base.resolve (filledIn environment) invocation.overrides

def lines (texts : List String) : String := String.join (texts.map (· ++ "\n"))

def versionLine : String := "sphynx " ++ version

def banner : String :=
  lines
    ["",
      "  ███████╗██████╗ ██╗  ██╗██╗   ██╗███╗   ██╗██╗  ██╗",
      "  ██╔════╝██╔══██╗██║  ██║╚██╗ ██╔╝████╗  ██║╚██╗██╔╝",
      "  ███████╗██████╔╝███████║ ╚████╔╝ ██╔██╗ ██║ ╚███╔╝",
      "  ╚════██║██╔═══╝ ██╔══██║  ╚██╔╝  ██║╚██╗██║ ██╔██╗",
      "  ███████║██║     ██║  ██║   ██║   ██║ ╚████║██╔╝ ██╗",
      "  ╚══════╝╚═╝     ╚═╝  ╚═╝   ╚═╝   ╚═╝  ╚═══╝╚═╝  ╚═╝",
      "",
      "  Graph Computation Server v" ++ version,
      ""]

def serverText (settings : Settings) : String :=
  lines
    ["Sphynx Server Starting...",
      "",
      "Configuration:",
      "  Host:           " ++ settings.host,
      s!"  Port:           {settings.port}",
      "  Ordered data:   " ++ Quoted.quote settings.dataDir,
      "  Unordered data: " ++ Quoted.quote settings.stagingDir,
      s!"  Persistence:    {settings.workers} workers x {settings.queueCapacity} jobs",
      "",
      "Endpoints:",
      "  POST /can_compute                   - Is the operation registered?",
      "  POST /compute                       - Run an operation",
      "  POST /get_scalar                    - Read a scalar",
      "  POST /has_in_sphynx_memory          - Memory probe",
      "  POST /has_on_ordered_sphynx_disk    - Disk probe",
      "  POST /read_from_ordered_sphynx_disk - Load into memory",
      "  GET  /health                        - Health check",
      "",
      "Press Ctrl+C to stop",
      ""]

def keyVariable : String := "SPHYNX_API_KEY"

def keyLine (environment : Environment) : LogLine :=
  match (environment keyVariable).bind Http.AccessKey.ofText? with
  | some _ => ⟨.info, "API key authentication enabled"⟩
  | none =>
      ⟨.warning,
        "API key authentication DISABLED - all endpoints are publicly accessible! "
          ++ "Set " ++ keyVariable ++ " to enable authentication."⟩

def registryLine (registry : Registry) : LogLine :=
  ⟨.info, "Registered operations: " ++ ", ".intercalate registry.names⟩

/-- The capacity is reported as it was asked for. -/
def poolLine (pool : Pool) (settings : Settings) : LogLine :=
  ⟨.info, s!"Persistence pool started: {pool.workers} workers, "
    ++ s!"queue capacity {settings.queueCapacity}"⟩

/-- Why a server that started stopped again; a crash leaves no word about itself. -/
inductive Stop where
  | refused (error : EngineError)
  | crashed
deriving DecidableEq

/-- The log of a server that starts, why it ends, and the files with its areas. -/
def startServer (settings : Settings) (environment : Environment) (files : Files) :
    List LogLine × Stop × Files :=
  match Store.openAreas settings.dataDir settings.stagingDir files with
  | (.error error, files) => ([], .refused error, files)
  | (.ok _, files) =>
      match Registry.standard settings.node2VecCommand with
      | .error error => ([], .refused error, files)
      | .ok registry =>
          match Pool.start? settings.workers settings.queueCapacity with
          | none => ([registryLine registry], .crashed, files)
          | some pool =>
              ([registryLine registry, poolLine pool settings, keyLine environment],
                .refused (.io ("Bind failed: " ++ SystemFault.permissionDenied.message)), files)

def operationsText (settings : Settings) (printsJson : Bool) : Except EngineError String := do
  let names := (← Registry.standard settings.node2VecCommand).names
  if printsJson then
    return lines
      [(Json.object
        [("operations", .array (names.map .string)),
          ("node2vec_command", .array (settings.node2VecCommand.map .string))]).pretty]
  else
    return lines (["Registered Operations", "====================="] ++ names.map ("  " ++ ·))

def entityText (area : Area) (guid : Guid) (entity : Entity)
    (printsJson isVerbose : Bool) : String :=
  if printsJson then
    lines
      [(Json.object
        ([("guid", .string guid.text), ("kind", .string entity.kind.name),
            ("len", .ofNat entity.size)]
          ++ if isVerbose then [("entity", entity.toJson)] else [])).pretty]
  else
    let heading := "Entity " ++ guid.text
    lines
      ([heading, String.ofList (List.replicate heading.length '='),
          "Kind:     " ++ entity.kind.name,
          s!"Elements: {entity.size}",
          "Path:     " ++ Quoted.quote (Path.joinText area.name guid.text)]
        ++ if isVerbose then ["", entity.toJson.pretty] else [])

def inspect (settings : Settings) (guid : Guid) (printsJson isVerbose : Bool) (files : Files) :
    Except EngineError String × Files :=
  match Area.prepare settings.dataDir "ordered" files with
  | (.error error, files) => (.error error, files)
  | (.ok area, files) =>
      ((area.load guid none files).map fun entity =>
        entityText area guid entity printsJson isVerbose, files)

def failure (printed : String) (log : List LogLine) (error : EngineError) (files : Files) :
    Report :=
  ⟨1, printed, log ++ [⟨.error, "Error: " ++ error.message⟩], files⟩

/-- How a run ends that could not go on. -/
def crashStatus : Nat := 101

def reportOf (opening : String) (files : Files) : Except EngineError String → Report
  | .ok text => ⟨0, opening ++ text, [], files⟩
  | .error error => failure opening [] error files

def execute (invocation : Invocation) (environment : Environment) (files : Files) : Report :=
  let opening := if invocation.isQuiet || invocation.printsJson then "" else banner
  match settings invocation environment files with
  | .error error => failure opening [] error files
  | .ok settings =>
      match invocation.command with
      | .server =>
          let printed := opening ++ serverText settings
          match startServer settings environment files with
          | (log, .refused error, files) => failure printed log error files
          | (log, .crashed, files) => ⟨crashStatus, printed, log, files⟩
      | .operations => reportOf opening files (operationsText settings invocation.printsJson)
      | .inspect guid =>
          let (result, files) :=
            inspect settings guid invocation.printsJson invocation.isVerbose files
          reportOf opening files result

/-- The status 2 stands for arguments that are not understood. -/
def run (arguments : List String) (environment : Environment) (files : Files) : Report :=
  match Invocation.parse arguments with
  | .ok invocation => execute invocation environment files
  | .error .version => ⟨0, lines [versionLine], [], files⟩
  | .error .usage => ⟨2, "", [], files⟩

def variableNames : List String := keyVariable :: Settings.variableNames

/-- The places that matter to a command once the settings are known. -/
def Command.places (settings : Settings) : Command → List String
  | .server => [settings.dataDir, settings.stagingDir]
  | .operations => []
  | .inspect guid =>
      let directory := Path.joinText settings.dataDir guid.text
      [Path.joinText directory Area.markerName, Path.joinText directory Area.dataName]

end CommandLine
end GraphEngine
