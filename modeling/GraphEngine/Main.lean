import GraphEngine.CommandLine.Run

/-!
The server's command line as a program. It looks at the places that a run depends on, shows the
run's report, and makes the directories that the run made.
-/
namespace GraphEngine.CommandLine

/-- The files with what stands at the path now; what cannot be read is taken to be absent. -/
def observe (files : Files) (path : Path) : IO Files := do
  try
    let place ← IO.FS.realPath path.toText
    if ← place.isDir then return files.put path (.directory true)
    else return files.put path (.file (.ofBytes (← IO.FS.readBinFile place).toList))
  catch _ => return files

/-- The places that one comes to on the way along a trail. -/
def passed (here : Path) (trail : Trail) : List Path :=
  let start := if trail.startsAtRoot then [] else here
  (trail.names.foldl (fun (path, seen) name =>
    let next :=
      if name = "." then path else if name = ".." then path.dropLast else path ++ [name]
    (next, seen ++ [next])) (start, Path.above start ++ [start])).2

def observeAll (files : Files) (places : List String) : IO Files :=
  (places.flatMap fun place => passed files.here (.ofText place)).foldlM observe files

def readEnvironment : IO Environment := do
  let given ← variableNames.filterMapM fun name => do
    return (← IO.getEnv name).map fun text => (name, text)
  return fun name => given.lookup name

def workingDirectory : IO Files := do
  let place ← IO.currentDir
  return { Files.empty with here := (Trail.ofText place.toString).names }

def observeFor (arguments : List String) (environment : Environment) : IO Files := do
  let files ← workingDirectory
  match Invocation.parse arguments with
  | .error _ => return files
  | .ok invocation =>
      let files ← observeAll files invocation.settingsFile.toList
      match settings invocation environment files with
      | .error _ => return files
      | .ok settings => observeAll files (invocation.command.places settings)

def makeDirectories (before after : Files) : IO Unit :=
  after.nodes.toList.forM fun (path, node) => do
    match before.node? path, node with
    | none, .directory _ => IO.FS.createDirAll path.toText
    | _, _ => return

def showReport (report : Report) : IO Unit := do
  IO.print report.printed
  report.log.forM fun line => IO.println (line.severity.name ++ " " ++ line.message)

end GraphEngine.CommandLine

open GraphEngine.CommandLine in
def main (arguments : List String) : IO UInt32 := do
  let environment ← readEnvironment
  let files ← observeFor arguments environment
  let report := run arguments environment files
  showReport report
  makeDirectories files report.files
  return UInt32.ofNat report.status
