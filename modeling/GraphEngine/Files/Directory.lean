import GraphEngine.Files.Basic

/-!
Directories that are made where a trail leads.

Making all directories on the way starts from the end of the trail, so it only goes back as far
as something is missing, and what it has made by the time it fails remains.
-/
namespace GraphEngine.Files

/-- The last name of a trail has to be free, and be more than a dot or two. -/
def makeDirectory (files : Files) (trail : Trail) : Except SystemFault Files := do
  let around ← files.follow { trail with names := trail.names.dropLast, asksDirectory := false }
  let path ← files.follow { trail with asksDirectory := false }
  if path = around ∨ trail.names.getLast? = some ".." then throw .alreadyThere
  if (files.node? path).isSome then throw .alreadyThere
  files.changeNames path
  return files.put path (.directory true)

/-- The directory at the end of the trail, or else the fault. -/
def directoryOr (files : Files) (trail : Trail) (fault : SystemFault) :
    Except SystemFault Path :=
  match files.follow trail with
  | .ok path => if files.isDirectory path then .ok path else .error fault
  | .error _ => .error fault

/-- One directory, once those on the way to it are there. -/
def makeLast (files : Files) (trail : Trail) : Except SystemFault Path × Files :=
  match files.makeDirectory trail with
  | .ok files => (files.directoryOr trail .notFound, files)
  | .error fault => (files.directoryOr trail fault, files)

def makeAll (files : Files) (trail : Trail) : Except SystemFault Path × Files :=
  match files.makeLast trail with
  | (.error .notFound, unchanged) =>
      match _h : trail.above? with
      | none => (.error .notFound, unchanged)
      | some above =>
          match files.makeAll above with
          | (.error fault, files) => (.error fault, files)
          | (.ok _, files) => files.makeLast trail
  | made => made
termination_by trail.names.length
decreasing_by exact Trail.names_length_of_above? ‹_›

/-- The place of the directory named by the text, which stands there afterwards. No text at all
stands for the directory where one is. -/
def prepareDirectory (files : Files) (text : String) : Except SystemFault Path × Files :=
  if text = "" then (.ok files.here, files)
  else match textFault? text with
    | some fault => (.error fault, files)
    | none => files.makeAll (.ofText text)

end GraphEngine.Files
