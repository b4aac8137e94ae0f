import GraphEngine.Files.Basic

/-!
Changes to a tree of files as data.

A protocol that must survive an interruption is a list of steps. Performing it stops at the first
step that fails, and the effects of the steps before it remain.
-/
namespace GraphEngine.Files

inductive Step where
  | makeDirectories (path : Path)
  /-- There need not be a file to remove. -/
  | clear (path : Path)
  | createFile (path : Path)
  | append (path : Path) (bytes : List UInt8)
  | rename (source target : Path)
deriving DecidableEq

def Step.apply (files : Files) : Step → Except SystemFault Files
  | .makeDirectories path => files.makeDirectories path
  | .clear path =>
      match files.removeFile path with
      | .error .notFound => .ok files
      | result => result
  | .createFile path => files.createFile path
  | .append path bytes => files.appendBytes path bytes
  | .rename source target => files.renameFile source target

def perform (files : Files) : List Step → Except SystemFault Unit × Files
  | [] => (.ok (), files)
  | step :: rest =>
      match step.apply files with
      | .ok changed => changed.perform rest
      | .error fault => (.error fault, files)

end GraphEngine.Files
