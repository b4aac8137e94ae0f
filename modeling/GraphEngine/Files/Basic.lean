import GraphEngine.Files.Path
import GraphEngine.SystemFault
import Std.Data.ExtTreeMap

/-!
A tree of directories and files, and the single changes that can be made to it.

Each change either succeeds or leaves the tree as it was and says why. There are no links, so
every place has one path.
-/
namespace GraphEngine

/-- What a file holds: some bytes, and after them a run of zeros. -/
structure Content where
  bytes : List UInt8
  zeros : Nat
deriving DecidableEq

namespace Content

def empty : Content := ⟨[], 0⟩

def ofBytes (bytes : List UInt8) : Content := ⟨bytes, 0⟩

def size (content : Content) : Nat := content.bytes.length + content.zeros

def toList (content : Content) : List UInt8 :=
  content.bytes ++ List.replicate content.zeros 0

/-- The first bytes, without spelling out all the zeros. -/
def first (content : Content) (count : Nat) : List UInt8 :=
  (content.bytes ++ List.replicate (min count content.zeros) 0).take count

def append (content : Content) (bytes : List UInt8) : Content := ⟨content.toList ++ bytes, 0⟩

end Content

inductive Node where
  | directory (isWritable : Bool)
  | file (content : Content)
deriving DecidableEq

/-- The tree as someone sees it who stands in one of its directories. -/
structure Files where
  nodes : Std.ExtTreeMap Path Node
  /-- Where trails start that do not start at the root. -/
  here : Path

namespace Files

def empty : Files := ⟨∅, []⟩

/-- The place where what is written is lost. -/
def nowhere : Path := ["dev", "null"]

def node? (files : Files) (path : Path) : Option Node :=
  if path = [] then some (.directory false) else files.nodes[path]?

def isFile (files : Files) (path : Path) : Bool :=
  match files.node? path with
  | some (.file _) => true
  | _ => false

def isDirectory (files : Files) (path : Path) : Bool :=
  match files.node? path with
  | some (.directory _) => true
  | _ => false

def nameLimit : Nat := 255

def textLimit : Nat := 4095

/-- One name further, which only a directory allows. -/
def enter (files : Files) (path : Path) (name : String) : Except SystemFault Path :=
  match files.node? path with
  | none => .error .notFound
  | some (.file _) => .error .notADirectory
  | some (.directory _) =>
      if name = "." then .ok path
      else if name = ".." then .ok path.dropLast
      else if nameLimit < name.utf8ByteSize then .error .nameTooLong
      else .ok (path ++ [name])

/-- The place where a trail ends, at which there need not be anything. -/
def follow (files : Files) (trail : Trail) : Except SystemFault Path := do
  let path ← trail.names.foldlM files.enter (if trail.startsAtRoot then [] else files.here)
  if trail.asksDirectory ∧ files.isFile path then throw .notADirectory
  return path

/-- What cannot be the text of a path at all. -/
def textFault? (text : String) : Option SystemFault :=
  if text.toList.contains '\x00' then some .zeroByte
  else if text = "" then some .notFound
  else if textLimit < text.utf8ByteSize then some .nameTooLong
  else none

def locate (files : Files) (text : String) : Except SystemFault Path :=
  match textFault? text with
  | some fault => .error fault
  | none => files.follow (.ofText text)

/-- The place of a file that is to be written. Where a directory is or is asked for, there can
be none. -/
def locateForWriting (files : Files) (text : String) : Except SystemFault Path :=
  match textFault? text with
  | some fault => .error fault
  | none => do
      let trail := Trail.ofText text
      let path ← files.follow { trail with asksDirectory := false }
      if trail.asksDirectory ∨ files.isDirectory path then throw .isADirectory
      return path

/-- Why there is nothing at a path: a file stands on the way, or nothing does. -/
def absence (files : Files) (path : Path) : SystemFault :=
  if path.above.any files.isFile then .notADirectory else .notFound

def find (files : Files) (path : Path) : Except SystemFault Node :=
  match files.node? path with
  | some node => .ok node
  | none => .error (files.absence path)

/-- Whether something is there; a file on the way makes the question itself fail. -/
def has (files : Files) (path : Path) : Except SystemFault Bool :=
  match files.find path with
  | .ok _ => .ok true
  | .error .notFound => .ok false
  | .error fault => .error fault

def read (files : Files) (path : Path) : Except SystemFault Content :=
  match files.find path with
  | .ok (.file content) => .ok content
  | .ok (.directory _) => .error .isADirectory
  | .error fault => .error fault

def put (files : Files) (path : Path) (node : Node) : Files :=
  { files with nodes := files.nodes.insert path node }

def drop (files : Files) (path : Path) : Files :=
  { files with nodes := files.nodes.erase path }

/-- Names can be added or removed only in a writable directory. -/
def changeNames (files : Files) (path : Path) : Except SystemFault Unit :=
  match files.find path.dropLast with
  | .ok (.directory true) => .ok ()
  | .ok (.directory false) => .error .permissionDenied
  | .ok (.file _) => .error .notADirectory
  | .error fault => .error fault

/-- A directory stands at the path afterwards. -/
def ensureDirectory (files : Files) (path : Path) : Except SystemFault Files :=
  match files.node? path with
  | some (.directory _) => .ok files
  | some (.file _) => .error .alreadyThere
  | none => do
      files.changeNames path
      return files.put path (.directory true)

/-- All directories on the way are made as well. -/
def makeDirectories (files : Files) (path : Path) : Except SystemFault Files :=
  if path.above.any files.isFile then .error .notADirectory
  else (path.above ++ [path]).foldlM ensureDirectory files

/-- An empty file stands at the path afterwards. -/
def createFile (files : Files) (path : Path) : Except SystemFault Files :=
  match files.node? path with
  | some (.directory _) => .error .isADirectory
  | some (.file _) => .ok (files.put path (.file .empty))
  | none => do
      files.changeNames path
      return files.put path (.file .empty)

def appendBytes (files : Files) (path : Path) (bytes : List UInt8) :
    Except SystemFault Files := do
  return files.put path (.file ((← files.read path).append bytes))

def removeFile (files : Files) (path : Path) : Except SystemFault Files :=
  match files.find path with
  | .ok (.file _) => do
      files.changeNames path
      return files.drop path
  | .ok (.directory _) => .error .isADirectory
  | .error fault => .error fault

/-- The file at `source` takes the place of what is at `target`. -/
def renameFile (files : Files) (source target : Path) : Except SystemFault Files := do
  let content ← files.read source
  match files.node? target with
  | some (.directory _) => .error .isADirectory
  | _ =>
      files.changeNames target
      return (files.drop source).put target (.file content)

end Files
end GraphEngine
