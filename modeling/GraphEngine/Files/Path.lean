/-!
Places in a tree of files, and the texts that lead to them.

A path is the list of names on the way down from the root. A trail is a path as it is written: it
may start where the reader stands, go up again by two dots, and stay where it is by one.
-/
namespace GraphEngine

abbrev Path := List String

namespace Path

/-- The places passed on the way to a path, the outermost first. -/
def above (path : Path) : List Path := (List.range path.length).map (path.take ·)

def toText (path : Path) : String := "/" ++ "/".intercalate path

/-- The text of a place inside a directory. -/
def joinText (directory name : String) : String :=
  if directory = "" ∨ directory.endsWith "/" then directory ++ name
  else directory ++ "/" ++ name

end Path

structure Trail where
  startsAtRoot : Bool
  names : List String
  /-- A slash at the end asks for a directory. -/
  asksDirectory : Bool
deriving DecidableEq

namespace Trail

/-- The text cut at every slash. -/
def pieces (text : String) : List String :=
  let cut := text.toList.foldr
    (fun c (piece, rest) => if c = '/' then ([], piece :: rest) else (c :: piece, rest))
    (([] : List Char), ([] : List (List Char)))
  (cut.1 :: cut.2).map String.ofList

def ofText (text : String) : Trail :=
  ⟨text.startsWith "/", (pieces text).filter (· ≠ ""), text.endsWith "/"⟩

/-- The trail to the directory around, in which a dot does not count as a name. -/
def above? (trail : Trail) : Option Trail :=
  let names := trail.names.filter (· ≠ ".")
  if names = [] then none
  else some { trail with names := names.dropLast, asksDirectory := false }

theorem names_length_of_above? {trail above : Trail} (h : trail.above? = some above) :
    above.names.length < trail.names.length := by
  simp only [above?] at h
  split at h
  · simp at h
  · next hne =>
      simp only [Option.some.injEq] at h
      subst h
      have hle := List.length_filter_le (fun name : String => decide (name ≠ ".")) trail.names
      have hpos : 0 < (trail.names.filter (· ≠ ".")).length := List.length_pos_iff.mpr hne
      simp only [List.length_dropLast]
      omega

end Trail
end GraphEngine
