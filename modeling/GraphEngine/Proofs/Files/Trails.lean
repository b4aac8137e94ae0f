import GraphEngine.Proofs.Store.Opening

/-!
Where the text of a place in a directory leads.

A name of more than two dots, without a slash and not too long, leads one step down from where the
text before it leads, and nowhere else.
-/
namespace GraphEngine

/-- A text that names one place in a directory. -/
structure Path.IsName (name : String) : Prop where
  some : name ≠ ""
  notHere : name ≠ "."
  notAbove : name ≠ ".."
  whole : '/' ∉ name.toList
  short : name.utf8ByteSize ≤ Files.nameLimit

theorem Guid.isName_of_isSafe {guid : Guid} (safe : guid.isSafe = true) :
    Path.IsName guid.text := by
  simp only [isSafe, Bool.and_eq_true, bne_iff_ne, decide_eq_true_eq, List.all_eq_true] at safe
  obtain ⟨⟨⟨⟨some, notHere⟩, notAbove⟩, plain⟩, short⟩ := safe
  exact ⟨some, notHere, notAbove, fun slash => (plain _ slash).1.1 rfl, short⟩

namespace Trail

/-- The piece that the text begins with and the pieces after it, with one character more in front. -/
def cut (c : Char) (pieces : List Char × List (List Char)) : List Char × List (List Char) :=
  if c = '/' then ([], pieces.1 :: pieces.2) else (c :: pieces.1, pieces.2)

theorem pieces_eq (text : String) :
    pieces text = ((text.toList.foldr cut ([], [])).1 :: (text.toList.foldr cut ([], [])).2).map
      String.ofList := rfl

theorem foldr_cut_of_whole {chars : List Char} (whole : '/' ∉ chars)
    (pieces : List Char × List (List Char)) :
    chars.foldr cut pieces = (chars ++ pieces.1, pieces.2) := by
  induction chars with
  | nil => rfl
  | cons c rest ih =>
      rw [List.mem_cons, not_or] at whole
      rw [List.foldr_cons, ih whole.2, cut, if_neg (Ne.symm whole.1)]
      rfl

/-- Pieces that are already there stay behind those in front. -/
theorem foldr_cut_append (chars piece : List Char) (rest later : List (List Char)) :
    chars.foldr cut (piece, rest ++ later) =
      ((chars.foldr cut (piece, rest)).1, (chars.foldr cut (piece, rest)).2 ++ later) := by
  induction chars with
  | nil => rfl
  | cons c others ih =>
      rw [List.foldr_cons, ih, List.foldr_cons, cut, cut]
      split <;> rfl

theorem pieces_append_slash (text name : String) (whole : '/' ∉ name.toList) :
    pieces (text ++ "/" ++ name) = pieces text ++ [name] := by
  have last : (text ++ "/" ++ name).toList.foldr cut ([], []) =
      text.toList.foldr cut ([], [] ++ [name.toList]) := by
    rw [String.toList_append, String.toList_append, List.foldr_append, List.foldr_append,
      foldr_cut_of_whole whole, List.append_nil]
    rfl
  rw [pieces_eq, pieces_eq, last, foldr_cut_append]
  simp

theorem pieces_of_whole {name : String} (whole : '/' ∉ name.toList) : pieces name = [name] := by
  rw [pieces_eq, foldr_cut_of_whole whole]
  simp

theorem endsWith_iff {text ending : String} :
    text.endsWith ending = true ↔ ending.toList <:+ text.toList := by
  rw [String.endsWith_eq_endsWith_toSlice, String.Slice.endsWith_string_iff]
  simp

/-- Where a text that is not empty starts does not depend on what comes after it. -/
theorem startsWith_slash_append {text : String} (some : text ≠ "") (rest : String) :
    (text ++ rest).startsWith "/" = text.startsWith "/" := by
  rw [Bool.eq_iff_iff, String.startsWith_string_iff, String.startsWith_string_iff,
    String.toList_append]
  cases chars : text.toList with
  | nil => exact absurd (String.toList_eq_nil_iff.mp chars) some
  | cons c others => simp

theorem names_append_slash (text name : String) (isName : Path.IsName name) :
    (ofText (text ++ "/" ++ name)).names = (ofText text).names ++ [name] := by
  simp only [ofText, pieces_append_slash text name isName.whole, List.filter_append]
  simp [isName.some]

/-- A slash at the end adds no name. -/
theorem names_append_slash_empty (text : String) :
    (ofText (text ++ "/")).names = (ofText text).names := by
  have cutAtEnd := pieces_append_slash text "" (by simp)
  rw [String.append_empty] at cutAtEnd
  simp [ofText, cutAtEnd]

theorem names_joinText (directory : String) {name : String} (isName : Path.IsName name) :
    (ofText (Path.joinText directory name)).names = (ofText directory).names ++ [name] := by
  unfold Path.joinText
  split
  · next ends =>
      rcases ends with rfl | ends
      · rw [String.empty_append]
        simp only [ofText, pieces_of_whole isName.whole]
        simp [isName.some]
        decide
      · obtain ⟨chars, split⟩ := endsWith_iff.mp ends
        have same : directory = String.ofList chars ++ "/" := by
          rw [← String.toList_inj, String.toList_append, String.toList_ofList, ← split]
        rw [same, names_append_slash _ _ isName, names_append_slash_empty]
  · exact names_append_slash _ _ isName

theorem startsAtRoot_joinText (directory : String) {name : String} (isName : Path.IsName name) :
    (ofText (Path.joinText directory name)).startsAtRoot = (ofText directory).startsAtRoot := by
  by_cases empty : directory = ""
  · subst empty
    have notAtRoot : name.startsWith "/" = false := by
      refine Bool.eq_false_iff.mpr fun starts => isName.whole ?_
      exact (String.startsWith_string_iff.mp starts).subset (by simp)
    rw [Path.joinText, if_pos (.inl rfl), String.empty_append]
    exact notAtRoot.trans (by decide)
  · simp only [Path.joinText, empty, false_or, ofText]
    split
    · exact startsWith_slash_append empty name
    · rw [String.append_assoc]
      exact startsWith_slash_append empty _

theorem asksDirectory_joinText (directory : String) {name : String}
    (isName : Path.IsName name) :
    (ofText (Path.joinText directory name)).asksDirectory = false := by
  have endsInName : ∀ text : String, (text ++ name).endsWith "/" = false := by
    intro text
    refine Bool.eq_false_iff.mpr fun ends => isName.whole ?_
    have ends := endsWith_iff.mp ends
    rw [String.toList_append] at ends
    have some : name.toList ≠ [] := fun empty => isName.some (String.toList_eq_nil_iff.mp empty)
    rcases List.suffix_or_suffix_of_suffix ends (List.suffix_append _ _) with within | around
    · exact within.subset (by simp)
    · have whole : name.toList = ['/'] :=
        around.eq_of_length_le (Nat.succ_le_of_lt (List.length_pos_iff.mpr some))
      simp [whole]
  unfold Path.joinText
  split
  · exact endsInName directory
  · exact endsInName (directory ++ "/")

end Trail

namespace Files

variable {files : Files} {path : Path} {directory name : String}

/-- The text of a name in a directory leads one step down from the directory. -/
theorem follow_joinText (isName : Path.IsName name)
    (led : files.follow (.ofText directory) = .ok path)
    (stands : files.isDirectory path = true) :
    files.follow (.ofText (Path.joinText directory name)) = .ok (path ++ [name]) := by
  rw [follow_eq_ok (isFile_of_isDirectory stands)] at led
  have entered : files.enter path name = .ok (path ++ [name]) := by
    unfold isDirectory at stands
    split at stands
    · next found =>
        simp [enter, found, isName.notHere, isName.notAbove, Nat.not_lt.mpr isName.short]
    · cases stands
  rw [follow, Trail.startsAtRoot_joinText directory isName, Trail.names_joinText directory isName,
    Trail.asksDirectory_joinText directory isName, List.foldlM_append, led]
  simp [bind, Except.bind, entered, pure, Except.pure]

end Files
end GraphEngine
