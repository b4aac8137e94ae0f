import GraphEngine.Json.Reader
import GraphEngine.Proofs.Json.Scan

/-!
A value is read back from its compact text.

The text has exactly one tree, and reading the tree gives the value again if no name is given twice
in one of its objects, its numbers are read back one by one and the reader has room for its nesting.
Every value that can be read gives no name twice and nests no deeper than there is room.
-/
namespace GraphEngine.Json

mutual

def toTree : Json → Tree
  | .null => .null
  | .boolean value => .boolean value
  | .number value => .number value.literal
  | .string text => .string (some text)
  | .array items => .array (itemTrees items) true
  | .object members => .object (memberTrees members) true

def itemTrees : List Json → List Tree
  | [] => []
  | item :: rest => item.toTree :: itemTrees rest

def memberTrees : List (String × Json) → List (Option String × Tree)
  | [] => []
  | (name, value) :: rest => (some name, value.toTree) :: memberTrees rest

end

namespace Tree.Builder

theorem tokens_head (value : Json) :
    ∃ first rest, value.tokens = first :: rest ∧ first ≠ .closeArray := by
  match value with
  | .null | .boolean _ | .number _ | .string _ | .array [] | .object [] =>
      exact ⟨_, _, rfl, by simp⟩
  | .array (_ :: _) | .object ((_, _) :: _) =>
      simp only [Json.tokens, List.cons_append]
      exact ⟨_, _, rfl, by simp⟩

/-- Where an array may also end, a value is read just as elsewhere. -/
theorem foldl_step_valueOrClose (value : Json) (frames : List Frame) :
    value.tokens.foldl step (.building .valueOrClose frames) =
      value.tokens.foldl step (.building .value frames) := by
  obtain ⟨first, rest, shown, notClose⟩ := tokens_head value
  have same : step (.building .valueOrClose frames) first =
      step (.building .value frames) first := by
    cases first <;> first | rfl | exact absurd rfl notClose
  rw [shown, List.foldl_cons, List.foldl_cons, same]

theorem place_array (tree : Tree) (items : List Tree) (frames : List Frame) :
    place tree (.array items :: frames) =
      .building .commaOrClose (.array (tree :: items) :: frames) := rfl

theorem place_member (tree : Tree) (members : List (Option String × Tree)) (name : Option String)
    (frames : List Frame) :
    place tree (.member members name :: frames) =
      .building .commaOrClose (.object ((name, tree) :: members) :: frames) := rfl

mutual

theorem foldl_step_tokens (value : Json) (frames : List Frame) :
    value.tokens.foldl step (.building .value frames) = place value.toTree frames := by
  match value with
  | .null | .boolean _ | .number _ | .string _ | .array [] | .object [] => rfl
  | .array (item :: rest) =>
      have first : item.tokens.foldl step (.building .valueOrClose (.array [] :: frames)) =
          .building .commaOrClose (.array [item.toTree] :: frames) := by
        rw [foldl_step_valueOrClose, foldl_step_tokens item]
        rfl
      have opened : step (.building .value frames) .openArray =
          .building .valueOrClose (.array [] :: frames) := rfl
      simp only [Json.tokens, List.cons_append, List.append_assoc, List.foldl_cons,
        List.foldl_append, opened, first, foldl_step_items rest]
      simp [step, closeArray, toTree, itemTrees]
  | .object ((name, value) :: rest) =>
      have opened : step (step (step (.building .value frames) .openObject)
          (.string (some name))) .colon =
            .building .value (.member [] (some name) :: frames) := rfl
      simp only [Json.tokens, List.cons_append, List.append_assoc, List.foldl_cons,
        List.foldl_append, opened, foldl_step_tokens value, place_member, foldl_step_members rest]
      simp [step, closeObject, toTree, memberTrees]

theorem foldl_step_items (items : List Json) (read : List Tree) (frames : List Frame) :
    (itemTokens items).foldl step (.building .commaOrClose (.array read :: frames)) =
      .building .commaOrClose (.array ((itemTrees items).reverse ++ read) :: frames) := by
  match items with
  | [] => rfl
  | item :: rest =>
      have comma : step (.building .commaOrClose (.array read :: frames)) .comma =
          .building .value (.array read :: frames) := rfl
      simp only [itemTokens, List.cons_append, List.foldl_cons, List.foldl_append, comma,
        foldl_step_tokens item, place_array, foldl_step_items rest]
      simp [itemTrees]

theorem foldl_step_members (members : List (String × Json)) (read : List (Option String × Tree))
    (frames : List Frame) :
    (memberTokens members).foldl step (.building .commaOrClose (.object read :: frames)) =
      .building .commaOrClose (.object ((memberTrees members).reverse ++ read) :: frames) := by
  match members with
  | [] => rfl
  | (name, value) :: rest =>
      have comma : step (step (step (.building .commaOrClose (.object read :: frames)) .comma)
          (.string (some name))) .colon =
            .building .value (.member read (some name) :: frames) := rfl
      simp only [memberTokens, List.cons_append, List.foldl_cons, List.foldl_append, comma,
        foldl_step_tokens value, place_member, foldl_step_members rest]
      simp [memberTrees]

end

end Tree.Builder

theorem ofText_compact (value : Json) :
    Document.ofText value.compact = ⟨value.toTree, true⟩ := by
  rw [Document.ofText, Document.ofChars, scan_compact, Document.ofTokens, Tree.Builder.start,
    Tree.Builder.foldl_step_tokens]
  rfl

theorem tree?_compact (value : Json) :
    (Document.ofText value.compact).tree? = some value.toTree := by
  rw [ofText_compact]
  rfl

mutual

/-- How many arrays and objects are nested in the value. -/
def depth : Json → Nat
  | .array items => itemsDepth items + 1
  | .object members => membersDepth members + 1
  | _ => 0

def itemsDepth : List Json → Nat
  | [] => 0
  | item :: rest => max item.depth (itemsDepth rest)

def membersDepth : List (String × Json) → Nat
  | [] => 0
  | (_, value) :: rest => max value.depth (membersDepth rest)

end

theorem insertMember_of_not_mem {name : String} {members : List (String × Json)}
    (h : name ∉ members.map Prod.fst) (value : Json) :
    insertMember name value members = members ++ [(name, value)] := by
  induction members with
  | nil => rfl
  | cons member rest ih =>
      simp only [List.map_cons, List.mem_cons, not_or] at h
      rw [insertMember, if_neg (Ne.symm h.1), ih h.2, List.cons_append]

namespace Number

/-- The text of the number gives the number again, to the bit. -/
def ReadsBack (number : Number) : Prop := parse? number.text = some (.number number)

instance (number : Number) : Decidable number.ReadsBack := inferInstanceAs (Decidable (_ = _))

theorem readsBack_iff (number : Number) :
    number.ReadsBack ↔ number.literal.toNumber? = some number := by
  have text : number.text = (Json.number number).compact := String.empty_append.symm
  simp [ReadsBack, parse?, text, tree?_compact, toTree, Tree.toJson?]

theorem readsBack_integer (value : Int) (inRange : IsWord value) :
    (integer value inRange).ReadsBack :=
  (readsBack_iff _).mpr (toNumber?_literal_integer value inRange)

theorem readsBack_short {value : Double} (finite : value.isFinite = true)
    (short : (real value finite).numeral.decimal.IsShort) : (real value finite).ReadsBack :=
  (readsBack_iff _).mpr (toNumber?_literal_short finite short)

end Number

mutual

/-- Every number of the value is read back from its text. -/
def NumbersReadBack : Json → Prop
  | .number value => value.ReadsBack
  | .array items => ItemsReadBack items
  | .object members => MembersReadBack members
  | _ => True

def ItemsReadBack : List Json → Prop
  | [] => True
  | item :: rest => item.NumbersReadBack ∧ ItemsReadBack rest

def MembersReadBack : List (String × Json) → Prop
  | [] => True
  | (_, value) :: rest => value.NumbersReadBack ∧ MembersReadBack rest

end

theorem membersReadBack_iff {members : List (String × Json)} :
    MembersReadBack members ↔ ∀ member ∈ members, member.2.NumbersReadBack := by
  induction members with
  | nil => simp [MembersReadBack]
  | cons member rest ih => simp [MembersReadBack, ih]

mutual

theorem toJson?_toTree {value : Json} (h : value.WellFormed) (numbers : value.NumbersReadBack)
    (room : Nat) :
    value.toTree.toJson? room = if value.depth ≤ room then some value else none := by
  match value with
  | .null | .boolean _ | .string _ => simp [toTree, Tree.toJson?, depth]
  | .number value =>
      have read := value.readsBack_iff.mp numbers
      simp [toTree, Tree.toJson?, depth, read]
  | .array items =>
      cases room with
      | zero => simp [toTree, Tree.toJson?, depth]
      | succ room =>
          simp only [toTree, Tree.toJson?, depth, Nat.zero_lt_succ, and_self, if_true,
            Nat.add_sub_cancel, itemsToJson?_itemTrees h numbers, Nat.add_le_add_iff_right]
          split_ifs <;> rfl
  | .object members =>
      cases room with
      | zero => simp [toTree, Tree.toJson?, depth]
      | succ room =>
          have distinct : (([] ++ members).map Prod.fst).Nodup := h.1
          have read := membersToJson?_memberTrees h.2 numbers distinct room
          simp only [toTree, Tree.toJson?, depth, Nat.zero_lt_succ, and_self, if_true,
            Nat.add_sub_cancel, read, Nat.add_le_add_iff_right]
          split_ifs <;> rfl

theorem itemsToJson?_itemTrees {items : List Json} (h : WellFormedItems items)
    (numbers : ItemsReadBack items) (room : Nat) :
    Tree.itemsToJson? room (itemTrees items) =
      if itemsDepth items ≤ room then some items else none := by
  match items with
  | [] => simp [itemTrees, Tree.itemsToJson?, itemsDepth]
  | item :: rest =>
      simp only [itemTrees, Tree.itemsToJson?, itemsDepth, toJson?_toTree h.1 numbers.1,
        itemsToJson?_itemTrees h.2 numbers.2, Nat.max_le]
      by_cases first : item.depth ≤ room <;> by_cases others : itemsDepth rest ≤ room <;>
        simp [first, others]

/-- Members with new names are put behind those that have been read. -/
theorem membersToJson?_memberTrees {read members : List (String × Json)}
    (h : WellFormedMembers members) (numbers : MembersReadBack members)
    (distinct : ((read ++ members).map Prod.fst).Nodup) (room : Nat) :
    Tree.membersToJson? room read (memberTrees members) =
      if membersDepth members ≤ room then some (read ++ members) else none := by
  match members with
  | [] => simp [memberTrees, Tree.membersToJson?, membersDepth]
  | (name, value) :: rest =>
      have isNew : name ∉ read.map Prod.fst := by
        rw [List.map_append, List.nodup_append] at distinct
        intro old
        exact distinct.2.2 name old name (by simp) rfl
      have distinct' : (((read ++ [(name, value)]) ++ rest).map Prod.fst).Nodup := by
        simpa using distinct
      simp only [memberTrees, Tree.membersToJson?, membersDepth, toJson?_toTree h.1 numbers.1,
        Nat.max_le]
      by_cases first : value.depth ≤ room
      · simp only [first, if_true, insertMember_of_not_mem isNew,
          membersToJson?_memberTrees h.2 numbers.2 distinct', true_and, List.append_assoc,
          List.singleton_append]
      · simp [first]

end

/-- A text is read back within the limit for nesting, and not beyond it. -/
theorem parse?_compact {value : Json} (h : value.WellFormed) (numbers : value.NumbersReadBack) :
    parse? value.compact = if value.depth ≤ nestingLimit then some value else none := by
  rw [parse?, tree?_compact]
  exact toJson?_toTree h numbers nestingLimit

theorem map_fst_insertMember (name : String) (value : Json) (members : List (String × Json)) :
    (insertMember name value members).map Prod.fst =
      if name ∈ members.map Prod.fst then members.map Prod.fst
      else members.map Prod.fst ++ [name] := by
  induction members with
  | nil => rfl
  | cons member rest ih =>
      obtain ⟨k, v⟩ := member
      by_cases same : k = name
      · simp [insertMember, same]
      · have other : ¬ name = k := fun h => same h.symm
        simp only [insertMember, same, if_false, List.map_cons, ih, List.mem_cons, other, false_or]
        split_ifs <;> rfl

theorem wellFormedMembers_insertMember {name : String} {value : Json}
    {members : List (String × Json)} (hv : value.WellFormed) (h : WellFormedMembers members) :
    WellFormedMembers (insertMember name value members) := by
  induction members with
  | nil => exact ⟨hv, trivial⟩
  | cons member rest ih =>
      obtain ⟨k, v⟩ := member
      unfold insertMember
      split_ifs
      · exact ⟨hv, h.2⟩
      · exact ⟨h.1, ih h.2⟩

theorem membersReadBack_insertMember {name : String} {value : Json}
    {members : List (String × Json)} (hv : value.NumbersReadBack) (h : MembersReadBack members) :
    MembersReadBack (insertMember name value members) := by
  induction members with
  | nil => exact ⟨hv, trivial⟩
  | cons member rest ih =>
      obtain ⟨k, v⟩ := member
      unfold insertMember
      split_ifs
      · exact ⟨hv, h.2⟩
      · exact ⟨h.1, ih h.2⟩

theorem nodup_insertMember {name : String} {value : Json} {members : List (String × Json)}
    (h : (members.map Prod.fst).Nodup) :
    ((insertMember name value members).map Prod.fst).Nodup := by
  rw [map_fst_insertMember]
  split_ifs with old
  · exact h
  · exact List.nodup_append.mpr ⟨h, by simp, by rintro a ha b hb rfl; simp_all⟩

mutual

theorem wellFormed_of_toJson? {room : Nat} {tree : Tree} {value : Json}
    (h : tree.toJson? room = some value) : value.WellFormed := by
  match tree with
  | .null | .boolean _ =>
      cases h
      trivial
  | .number _ | .string _ =>
      obtain ⟨_, _, rfl⟩ := Option.map_eq_some_iff.mp h
      trivial
  | .array items closed =>
      simp only [Tree.toJson?, Option.ite_none_right_eq_some, Option.map_eq_some_iff] at h
      obtain ⟨_, values, read, rfl⟩ := h
      exact wellFormedItems_of_itemsToJson? read
  | .object members closed =>
      simp only [Tree.toJson?, Option.ite_none_right_eq_some, Option.map_eq_some_iff] at h
      obtain ⟨_, values, read, rfl⟩ := h
      exact wellFormedMembers_of_membersToJson? [] List.nodup_nil trivial read
  | .cut => cases h

theorem wellFormedItems_of_itemsToJson? {room : Nat} {trees : List Tree} {items : List Json}
    (h : Tree.itemsToJson? room trees = some items) : WellFormedItems items := by
  match trees with
  | [] =>
      cases h
      trivial
  | tree :: rest =>
      simp only [Tree.itemsToJson?] at h
      split at h
      · next value read =>
          obtain ⟨values, others, rfl⟩ := Option.map_eq_some_iff.mp h
          exact ⟨wellFormed_of_toJson? read, wellFormedItems_of_itemsToJson? others⟩
      · cases h

theorem wellFormedMembers_of_membersToJson? {room : Nat} (read : List (String × Json))
    {members : List (String × Json)} {trees : List (Option String × Tree)}
    (distinct : (read.map Prod.fst).Nodup) (wellFormed : WellFormedMembers read)
    (h : Tree.membersToJson? room read trees = some members) :
    (members.map Prod.fst).Nodup ∧ WellFormedMembers members := by
  match trees with
  | [] =>
      cases h
      exact ⟨distinct, wellFormed⟩
  | (some name, tree) :: rest =>
      simp only [Tree.membersToJson?] at h
      split at h
      · next value isValue =>
          exact wellFormedMembers_of_membersToJson? _ (nodup_insertMember distinct)
            (wellFormedMembers_insertMember (wellFormed_of_toJson? isValue) wellFormed) h
      · cases h
  | (none, _) :: _ => cases h

end

theorem membersDepth_insertMember (name : String) (value : Json) (members : List (String × Json)) :
    membersDepth (insertMember name value members) ≤ max value.depth (membersDepth members) := by
  induction members with
  | nil => exact Nat.le_refl _
  | cons member rest ih =>
      obtain ⟨k, v⟩ := member
      unfold insertMember
      split_ifs <;> simp only [membersDepth] <;> omega

mutual

/-- A value that has been read nests no deeper than there was room for. -/
theorem depth_le_of_toJson? {room : Nat} {tree : Tree} {value : Json}
    (h : tree.toJson? room = some value) : value.depth ≤ room := by
  match tree with
  | .null | .boolean _ =>
      cases h
      exact Nat.zero_le room
  | .number _ | .string _ =>
      obtain ⟨_, _, rfl⟩ := Option.map_eq_some_iff.mp h
      exact Nat.zero_le room
  | .array items closed =>
      simp only [Tree.toJson?, Option.ite_none_right_eq_some, Option.map_eq_some_iff] at h
      obtain ⟨⟨_, isRoom⟩, values, read, rfl⟩ := h
      have shallow := itemsDepth_le_of_itemsToJson? read
      rw [depth]
      omega
  | .object members closed =>
      simp only [Tree.toJson?, Option.ite_none_right_eq_some, Option.map_eq_some_iff] at h
      obtain ⟨⟨_, isRoom⟩, values, read, rfl⟩ := h
      have shallow := membersDepth_le_of_membersToJson? [] (Nat.zero_le _) read
      rw [depth]
      omega
  | .cut => cases h

theorem itemsDepth_le_of_itemsToJson? {room : Nat} {trees : List Tree} {items : List Json}
    (h : Tree.itemsToJson? room trees = some items) : itemsDepth items ≤ room := by
  match trees with
  | [] =>
      cases h
      exact Nat.zero_le room
  | tree :: rest =>
      simp only [Tree.itemsToJson?] at h
      split at h
      · next value read =>
          obtain ⟨values, others, rfl⟩ := Option.map_eq_some_iff.mp h
          exact Nat.max_le.mpr ⟨depth_le_of_toJson? read, itemsDepth_le_of_itemsToJson? others⟩
      · cases h

theorem membersDepth_le_of_membersToJson? {room : Nat} (read : List (String × Json))
    {members : List (String × Json)} {trees : List (Option String × Tree)}
    (shallow : membersDepth read ≤ room)
    (h : Tree.membersToJson? room read trees = some members) : membersDepth members ≤ room := by
  match trees with
  | [] =>
      cases h
      exact shallow
  | (some name, tree) :: rest =>
      simp only [Tree.membersToJson?] at h
      split at h
      · next value isValue =>
          have inserted := membersDepth_insertMember name value read
          have shallowValue := depth_le_of_toJson? isValue
          exact membersDepth_le_of_membersToJson? _ (by omega) h
      · cases h
  | (none, _) :: _ => cases h

end

end GraphEngine.Json
