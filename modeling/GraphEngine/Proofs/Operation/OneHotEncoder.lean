import GraphEngine.Operation.OneHotEncoder
import GraphEngine.Proofs.Entity.Validity
import GraphEngine.Proofs.Session.Kinds

/-!
Strings as vectors with a single one.

The vectors are those that are left when the defined slots are filled in one after another, each
with a one at the place that its value has among the categories. A category that is listed again
moves to its new place, and a slot that is not defined is never read.
-/
namespace GraphEngine.Operation.OneHotEncoder

variable {categories : List String} {category value : String} {place : Nat}
  {column other : Attribute String}

/-- The place is the last that holds the value. -/
structure IsLast (categories : List String) (value : String) (place : Nat) : Prop where
  holds : categories[place]? = some value
  last : ∀ later, place < later → categories[later]? ≠ some value

theorem isLast_zero : IsLast (category :: categories) value 0 ↔
    category = value ∧ value ∉ categories := by
  constructor
  · intro ⟨holds, last⟩
    refine ⟨by simpa using holds, fun listed => ?_⟩
    obtain ⟨later, found⟩ := List.mem_iff_getElem?.mp listed
    exact last (later + 1) later.succ_pos (by simpa using found)
  · rintro ⟨rfl, unlisted⟩
    refine ⟨by simp, fun later isLater found => unlisted ?_⟩
    obtain ⟨before, rfl⟩ := Nat.exists_eq_add_of_lt isLater
    exact List.mem_iff_getElem?.mpr ⟨before, by simpa using found⟩

theorem isLast_succ : IsLast (category :: categories) value (place + 1) ↔
    IsLast categories value place := by
  constructor
  · intro ⟨holds, last⟩
    refine ⟨by simpa using holds, fun later isLater found => ?_⟩
    exact last (later + 1) (Nat.succ_lt_succ isLater) (by simpa using found)
  · intro ⟨holds, last⟩
    refine ⟨by simpa using holds, fun later isLater found => ?_⟩
    cases later with
    | zero => cases isLater
    | succ later => exact last later (Nat.lt_of_succ_lt_succ isLater) (by simpa using found)

theorem exists_isLast (listed : value ∈ categories) : ∃ place, IsLast categories value place := by
  induction categories with
  | nil => cases listed
  | cons category rest ih =>
      by_cases again : value ∈ rest
      · obtain ⟨place, last⟩ := ih again
        exact ⟨place + 1, isLast_succ.mpr last⟩
      · rcases List.mem_cons.mp listed with rfl | later
        · exact ⟨0, isLast_zero.mpr ⟨rfl, again⟩⟩
        · exact absurd later again

theorem IsLast.mem (last : IsLast categories value place) : value ∈ categories :=
  List.mem_iff_getElem?.mpr ⟨place, last.holds⟩

/-- Zeros, as many as there are categories. -/
def zeros (categories : List String) : List Double :=
  List.replicate categories.length Double.zero

theorem vector_of_not_mem (unlisted : value ∉ categories) :
    vector value categories = zeros categories := by
  induction categories with
  | nil => rfl
  | cons category rest ih =>
      rw [List.mem_cons, not_or] at unlisted
      have unequal : ¬ (category = value ∧ value ∉ rest) := fun both => unlisted.1 both.1.symm
      rw [vector, if_neg unequal, ih unlisted.2]
      rfl

theorem vector_of_isLast (last : IsLast categories value place) :
    vector value categories = (zeros categories).set place Double.one := by
  induction categories generalizing place with
  | nil => cases last.holds
  | cons category rest ih =>
      cases place with
      | zero =>
          have isHere := isLast_zero.mp last
          rw [vector, if_pos isHere, vector_of_not_mem isHere.2]
          rfl
      | succ place =>
          have later := isLast_succ.mp last
          rw [vector, if_neg fun isHere => isHere.2 later.mem, ih later]
          rfl

/-- What a value becomes: zeros, with a one at its last place if it has a place. -/
structure IsOneHot (categories : List String) (value : String) (vector : List Double) :
    Prop where
  size : vector.length = categories.length
  unlisted : value ∉ categories → vector = List.replicate categories.length Double.zero
  listed : value ∈ categories → ∃ place, IsLast categories value place ∧
    vector = (List.replicate categories.length Double.zero).set place Double.one

theorem isOneHot_vector (categories : List String) (value : String) :
    IsOneHot categories value (vector value categories) := by
  by_cases listed : value ∈ categories
  · obtain ⟨place, last⟩ := exists_isLast listed
    refine ⟨?_, fun unlisted => absurd listed unlisted, fun _ => ⟨place, last, ?_⟩⟩
    · simp [vector_of_isLast last, zeros]
    · exact vector_of_isLast last
  · have all := vector_of_not_mem listed
    exact ⟨by simp [all, zeros], fun _ => all, fun again => absurd again listed⟩

/-- Each category with its place, entered in their order. -/
def places (categories : List String) (start : Nat) (known : Std.ExtTreeMap String Nat) :
    Std.ExtTreeMap String Nat :=
  (categories.zipIdx start).foldl (fun known entry => known.insert entry.1 entry.2) known

theorem places_cons (start : Nat) (known : Std.ExtTreeMap String Nat) :
    places (category :: categories) start known
      = places categories (start + 1) (known.insert category start) := rfl

/-- What has been entered is the last place so far, and nothing else is known anew. -/
theorem getElem?_places (categories : List String) (start : Nat)
    (known : Std.ExtTreeMap String Nat) {found : Nat} :
    (places categories start known)[value]? = some found ↔
      (∃ place, IsLast categories value place ∧ found = start + place) ∨
        value ∉ categories ∧ known[value]? = some found := by
  induction categories generalizing start known with
  | nil =>
      have nowhere : ∀ place, ¬ IsLast [] value place := fun place last => nomatch last.mem
      simp [places, nowhere]
  | cons category rest ih =>
      simp only [places_cons, ih, Std.ExtTreeMap.getElem?_insert, Std.compare_eq_iff_eq]
      constructor
      · rintro (⟨place, last, rfl⟩ | ⟨unlisted, entered⟩)
        · exact .inl ⟨place + 1, isLast_succ.mpr last, by omega⟩
        · split at entered
          · next same =>
              cases entered
              exact .inl ⟨0, isLast_zero.mpr ⟨same, unlisted⟩, rfl⟩
          · next different =>
              refine .inr ⟨fun listed => ?_, entered⟩
              exact (List.mem_cons.mp listed).elim (fun same => different same.symm) unlisted
      · rintro (⟨place, last, rfl⟩ | ⟨unlisted, before⟩)
        · cases place with
          | zero =>
              obtain ⟨same, unlisted⟩ := isLast_zero.mp last
              exact .inr ⟨unlisted, by rw [if_pos same]; rfl⟩
          | succ place => exact .inl ⟨place, isLast_succ.mp last, by omega⟩
        · rw [List.mem_cons, not_or] at unlisted
          exact .inr ⟨unlisted.2, by rw [if_neg fun same => unlisted.1 same.symm, before]⟩

/-- The vector of a value, with its place looked up. -/
def lookUp (categories : List String) (value : String) : List Double :=
  match (places categories 0 ∅)[value]? with
  | some place => (zeros categories).set place Double.one
  | none => zeros categories

theorem lookUp_eq_vector (categories : List String) (value : String) :
    lookUp categories value = vector value categories := by
  have entered {place : Nat} : (places categories 0 ∅)[value]? = some place ↔
      IsLast categories value place := by
    simp [getElem?_places]
  unfold lookUp
  split
  · next place found => exact (vector_of_isLast (entered.mp found)).symm
  · next unknown =>
      refine (vector_of_not_mem fun listed => ?_).symm
      obtain ⟨place, last⟩ := exists_isLast listed
      rw [entered.mpr last] at unknown
      cases unknown

/-- The vectors of the defined slots, put one after another where there was nothing. -/
def fill (categories : List String) (column : Attribute String) : List (List Double) :=
  column.definedSlots.foldl (fun vectors slot => vectors.set slot.1 (lookUp categories slot.2))
    (List.replicate column.size [])

/-- A slot holds what is put there, however often, as long as it is always the same. -/
theorem getElem?_foldl_set {slots : List (Nat × String)} {encode : String → List Double}
    {index : Nat} {entered : List Double} (vectors : List (List Double))
    (same : ∀ slot ∈ slots, slot.1 = index → encode slot.2 = entered) :
    (slots.foldl (fun vectors slot => vectors.set slot.1 (encode slot.2)) vectors)[index]?
      = vectors[index]?.map fun held =>
          if ∃ slot ∈ slots, slot.1 = index then entered else held := by
  induction slots generalizing vectors with
  | nil => simp
  | cons slot rest ih =>
      obtain ⟨here, others⟩ := List.forall_mem_cons.mp same
      rw [List.foldl_cons, ih _ others]
      by_cases isHere : slot.1 = index
      · cases isHere
        simp [List.getElem?_set_self', here rfl]
        rfl
      · have later : (∃ slot' ∈ slot :: rest, slot'.1 = index) ↔ ∃ slot ∈ rest, slot.1 = index := by
          simp [isHere]
        simp only [List.getElem?_set_ne isHere, later]

theorem getElem?_vectors (categories values : List String) (flags : List Bool) (index : Nat) :
    (vectors categories values flags)[index]? = values[index]?.map fun value =>
      if flags[index]? = some true then vector value categories else [] := by
  fun_induction vectors categories values flags generalizing index with
  | case1 flags => rfl
  | case2 value values flags ih => cases index <;> simp [ih]
  | case3 value values flags other ih =>
      cases index with
      | zero =>
          have unflagged : flags[0]? ≠ some true := by
            intro flagged
            cases flags with
            | nil => cases flagged
            | cons flag flags =>
                cases flagged
                exact other flags rfl
          simp [unflagged]
      | succ index => cases flags <;> exact ih index

theorem length_vectors (categories values : List String) (flags : List Bool) :
    (vectors categories values flags).length = values.length := by
  fun_induction vectors categories values flags with
  | case1 flags => rfl
  | case2 value values flags ih => rw [List.length_cons, List.length_cons, ih]
  | case3 value values flags other ih => rw [List.length_cons, List.length_cons, ih]

/-- What a slot of the column becomes. -/
def slotVector (categories : List String) (column : Attribute String) (index : Nat) :
    List Double :=
  ((column.get? index).map (vector · categories)).getD []

theorem vectors_eq_map (categories : List String) (column : Attribute String) :
    vectors categories column.values column.defined
      = (List.range column.size).map (slotVector categories column) := by
  refine List.ext_getElem (by simp [length_vectors, Attribute.size]) fun index inside _ => ?_
  rw [length_vectors] at inside
  have stands := List.getElem?_eq_getElem inside
  apply Option.some.inj
  rw [← List.getElem?_eq_getElem, getElem?_vectors, stands, Option.map_some, List.getElem_map,
    List.getElem_range, slotVector, Attribute.get?, stands]
  split <;> rfl

/-- The slots filled in one after another hold the same vectors. -/
theorem fill_eq_vectors (categories : List String) (column : Attribute String) :
    fill categories column = vectors categories column.values column.defined := by
  rw [vectors_eq_map]
  refine List.ext_getElem? fun index => ?_
  have same : ∀ slot ∈ column.definedSlots, slot.1 = index →
      lookUp categories slot.2 = slotVector categories column index := by
    rintro ⟨index, value⟩ listed rfl
    have found := Attribute.mem_definedSlots.mp listed
    rw [lookUp_eq_vector, slotVector, found]
    rfl
  rw [fill, getElem?_foldl_set _ same]
  by_cases inside : index < column.size
  · simp only [List.getElem?_map, List.getElem?_range inside, List.getElem?_replicate,
      if_pos inside, Option.map_some, Option.some_inj]
    split
    · rfl
    · next unwritten =>
        cases found : column.get? index with
        | none => simp only [slotVector, found, Option.map_none, Option.getD_none]
        | some value =>
            exact absurd ⟨(index, value), Attribute.mem_definedSlots.mpr found, rfl⟩ unwritten
  · simp [inside]

/-- One column of vectors for another of texts: what filling in the defined slots one after
another leaves, each with the place that was entered last for its value. -/
structure Encodes (categories : List String) (column : Attribute String)
    (encoded : Attribute (List Double)) : Prop where
  steps : fill categories column = encoded.values
  size : encoded.size = column.size
  flags : encoded.defined = column.defined
  slot : ∀ {index value}, column.get? index = some value →
    ∃ vector, encoded.get? index = some vector ∧ IsOneHot categories value vector
  blank : ∀ {index}, index < column.size → column.get? index = none →
    encoded.values[index]? = some []

/-- The column of vectors. -/
def encode (categories : List String) (column : Attribute String) : Attribute (List Double) :=
  ⟨vectors categories column.values column.defined, column.defined⟩

theorem getElem?_encode (categories : List String) {index : Nat} (inside : index < column.size) :
    (encode categories column).values[index]? = some (slotVector categories column index) := by
  simp only [encode, vectors_eq_map, List.getElem?_map, List.getElem?_range inside,
    Option.map_some]

theorem encodes_encode (categories : List String) (column : Attribute String) :
    Encodes categories column (encode categories column) where
  steps := fill_eq_vectors categories column
  size := length_vectors ..
  flags := rfl
  slot := by
    intro index value found
    refine ⟨_, ?_, isOneHot_vector categories value⟩
    have becomes : slotVector categories column index = vector value categories := by
      rw [slotVector, found]
      rfl
    unfold Attribute.get? at found ⊢
    split at found
    · next flagged =>
        have inside : index < column.size := (List.getElem?_eq_some_iff.mp found).1
        have kept : (encode categories column).defined[index]? = some true := flagged
        rw [if_pos kept, getElem?_encode categories inside, becomes]
    · cases found
  blank := by
    intro index inside undefined
    rw [getElem?_encode categories inside, slotVector, undefined]
    rfl

/-- What the slots hold that are not defined makes no difference. -/
theorem encode_congr (size : other.size = column.size) (flags : other.defined = column.defined)
    (defined : ∀ index, other.get? index = column.get? index) :
    encode categories other = encode categories column := by
  have slots : slotVector categories other = slotVector categories column := by
    funext index
    rw [slotVector, slotVector, defined]
  rw [encode, encode, vectors_eq_map, vectors_eq_map, size, slots, flags]

/-- A column of texts is encoded, and columns that differ only where they are undefined are
encoded alike. -/
theorem run_encodes (categories : List String) (column : Attribute String)
    (valid : (Entity.stringAttribute column).validate = .ok ()) :
    ∃ encoded, Encodes categories column encoded ∧
      ∀ other : Attribute String, (Entity.stringAttribute other).validate = .ok () →
        other.defined = column.defined → (∀ index, other.get? index = column.get? index) →
        ∀ (session : Session) (progress : Progress) (guid : Guid),
          session.inputs["catAttr"]? = some (guid, .stringAttribute other) →
          session.descriptor.parameter? "categories"
            = some (.array (categories.map .string)) →
          session.hasOutput "oneHotVector" = true →
          session.run body progress = (.ok (), { progress with
            outputs := progress.outputs.insert "oneHotVector"
              (.doubleVectorAttribute encoded) }) := by
  refine ⟨encode categories column, encodes_encode categories column, ?_⟩
  intro other otherValid flags defined session progress guid bound given declared
  have lengths := Attribute.fault?_eq_none.mp (Entity.validate_eq_ok.mp valid)
  have otherLengths := Attribute.fault?_eq_none.mp (Entity.validate_eq_ok.mp otherValid)
  have size : other.size = column.size := by
    rw [Attribute.size, otherLengths, flags, ← lengths, Attribute.size]
  have made : Attribute.make (vectors categories other.values other.defined) other.defined
      = .ok (encode categories column) :=
    Attribute.make_eq_ok.mpr
      ⟨(encode_congr size flags defined).symm, (length_vectors ..).trans otherLengths⟩
  simp only [body, Session.run_bind, Session.run_stringAttribute bound, Session.run_texts given,
    Session.run_ofExcept, made, Session.run_output declared]

/-- One category is listed twice, and what the column holds need not be among them. -/
def encoding (column : Attribute String) : Session where
  descriptor := ((Descriptor.ofName "OneHotEncoder").withOutput "oneHotVector" ⟨"o"⟩).withParameter
    "categories" (.array [.string "a", .string "b", .string "a"])
  inputs := (∅ : Std.ExtTreeMap String (Guid × Entity)).insert "catAttr"
    (⟨"c"⟩, .stringAttribute column)
  staging := ⟨"staging", ["staging"]⟩
  helper := fun files _ => (.finished 0 [] [], files)

theorem run_encodes_categoryTwice :
    ∃ encoded, Encodes ["a", "b", "a"] ⟨["a", "x", "b"], [true, true, false]⟩ encoded ∧
      encoded.values = [[.zero, .zero, .one], [.zero, .zero, .zero], []] ∧
      ∀ hidden ∈ ["b", ""],
        (encoding ⟨["a", "x", hidden], [true, true, false]⟩).run body ⟨∅, .empty, []⟩ = (.ok (),
          ⟨(∅ : Outputs).insert "oneHotVector" (.doubleVectorAttribute encoded), .empty, []⟩) := by
  obtain ⟨encoded, encodes, runs⟩ := run_encodes ["a", "b", "a"]
    ⟨["a", "x", "b"], [true, true, false]⟩ (by decide)
  have both : ∀ hidden ∈ ["b", ""],
      (encoding ⟨["a", "x", hidden], [true, true, false]⟩).run body ⟨∅, .empty, []⟩ = (.ok (),
        ⟨(∅ : Outputs).insert "oneHotVector" (.doubleVectorAttribute encoded), .empty, []⟩) := by
    intro hidden listed
    refine runs ⟨["a", "x", hidden], _⟩ rfl rfl ?_ _ _ ⟨"c"⟩ ?_ ?_ ?_
    · rintro (_ | _ | _ | index) <;> rfl
    · exact Std.ExtTreeMap.getElem?_insert_self
    · simp only [encoding]
      decide +kernel
    · simp only [encoding, Session.hasOutput]
      decide +kernel
  refine ⟨encoded, encodes, ?_, both⟩
  have computed : ((encoding ⟨["a", "x", "b"], [true, true, false]⟩).run body
      ⟨∅, .empty, []⟩).2.outputs["oneHotVector"]? = some (.doubleVectorAttribute
        ⟨[[.zero, .zero, .one], [.zero, .zero, .zero], []], [true, true, false]⟩) := by
    decide +kernel
  rw [both "b" (by decide), Std.ExtTreeMap.getElem?_insert_self] at computed
  cases computed
  rfl

end GraphEngine.Operation.OneHotEncoder
