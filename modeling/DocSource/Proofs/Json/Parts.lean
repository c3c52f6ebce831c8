import DocSource.Json.Printer
import DocSource.Json.Written
import DocSource.Proofs.Lists

/-! JSON values by what stands inside them: one induction, all parts, and their written form. -/

namespace DocSource.Json

/-- What holds of scalars, and passes from items and members to their value, always holds. -/
@[elab_as_elim, induction_eliminator]
theorem inductionOn {motive : Json → Prop}
    (null : motive .null)
    (bool : ∀ value, motive (.bool value))
    (number : ∀ value, motive (.number value))
    (string : ∀ text, motive (.string text))
    (array : ∀ items, (∀ item ∈ items, motive item) → motive (.array items))
    (object : ∀ members, (∀ key value, (key, value) ∈ members → motive value) →
      motive (.object members))
    (json : Json) : motive json := by
  -- The recursor speaks of lists as well, whose elements are all good.
  refine @Json.rec motive (fun items => ∀ item ∈ items, motive item)
    (fun members => ∀ key value, (key, value) ∈ members → motive value)
    (fun member => motive member.2)
    null bool number string array object ?_ ?_ ?_ ?_ ?_ json
  · simp
  · intro item rest first others
    simpa using ⟨first, others⟩
  · simp
  · intro member rest first others key value among
    rcases List.mem_cons.mp among with same | among
    · rw [← same] at first
      exact first
    · exact others key value among
  · intro key value good
    exact good

mutual

/-- A value and all values inside it. -/
def parts : Json → List Json
  -- A value comes before what stands inside it, so it is the first of its parts.
  | array items => array items :: partsOfItems items
  | object members => object members :: partsOfMembers members
  | json => [json]

/-- All values inside a list of items. -/
def partsOfItems : List Json → List Json
  | [] => []
  | item :: rest => item.parts ++ partsOfItems rest

/-- All values inside a list of members. -/
def partsOfMembers : List (String × Json) → List Json
  | [] => []
  | (_, value) :: rest => value.parts ++ partsOfMembers rest

end

mutual

/-- The structure of the texts that write a value. -/
def written : Json → Written
  -- Every scalar of a value names something, unlike the scalars of a text.
  | null => .null
  | bool value => .bool value
  | number value => .number (some value)
  | string text => .string (some text)
  | array items => .array (writtenItems items)
  | object members => .object (writtenMembers members)

/-- The structure of each item's texts. -/
def writtenItems : List Json → List Written
  | [] => []
  | item :: rest => item.written :: writtenItems rest

/-- The structure of each member's texts. -/
def writtenMembers : List (String × Json) → List (Option String × Written)
  | [] => []
  | (key, value) :: rest => (some key, value.written) :: writtenMembers rest

end

/-- How deep the arrays and objects of a value nest. -/
def depth (json : Json) : Nat := json.written.depth

/-- A value that stands inside an item stands inside the array. -/
theorem mem_parts_array {items : List Json} {part : Json} :
    part ∈ (array items).parts ↔ part = array items ∨ ∃ item ∈ items, part ∈ item.parts := by
  -- The companion for lists gathers the parts of one item after the other.
  have gathered : part ∈ partsOfItems items ↔ ∃ item ∈ items, part ∈ item.parts :=
    Lists.mem_iff_of_cons partsOfItems rfl fun _ _ => rfl
  rw [parts, List.mem_cons, gathered]

/-- A value that stands inside a member stands inside the object. -/
theorem mem_parts_object {members : List (String × Json)} {part : Json} :
    part ∈ (object members).parts ↔
      part = object members ∨ ∃ key value, (key, value) ∈ members ∧ part ∈ value.parts := by
  -- The companion for lists gathers the parts of one member after the other.
  have gathered : part ∈ partsOfMembers members ↔
      ∃ member ∈ members, part ∈ member.2.parts :=
    Lists.mem_iff_of_cons partsOfMembers rfl fun _ _ => rfl
  rw [parts, List.mem_cons, gathered]
  simp only [Prod.exists]

/-- Every value is a part of itself. -/
theorem self_mem_parts (json : Json) : json ∈ json.parts := by
  -- A scalar is its only part, and other values come first among theirs.
  cases json <;> simp [parts]

/-- What stands inside an item stands inside the array. -/
theorem mem_parts_of_item {items : List Json} {item part : Json} (among : item ∈ items)
    (inside : part ∈ item.parts) : part ∈ (array items).parts :=
  -- An array has itself and the parts of its items.
  mem_parts_array.mpr (.inr ⟨item, among, inside⟩)

/-- What stands inside a member stands inside the object. -/
theorem mem_parts_of_member {members : List (String × Json)} {key : String} {value part : Json}
    (among : (key, value) ∈ members) (inside : part ∈ value.parts) :
    part ∈ (object members).parts :=
  -- An object has itself and the parts of its values.
  mem_parts_object.mpr (.inr ⟨key, value, among, inside⟩)

/-- Items are printed one by one. -/
theorem compactItems_eq_map (items : List Json) : compactItems items = items.map compact :=
  -- The printer walks the items as a map does.
  Lists.eq_map_of_cons rfl (fun _ _ => rfl) items

/-- Members are printed one by one, each with its key in front. -/
theorem compactMembers_eq_map (members : List (String × Json)) :
    compactMembers members =
      members.map fun member => quoted member.1 ++ ':' :: member.2.compact :=
  -- The printer walks the members as a map does.
  Lists.eq_map_of_cons rfl (fun _ _ => rfl) members

/-- Items keep their places in the structure of a text. -/
theorem writtenItems_eq_map (items : List Json) : writtenItems items = items.map written :=
  -- The structure is made item by item.
  Lists.eq_map_of_cons rfl (fun _ _ => rfl) items

/-- Members keep their places and their keys in the structure of a text. -/
theorem writtenMembers_eq_map (members : List (String × Json)) :
    writtenMembers members = members.map fun member => (some member.1, member.2.written) :=
  -- The structure is made member by member.
  Lists.eq_map_of_cons rfl (fun _ _ => rfl) members

/-- What holds of each number inside an array holds of each number inside each item. -/
theorem forall_number_array {p : Number → Prop} {items : List Json} :
    (∀ value, number value ∈ (array items).parts → p value) ↔
      ∀ item ∈ items, ∀ value, number value ∈ item.parts → p value := by
  -- An array is no number, so only the parts of its items count.
  simp only [mem_parts_array, reduceCtorEq, false_or]
  exact ⟨fun all item among value inside => all value ⟨item, among, inside⟩,
    fun all value ⟨item, among, inside⟩ => all item among value inside⟩

/-- What holds of each number inside an object holds of each number inside each member. -/
theorem forall_number_object {p : Number → Prop} {members : List (String × Json)} :
    (∀ value, number value ∈ (object members).parts → p value) ↔
      ∀ key inner, (key, inner) ∈ members → ∀ value, number value ∈ inner.parts → p value := by
  -- An object is no number, so only the parts of its values count.
  simp only [mem_parts_object, reduceCtorEq, false_or]
  exact ⟨fun all key inner among value inside => all value ⟨key, inner, among, inside⟩,
    fun all value ⟨key, inner, among, inside⟩ => all key inner among value inside⟩

/-- Each number inside a value is whole and fits a word of sixty-four bits. -/
def NumbersWhole (json : Json) : Prop :=
  ∀ value, number value ∈ json.parts → ∃ n, value = .int n ∧ fitsInt64 n = true

/-- Whole numbers are a matter of each item. -/
theorem numbersWhole_array {items : List Json} :
    (array items).NumbersWhole ↔ ∀ item ∈ items, item.NumbersWhole :=
  -- The numbers of an array are those of its items.
  forall_number_array

/-- Whole numbers are a matter of each member's value. -/
theorem numbersWhole_object {members : List (String × Json)} :
    (object members).NumbersWhole ↔
      ∀ key value, (key, value) ∈ members → value.NumbersWhole :=
  -- The numbers of an object are those of its values.
  forall_number_object

/-- Each number inside a value is whole and fits a word, or is a finite double. -/
def NumbersSound (json : Json) : Prop :=
  ∀ value, number value ∈ json.parts →
    (∃ n, value = .int n ∧ fitsInt64 n = true) ∨ ∃ x, value = .double x ∧ x.isFinite = true

/-- Sound numbers are a matter of each item. -/
theorem numbersSound_array {items : List Json} :
    (array items).NumbersSound ↔ ∀ item ∈ items, item.NumbersSound :=
  -- The numbers of an array are those of its items.
  forall_number_array

/-- Sound numbers are a matter of each member's value. -/
theorem numbersSound_object {members : List (String × Json)} :
    (object members).NumbersSound ↔ ∀ member ∈ members, member.2.NumbersSound :=
  -- The numbers of an object are those of its values.
  forall_number_object.trans
    ⟨fun each member among => each member.1 member.2 among,
      fun each key value among => each (key, value) among⟩

end DocSource.Json
