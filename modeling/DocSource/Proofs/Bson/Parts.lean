import DocSource.Bson.Printer
import DocSource.Bson.Reader
import DocSource.Proofs.Json.Parts

/-! Document values by what stands inside them: one induction, all parts, and sound values. -/

namespace DocSource.Bson

/-- What passes from items, fields and scopes to their value, and holds of all else, holds. -/
@[elab_as_elim, induction_eliminator]
theorem inductionOn {motive : Bson → Prop}
    (double : ∀ value, motive (.double value))
    (string : ∀ text, motive (.string text))
    (document : ∀ members, (∀ key value, (key, value) ∈ members → motive value) →
      motive (.document members))
    (array : ∀ items, (∀ item ∈ items, motive item) → motive (.array items))
    (binary : ∀ subtype bytes, motive (.binary subtype bytes))
    (undefined : motive .undefined)
    (objectId : ∀ id, motive (.objectId id))
    (boolean : ∀ value, motive (.boolean value))
    (dateTime : ∀ millis, motive (.dateTime millis))
    (null : motive .null)
    (regex : ∀ pattern options, motive (.regex pattern options))
    (dbPointer : ∀ reference id, motive (.dbPointer reference id))
    (javaScript : ∀ code, motive (.javaScript code))
    (symbol : ∀ text, motive (.symbol text))
    (javaScriptWithScope : ∀ code scope, (∀ key value, (key, value) ∈ scope → motive value) →
      motive (.javaScriptWithScope code scope))
    (int32 : ∀ value, motive (.int32 value))
    (timestamp : ∀ time increment, motive (.timestamp time increment))
    (int64 : ∀ value, motive (.int64 value))
    (decimal128 : ∀ value, motive (.decimal128 value))
    (minKey : motive .minKey)
    (maxKey : motive .maxKey)
    (value : Bson) : motive value := by
  -- The recursor speaks of lists as well, whose elements are all good.
  refine @Bson.rec motive (fun members => ∀ key value, (key, value) ∈ members → motive value)
    (fun items => ∀ item ∈ items, motive item) (fun member => motive member.2)
    double string document array binary undefined objectId boolean dateTime null regex dbPointer
    javaScript symbol javaScriptWithScope int32 timestamp int64 decimal128 minKey maxKey
    ?_ ?_ ?_ ?_ ?_ value
  · simp
  · intro member rest first others key value among
    rcases List.mem_cons.mp among with same | among
    · rw [← same] at first
      exact first
    · exact others key value among
  · simp
  · intro item rest first others
    simpa using ⟨first, others⟩
  · intro key value good
    exact good

mutual

/-- A value and all values inside it. -/
def parts : Bson → List Bson
  -- The scope of code is a document that has no value of its own.
  | document members => document members :: partsOfMembers members
  | array items => array items :: partsOfItems items
  | javaScriptWithScope code scope => javaScriptWithScope code scope :: partsOfMembers scope
  | value => [value]

/-- All values inside a list of items. -/
def partsOfItems : List Bson → List Bson
  | [] => []
  | item :: rest => item.parts ++ partsOfItems rest

/-- All values inside a list of members. -/
def partsOfMembers : List (String × Bson) → List Bson
  | [] => []
  | (_, value) :: rest => value.parts ++ partsOfMembers rest

end

/-- The parts of items are those of each of them. -/
theorem mem_partsOfItems {items : List Bson} {part : Bson} :
    part ∈ partsOfItems items ↔ ∃ item ∈ items, part ∈ item.parts :=
  -- The parts of a list are gathered item by item.
  Lists.mem_iff_of_cons partsOfItems rfl fun _ _ => rfl

/-- The parts of members are those of each of their values. -/
theorem mem_partsOfMembers {members : List (String × Bson)} {part : Bson} :
    part ∈ partsOfMembers members ↔
      ∃ key value, (key, value) ∈ members ∧ part ∈ value.parts := by
  -- A member is its key and its value.
  have gathered : part ∈ partsOfMembers members ↔ ∃ member ∈ members, part ∈ member.2.parts :=
    Lists.mem_iff_of_cons partsOfMembers rfl fun _ _ => rfl
  rw [gathered, Prod.exists]

/-- Every value is a part of itself. -/
theorem self_mem_parts (value : Bson) : value ∈ value.parts := by
  -- A scalar is its only part, and other values come first among theirs.
  cases value <;> simp [parts]

/-- What stands inside an item stands inside the array. -/
theorem mem_parts_of_item {items : List Bson} {item part : Bson} (among : item ∈ items)
    (inside : part ∈ item.parts) : part ∈ (array items).parts :=
  -- An array has itself as its first part, and behind it the parts of its items.
  List.mem_cons_of_mem _ (mem_partsOfItems.mpr ⟨item, among, inside⟩)

/-- What stands inside a field stands inside the document. -/
theorem mem_parts_of_field {members : List (String × Bson)} {key : String} {value part : Bson}
    (among : (key, value) ∈ members) (inside : part ∈ value.parts) :
    part ∈ (document members).parts :=
  -- A document has itself as its first part, and behind it the parts of its values.
  List.mem_cons_of_mem _ (mem_partsOfMembers.mpr ⟨key, value, among, inside⟩)

/-- What stands inside a scope stands inside the code. -/
theorem mem_parts_of_scope {code : String} {scope : List (String × Bson)} {key : String}
    {value part : Bson} (among : (key, value) ∈ scope) (inside : part ∈ value.parts) :
    part ∈ (javaScriptWithScope code scope).parts :=
  -- Code has itself as its first part, and behind it the parts of its scope.
  List.mem_cons_of_mem _ (mem_partsOfMembers.mpr ⟨key, value, among, inside⟩)

/-- Items are written one by one. -/
theorem itemsJson_eq_map (form : Form) (items : List Bson) :
    itemsJson form items = items.map (toJson form) :=
  -- The writer walks the items as a map does.
  Lists.eq_map_of_cons rfl (fun _ _ => rfl) items

/-- Members are written one by one, under the same keys. -/
theorem membersJson_eq_map (form : Form) (members : List (String × Bson)) :
    membersJson form members = members.map fun member => (member.1, member.2.toJson form) :=
  -- The writer walks the members as a map does.
  Lists.eq_map_of_cons rfl (fun _ _ => rfl) members

/-- Items are read one by one. -/
theorem ofItems?_eq_some_iff {items : List Json} {values : List Bson} :
    ofItems? items = some values ↔
      List.Forall₂ (fun item value => ofJson? item = some value) items values :=
  -- Reading stops at the first item that cannot be read, so all of them are read or none.
  Lists.eq_some_iff_of_cons ofItems? rfl fun item rest results => by
    simp [ofItems?, Option.bind_eq_some_iff]

/-- Members are read one by one, and keep their keys. -/
theorem ofMembers?_eq_some_iff {members : List (String × Json)} {document : Document} :
    ofMembers? members = some document ↔
      List.Forall₂ (fun member field => member.1 = field.1 ∧ ofJson? member.2 = some field.2)
        members document :=
  -- Reading stops at the first member that cannot be read, so all of them are read or none.
  Lists.eq_some_iff_of_cons ofMembers? rfl fun (key, value) rest results => by
    simp [ofMembers?, Option.bind_eq_some_iff]

/-- Members keep their keys in extended JSON. -/
theorem keys_membersJson (form : Form) (members : List (String × Bson)) :
    (membersJson form members).map (·.1) = members.map (·.1) := by
  -- The value of a member is written anew, but its key is taken over.
  rw [membersJson_eq_map, List.map_map]
  rfl

/-- Every member in extended JSON stands for a member with its key. -/
theorem exists_of_mem_membersJson {form : Form} {members : List (String × Bson)} {key : String}
    {json : Json} (among : (key, json) ∈ membersJson form members) :
    ∃ value, (key, value) ∈ members ∧ json = value.toJson form := by
  -- The members are mapped one by one.
  rw [membersJson_eq_map] at among
  obtain ⟨⟨_, value⟩, inside, same⟩ := List.mem_map.mp among
  cases same
  exact ⟨value, inside, rfl⟩

/-- A value without its parts could have been read from extended JSON. -/
def Sound : Bson → Prop
  -- The keys of a scope may be those of wrappers, as no scope is taken for one.
  | document members =>
    (members.map (·.1)).Nodup ∧ ∀ member ∈ members, isWrapperKey member.1 = false
  | javaScriptWithScope _ scope => (scope.map (·.1)).Nodup
  | regex pattern options =>
    '\x00' ∉ pattern.toList ∧ '\x00' ∉ options.toList ∧ options.toList.Pairwise (· ≤ ·)
  | _ => True

end DocSource.Bson
