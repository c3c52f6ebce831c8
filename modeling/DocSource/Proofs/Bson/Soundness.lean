import DocSource.Proofs.Bson.Parts
import DocSource.Proofs.Json.Settling

/-! What extended JSON reads as is sound throughout, whatever wrappers it is made of. -/

namespace DocSource.Bson

/-- A sound value with nothing inside it but itself, and no document. -/
structure Leaf (value : Bson) : Prop where
  -- The empty document has no parts besides itself either, so it is ruled out.
  alone : value.parts = [value]
  sound : value.Sound
  bare : ∀ members, value ≠ .document members

/-- A regular expression that was read holds no terminator, and its options are in order. -/
theorem leaf_of_readRegex? {json : Json} {value : Bson} (read : readRegex? json = some value) :
    value.Leaf := by
  -- The reader refuses terminators, and sorts the options.
  simp only [readRegex?, Option.bind_eq_bind, Option.bind_eq_some_iff] at read
  obtain ⟨body, _, read⟩ := read
  split at read
  · simp only [Option.bind_eq_some_iff] at read
    obtain ⟨pattern, _, options, _, read⟩ := read
    split at read
    · cases read
    · next plain =>
      simp only [Option.some.injEq] at read
      subst value
      simp only [Bool.or_eq_true, List.contains_eq_mem, decide_eq_true_eq, not_or] at plain
      refine ⟨rfl, ⟨plain.1, ?_, ?_⟩, nofun⟩
      · simpa using plain.2
      · -- Sorting puts the options in order.
        have ordered := @List.pairwise_mergeSort Char (fun a b => decide (a ≤ b))
          (by intro a b c; simpa using Char.le_trans) (by intro a b; simpa using Char.le_total a b)
          options.toList
        simpa using ordered
  · cases read

/-- Bytes under their subtype stand alone. -/
theorem leaf_of_readBinary? {json : Json} {value : Bson}
    (read : readBinary? json = some value) : value.Leaf := by
  -- The reader gives bytes in its one successful branch, and bytes have no parts.
  simp only [readBinary?, Option.bind_eq_bind, Option.bind_eq_some_iff] at read
  obtain ⟨body, _, read⟩ := read
  split at read
  · simp only [Option.bind_eq_some_iff] at read
    obtain ⟨_, _, _, _, _, _, read⟩ := read
    split at read
    · cases read
      exact ⟨rfl, trivial, nofun⟩
    · cases read
  · cases read

/-- A timestamp stands alone. -/
theorem leaf_of_readTimestamp? {json : Json} {value : Bson}
    (read : readTimestamp? json = some value) : value.Leaf := by
  -- The reader gives a timestamp in its one successful branch, and a timestamp has no parts.
  simp only [readTimestamp?, Option.bind_eq_bind, Option.bind_eq_some_iff] at read
  obtain ⟨body, _, read⟩ := read
  split at read
  · simp only [Option.bind_eq_some_iff] at read
    obtain ⟨_, _, _, _, read⟩ := read
    cases read
    exact ⟨rfl, trivial, nofun⟩
  · cases read

/-- A pointer into a collection stands alone. -/
theorem leaf_of_readPointer? {json : Json} {value : Bson}
    (read : readPointer? json = some value) : value.Leaf := by
  -- The reader gives a pointer in its one successful branch, and a pointer has no parts.
  simp only [readPointer?, Option.bind_eq_bind, Option.bind_eq_some_iff] at read
  obtain ⟨body, _, read⟩ := read
  split at read
  · simp only [Option.bind_eq_some_iff] at read
    obtain ⟨_, _, _, _, read⟩ := read
    split at read
    · obtain ⟨_, _, rfl⟩ := Option.map_eq_some_iff.mp read
      exact ⟨rfl, trivial, nofun⟩
    · cases read
  · cases read

/-- A date stands alone, however it was written. -/
theorem leaf_of_readDate? {json : Json} {value : Bson} (read : readDate? json = some value) :
    value.Leaf := by
  -- A date is written as a wrapper, as a number, or as a timestamp.
  unfold readDate? at read
  split at read
  · simp only [Option.bind_eq_bind, Option.bind_eq_some_iff] at read
    obtain ⟨_, _, read⟩ := read
    obtain ⟨_, _, rfl⟩ := Option.map_eq_some_iff.mp read
    exact ⟨rfl, trivial, nofun⟩
  · obtain ⟨_, _, rfl⟩ := Option.map_eq_some_iff.mp read
    exact ⟨rfl, trivial, nofun⟩
  · simp only [Option.bind_eq_bind, Option.bind_eq_some_iff] at read
    obtain ⟨_, _, read⟩ := read
    split at read
    · simp only [Option.bind_eq_some_iff] at read
      obtain ⟨_, _, read⟩ := read
      obtain ⟨_, _, rfl⟩ := Option.map_eq_some_iff.mp read
      exact ⟨rfl, trivial, nofun⟩
    · cases read

/-- A marker stands alone. -/
theorem leaf_of_readMarker? {marker : Bson} {json : Json} {value : Bson}
    (read : readMarker? marker json = some value) (leaf : marker.Leaf) : value.Leaf := by
  -- A marker is read as the value that it stands for, or not at all.
  unfold readMarker? at read
  split at read
  · cases read
    exact leaf
  · cases read

/-- Whatever a wrapper stands for is a sound value with nothing inside it. -/
theorem leaf_of_wrapper {key : String} {reader : Json → Option Bson} {json : Json} {value : Bson}
    (named : wrapper? key = some reader) (read : reader json = some value) : value.Leaf := by
  -- Most readers map what they read into one constructor.
  have mapped : ∀ {α : Type} {found : Option α} {build : α → Bson},
      found.map build = some value → (∀ a, (build a).Leaf) → value.Leaf := by
    intro α found build read leaf
    obtain ⟨_, _, rfl⟩ := Option.map_eq_some_iff.mp read
    exact leaf _
  have listed : (key, reader) ∈ wrappers := by
    obtain ⟨before, after, shape, _⟩ := List.lookup_eq_some_iff.mp named
    rw [shape]
    simp
  simp only [wrappers, List.mem_cons, Prod.mk.injEq, List.not_mem_nil, or_false] at listed
  rcases listed with ⟨_, rfl⟩ | ⟨_, rfl⟩ | ⟨_, rfl⟩ | ⟨_, rfl⟩ | ⟨_, rfl⟩ | ⟨_, rfl⟩ | ⟨_, rfl⟩ |
    ⟨_, rfl⟩ | ⟨_, rfl⟩ | ⟨_, rfl⟩ | ⟨_, rfl⟩ | ⟨_, rfl⟩ | ⟨_, rfl⟩ | ⟨_, rfl⟩ | ⟨_, rfl⟩
  · exact mapped read fun _ => ⟨rfl, trivial, nofun⟩
  · exact mapped read fun _ => ⟨rfl, trivial, nofun⟩
  · exact leaf_of_readRegex? read
  · exact mapped read fun _ => ⟨rfl, trivial, nofun⟩
  · exact mapped read fun _ => ⟨rfl, trivial, nofun⟩
  · simp only [readDouble?, Option.bind_eq_bind, Option.bind_eq_some_iff] at read
    obtain ⟨_, _, read⟩ := read
    exact mapped read fun _ => ⟨rfl, trivial, nofun⟩
  · exact mapped read fun _ => ⟨rfl, trivial, nofun⟩
  · exact leaf_of_readBinary? read
  · simp only [readUuid?, Option.bind_eq_bind, Option.bind_eq_some_iff, Option.some.injEq] at read
    obtain ⟨_, _, _, _, _, _, rfl⟩ := read
    exact ⟨rfl, trivial, nofun⟩
  · exact leaf_of_readTimestamp? read
  · exact leaf_of_readDate? read
  · exact leaf_of_readMarker? read ⟨rfl, trivial, nofun⟩
  · exact leaf_of_readMarker? read ⟨rfl, trivial, nofun⟩
  · exact leaf_of_readPointer? read
  · dsimp only at read
    split at read
    · cases read
      exact ⟨rfl, trivial, nofun⟩
    · cases read

/-- Every value that was read has its item. -/
theorem exists_of_ofItems? {items : List Json} {values : List Bson}
    (read : ofItems? items = some values) {value : Bson} (among : value ∈ values) :
    ∃ item ∈ items, ofJson? item = some value :=
  -- The readings pair each value with its item.
  Lists.exists_of_mem_results (ofItems?_eq_some_iff.mp read) among

/-- Every member that was read has the key and the value of one of the members written. -/
theorem exists_of_ofMembers? {members : List (String × Json)} {document : Document}
    (read : ofMembers? members = some document) {key : String} {value : Bson}
    (among : (key, value) ∈ document) :
    ∃ json, (key, json) ∈ members ∧ ofJson? json = some value := by
  -- The readings pair each field with its member, under one key.
  obtain ⟨⟨name, json⟩, inside, rfl, own⟩ :=
    Lists.exists_of_mem_results (ofMembers?_eq_some_iff.mp read) among
  exact ⟨json, inside, own⟩

/-- Members keep their keys in order. -/
theorem keys_of_ofMembers? {members : List (String × Json)} {document : Document}
    (read : ofMembers? members = some document) : document.map (·.1) = members.map (·.1) := by
  -- The keys are related as equals, one by one.
  have same : List.Forall₂ (· = ·) (members.map (·.1)) (document.map (·.1)) := by
    rw [List.forall₂_map_left_iff, List.forall₂_map_right_iff]
    exact (ofMembers?_eq_some_iff.mp read).imp fun _ _ own => own.1
  rw [List.forall₂_eq_eq_eq] at same
  exact same.symm

/-- A scope is read from the members of an object under its key. -/
theorem exists_of_scope? {members : List (String × Json)} {scope : Document}
    (read : scope? members = some (some scope)) :
    ∃ inner, ("$scope", .object inner) ∈ members ∧ ofMembers? inner = some scope := by
  -- The first member under the key decides, and only an object is a scope.
  induction members with
  | nil => cases read
  | cons member rest ih =>
    obtain ⟨key, value⟩ := member
    rw [scope?] at read
    split at read
    · next same =>
      subst same
      unfold scopeValue? at read
      split at read
      · cases read
      · next inner =>
        obtain ⟨found, innerRead, same⟩ := Option.map_eq_some_iff.mp read
        cases same
        exact ⟨inner, by simp, innerRead⟩
      · cases read
    · obtain ⟨inner, among, innerRead⟩ := ih read
      exact ⟨inner, by simp [among], innerRead⟩

/-- What an object is read as: a wrapper's value, code with or without a scope, or a document. -/
theorem ofJson?_object_cases {members : List (String × Json)} {value : Bson}
    (read : ofJson? (.object members) = some value) :
    value.Leaf ∨
      (∃ code scope inner, value = javaScriptWithScope code scope ∧
        ("$scope", .object inner) ∈ members ∧ ofMembers? inner = some scope) ∨
      ∃ document, value = .document document ∧ ofMembers? members = some document ∧
        ∀ member ∈ members, isWrapperKey member.1 = false := by
  -- The reader looks for code first, then for any wrapper.
  rw [ofJson?.eq_def] at read
  dsimp only at read
  split at read
  · -- Code stands alone, or beside its scope.
    simp only [readCode?, Option.bind_eq_bind, Option.bind_eq_some_iff] at read
    obtain ⟨code, _, scope, scopeRead, read⟩ := read
    split at read
    · split at read
      · cases read
        exact .inl ⟨rfl, trivial, nofun⟩
      · cases read
        obtain ⟨inner, among, innerRead⟩ := exists_of_scope? scopeRead
        exact .inr (.inl ⟨_, _, inner, rfl, among, innerRead⟩)
    · cases read
  · split at read
    · -- A wrapper stands alone.
      split at read
      · obtain ⟨reader, named, read⟩ := Option.bind_eq_some_iff.mp read
        exact .inl (leaf_of_wrapper named read)
      · cases read
    · next plain =>
      obtain ⟨document, membersRead, rfl⟩ := Option.map_eq_some_iff.mp read
      refine .inr (.inr ⟨document, rfl, membersRead, ?_⟩)
      simpa using plain

/-- A number is read as one of three types. -/
theorem leaf_ofNumber (n : Number) : (ofNumber n).Leaf := by
  -- The size of a whole number decides on its type.
  unfold ofNumber
  split
  · split
    · exact ⟨rfl, trivial, nofun⟩
    · split <;> exact ⟨rfl, trivial, nofun⟩
  · exact ⟨rfl, trivial, nofun⟩

/-- A document is read from an object, and has its keys in order. -/
theorem keys_of_ofJson? {json : Json} {stage : Document}
    (read : ofJson? json = some (.document stage)) :
    ∃ members, json = .object members ∧ stage.map (·.1) = members.map (·.1) := by
  -- Wrappers, scalars and arrays are read as something else than a document.
  cases json with
  | object members =>
    rcases ofJson?_object_cases read with
      leaf | ⟨_, _, _, other, _⟩ | ⟨document, same, membersRead, _⟩
    · exact absurd rfl (leaf.bare stage)
    · cases other
    · cases same
      exact ⟨members, rfl, keys_of_ofMembers? membersRead⟩
  | array items => simp [ofJson?] at read
  | number value =>
    rw [ofJson?, Option.some.injEq] at read
    exact absurd read ((leaf_ofNumber value).bare stage)
  | _ => cases read

/-- Whatever is read from a value with distinct keys is sound throughout. -/
theorem sound_of_ofJson? {json : Json} (distinct : json.KeysDistinct) {value : Bson}
    (read : ofJson? json = some value) : ∀ part ∈ value.parts, part.Sound := by
  -- A scope is read past its object, so the members of objects are followed as well.
  suffices both : (∀ value, ofJson? json = some value → ∀ part ∈ value.parts, part.Sound) ∧
      ∀ members, json = .object members → ∀ document, ofMembers? members = some document →
        ∀ part ∈ partsOfMembers document, part.Sound from both.1 value read
  clear read value
  have leaf : ∀ value : Bson, value.Leaf → ∀ part ∈ value.parts, part.Sound := by
    rintro value ⟨alone, sound⟩ part inside
    rw [alone, List.mem_singleton] at inside
    exact inside ▸ sound
  induction json with
  | null | bool _ | string _ =>
    refine ⟨fun value read => leaf value ?_, nofun⟩
    cases read
    exact ⟨rfl, trivial, nofun⟩
  | number n =>
    refine ⟨fun value read => leaf value ?_, nofun⟩
    rw [ofJson?, Option.some.injEq] at read
    exact read ▸ leaf_ofNumber n
  | array items ih =>
    refine ⟨fun value read part inside => ?_, nofun⟩
    rw [ofJson?] at read
    obtain ⟨values, itemsRead, rfl⟩ := Option.map_eq_some_iff.mp read
    rcases List.mem_cons.mp inside with rfl | inside
    · trivial
    · obtain ⟨value, among, inside⟩ := mem_partsOfItems.mp inside
      obtain ⟨item, source, itemRead⟩ := exists_of_ofItems? itemsRead among
      have own := ih item source (Json.keysDistinct_array.mp distinct item source)
      exact own.1 value itemRead part inside
  | object members ih =>
    -- The members are followed first, whatever the object turns out to be.
    obtain ⟨own, keysBelow⟩ := Json.keysDistinct_object.mp distinct
    have below : ∀ document, ofMembers? members = some document →
        ∀ part ∈ partsOfMembers document, part.Sound := by
      intro document read part inside
      obtain ⟨key, value, among, inside⟩ := mem_partsOfMembers.mp inside
      obtain ⟨source, sourceAmong, valueRead⟩ := exists_of_ofMembers? read among
      exact (ih key source sourceAmong (keysBelow key source sourceAmong)).1 value valueRead part
        inside
    refine ⟨fun value read part inside => ?_, fun other same => by cases same; exact below⟩
    rcases ofJson?_object_cases read with alone | ⟨code, scope, inner, rfl, among, innerRead⟩ |
      ⟨document, rfl, membersRead, plain⟩
    · exact leaf value alone part inside
    · -- A scope is inside the object, so its members were followed one level down.
      have innerDistinct := keysBelow _ _ among
      rcases List.mem_cons.mp inside with rfl | inside
      · change (scope.map (·.1)).Nodup
        rw [keys_of_ofMembers? innerRead]
        exact (Json.keysDistinct_object.mp innerDistinct).1
      · exact (ih _ _ among innerDistinct).2 inner rfl scope innerRead part inside
    · -- A document keeps the keys of the object, none of which names a wrapper.
      rcases List.mem_cons.mp inside with rfl | inside
      · refine ⟨keys_of_ofMembers? membersRead ▸ own, fun member among => ?_⟩
        obtain ⟨source, sourceAmong, _⟩ := exists_of_ofMembers? membersRead among
        exact plain _ sourceAmong
      · exact below document membersRead part inside

end DocSource.Bson
