import DocSource.Json.Reader
import DocSource.Proofs.Json.Parts

/-! Repeated members are settled once: values that are read have distinct keys, and keep them. -/

namespace DocSource

namespace Written

/-- Members whose keys differ are settled already. -/
theorem settle_of_nodup {α : Type} {members : List (String × α)}
    (distinct : (members.map (·.1)).Nodup) : settle members = members := by
  induction members with
  | nil => rfl
  | cons member rest ih =>
    obtain ⟨key, value⟩ := member
    simp only [List.map_cons, List.nodup_cons, List.mem_map, not_exists, not_and] at distinct
    -- The first key does not come again, so its value stays and nothing is dropped.
    have absent : rest.lookup key = none := by
      rw [List.lookup_eq_none_iff]
      intro other among
      simpa using Ne.symm (distinct.1 other among)
    have kept : rest.filter (·.1 != key) = rest := by
      rw [List.filter_eq_self]
      intro other among
      simpa using distinct.1 other among
    simp [settle, ih distinct.2, absent, kept]

/-- Settled members are among those that were written. -/
theorem mem_of_mem_settle {α : Type} {members : List (String × α)} {member : String × α}
    (among : member ∈ settle members) : member ∈ members := by
  -- The induction follows the settling, which moves values but makes none up.
  induction members generalizing member with
  | nil => exact among
  | cons first rest ih =>
    obtain ⟨key, value⟩ := first
    simp only [settle, List.mem_cons, List.mem_filter] at among
    rcases among with rfl | ⟨among, _⟩
    · -- The value under the first key is its own, or a later one that wins.
      cases found : (settle rest).lookup key with
      | none => simp
      | some later =>
        obtain ⟨before, after, shape, _⟩ := List.lookup_eq_some_iff.mp found
        exact List.mem_cons_of_mem _ (ih (by simp [shape]))
    · exact List.mem_cons_of_mem _ (ih among)

/-- The keys of settled members differ. -/
theorem nodup_settle {α : Type} (members : List (String × α)) :
    ((settle members).map (·.1)).Nodup := by
  induction members with
  | nil => simp [settle]
  | cons member rest ih =>
    obtain ⟨key, value⟩ := member
    -- Every later member with the first key is dropped.
    simp only [settle, List.map_cons, List.nodup_cons, List.mem_map, List.mem_filter, not_exists,
      not_and, bne_iff_ne]
    exact ⟨fun member kept => kept.2, ih.sublist (List.filter_sublist.map _)⟩

/-- The values of a list of items are those of its items, in order. -/
theorem values?_eq_some_iff {items : List Written} {values : List Json} :
    values? items = some values ↔
      List.Forall₂ (fun item value => item.value? = some value) items values :=
  -- The first item without a value is the end of it.
  Lists.eq_some_iff_of_cons values? rfl fun item rest results => by
    simp [values?, Option.bind_eq_some_iff]

/-- The values of a list of members are those of its keys and values, in order. -/
theorem members?_eq_some_iff {members : List (Option String × Written)}
    {values : List (String × Json)} :
    members? members = some values ↔
      List.Forall₂ (fun member value => member.1 = some value.1 ∧ member.2.value? = some value.2)
        members values :=
  -- A member without a key, or without a value, is the end of it.
  Lists.eq_some_iff_of_cons members? rfl fun (key, value) rest results => by
    simp [members?, Option.bind_eq_some_iff, and_assoc]

end Written

namespace Json

/-- The keys of each object inside a value differ from each other. -/
def KeysDistinct (json : Json) : Prop :=
  ∀ members, object members ∈ json.parts → (members.map (·.1)).Nodup

/-- Distinct keys are a matter of each item. -/
theorem keysDistinct_array {items : List Json} :
    (array items).KeysDistinct ↔ ∀ item ∈ items, item.KeysDistinct := by
  -- An array has no keys of its own.
  simp only [KeysDistinct, mem_parts_array, reduceCtorEq, false_or]
  exact ⟨fun distinct item among members inside => distinct members ⟨item, among, inside⟩,
    fun distinct members ⟨item, among, inside⟩ => distinct item among members inside⟩

/-- Distinct keys are a matter of an object's own keys and of each member's value. -/
theorem keysDistinct_object {members : List (String × Json)} :
    (object members).KeysDistinct ↔
      (members.map (·.1)).Nodup ∧ ∀ key value, (key, value) ∈ members → value.KeysDistinct := by
  -- The objects inside are the object itself and those inside its values.
  constructor
  · intro distinct
    exact ⟨distinct members (self_mem_parts _), fun key value among inner inside =>
      distinct inner (mem_parts_of_member among inside)⟩
  · rintro ⟨own, below⟩ inner inside
    rcases mem_parts_object.mp inside with same | ⟨key, value, among, inside⟩
    · cases same
      exact own
    · exact below key value among inner inside

/-- A value with distinct keys is the value of its own structure. -/
theorem value?_written {json : Json} (distinct : json.KeysDistinct) :
    json.written.value? = some json := by
  induction json with
  | null | bool | number | string => rfl
  | array items ih =>
    rw [keysDistinct_array] at distinct
    have all : Written.values? (items.map written) = some items := by
      rw [Written.values?_eq_some_iff, List.forall₂_map_left_iff, List.forall₂_same]
      exact fun item among => ih item among (distinct item among)
    simp [written, writtenItems_eq_map, Written.value?, all]
  | object members ih =>
    rw [keysDistinct_object] at distinct
    obtain ⟨own, below⟩ := distinct
    -- No key comes again, so settling drops no member.
    have all : Written.members? (members.map fun member => (some member.1, member.2.written)) =
        some members := by
      rw [Written.members?_eq_some_iff, List.forall₂_map_left_iff, List.forall₂_same]
      exact fun member among => ⟨rfl, ih member.1 member.2 among (below member.1 member.2 among)⟩
    simp [written, writtenMembers_eq_map, Written.value?, all, Written.settle_of_nodup own]

/-- A value that a text has is one with distinct keys. -/
theorem keysDistinct_of_value? {json : Json} {source : Written}
    (read : source.value? = some json) : json.KeysDistinct := by
  -- Every object that is read was settled, and settling leaves no key twice.
  induction json generalizing source with
  | null | bool | number | string => simp [KeysDistinct, parts]
  | array items ih =>
    cases source <;> simp [Written.value?] at read
    rw [keysDistinct_array]
    intro item among
    have related := Written.values?_eq_some_iff.mp read
    obtain ⟨inner, _, itemRead⟩ := Lists.exists_of_mem_results related among
    exact ih item among itemRead
  | object members ih =>
    cases source <;> simp [Written.value?] at read
    obtain ⟨written, membersRead, rfl⟩ := read
    rw [keysDistinct_object]
    refine ⟨Written.nodup_settle written, fun key value among => ?_⟩
    -- What is settled was read, from a member with a value of its own.
    have related := Written.members?_eq_some_iff.mp membersRead
    obtain ⟨member, _, _, valueRead⟩ :=
      Lists.exists_of_mem_results related (Written.mem_of_mem_settle among)
    exact ih key value among valueRead

/-- The reader gives values with distinct keys only. -/
theorem keysDistinct_of_read? {text : List Char} {json : Json} (found : read? text = some json) :
    json.KeysDistinct := by
  -- The reader only judges the depth of what it gives.
  simp only [read?, Option.bind_eq_bind, Option.bind_eq_some_iff] at found
  obtain ⟨source, _, judged⟩ := found
  split at judged
  · exact keysDistinct_of_value? judged
  · cases judged

end Json

end DocSource
