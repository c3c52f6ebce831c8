import DocSource.Proofs.Bson.RoundTrip
import DocSource.Proofs.Json.RoundTrip

/-! Paths into values: reading extended JSON and replacing its strings keep each part in place. -/

namespace DocSource

/-- A step into a value: to an item by its position, or to a member by its key. -/
inductive Step
  | item (index : Nat)
  | member (key : String)

/-- The part of a JSON value at the end of a path; no path leads through a wrapper. -/
def Json.reach : List Step → Json → Option Json
  -- A wrapper is one value, and what stands inside it has no place in that value.
  | [], json => some json
  | .item index :: path, .array items => items[index]?.bind (reach path)
  | .member key :: path, .object members =>
    if members.any (Bson.isWrapperKey ·.1) then none
    else (members.lookup key).bind (reach path)
  | _, _ => none

/-- The part of a document value at the end of a path. -/
def Bson.reach : List Step → Bson → Option Bson
  -- A scope is not led into, as no path of the JSON leads there.
  | [], value => some value
  | .item index :: path, .array items => items[index]?.bind (reach path)
  | .member key :: path, .document members => (members.lookup key).bind (reach path)
  | _, _ => none

namespace Json

/-- The value under a key stays under it when all values are turned into others. -/
theorem lookup_mapStrings (f : String → Json) (key : String) (members : List (String × Json)) :
    (mapStringsMembers f members).lookup key = (members.lookup key).map (mapStrings f) := by
  -- The keys stay, so the same member is found first.
  induction members with
  | nil => rfl
  | cons member rest ih =>
    obtain ⟨name, value⟩ := member
    by_cases same : key == name <;> simp [mapStringsMembers, List.lookup_cons, same, ih]

/-- Replacing strings keeps keys, and so the wrappers. -/
theorem any_key_mapStrings (f : String → Json) (test : String → Bool)
    (members : List (String × Json)) :
    (mapStringsMembers f members).any (test ·.1) = members.any (test ·.1) := by
  -- Each member is asked for its key alone.
  rw [mapStringsMembers_eq_map, List.any_map]
  rfl

/-- Replacing strings keeps the parts that paths lead to. -/
theorem reach_mapStrings (f : String → Json) {path : List Step} {json part : Json}
    (led : json.reach path = some part) :
    (json.mapStrings f).reach path = some (part.mapStrings f) := by
  -- The path passes arrays and objects, which stay arrays and objects.
  induction path generalizing json with
  | nil =>
    cases led
    rfl
  | cons step path ih =>
    cases step with
    | item index =>
      cases json <;> simp only [reach, reduceCtorEq] at led
      case array items =>
        obtain ⟨item, found, led⟩ := Option.bind_eq_some_iff.mp led
        simp [mapStrings, reach, mapStringsItems_eq_map, found, ih led]
    | member key =>
      cases json <;> simp only [reach, reduceCtorEq] at led
      case object members =>
        split at led
        · cases led
        · next plain =>
          obtain ⟨value, found, led⟩ := Option.bind_eq_some_iff.mp led
          rw [← any_key_mapStrings f] at plain
          simp [mapStrings, reach, plain, lookup_mapStrings, found, ih led]

end Json

namespace Bson

/-- The member under a key is read as the field under that key. -/
theorem ofMembers?_lookup {members : List (String × Json)} {document : Document} {key : String}
    {json : Json} (read : ofMembers? members = some document)
    (found : members.lookup key = some json) :
    ∃ value, ofJson? json = some value ∧ document.lookup key = some value := by
  -- The members are read in order, so the first one under the key stays the first.
  rw [ofMembers?_eq_some_iff] at read
  induction read with
  | nil => simp at found
  | @cons member field _ _ own _ ih =>
    obtain ⟨sameName, valueRead⟩ := own
    rw [List.lookup_cons] at found ⊢
    rw [← sameName]
    cases same : key == member.1 with
    | true =>
      simp only [same, Option.some.injEq] at found ⊢
      exact ⟨field.2, found ▸ valueRead, rfl⟩
    | false =>
      simp only [same] at found ⊢
      exact ih found

/-- The part that a path leads to is read as what the path leads to in the value read. -/
theorem reach_ofJson? {path : List Step} {json part : Json} {value : Bson}
    (read : ofJson? json = some value) (led : json.reach path = some part) :
    ∃ inner, ofJson? part = some inner ∧ value.reach path = some inner := by
  -- The induction takes one step of the path on both sides.
  induction path generalizing json value with
  | nil =>
    cases led
    exact ⟨value, read, rfl⟩
  | cons step path ih =>
    cases step with
    | item index =>
      cases json <;> simp only [Json.reach, reduceCtorEq] at led
      case array items =>
        obtain ⟨item, found, led⟩ := Option.bind_eq_some_iff.mp led
        rw [ofJson?] at read
        obtain ⟨values, itemsRead, rfl⟩ := Option.map_eq_some_iff.mp read
        have related := ofItems?_eq_some_iff.mp itemsRead
        obtain ⟨own, ownRead, ownFound⟩ := Lists.exists_of_getElem? related found
        obtain ⟨inner, innerRead, innerLed⟩ := ih ownRead led
        exact ⟨inner, innerRead, by simp [reach, ownFound, innerLed]⟩
    | member key =>
      cases json <;> simp only [Json.reach, reduceCtorEq] at led
      case object members =>
        split at led
        · cases led
        · next plain =>
          obtain ⟨json, found, led⟩ := Option.bind_eq_some_iff.mp led
          rw [ofJson?_object (by simpa using plain)] at read
          obtain ⟨document, membersRead, rfl⟩ := Option.map_eq_some_iff.mp read
          obtain ⟨own, ownRead, ownFound⟩ := ofMembers?_lookup membersRead found
          obtain ⟨inner, innerRead, innerLed⟩ := ih ownRead led
          exact ⟨inner, innerRead, by simp [reach, ownFound, innerLed]⟩

end Bson

end DocSource
