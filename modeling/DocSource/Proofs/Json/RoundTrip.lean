import DocSource.Proofs.Json.Composition
import DocSource.Proofs.Json.Settling

/-!
The compact text of a JSON value reads back as the value, also when some of its strings are
spelled as other values, and when the texts of its numbers read as other numbers.
-/

namespace DocSource.Json

mutual

/-- A value on one line, each of its strings spelled in a way of its own. -/
def compactWith (spell : String → List Char) : Json → List Char
  -- Keys are strings as well, but are always written between quotes.
  | string text => spell text
  | array items => '[' :: Text.joined [','] (compactItemsWith spell items) ++ [']']
  | object members => '\x7b' :: Text.joined [','] (compactMembersWith spell members) ++ ['\x7d']
  | json => json.compact

/-- Each item on one line, its strings spelled in ways of their own. -/
def compactItemsWith (spell : String → List Char) : List Json → List (List Char)
  | [] => []
  | item :: rest => item.compactWith spell :: compactItemsWith spell rest

/-- Each member on one line, the strings of its value spelled in ways of their own. -/
def compactMembersWith (spell : String → List Char) : List (String × Json) → List (List Char)
  -- The key is spelled as it always is, so only the value has strings to spell.
  | [] => []
  | (key, value) :: rest =>
    memberText key (value.compactWith spell) :: compactMembersWith spell rest

end

mutual

/-- A value with other values in the place of its strings; keys stay. -/
def mapStrings (f : String → Json) : Json → Json
  -- What takes the place of a string is not looked into again.
  | string text => f text
  | array items => array (mapStringsItems f items)
  | object members => object (mapStringsMembers f members)
  | json => json

/-- Items with other values in the place of their strings. -/
def mapStringsItems (f : String → Json) : List Json → List Json
  | [] => []
  | item :: rest => item.mapStrings f :: mapStringsItems f rest

/-- Members with other values in the place of their strings. -/
def mapStringsMembers (f : String → Json) : List (String × Json) → List (String × Json)
  | [] => []
  | (key, value) :: rest => (key, value.mapStrings f) :: mapStringsMembers f rest

end

mutual

/-- A value with other numbers in the place of its own. -/
def mapNumbers (g : Number → Number) : Json → Json
  -- Numbers are replaced at every depth, and all else stays.
  | number value => number (g value)
  | array items => array (mapNumbersItems g items)
  | object members => object (mapNumbersMembers g members)
  | json => json

/-- Items with other numbers in the place of their own. -/
def mapNumbersItems (g : Number → Number) : List Json → List Json
  | [] => []
  | item :: rest => item.mapNumbers g :: mapNumbersItems g rest

/-- Members with other numbers in the place of their own. -/
def mapNumbersMembers (g : Number → Number) : List (String × Json) → List (String × Json)
  | [] => []
  | (key, value) :: rest => (key, value.mapNumbers g) :: mapNumbersMembers g rest

end

/-- Items are spelled one by one. -/
theorem compactItemsWith_eq_map (spell : String → List Char) (items : List Json) :
    compactItemsWith spell items = items.map (compactWith spell) :=
  -- The printer goes from item to item.
  Lists.eq_map_of_cons rfl (fun _ _ => rfl) items

/-- Members are spelled one by one, each with its key in front. -/
theorem compactMembersWith_eq_map (spell : String → List Char) (members : List (String × Json)) :
    compactMembersWith spell members =
      members.map fun member => memberText member.1 (member.2.compactWith spell) :=
  -- The printer goes from member to member.
  Lists.eq_map_of_cons rfl (fun _ _ => rfl) members

/-- Strings are replaced item by item. -/
theorem mapStringsItems_eq_map (f : String → Json) (items : List Json) :
    mapStringsItems f items = items.map (mapStrings f) :=
  -- The first item is replaced, and then the others.
  Lists.eq_map_of_cons rfl (fun _ _ => rfl) items

/-- Strings are replaced member by member, under the same keys. -/
theorem mapStringsMembers_eq_map (f : String → Json) (members : List (String × Json)) :
    mapStringsMembers f members = members.map fun member => (member.1, member.2.mapStrings f) :=
  -- The first member is replaced, and then the others.
  Lists.eq_map_of_cons rfl (fun _ _ => rfl) members

/-- Numbers are replaced item by item. -/
theorem mapNumbersItems_eq_map (g : Number → Number) (items : List Json) :
    mapNumbersItems g items = items.map (mapNumbers g) :=
  -- The first item is replaced, and then the others.
  Lists.eq_map_of_cons rfl (fun _ _ => rfl) items

/-- Numbers are replaced member by member, under the same keys. -/
theorem mapNumbersMembers_eq_map (g : Number → Number) (members : List (String × Json)) :
    mapNumbersMembers g members = members.map fun member => (member.1, member.2.mapNumbers g) :=
  -- The first member is replaced, and then the others.
  Lists.eq_map_of_cons rfl (fun _ _ => rfl) members

/-- Strings that are spelled as strings leave the compact text. -/
theorem compactWith_quoted (json : Json) : json.compactWith quoted = json.compact := by
  -- Only strings are written another way, and these are written as they were.
  induction json with
  | null | bool | number | string => rfl
  | array items ih =>
    have same : items.map (compactWith quoted) = items.map compact := List.map_congr_left ih
    simp [compactWith, compact, compactItemsWith_eq_map, compactItems_eq_map, same]
  | object members ih =>
    have same : (members.map fun member => memberText member.1 (member.2.compactWith quoted)) =
        members.map fun member => quoted member.1 ++ ':' :: member.2.compact :=
      List.map_congr_left fun member among => by
        simp only [memberText, ih member.1 member.2 among]
    simp [compactWith, compact, compactMembersWith_eq_map, compactMembers_eq_map, same]

/-- Strings in the place of themselves change nothing. -/
theorem mapStrings_string (json : Json) : json.mapStrings .string = json := by
  -- Only strings are replaced, and each is replaced by itself.
  induction json with
  | null | bool | number | string => rfl
  | array items ih =>
    have same : items.map (mapStrings .string) = items.map id := List.map_congr_left ih
    simp [mapStrings, mapStringsItems_eq_map, same]
  | object members ih =>
    have same : (members.map fun member => (member.1, member.2.mapStrings .string)) =
        members.map id :=
      List.map_congr_left fun member among => by
        simp only [ih member.1 member.2 among, id]
    simp [mapStrings, mapStringsMembers_eq_map, same]

/-- Numbers in the place of themselves change nothing. -/
theorem mapNumbers_id (json : Json) : json.mapNumbers id = json := by
  -- Only numbers are replaced, and each is replaced by itself.
  induction json with
  | null | bool | number | string => rfl
  | array items ih =>
    have same : items.map (mapNumbers id) = items.map id := List.map_congr_left ih
    simp [mapNumbers, mapNumbersItems_eq_map, same]
  | object members ih =>
    have same : (members.map fun member => (member.1, member.2.mapNumbers id)) =
        members.map id :=
      List.map_congr_left fun member among => by
        simp only [ih member.1 member.2 among, id]
    simp [mapNumbers, mapNumbersMembers_eq_map, same]

/-- Values with distinct keys in the place of strings leave all keys distinct. -/
theorem KeysDistinct.mapStrings {f : String → Json} (each : ∀ text, (f text).KeysDistinct)
    {json : Json} (distinct : json.KeysDistinct) : (json.mapStrings f).KeysDistinct := by
  -- The objects that were there keep their keys, and those that come in bring good ones.
  induction json with
  | null | bool | number => exact distinct
  | string text => exact each text
  | array items ih =>
    rw [keysDistinct_array] at distinct
    rw [Json.mapStrings, keysDistinct_array, mapStringsItems_eq_map, List.forall_mem_map]
    exact fun item among => ih item among (distinct item among)
  | object members ih =>
    obtain ⟨own, below⟩ := keysDistinct_object.mp distinct
    rw [Json.mapStrings, keysDistinct_object, mapStringsMembers_eq_map]
    refine ⟨by simpa [Function.comp_def] using own, fun key value among => ?_⟩
    obtain ⟨⟨name, inner⟩, inside, same⟩ := List.mem_map.mp among
    cases same
    exact ih name inner inside (below name inner inside)

/-- The text of each number of a value spells the number that is to stand in its place. -/
def NumbersSpelled (g : Number → Number) (json : Json) : Prop :=
  ∀ value, number value ∈ json.parts → Spells value.text (.number (some (g value)))

/-- Whole numbers of sixty-four bits are spelled by their texts. -/
theorem NumbersWhole.spelled {json : Json} (whole : json.NumbersWhole) :
    json.NumbersSpelled id := by
  -- The text of a whole number is its digits behind a sign.
  intro value inside
  obtain ⟨n, rfl, fits⟩ := whole value inside
  exact spells_int fits

/-- When each number and each string is spelled, so is the value of it all. -/
theorem spells_compactWith (spell : String → List Char) (f : String → Json)
    (g : Number → Number) (json : Json) (numbers : json.NumbersSpelled g)
    (strings : ∀ text, string text ∈ json.parts → Spells (spell text) (f text).written) :
    Spells (json.compactWith spell) ((json.mapNumbers g).mapStrings f).written := by
  -- The induction puts the spellings of the parts together, between brackets and commas.
  induction json with
  | null => exact spells_null
  | bool value => exact spells_bool value
  | number value => exact numbers value (self_mem_parts _)
  | string text => exact strings text (self_mem_parts _)
  | array items ih =>
    have spelled := spells_array (compactWith spell)
      (fun item => ((item.mapNumbers g).mapStrings f).written) items fun item among =>
        ih item among (fun value inside => numbers value (mem_parts_of_item among inside))
          (fun text inside => strings text (mem_parts_of_item among inside))
    simpa [compactWith, mapNumbers, mapStrings, written, compactItemsWith_eq_map,
      mapNumbersItems_eq_map, mapStringsItems_eq_map, writtenItems_eq_map,
      Function.comp_def] using spelled
  | object members ih =>
    have spelled := spells_object Prod.fst (fun member => member.2.compactWith spell)
      (fun member => ((member.2.mapNumbers g).mapStrings f).written) members
      fun member among =>
        ih member.1 member.2 among
          (fun value inside => numbers value (mem_parts_of_member among inside))
          (fun text inside => strings text (mem_parts_of_member among inside))
    simpa [compactWith, mapNumbers, mapStrings, written, compactMembersWith_eq_map,
      mapNumbersMembers_eq_map, mapStringsMembers_eq_map, writtenMembers_eq_map,
      Function.comp_def] using spelled

/-- The compact text of a value spells it with the numbers that the texts of its own spell. -/
theorem spells_compact_mapNumbers {g : Number → Number} {json : Json}
    (numbers : json.NumbersSpelled g) : Spells json.compact (json.mapNumbers g).written := by
  -- Every string stands for itself.
  have spelled := spells_compactWith quoted .string g json numbers
    fun text _ => spells_quoted text
  rwa [compactWith_quoted, mapStrings_string] at spelled

/-- The compact text of a value spells it, as long as the texts of its numbers spell them. -/
theorem spells_compact {json : Json} (numbers : json.NumbersSpelled id) :
    Spells json.compact json.written := by
  -- Numbers that stand for themselves leave the structure as it is.
  have spelled := spells_compact_mapNumbers numbers
  rwa [mapNumbers_id] at spelled

/-- A text that spells a value within the limits reads as the value. -/
theorem read?_of_spells {text : List Char} {json : Json} (spelled : Spells text json.written)
    (distinct : json.KeysDistinct) (shallow : json.depth ≤ depthLimit) :
    read? text = some json := by
  -- What the reader takes is shallow enough, and has no keys to settle.
  have within : json.written.depth ≤ depthLimit := shallow
  simp [read?, spelled.written?_eq, within, value?_written distinct]

/-- The compact text of a value within the limits reads back as the value. -/
theorem read?_compact {json : Json} (numbers : json.NumbersSpelled id)
    (distinct : json.KeysDistinct) (shallow : json.depth ≤ depthLimit) :
    read? json.compact = some json :=
  -- The text spells the value, and a spelling of a value within the limits reads as it.
  read?_of_spells (spells_compact numbers) distinct shallow

end DocSource.Json
