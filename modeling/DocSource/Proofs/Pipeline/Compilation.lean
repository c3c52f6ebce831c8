import DocSource.Pipeline.Compile
import DocSource.Proofs.Bson.Paths
import DocSource.Proofs.Bson.Soundness
import DocSource.Proofs.Pipeline.Expansion
import DocSource.Proofs.Pipeline.Filling
import DocSource.Proofs.Pipeline.Target

/-! Compiling the text of JSON stages: what they are read as, and the query that comes of them. -/

namespace DocSource

namespace Bson

/-- The documents of a list of values, when all of them are documents. -/
def documents? : List Bson → Option (List Document)
  | [] => some []
  | .document members :: rest => (documents? rest).map (members :: ·)
  | _ :: _ => none

/-- The stages that an array is read as, when each of them is a document. -/
def pipeline? : Json → Option (List Document)
  | .array stages => (ofItems? stages).bind documents?
  | _ => none

/-- Values are documents exactly when they are those documents. -/
theorem documents?_eq_some_iff {values : List Bson} {documents : List Document} :
    documents? values = some documents ↔ values = documents.map .document := by
  -- The first value that is no document ends the taking.
  induction values generalizing documents with
  | nil => cases documents <;> simp [documents?]
  | cons value rest ih =>
    cases value
    case document members => cases documents <;> simp [documents?, ih, and_comm]
    all_goals cases documents <;> simp [documents?]

/-- A pipeline is what the array of its stages is read as. -/
theorem ofJson?_of_pipeline? {json : Json} {pipeline : List Document}
    (read : pipeline? json = some pipeline) :
    ofJson? json = some (.array (pipeline.map .document)) := by
  -- Only an array has stages, and all of its items are documents.
  cases json with
  | array stages =>
    obtain ⟨values, itemsRead, all⟩ := Option.bind_eq_some_iff.mp read
    rw [documents?_eq_some_iff] at all
    rw [ofJson?, itemsRead, all]
    rfl
  | _ => cases read

/-- Every stage of a pipeline is read from an object, and has its keys in order. -/
theorem exists_of_pipeline? {stages : List Json} {pipeline : List Document}
    (read : pipeline? (.array stages) = some pipeline) {stage : Document}
    (among : stage ∈ pipeline) :
    ∃ members, .object members ∈ stages ∧ stage.map (·.1) = members.map (·.1) := by
  -- The stage was read from an item, and only objects are read as documents.
  obtain ⟨values, itemsRead, all⟩ := Option.bind_eq_some_iff.mp read
  rw [documents?_eq_some_iff] at all
  subst all
  obtain ⟨json, inside, own⟩ := exists_of_ofItems? itemsRead (List.mem_map_of_mem among)
  obtain ⟨members, rfl, keys⟩ := keys_of_ofJson? own
  exact ⟨members, inside, keys⟩

end Bson

/-- Stages are taken from values when all of them are documents, and else the query is at fault. -/
theorem stagesOf_eq (index : Nat) (values : List Bson) :
    (∀ documents, Bson.documents? values = some documents → stagesOf index values = .ok documents) ∧
    (Bson.documents? values = none →
      ∃ reason, stagesOf index values = .error (.malformedQuery reason)) := by
  -- The induction follows the taking, which counts the stages for its message.
  induction values generalizing index with
  | nil => simp [Bson.documents?, stagesOf]
  | cons value rest ih =>
    cases value
    case document members =>
      obtain ⟨taken, refused⟩ := ih (index + 1)
      cases others : Bson.documents? rest with
      | none =>
        obtain ⟨reason, fault⟩ := refused others
        simp [Bson.documents?, others, stagesOf, fault, bind, Except.bind]
      | some documents =>
        simp [Bson.documents?, others, stagesOf, taken documents others, bind, Except.bind]
    all_goals simp [Bson.documents?, stagesOf]

/-- The stages of a text are those of the array that it reads as, and else the query is at fault. -/
theorem readStages_eq {text : List Char} {stages : List Json}
    (found : Json.read? text = some (.array stages)) :
    (∀ pipeline, Bson.pipeline? (.array stages) = some pipeline →
      readStages text = .ok pipeline) ∧
    (Bson.pipeline? (.array stages) = none →
      ∃ reason, readStages text = .error (.malformedQuery reason)) := by
  -- A wrapper that is no value is a fault of the query, like a stage that is no document.
  simp only [readStages, readValues, found, Bson.pipeline?]
  cases Bson.ofItems? stages with
  | none => simp
  | some values => simpa using stagesOf_eq 0 values

/-- What a query fills in: the ends of its range, and a number of samples that is at least one. -/
def Placeholders.ofRange (range : TimeRange) (samples : Int64) : Placeholders :=
  ⟨range.start, range.stop, max samples 1⟩

/-- A compilation fills in the ends of the range, and raises the samples to one. -/
theorem Placeholders.ofRange_eq (range : TimeRange) (samples : Int64) :
    (⟨range.start, range.stop, if samples < 1 then 1 else samples⟩ : Placeholders) =
      ofRange range samples := by
  -- Samples below one are raised to one, and one is the least there is.
  have least : (if samples < 1 then 1 else samples) = max samples 1 := by
    show _ = if samples ≤ 1 then 1 else samples
    by_cases below : samples < 1
    · rw [if_pos below, if_pos (Int64.le_of_lt below)]
    · rw [if_neg below]
      split
      · next within => exact Int64.le_antisymm within (Int64.not_lt.mp below)
      · rfl
  rw [least, ofRange]

/-- The text of an array of JSON compiles to what its filled text lists, with templates expanded. -/
theorem compileText_array {items : List Json} (fillable : Placeholders.Fillable (.array items))
    (whole : (Json.array items).NumbersWhole) {collection : String}
    (named : Text.blank collection = false) (shape : Shape) (range : TimeRange)
    (samples : Int64) (templates : List StageTemplate) :
    compileText (Json.array items).compactText (some collection) shape range samples templates =
      (readStages ((Placeholders.ofRange range samples).fill (Json.array items).compact)).bind
        fun stages => (StageTemplate.expand templates (.ofRange range samples) stages).map
          fun pipeline => ⟨Text.trimmed collection, pipeline, shape⟩ := by
  -- A bracket in front is no call, so the text is the list of stages.
  have enclosed := (Placeholders.ofRange range samples).fill_compact fillable whole
  rw [Json.compactWith] at enclosed
  simp only [compileText, Placeholders.ofRange_eq, Json.compactText, String.toList_ofList, enclosed,
    Target.ofText_list _ named]
  rfl

/-- Stages with filled placeholders keep their keys, so they call for the same templates. -/
theorem called?_of_filled (values : Placeholders) {templates : List StageTemplate}
    {stages : List (List (String × Json))}
    (free : ∀ key value, [(key, value)] ∈ stages → ∀ template ∈ templates, template.operator ≠ key)
    {pipeline : List Document}
    (read : Bson.pipeline? (values.filled (.array (stages.map .object))) = some pipeline) :
    ∀ stage ∈ pipeline, StageTemplate.called? templates stage = none := by
  intro stage among
  refine StageTemplate.called?_eq_none fun key argument single template listed => ?_
  rw [Placeholders.filled, Json.mapStrings, Json.mapStringsItems_eq_map, List.map_map] at read
  obtain ⟨members, inside, keys⟩ := Bson.exists_of_pipeline? read among
  obtain ⟨source, own, same⟩ := List.mem_map.mp inside
  simp only [Function.comp_apply, Json.mapStrings, Json.mapStringsMembers_eq_map,
    Json.object.injEq] at same
  -- The stage and the object it came from both have this one key.
  rw [single, ← same] at keys
  cases source with
  | nil => simp at keys
  | cons member rest =>
    cases rest with
    | cons _ _ => simp at keys
    | nil =>
      obtain ⟨name, value⟩ := member
      simp only [List.map_cons, List.map_nil, List.cons.injEq, and_true] at keys
      exact keys ▸ free name value own template listed

/-- What a path leads to in a value is filled and read at the end of the path in its pipeline. -/
theorem reach_pipeline {values : Placeholders} {json part : Json} {pipeline : List Document}
    (read : Bson.pipeline? (values.filled json) = some pipeline) {path : List Step}
    (led : json.reach path = some part) :
    ∃ inner, Bson.ofJson? (values.filled part) = some inner ∧
      (Bson.array (pipeline.map .document)).reach path = some inner :=
  -- Filling keeps the path, and reading follows it.
  Bson.reach_ofJson? (Bson.ofJson?_of_pipeline? read) (Json.reach_mapStrings values.filling led)

/-- A plain object is filled and read as a document with its keys. -/
theorem keys_of_filled {values : Placeholders} {members : List (String × Json)} {inner : Bson}
    (plain : ∀ member ∈ members, Bson.isWrapperKey member.1 = false)
    (read : Bson.ofJson? (values.filled (.object members)) = some inner) :
    ∃ fields, inner = .document fields ∧ fields.map (·.1) = members.map (·.1) := by
  -- Filling keeps the keys, so the object stays plain.
  have kept : ∀ member ∈ Json.mapStringsMembers values.filling members,
      Bson.isWrapperKey member.1 = false := by
    rw [Json.mapStringsMembers_eq_map, List.forall_mem_map]
    exact plain
  rw [Placeholders.filled, Json.mapStrings, Bson.ofJson?_object kept] at read
  obtain ⟨fields, membersRead, rfl⟩ := Option.map_eq_some_iff.mp read
  refine ⟨fields, rfl, ?_⟩
  rw [Bson.keys_of_ofMembers? membersRead, Json.mapStringsMembers_eq_map, List.map_map]
  rfl

/--
A query that calls for no templates compiles to its own stages with the placeholders filled: string
by string, at the same places and under the same keys, and it is at fault when these are no stages.
-/
theorem compileText_compact {json : Json} (stages : List (List (String × Json)))
    (listed : json = .array (stages.map .object)) {collection : String}
    (shape : Shape) (range : TimeRange) (samples : Int64) (templates : List StageTemplate)
    (distinct : json.KeysDistinct) (whole : json.NumbersWhole)
    (fillable : Placeholders.Fillable json)
    (shallow : ((Placeholders.ofRange range samples).filled json).depth ≤ 127)
    (free : ∀ key value, [(key, value)] ∈ stages → ∀ template ∈ templates, template.operator ≠ key)
    (named : Text.blank collection = false) :
    (∀ pipeline,
      Bson.pipeline? ((Placeholders.ofRange range samples).filled json) = some pipeline →
      compileText json.compactText (some collection) shape range samples templates =
          .ok ⟨Text.trimmed collection, pipeline, shape⟩ ∧
        (∀ path, json.reach path = some (.string "$from") →
          (Bson.array (pipeline.map .document)).reach path = some (.dateTime range.start)) ∧
        (∀ path, json.reach path = some (.string "$to") →
          (Bson.array (pipeline.map .document)).reach path = some (.dateTime range.stop)) ∧
        ∀ path members, json.reach path = some (.object members) →
          (∀ member ∈ members, Bson.isWrapperKey member.1 = false) →
          ∃ fields, (Bson.array (pipeline.map .document)).reach path = some (.document fields) ∧
            fields.map (·.1) = members.map (·.1)) ∧
    ((∃ reason, compileText json.compactText (some collection) shape range samples templates =
        .error (.malformedQuery reason)) ↔
      Bson.pipeline? ((Placeholders.ofRange range samples).filled json) = none) := by
  -- The filled text reads as the filled value, whose stages call for no template.
  subst listed
  have found := Placeholders.read?_fill_compact (.ofRange range samples) fillable whole distinct
    shallow
  have outcome := compileText_array fillable whole named shape range samples templates
  obtain ⟨taken, refused⟩ := readStages_eq found
  have compiled : ∀ pipeline, Bson.pipeline? ((Placeholders.ofRange range samples).filled
      (.array (stages.map .object))) = some pipeline →
      compileText (Json.array (stages.map .object)).compactText (some collection) shape range
        samples templates = .ok ⟨Text.trimmed collection, pipeline, shape⟩ := by
    intro pipeline read
    have same := StageTemplate.expand_eq_self templates (.ofRange range samples)
      (called?_of_filled _ free read)
    rw [outcome, taken pipeline read]
    simp [Except.bind, same, Except.map]
  refine ⟨fun pipeline read => ⟨compiled pipeline read, ?_, ?_, ?_⟩, ?_⟩
  -- A placeholder is filled with the JSON of a date, which is read as that date.
  · intro path led
    obtain ⟨inner, own, reached⟩ := reach_pipeline read led
    rw [reached, ← own]
    exact Bson.ofJson?_dateJson range.start
  · intro path led
    obtain ⟨inner, own, reached⟩ := reach_pipeline read led
    rw [reached, ← own]
    exact Bson.ofJson?_dateJson range.stop
  · intro path members led plain
    obtain ⟨inner, own, reached⟩ := reach_pipeline read led
    obtain ⟨fields, rfl, keys⟩ := keys_of_filled plain own
    exact ⟨fields, reached, keys⟩
  · -- A malformed query and a compiled one exclude each other.
    constructor
    · rintro ⟨reason, fault⟩
      cases read : Bson.pipeline? ((Placeholders.ofRange range samples).filled
        (.array (stages.map .object))) with
      | none => rfl
      | some pipeline =>
        rw [compiled pipeline read] at fault
        cases fault
    · intro unread
      obtain ⟨reason, fault⟩ := refused unread
      rw [outcome, fault]
      exact ⟨reason, rfl⟩

/-- The start of a range inside a match, and the samples, which are none, as a limit. -/
theorem compileText_compact_match :
    compileText (Json.array [.object [("$match", .object [("ts", .string "$from")])],
        .object [("$limit", .string "$maxDataPoints")]]).compactText (some " c ") .table ⟨5, 9⟩ 0
        [⟨"m", ""⟩] =
      .ok ⟨"c", [[("$match", .document [("ts", .dateTime 5)])], [("$limit", .int32 1)]],
        .table⟩ := by
  -- Every string of the stages is either one whole placeholder or holds none.
  let stages : List (List (String × Json)) :=
    [[("$match", .object [("ts", .string "$from")])], [("$limit", .string "$maxDataPoints")]]
  have distinct : (Json.array (stages.map .object)).KeysDistinct := by
    simp [stages, Json.KeysDistinct, Json.parts, Json.partsOfItems, Json.partsOfMembers]
  have whole : (Json.array (stages.map .object)).NumbersWhole := by
    simp [stages, Json.NumbersWhole, Json.parts, Json.partsOfItems, Json.partsOfMembers]
  have fillable : Placeholders.Fillable (.array (stages.map .object)) := by
    constructor
    · intro members inside
      simp [stages, Json.parts, Json.partsOfItems, Json.partsOfMembers] at inside
      rcases inside with rfl | rfl | rfl <;> decide
    · intro text inside
      simp [stages, Json.parts, Json.partsOfItems, Json.partsOfMembers] at inside
      rcases inside with rfl | rfl <;> decide
  -- The one template is called by neither of the two keys.
  have free : ∀ key value, [(key, value)] ∈ stages →
      ∀ template ∈ [(⟨"m", ""⟩ : StageTemplate)], template.operator ≠ key := by
    intro key value inside
    simp [stages] at inside
    rcases inside with ⟨rfl, _⟩ | ⟨rfl, _⟩ <;> decide
  exact ((compileText_compact stages rfl .table ⟨5, 9⟩ 0 [⟨"m", ""⟩] distinct whole fillable
    (by decide) free (by decide)).1 _ rfl).1

end DocSource
