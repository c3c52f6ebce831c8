import DocSource.Host.Request
import DocSource.Proofs.Json.Record

/-!
Requests on the wire: each of their records may be written as an object, with its members in any
order, others among them and defaults left out, or as an array. Main statement: `ofText_texts`,
which reads a request back from its own text and from every other text that writes it.
-/

namespace DocSource

open Json (Field Texts)

/-- The texts of a range. -/
def TimeRange.texts (range : TimeRange) : Texts :=
  .record [.required "fromEpochMs" (.exact (.int range.start.toInt)),
    .required "toEpochMs" (.exact (.int range.stop.toInt))]

/-- The texts of a data source, whose fields all have a default. -/
def SourceInfo.texts (source : SourceInfo) : Texts :=
  .record [.optional "id" (.exact (.int source.id.toInt)) 0 source.id,
    .optional "name" (.exact (.string source.name)) "" source.name,
    .optional "jsonData" (.exact (.string source.settings)) "" source.settings]

/-- The texts of a query, of whose fields the reference alone has no default. -/
def QueryModel.texts (query : QueryModel) : Texts :=
  .record [.required "refId" (.exact (.string query.refId)),
    .optional "maxDataPoints" (.exact (.int query.samples.toInt)) 0 query.samples,
    .optional "intervalMs" (.exact (.int query.interval.toInt)) 0 query.interval,
    .optional "modelJson" (.exact (.string query.model)) "" query.model]

/-- The texts of a request, of whose fields the data source alone has a default. -/
def Request.texts (request : Request) : Texts :=
  .record [.required "timeRange" request.range.texts,
    .optional "datasource" request.source.texts .unnamed request.source,
    .required "queries" (.list (request.queries.map QueryModel.texts))]

/-- What is found for a field with a default is read as its value. -/
theorem fieldOr_of_found {α : Type} {key : String} {texts : Texts} {read : Written → Option α}
    {default value : α} (reads : texts.ReadAs read value) {found : Option Written}
    (here : (Field.optional key texts default value).Found found) :
    fieldOr default read found = some value := by
  -- A field that is left out had its default, and one that is there is read.
  cases found with
  | none =>
    have same : value = default := here
    rw [fieldOr, same]
  | some written => exact reads here

/-- Every text of a range is read as it. -/
theorem TimeRange.readAs_texts (range : TimeRange) : range.texts.ReadAs ofWritten? range := by
  -- Both fields are required, and each is read by its own texts.
  intro written given
  obtain ⟨values, looked, found⟩ := Json.fields?_of_record (by simp [Field.required]) given
  simp only [List.forall₂_cons_left_iff, List.forall₂_nil_left_iff] at found
  obtain ⟨_, _, start, ⟨_, _, stop, rfl, rfl⟩, rfl⟩ := found
  obtain ⟨_, rfl, began⟩ := Field.read_of_found (Texts.readAs_int64 range.start) start
  obtain ⟨_, rfl, ended⟩ := Field.read_of_found (Texts.readAs_int64 range.stop) stop
  simp only [List.map_cons, List.map_nil, Field.required] at looked
  simp [ofWritten?, looked, began, ended]

/-- Every text of a data source is read as it. -/
theorem SourceInfo.readAs_texts (source : SourceInfo) :
    source.texts.ReadAs ofWritten? source := by
  -- Each of the three fields is read, or left out with its default.
  intro written given
  obtain ⟨values, looked, found⟩ := Json.fields?_of_record (by simp [Field.optional]) given
  simp only [List.forall₂_cons_left_iff, List.forall₂_nil_left_iff] at found
  obtain ⟨_, _, id, ⟨_, _, name, ⟨_, _, settings, rfl, rfl⟩, rfl⟩, rfl⟩ := found
  simp only [List.map_cons, List.map_nil, Field.optional] at looked
  simp [ofWritten?, looked, fieldOr_of_found (Texts.readAs_int64 source.id) id,
    fieldOr_of_found (Texts.readAs_string source.name) name,
    fieldOr_of_found (Texts.readAs_string source.settings) settings]

/-- Every text of a query is read as it. -/
theorem QueryModel.readAs_texts (query : QueryModel) : query.texts.ReadAs ofWritten? query := by
  -- The reference is read, and each of the others is read or left out with its default.
  intro written given
  obtain ⟨values, looked, found⟩ :=
    Json.fields?_of_record (by simp [Field.required, Field.optional]) given
  simp only [List.forall₂_cons_left_iff, List.forall₂_nil_left_iff] at found
  obtain ⟨_, _, refId, ⟨_, _, samples, ⟨_, _, interval, ⟨_, _, model, rfl, rfl⟩, rfl⟩, rfl⟩, rfl⟩ :=
    found
  obtain ⟨_, rfl, named⟩ := Field.read_of_found (Texts.readAs_string query.refId) refId
  simp only [List.map_cons, List.map_nil, Field.required, Field.optional] at looked
  simp [ofWritten?, looked, named, fieldOr_of_found (Texts.readAs_int64 query.samples) samples,
    fieldOr_of_found (Texts.readAs_int64 query.interval) interval,
    fieldOr_of_found (Texts.readAs_string query.model) model]

/-- Every text of a request is read as it. -/
theorem Request.readAs_texts (request : Request) : request.texts.ReadAs ofWritten? request := by
  intro written given
  obtain ⟨values, looked, found⟩ :=
    Json.fields?_of_record (by simp [Field.required, Field.optional]) given
  simp only [List.forall₂_cons_left_iff, List.forall₂_nil_left_iff] at found
  obtain ⟨_, _, range, ⟨_, _, source, ⟨_, _, queries, rfl, rfl⟩, rfl⟩, rfl⟩ := found
  obtain ⟨_, rfl, bounded⟩ := Field.read_of_found request.range.readAs_texts range
  -- Each query is read as itself, whichever way it was written.
  have each : (Texts.list (request.queries.map QueryModel.texts)).ReadAs
      (Written.items? QueryModel.ofWritten?) request.queries :=
    Texts.readAs_list fun query _ => query.readAs_texts
  obtain ⟨_, rfl, listed⟩ := Field.read_of_found each queries
  simp only [List.map_cons, List.map_nil, Field.required, Field.optional] at looked
  simp [ofWritten?, looked, bounded, listed,
    fieldOr_of_found request.source.readAs_texts source]

/-- The compact text of a range is one of its texts. -/
theorem TimeRange.has_compact (range : TimeRange) : range.texts.Has range.toJson.compact := by
  -- The object of the range has its fields in the order of the record.
  apply Json.has_record
  simp [Field.required, Texts.has_int64]

/-- The compact text of a data source is one of its texts. -/
theorem SourceInfo.has_compact (source : SourceInfo) :
    source.texts.Has source.toJson.compact := by
  -- The object of the data source has its fields in the order of the record.
  apply Json.has_record
  simp [Field.optional, Texts.has_int64, Texts.has_string]

/-- The compact text of a query is one of its texts. -/
theorem QueryModel.has_compact (query : QueryModel) : query.texts.Has query.toJson.compact := by
  -- The object of the query has its fields in the order of the record.
  apply Json.has_record
  simp [Field.required, Field.optional, Texts.has_int64, Texts.has_string]

/-- The compact text of a request is one of its texts. -/
theorem Request.has_compact (request : Request) : request.texts.Has request.toJson.compact := by
  -- The array of the queries has the compact text of each.
  have queries : (Texts.list (request.queries.map QueryModel.texts)).Has
      (Json.array (request.queries.map QueryModel.toJson)).compact := by
    rw [Json.compact, Json.compactItems_eq_map, List.map_map]
    exact Texts.has_list fun query _ => query.has_compact
  apply Json.has_record
  simp [Field.required, Field.optional, request.range.has_compact, request.source.has_compact,
    queries]

/-- A text is read as the request that it writes. -/
theorem Request.ofText_eq {request : Request} {text : String}
    (has : request.texts.Has text.toList) : ofText text = .ok request := by
  -- The text can be read, and what it writes reads as the request.
  obtain ⟨written, found⟩ := request.texts.readable has
  have read : ofWritten? written = some request := request.readAs_texts ⟨_, has, found⟩
  simp [ofText, found, read]

/-- A request is read back from its own text. -/
theorem Request.ofText_text (request : Request) : ofText request.text = .ok request := by
  -- The request writes itself compactly, which is one way to write it.
  apply ofText_eq
  rw [text, Json.compactText, String.toList_ofList]
  exact request.has_compact

/--
A request is read back from its own text, and from every other text that writes it.

Its own text is one of those, so each of them may be made from it.
-/
theorem ofText_texts (request : Request) :
    Request.ofText request.text = .ok request ∧ request.texts.Has request.text.toList ∧
      ∀ text : String, request.texts.Has text.toList → Request.ofText text = .ok request := by
  -- Its own text is compact, and every text of it is read alike.
  have own : request.texts.Has request.text.toList := by
    rw [Request.text, Json.compactText, String.toList_ofList]
    exact request.has_compact
  exact ⟨Request.ofText_eq own, own, fun text has => Request.ofText_eq has⟩

/--
An array of a range with its members swapped around an unknown one, of a data source that leaves
out its defaults, and of two queries: an object without its numbers, and an array that ends early.
-/
theorem ofText_texts_mixed :
    let request : Request := ⟨⟨-5, 7⟩, .unnamed, [⟨"A", 0, 0, "\x7b\x7d"⟩, ⟨"B", 3, 0, ""⟩]⟩
    let text := "[\x7b\"toEpochMs\":7,\"zone\":\"\\ud800\",\"fromEpochMs\":-5\x7d,\x7b\x7d," ++
      "[\x7b\"modelJson\":\"\x7b\x7d\",\"refId\":\"A\"\x7d,[\"B\",3]]]"
    request.texts.Has text.toList ∧ Request.ofText text = .ok request := by
  intro request text
  let start := Json.Member.quoted "fromEpochMs" (Json.int (-5)).compact
  let zone := Json.Member.quoted "zone" "\"\\ud800\"".toList
  let stop := Json.Member.quoted "toEpochMs" (Json.int 7).compact
  let range := Json.objectText [stop, zone, start]
  have ranged : request.range.texts.Has range := by
    refine Json.Record.object (.permute (List.reverse_perm [stop, zone, start]) ?_)
      (by simp [stop, zone, start])
    -- The unknown string names no value, as its only unit is half of a pair.
    have read : Json.written? zone.valueText = some (.string none) := rfl
    exact .write rfl (Texts.has_int64 (-5))
      (.add (by decide) read (.write rfl (Texts.has_int64 7) .nil))
  let source := Json.objectText []
  have sourced : request.source.texts.Has source :=
    Json.Record.object (.drop rfl (.drop rfl (.drop rfl .nil))) (by simp)
  let refId := Json.Member.quoted "refId" (Json.string "A").compact
  let model := Json.Member.quoted "modelJson" (Json.string "\x7b\x7d").compact
  let first := Json.objectText [model, refId]
  have asked : (QueryModel.texts ⟨"A", 0, 0, "\x7b\x7d"⟩).Has first := by
    refine Json.Record.object (.permute (List.reverse_perm [model, refId]) ?_)
      (by simp [refId, model])
    exact .write rfl (Texts.has_string "A")
      (.drop rfl (.drop rfl (.write rfl (Texts.has_string _) .nil)))
  let second := Json.arrayText [(Json.string "B").compact, (Json.int 3).compact]
  have listed : (QueryModel.texts ⟨"B", 3, 0, ""⟩).Has second := by
    refine Json.Record.array (List.take_append_drop 2 _)
      (.cons (Texts.has_string "B") (.cons (Texts.has_int64 3) .nil)) ?_
    simp [Field.optional]
  have spelled : text.toList = Json.arrayText [range, source, Json.arrayText [first, second]] := by
    decide +zetaReduce
  have has : request.texts.Has text.toList := by
    rw [spelled]
    exact Json.Record.array (List.append_nil _) (.cons ranged (.cons sourced (.cons
      ⟨_, .cons asked (.cons listed .nil), rfl⟩ .nil))) (by simp)
  exact ⟨has, (ofText_texts request).2.2 text has⟩

end DocSource
