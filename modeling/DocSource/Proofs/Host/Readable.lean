import DocSource.Proofs.Answer.Origin
import DocSource.Proofs.Answer.Wire
import DocSource.Proofs.Host.Batch
import DocSource.Proofs.Host.Wire

/-!
Which answers the host can read: those without a double that stands for no number. Such a double
comes from a stored document alone, and is written as nothing, which no reader takes for a double.
-/

namespace DocSource

/-- Each stored double, as far as fields hold it themselves, stands for a number. -/
def Store.FiniteDoubles (store : Store) : Prop :=
  ∀ database collection, ∀ document ∈ store.documents database collection,
    ∀ name x, (name, Bson.double x) ∈ document → x.isFinite = true

/-- A whole number of a word is near to a finite double. -/
theorem isFinite_number? {value : Bson} {x : Double} (number : value.number? = some x)
    (finite : ∀ y, value = .double y → y.isFinite = true) : x.isFinite = true := by
  -- A word is far below the greatest power of ten, and only a stored double is taken as it is.
  have places : 2 ^ 64 < 10 ^ Double.greatestTenPower := by decide +kernel
  cases value <;> simp only [Bson.number?, reduceCtorEq, Option.some.injEq] at number
  case double y => exact number ▸ finite y rfl
  case int32 n =>
    subst number
    have low := n.minValue_le_toInt
    have high := n.toInt_lt
    simp only [Int32.toInt_minValue] at low
    exact Double.isFinite_ofInt (by omega)
  case int64 n =>
    subst number
    have low := n.minValue_le_toInt
    have high := n.toInt_lt
    simp only [Int64.toInt_minValue] at low
    exact Double.isFinite_ofInt (by omega)

/-- An error has no doubles. -/
theorem Response.doubles_ofError (refId : String) (fault : Error) :
    doubles ⟨[.ofError refId fault]⟩ = [] := rfl

/-- A table of names has no doubles. -/
theorem Table.doubles_ofNames (names : List String) : (Table.ofNames names).doubles = [] := by
  -- Every cell of the table is a string.
  simp [Table.doubles, Table.ofNames, Table.doublesAt, Cell.doubles]

/-- Each double of a query's result is a number that a stored document holds. -/
theorem Query.holds_of_result {settings : Settings} {range : TimeRange} {store : Store}
    {query : Query} {x : Double} (among : x ∈ (query.result settings range store).doubles) :
    ∃ database collection, ∃ document ∈ store.documents database collection,
      Holds document x := by
  unfold result outcome at among
  -- Whatever fails on the way leaves an error, and an error has no doubles.
  cases taken : query.compile range settings.templates with
  | error fault => simp [taken, bind, Except.bind, Result.ofError, Result.doubles,
      Payload.doubles] at among
  | ok compiled =>
    simp only [taken, bind, Except.bind] at among
    cases failing : store.failure? (.aggregate compiled.collection) with
    | some message => simp [failing, Result.ofError, Result.doubles, Payload.doubles] at among
    | none =>
      simp only [failing] at among
      cases decoded : (decode compiled.shape query.refId
          ((store.documents settings.database compiled.collection).map .ok)).1 with
      | error fault => simp [decoded, Result.ofError, Result.doubles, Payload.doubles] at among
      | ok result =>
        rw [decoded] at among
        exact ⟨_, _, holds_of_decode decoded among⟩

/-- What comes of passing points is the value that was to come of it. -/
theorem Store.eq_of_pass {α : Type} {store : Store} {points : List FailPoint} {value passed : α}
    (given : store.pass points value = .ok passed) : passed = value := by
  -- Passing the points gives the value that is carried past them, or a fault.
  unfold pass at given
  split at given
  · cases given
  · exact (Except.ok.inj given).symm

/-- The answer to a metric has no doubles. -/
theorem Settings.doubles_answerMetric (settings : Settings) (query : Query) (store : Store) :
    (settings.answerMetric query store).1.doubles = [] := by
  -- A metric that is known answers with a table of names, or fails.
  by_cases known : query.target = pingMetric ∨ query.target = listMetric
  · rw [settings.answerMetric_eq query store known]
    cases passed : store.pass (sessionPath (metricPoints query.target))
      (Table.ofNames (settings.metricNames query.target store)) with
    | error fault => rfl
    | ok table =>
      rw [Store.eq_of_pass passed]
      simp [Response.doubles, Result.doubles, Payload.doubles, Table.doubles_ofNames]
  · rw [settings.answerMetric_unknown query store known]
    rfl

/-- The answer to a connection test has no doubles. -/
theorem Settings.doubles_answerTest (settings : Settings) (query : Query) (store : Store) :
    (settings.answerTest query store).1.doubles = [] := by
  -- The answer is an empty list of series, or a message.
  rw [settings.answerTest_eq]
  cases store.pass [.connect, .ping, .disconnect] () <;> rfl

/-- Each double of an answer is a number that a stored document holds. -/
theorem Request.holds_of_answer {request : Request} {store : Store} {x : Double}
    (among : x ∈ (request.answer store).1.doubles) :
    ∃ database collection, ∃ document ∈ store.documents database collection,
      Holds document x := by
  unfold answer at among
  cases usable : Settings.ofText request.source.settings with
  | error fault => simp [usable, Response.fallback, Response.doubles_ofError] at among
  | ok settings =>
    simp only [usable, Settings.answer] at among
    split at among
    · cases among
    · split at among
      · rw [settings.doubles_answerMetric] at among
        cases among
      · rw [settings.doubles_answerTest] at among
        cases among
      · -- Only a batch of series has results of queries.
        rw [settings.answerSeries_pass] at among
        cases passed : store.pass [.connect, .ping, .disconnect]
            (request.queryList.map (Query.result settings request.range store)) with
        | error fault => simp [passed, Response.fallback, Response.doubles_ofError] at among
        | ok results =>
          simp only [passed] at among
          rw [Store.eq_of_pass passed, Response.doubles, List.flatMap_map] at among
          obtain ⟨query, _, own⟩ := List.mem_flatMap.mp among
          exact query.holds_of_result own

/-- A store whose doubles are finite is answered from in finite doubles. -/
theorem Request.isFinite_of_answer {request : Request} {store : Store}
    (finite : store.FiniteDoubles) {x : Double}
    (among : x ∈ (request.answer store).1.doubles) : x.isFinite = true := by
  -- The double is a number of a stored document, and such numbers are finite here.
  obtain ⟨database, collection, document, stored, ⟨name, value⟩, held, number⟩ :=
    holds_of_answer among
  refine isFinite_number? number fun y double => ?_
  have stays : value = .double y := double
  exact finite database collection document stored name y (stays ▸ held)

/-- A request that decodes is answered by the text of its answer. -/
theorem Request.answerText_eq {text : String} {request : Request}
    (decodes : ofText text = .ok request) (store : Store) :
    (answerText text store).1 = .ok (request.answer store).1.text := by
  -- The writer cannot fail, so decoding is the only step that could.
  rw [answerText, decodes]

/--
Every request is answered by a text, which the reader accepts exactly when all doubles of the
answer are finite, as they are when all stored doubles are. What is read back has the same
references in the same order, over payloads of the same kinds.
-/
theorem answerText_readable {text : String} {request : Request}
    (decodes : Request.ofText text = .ok request) (store : Store) :
    ∃ answer, (Request.answerText text store).1 = .ok answer ∧
      ((∃ back, Response.ofText answer = .ok back) ↔
        ∀ x ∈ (request.answer store).1.doubles, x.isFinite = true) ∧
      (∀ back, Response.ofText answer = .ok back →
        back.outline = (request.answer store).1.outline) ∧
      (store.FiniteDoubles → ∃ back, Response.ofText answer = .ok back) := by
  refine ⟨_, Request.answerText_eq decodes store, ?_⟩
  have read := (request.answer store).1.ofText_text
  have accepted : (∃ back, Response.ofText (request.answer store).1.text = .ok back) ↔
      ∀ x ∈ (request.answer store).1.doubles, x.isFinite = true := by
    rw [read, ← List.all_eq_true]
    cases (request.answer store).1.doubles.all Double.isFinite <;> simp
  refine ⟨accepted, fun back given => ?_, fun finite => ?_⟩
  · -- What is read back differs in its doubles alone.
    rw [read] at given
    split at given
    · rw [← Except.ok.inj given, Response.outline_mapDoubles]
    · cases given
  · exact accepted.mpr fun x among => Request.isFinite_of_answer finite among

/-- A request for the documents of a collection as series. -/
def seriesRequest (collection : String) : Request :=
  let model : Json := .object [("target", .string "[]"), ("collection", .string collection)]
  ⟨⟨0, 9⟩, .unnamed, [⟨"A", 0, 0, model.compactText⟩]⟩

/-- A store of one document, a point with a value. -/
def pointStore (value : Double) : Store :=
  Store.empty.insert Settings.defaultDatabase "c"
    [[("name", .string "x"), ("value", .double value), ("ts", .dateTime 5)]]

/-- The store of a point with a finite value has no other double. -/
theorem finiteDoubles_pointStore {value : Double} (finite : value.isFinite = true) :
    (pointStore value).FiniteDoubles := by
  intro database collection document stored name x held
  rw [pointStore, Store.documents_insert] at stored
  -- The one document has one field that is a double.
  split at stored
  · rw [List.mem_singleton.mp stored] at held
    simp only [List.mem_cons, Prod.mk.injEq, Bson.double.injEq, reduceCtorEq, and_false,
      List.not_mem_nil, or_false, false_or] at held
    exact held.2 ▸ finite
  · cases stored

/-- A point of one and a half is read back under its reference. -/
theorem answerText_readable_point :
    ∃ answer back, (Request.answerText (seriesRequest "c").text
        (pointStore ⟨0x3FF8000000000000⟩)).1 = .ok answer ∧
      Response.ofText answer = .ok back ∧ back.outline = [("A", "series")] := by
  -- The request reads back from its own text, and the store holds no double but one and a half.
  obtain ⟨answer, given, -, outline, readable⟩ :=
    answerText_readable (Request.ofText_text (seriesRequest "c"))
      (pointStore ⟨0x3FF8000000000000⟩)
  obtain ⟨back, read⟩ := readable (finiteDoubles_pointStore (by decide))
  refine ⟨answer, back, given, read, ?_⟩
  rw [outline back read]
  decide +kernel

/-- A point whose value is no number is answered by a text that no response is read from. -/
theorem answerText_unreadable_nan :
    let text := "\x7b\"results\":[\x7b\"refId\":\"A\",\"series\":[\x7b\"name\":\"x\"," ++
      "\"points\":[\x7b\"timestamp\":5,\"value\":null\x7d]\x7d]\x7d]\x7d"
    Request.ofText (seriesRequest "c").text = .ok (seriesRequest "c") ∧
      (Request.answerText (seriesRequest "c").text (pointStore (.nan false))).1 = .ok text ∧
      Response.ofText text = .error .json := by
  intro text
  have decodes := Request.ofText_text (seriesRequest "c")
  -- The stored value comes through the pipeline and the decoder as it is.
  have answered : ((seriesRequest "c").answer (pointStore (.nan false))).1 =
      ⟨[⟨"A", .series [⟨"x", [⟨5, .nan false⟩]⟩]⟩]⟩ := by
    decide +kernel
  have written : Response.text ⟨[⟨"A", .series [⟨"x", [⟨5, .nan false⟩]⟩]⟩]⟩ = text := by
    decide +kernel +zetaReduce
  -- Nothing is written in its place, and the reader refuses the whole text for that.
  refine ⟨decodes, ?_, ?_⟩
  · rw [Request.answerText_eq decodes, answered, written]
  · rw [← written, Response.ofText_text, if_neg (by decide)]

end DocSource
