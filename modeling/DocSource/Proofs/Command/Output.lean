import DocSource.Command.Run
import DocSource.Proofs.Answer.Wire
import DocSource.Proofs.Bson.CanonicalText
import DocSource.Proofs.Json.Line
import DocSource.Proofs.Store.Snapshot

/-!
What commands write for a reader of lines: an answer on one line of JSON, and nothing when there is
no answer. Main statement: `run_reports`.
-/

namespace DocSource

/-- What is made of an error makes no difference to a success. -/
theorem mapError_eq_ok_iff {α β γ : Type} {outcome : Except α γ} {other : α → β} {value : γ} :
    outcome.mapError other = .ok value ↔ outcome = .ok value := by
  -- An error of one type becomes one of the other, and a value stays what it is.
  cases outcome <;> simp [Except.mapError]

/-- A result is written in sound numbers. -/
theorem Result.numbersSound_toJson (result : Result) : result.toJson.NumbersSound := by
  -- The payload is the only part that holds numbers.
  simp [toJson, Json.numbersSound_object, Payload.numbersSound_toMember]

/-- An outcome of a connection test is written in sound numbers. -/
theorem ConnectionStatus.numbersSound_toJson (outcome : ConnectionStatus) :
    outcome.toJson.NumbersSound := by
  -- An outcome is written in two strings.
  simp [toJson, Json.numbersSound_object]

/-- A compiled query as JSON. -/
def CompiledQuery.toJson (query : CompiledQuery) : Json :=
  .object [("collection", .string query.collection), ("kind", .string query.shape.name),
    ("pipeline", query.stagesJson)]

/-- A compiled query is written in sound numbers. -/
theorem CompiledQuery.numbersSound_toJson (query : CompiledQuery) :
    query.toJson.NumbersSound := by
  -- The stages are the only part that holds numbers.
  simp [toJson, Json.numbersSound_object, stagesJson, Bson.numbersSound_toJson]

namespace Command

/-- A connection test whose settings and fixtures load, and what it comes to. -/
def Tests (tree : FileTree) : Command → ConnectionStatus → Prop
  -- Only this command tests a connection, so for any other there is nothing to come to.
  | testConnection path fixtures, outcome => ∃ settings store,
      loadSettings tree path = .ok settings ∧
      fixtureStore tree settings.database fixtures = .ok store ∧
      (settings.testConnection store).1 = outcome
  | _, _ => False

/-- The answer to a command: what every step of it, none of which may fail, comes to at the end. -/
def Answers (tree : FileTree) : Command → Json → Prop
  -- What a step gives is bound for the steps behind it, as each works on it.
  | compile target collection shape range samples path, answer => ∃ text settings query,
      readArgument tree target = .ok text ∧ loadSettings tree path = .ok settings ∧
      compileText text collection shape range samples settings.templates = .ok query ∧
      query.toJson = answer
  | map shape input refId, answer => ∃ documents result,
      readDocuments tree input = .ok documents ∧
      (decode shape refId (documents.map .ok)).1 = .ok result ∧ result.toJson = answer
  | query path fixtures, answer => ∃ text request settings store,
      tree.readText path = .ok text ∧ Request.ofText text = .ok request ∧
      Settings.ofText request.source.settings = .ok settings ∧
      fixtureStore tree settings.database fixtures = .ok store ∧
      (request.answer store).1.toJson = answer
  | testConnection path fixtures, answer => ∃ outcome,
      Tests tree (testConnection path fixtures) outcome ∧ outcome.toJson = answer

section

variable {tree : FileTree}

/-- Every answer is written in sound numbers. -/
theorem Answers.numbersSound {command : Command} {answer : Json}
    (answers : Answers tree command answer) : answer.NumbersSound := by
  -- Only the last thing that an answer comes from is written.
  cases command with
  | compile =>
    obtain ⟨_, _, query, -, -, -, rfl⟩ := answers
    exact query.numbersSound_toJson
  | map =>
    obtain ⟨_, result, -, -, rfl⟩ := answers
    exact result.numbersSound_toJson
  | query =>
    obtain ⟨_, request, _, store, -, -, -, -, rfl⟩ := answers
    exact (request.answer store).1.numbersSound_toJson
  | testConnection =>
    obtain ⟨outcome, -, rfl⟩ := answers
    exact outcome.numbersSound_toJson

/-- Every answer is written on one line. -/
theorem Answers.jsonLine {command : Command} {answer : Json}
    (answers : Answers tree command answer) : JsonLine (OutputMode.json.line answer) :=
  -- Compact JSON is one line where its numbers are sound.
  jsonLine_compactText answers.numbersSound

/-- Compiling gives the line of the answer to it, and fails when there is none. -/
theorem runCompile_eq_ok_iff {target : String} {collection : Option String} {shape : Shape}
    {range : TimeRange} {samples : Int64} {path : Option String} {output : String} :
    runCompile tree .json target collection shape range samples path = .ok output ↔
      ∃ answer, Answers tree (compile target collection shape range samples path) answer ∧
        OutputMode.json.line answer = output := by
  -- The steps of the run are those of the answer, and the line is made behind the last of them.
  simp only [runCompile, bind_eq_ok_iff, Except.ok.injEq]
  constructor
  · intro given
    obtain ⟨text, read, settings, loaded, query, compiled, rfl⟩ := given
    exact ⟨query.toJson, ⟨text, settings, query, read, loaded, compiled, rfl⟩, rfl⟩
  · intro given
    obtain ⟨_, ⟨text, settings, query, read, loaded, compiled, rfl⟩, rfl⟩ := given
    exact ⟨text, read, settings, loaded, query, compiled, rfl⟩

/-- Decoding gives the line of the answer to it, and fails when there is none. -/
theorem runMap_eq_ok_iff {shape : Shape} {input refId output : String} :
    runMap tree .json shape input refId = .ok output ↔
      ∃ answer, Answers tree (map shape input refId) answer ∧
        OutputMode.json.line answer = output := by
  -- The documents are read to the end before the first of them is decoded.
  simp only [runMap, bind_eq_ok_iff, Except.ok.injEq]
  constructor
  · intro given
    obtain ⟨documents, read, result, decoded, rfl⟩ := given
    exact ⟨result.toJson, ⟨documents, result, read, decoded, rfl⟩, rfl⟩
  · intro given
    obtain ⟨_, ⟨documents, result, read, decoded, rfl⟩, rfl⟩ := given
    exact ⟨documents, read, result, decoded, rfl⟩

/-- Answering a request gives the line of the answer, and fails when there is none. -/
theorem runQuery_eq_ok_iff {path : String} {fixtures : Option String} {output : String} :
    runQuery tree .json path fixtures = .ok output ↔
      ∃ answer, Answers tree (query path fixtures) answer ∧
        OutputMode.json.line answer = output := by
  -- Once the store is filled the request is answered in any case, if only by errors.
  simp only [runQuery, bind_eq_ok_iff, mapError_eq_ok_iff, Except.ok.injEq]
  constructor
  · intro given
    obtain ⟨text, read, request, decodes, settings, usable, store, filled, rfl⟩ := given
    exact ⟨_, ⟨text, request, settings, store, read, decodes, usable, filled, rfl⟩, rfl⟩
  · intro given
    obtain ⟨_, ⟨text, request, settings, store, read, decodes, usable, filled, rfl⟩, rfl⟩ := given
    exact ⟨text, read, request, decodes, settings, usable, store, filled, rfl⟩

/-- A connection test comes to an outcome exactly when its settings and fixtures load. -/
theorem runTest_eq_ok_iff {path fixtures : Option String} {outcome : ConnectionStatus} :
    runTest tree path fixtures = .ok outcome ↔
      Tests tree (testConnection path fixtures) outcome := by
  -- The test is read step by step: settings, then fixtures, then the answer of the store.
  simp only [runTest, Tests, bind_eq_ok_iff, Except.ok.injEq, exists_and_left]

/-- How a command ends, for a reader that takes what is written line by line. -/
inductive Reports (tree : FileTree) (command : Command) : String × Option Error → Prop
  /-- The answer is written as one line, and a connection that was tested was reached. -/
  | answered {answer : Json} (answers : Answers tree command answer)
    (reached : ∀ outcome, Tests tree command outcome → outcome.success = true)
    (line : JsonLine (OutputMode.json.line answer)) :
    Reports tree command (OutputMode.json.line answer, none)
  /-- A step has failed, so there is no answer, and nothing is written. -/
  | refused {fault : Error} (unanswered : ∀ answer, ¬ Answers tree command answer) :
    Reports tree command ("", some fault)
  /-- The status of a connection that was not reached is written as one line, and is no success. -/
  | unreachable {outcome : ConnectionStatus} (tested : Tests tree command outcome)
    (failed : outcome.success = false) (line : JsonLine (OutputMode.json.line outcome.toJson)) :
    Reports tree command
      (OutputMode.json.line outcome.toJson, some (.connection outcome.message))

/-- A command that tests nothing writes the line of its answer, or fails with nothing written. -/
theorem reports_finish {command : Command} {written : Except Error String}
    (gives : ∀ {output}, written = .ok output ↔
      ∃ answer, Answers tree command answer ∧ OutputMode.json.line answer = output)
    (untested : ∀ outcome, ¬ Tests tree command outcome) :
    Reports tree command (finish written) := by
  cases written with
  | ok output =>
    -- What was given is the line of an answer.
    obtain ⟨answer, answers, rfl⟩ := gives.mp rfl
    have reached : ∀ outcome, Tests tree command outcome → outcome.success = true :=
      fun outcome tested => absurd tested (untested outcome)
    exact .answered answers reached answers.jsonLine
  | error fault =>
    -- The line of an answer would have been given.
    refine .refused fun answer answers => ?_
    cases gives.mpr ⟨answer, answers, rfl⟩

end

/--
A command that has an answer writes it as one line of JSON, whatever stands in its arguments and
files, and one that has none fails with nothing written. A command with an answer succeeds, but for
a test of a connection that cannot be reached, whose answer is its status.
-/
theorem run_reports (tree : FileTree) (command : Command) :
    Reports tree command (command.run tree .json) := by
  -- The first three commands test no connection, and write what they give when they give it.
  cases command with
  | compile => exact reports_finish runCompile_eq_ok_iff fun _ => id
  | map => exact reports_finish runMap_eq_ok_iff fun _ => id
  | query => exact reports_finish runQuery_eq_ok_iff fun _ => id
  | testConnection path fixtures =>
    rw [run]
    cases done : runTest tree path fixtures with
    | error fault =>
      -- Settings or fixtures have failed to load, so the test got to no outcome.
      refine .refused fun answer answers => ?_
      obtain ⟨outcome, tested, -⟩ := answers
      rw [← runTest_eq_ok_iff, done] at tested
      cases tested
    | ok outcome =>
      -- The line is written in any case, and only then is the outcome looked at.
      have tested := runTest_eq_ok_iff.mp done
      have answers : Answers tree (testConnection path fixtures) outcome.toJson :=
        ⟨outcome, tested, rfl⟩
      cases success : outcome.success with
      | true =>
        have reached : ∀ other, Tests tree (testConnection path fixtures) other →
            other.success = true := by
          intro other also
          rw [← runTest_eq_ok_iff, done] at also
          exact Except.ok.inj also ▸ success
        simpa [success] using Reports.answered answers reached answers.jsonLine
      | false => simpa [success] using Reports.unreachable tested success answers.jsonLine

/-- Quotes and ends of lines in a name are escaped. -/
example :
    (compile "[]" (some "a\n\"b") .table ⟨0, 0⟩ 1 none).run ⟨fun _ => .error .notFound⟩ .json =
      ("\x7b\"collection\":\"a\\n\\\"b\",\"kind\":\"table\",\"pipeline\":[]\x7d\n", none) := by
  decide +kernel

/-- Loading files scripts no failure. -/
theorem failures_loadFiles (tree : FileTree) (database directory : String) (names : List String)
    (store : Store) :
    (loadFiles tree database directory names store).2.failures = store.failures := by
  -- Each file that is loaded puts a collection into the store, and nothing else.
  induction names generalizing store with
  | nil => rfl
  | cons name rest ih =>
    rw [loadFiles]
    split
    · exact ih store
    · split
      · rfl
      · exact ih _

/-- A store of fixtures has no failure scripted. -/
theorem failures_fixtureStore {tree : FileTree} {database : String} {fixtures : Option String}
    {store : Store} (filled : fixtureStore tree database fixtures = .ok store) :
    store.failures = [] := by
  unfold fixtureStore at filled
  split at filled
  · exact Except.ok.inj filled ▸ rfl
  · next directory =>
    -- Loading starts with an empty store.
    split at filled
    · next count loaded list =>
      cases filled
      unfold loadDirectory at list
      split at list
      · cases list
      · next names _ =>
        have kept := failures_loadFiles tree database directory names .empty
        rw [list] at kept
        exact kept
    · cases filled

/-- A store of fixtures can always be reached, so no test of one fails. -/
theorem Tests.success {tree : FileTree} {command : Command} {outcome : ConnectionStatus}
    (tested : Tests tree command outcome) : outcome.success = true := by
  -- Fixtures script no failure, so each point on the way of the test is passed.
  cases command with
  | testConnection path fixtures =>
    obtain ⟨settings, store, -, filled, rfl⟩ := tested
    have passed := store.pass_eq_ok (failures_fixtureStore filled) [.connect, .ping, .disconnect] ()
    rw [Settings.testConnection, Settings.checkConnection_eq, passed]
  | _ => exact tested.elim

end Command

end DocSource
