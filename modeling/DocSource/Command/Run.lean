import DocSource.Command.Basic
import DocSource.Files.Lines
import DocSource.Host.Plugin

/-! Running a command on the files it names: what it writes, and how it ends. -/

namespace DocSource

/-- How values are written. -/
inductive OutputMode
  | human
  | json
  deriving DecidableEq, Inhabited

/-- The line or lines of a value. -/
def OutputMode.line (mode : OutputMode) (value : Json) : String :=
  match mode with
  | .json => value.compactText ++ "\n"
  | .human => value.prettyText ++ "\n"

namespace CompiledQuery

/-- The stages of a compiled query as relaxed extended JSON. -/
def stagesJson (query : CompiledQuery) : Json :=
  (Bson.array (query.pipeline.map Bson.document)).toJson .relaxed

/-- A compiled query as it is written. -/
def output (query : CompiledQuery) (mode : OutputMode) : String :=
  let shape := query.shape.name
  match mode with
  | .json => mode.line (.object [("collection", .string query.collection),
      ("kind", .string shape), ("pipeline", query.stagesJson)])
  | .human =>
    let collection := query.collection
    s!"collection={collection} kind={shape}\n" ++ mode.line query.stagesJson

end CompiledQuery

/-- A store with the document files of a directory, if one is given. -/
def fixtureStore (tree : FileTree) (database : String) (fixtures : Option String) :
    Except Error Store :=
  match fixtures with
  | none => .ok .empty
  | some directory =>
    -- Files that were loaded before one failed are given up with the store they went to.
    match loadDirectory tree database directory .empty with
    | (.ok _, store) => .ok store
    | (.error error, _) => .error error

namespace Command

/-- Compiles a target and writes the pipeline. -/
def runCompile (tree : FileTree) (mode : OutputMode) (target : String)
    (collection : Option String) (shape : Shape) (range : TimeRange) (samples : Int64)
    (settings : Option String) : Except Error String := do
  let target ← readArgument tree target
  let settings ← loadSettings tree settings
  let compiled ← compileText target collection shape range samples settings.templates
  .ok (compiled.output mode)

/-- Decodes the documents of a file and writes the result. -/
def runMap (tree : FileTree) (mode : OutputMode) (shape : Shape) (input refId : String) :
    Except Error String := do
  let documents ← readDocuments tree input
  let result ← (decode shape refId (documents.map .ok)).1
  .ok (mode.line result.toJson)

/-- Answers the request of a file from fixtures and writes the response. -/
def runQuery (tree : FileTree) (mode : OutputMode) (request : String)
    (fixtures : Option String) : Except Error String := do
  let text ← (tree.readText request).mapError fun fault => .io fault.message
  let request ← Request.ofText text
  let settings ← Settings.ofText request.source.settings
  let store ← fixtureStore tree settings.database fixtures
  .ok (mode.line (request.answer store).1.toJson)

/-- Tests the connection that settings name, on a store with fixtures. -/
def runTest (tree : FileTree) (settings fixtures : Option String) :
    Except Error ConnectionStatus := do
  let settings ← loadSettings tree settings
  let store ← fixtureStore tree settings.database fixtures
  .ok (settings.testConnection store).1

/-- What was written, and the error when there was one. -/
def finish : Except Error String → String × Option Error
  | .ok output => (output, none)
  | .error error => ("", some error)

/-- Runs a command; only a connection test writes something when it fails. -/
def run (tree : FileTree) (mode : OutputMode) : Command → String × Option Error
  | compile target collection shape range samples settings =>
    finish (runCompile tree mode target collection shape range samples settings)
  | map shape input refId => finish (runMap tree mode shape input refId)
  | query request fixtures => finish (runQuery tree mode request fixtures)
  | testConnection settings fixtures =>
    match runTest tree settings fixtures with
    | .error error => ("", some error)
    | .ok outcome =>
      -- The status is written also when it says that the test has failed.
      (mode.line outcome.toJson,
        if outcome.success then none else some (.connection outcome.message))

/-- The files that a command may read. -/
def files : Command → List String
  | compile target _ _ _ _ settings =>
    -- A target behind an at sign is the path of a file.
    (match target.toList with
      | '@' :: path => [String.ofList path]
      | _ => []) ++ settings.toList
  | map _ input _ => [input]
  | query request _ => [request]
  | testConnection settings _ => settings.toList

/-- The directory that a command may load. -/
def directory? : Command → Option String
  | query _ fixtures => fixtures
  | testConnection _ fixtures => fixtures
  | _ => none

end Command

end DocSource
