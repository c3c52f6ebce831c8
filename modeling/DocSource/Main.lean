import DocSource.Command.Program

/-! The program: looks at the files it needs, runs the command on them and reports the outcome. -/

namespace DocSource

/-- Looks at what stands at a path. -/
def observe (path : String) : IO (Except FileFault Entry) := do
  if path = "" then return .error .notFound
  if path.toList.contains '\x00' then return .error .nulInName
  try
    return .ok (.file (← IO.FS.readBinFile path))
  catch error =>
    match error with
    | .noFileOrDirectory .. => return .error .notFound
    -- The path is the only argument, which nothing but its length makes invalid.
    | .invalidArgument .. => return .error .nameTooLong
    | .inappropriateType _ 21 _ =>
      let place := (← IO.currentDir) / path
      return .ok (.directory ((← place.readDir).toList.map (·.fileName)))
    | .inappropriateType .. => return .error .notDirectory
    | error => return .error (.other (toString error))

/-- A tree of what was seen at some paths; nothing is seen at any other. -/
def snapshot (paths : List String) : IO FileTree := do
  let seen ← paths.mapM fun path => return (path, ← observe path)
  return ⟨fun path => (seen.lookup path).getD (.error .notFound)⟩

/-- Looks at the files of a command and at those of the directory it loads. -/
def snapshotFor (command : Command) : IO FileTree := do
  let directories := command.directory?.toList
  let tree ← snapshot directories
  let below := directories.flatMap fun directory =>
    match tree.list directory with
    | .ok names => names.map (joinPath directory)
    | .error _ => []
  -- The second look takes in the files that the first one found in the directory.
  snapshot (command.files ++ directories ++ below)

/-- The variables of the environment that the program knows. -/
def readEnvironment : IO Environment := do
  let names := ["MONGO_DS_CONFIG", "MONGO_DS_SETTINGS", "MONGO_DS_FIXTURES",
    "MONGO_DS_LOG_LEVEL", "MONGO_DS_LOG_DIR", "XDG_CONFIG_HOME", "XDG_DATA_HOME", "HOME"]
  let values ← names.mapM fun name => return (← IO.getEnv name).map fun value => (name, value)
  return values.filterMap id

/-- Makes the log's directory and its file, as far as that is possible. -/
def openLog (directory : Option String) : IO Unit := do
  let some directory := directory | return
  try
    if directory ≠ "" then IO.FS.createDirAll directory
    IO.FS.withFile (joinPath directory Config.logName) .append fun _ => pure ()
  catch _ => pure ()

/-- Writes an outcome to the standard streams. -/
def report (outcome : Outcome) : IO UInt32 := do
  for path in outcome.warnings do
    IO.eprintln s!"warning: ignoring config {path}"
  IO.print outcome.output
  (← IO.getStdout).flush
  if let some message := outcome.error then IO.eprintln s!"error: {message}"
  return outcome.exitCode

end DocSource

open DocSource in
/-- Runs the program on its arguments. -/
def main (arguments : List String) : IO UInt32 := do
  let environment ← readEnvironment
  match Arguments.read arguments with
  | .error ending => report (Program.ended ending)
  | .ok invocation =>
    -- The configuration comes first, as it says where to log and which files to fall back on.
    let configTree ← snapshot (Config.paths invocation.config environment)
    let (config, faulty) := Program.configure invocation environment configTree
    openLog (config.logDirectory? environment)
    let command := Program.commandOf config invocation.action
    let tree ← match command with
      | .ok command => snapshotFor command
      | .error _ => snapshot []
    report (Program.finish invocation.pretty tree faulty command)
