import DocSource.Command.Arguments
import DocSource.Command.Config
import DocSource.Command.Run
import DocSource.Files.Folder

/-! The whole program: from arguments, environment and files to output and exit code. -/

namespace DocSource

/-- How a run of the program ends. -/
structure Outcome where
  exitCode : UInt32
  output : String
  error : Option String
  warnings : List String
  deriving DecidableEq

namespace Program

/-- The program's name and version. -/
def versionLine : String := "mongo-ds 0.1.0\n"

/-- How the program is called. -/
def usageText : String :=
  "Usage: mongo-ds [--config <FILE>] [--settings <FILE>] [--fixtures <DIR>] " ++
    "[--log-level <LEVEL>] [--pretty] <compile|map|query|test-connection> [OPTIONS]\n"

/-- The outcome of arguments that ask for no command. -/
def ended : Ending → Outcome
  | .usage => ⟨2, "", none, []⟩
  | .help => ⟨0, usageText, none, []⟩
  | .version => ⟨0, versionLine, none, []⟩

/-- The command that an action asks for under a configuration. -/
def commandOf (config : Config) : Action → Except Error Command
  | .compile target collection shape start stop samples => do
    -- The arguments are read in this order, so the first bad one is the error.
    let shape ← readShape shape
    let start ← readInstant start
    let stop ← readInstant stop
    .ok (.compile target collection shape ⟨start, stop⟩ samples config.settings)
  | .map shape input refId => do
    let shape ← readShape shape
    .ok (.map shape input refId)
  | .query request => .ok (.query request config.fixtures)
  | .testConnection => .ok (.testConnection config.settings config.fixtures)

/-- The configuration of a run, and the configuration files passed over for faults. -/
def configure (invocation : Invocation) (environment : Environment) (tree : FileTree) :
    Config × List String :=
  -- Options win over the environment, and the environment over the file.
  let (file, faulty) := Config.load tree (Config.paths invocation.config environment)
  let options : Config := ⟨invocation.settings, invocation.fixtures, invocation.logLevel, none⟩
  (options.orElse ((Config.ofEnvironment environment).orElse file), faulty)

/-- The outcome of a command on the files it names. -/
def finish (pretty : Bool) (tree : FileTree) (faulty : List String)
    (command : Except Error Command) : Outcome :=
  let (output, error) := match command with
    | .ok command => command.run tree (if pretty then .human else .json)
    | .error error => ("", some error)
  ⟨if error.isSome then 1 else 0, output, error.map (·.message), faulty⟩

/-- A folder once the log is opened: its directory is made, and its file where it is missing. -/
def openLog (directory : Option String) (folder : Folder) : Folder :=
  match directory.map folder.makeDirectory with
  | some (folder, some place) => folder.touch place Config.logName
  | some (folder, none) => folder
  | none => folder

/-- Runs the program in a folder. -/
def run (arguments : List String) (environment : Environment) (folder : Folder) : Outcome :=
  match Arguments.read arguments with
  | .error ending => ended ending
  | .ok invocation =>
    -- The log is opened before the command looks at its files.
    let (config, faulty) := configure invocation environment folder.tree
    let folder := openLog (config.logDirectory? environment) folder
    finish invocation.pretty folder.tree faulty (commandOf config invocation.action)

end Program

end DocSource
