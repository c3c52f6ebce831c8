import DocSource.Files.Tree
import DocSource.Settings
import DocSource.Text.Lowercase
import DocSource.Time.Timestamp

/-! Commands of the command line, and the texts of their arguments. -/

namespace DocSource

/-- What the command line can be asked to do; files are named by path. -/
inductive Command
  | compile (target : String) (collection : Option String) (shape : Shape) (range : TimeRange)
    (samples : Int64) (settings : Option String)
  | map (shape : Shape) (input refId : String)
  | query (request : String) (fixtures : Option String)
  | testConnection (settings fixtures : Option String)

/-- An argument as given, or the text of the file that it names behind an at sign. -/
def readArgument (tree : FileTree) (argument : String) : Except Error String :=
  match argument.toList with
  | '@' :: path =>
    match tree.readText (String.ofList path) with
    | .ok text => .ok text
    | .error fault => .error (.io fault.message)
  | _ => .ok argument

/-- The shape that an argument names in any case, a series when there is none. -/
def readShape (argument : Option String) : Except Error Shape :=
  match argument with
  | none => .ok .series
  | some text =>
    let name := Text.lowercase text
    match Shape.ofName? name with
    | some shape => .ok shape
    | none => .error (.malformedQuery s!"unknown result type: {name}")

/-- The instant that an argument writes, in milliseconds or as a timestamp. -/
def readInstant (argument : String) : Except Error Int64 :=
  let text := Text.trim argument.toList
  -- A whole number is milliseconds, and any other text must be a timestamp.
  match readInt64? text with
  | some millis => .ok millis
  | none =>
    match (Timestamp.commandMillis? text).bind int64? with
    | some millis => .ok millis
    | none =>
      let text := String.ofList text
      .error (.config s!"invalid time '{text}': <time>")

/-- The settings of a file, the defaults when there is none. -/
def loadSettings (tree : FileTree) (path : Option String) : Except Error Settings :=
  match path with
  | none => .ok .default
  | some path =>
    match tree.readText path with
    | .ok text => Settings.ofText text
    | .error fault => .error (.io fault.message)

end DocSource
