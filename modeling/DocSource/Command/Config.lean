import DocSource.Files.Tree
import DocSource.Toml.Reader

/-! Configuration: files in a fixed order, over them the environment. -/

namespace DocSource

/-- What configuration can say; anything may be left unsaid. -/
structure Config where
  settings : Option String
  fixtures : Option String
  logLevel : Option String
  logDirectory : Option String
  deriving DecidableEq, Inhabited

/-- The variables of the environment. -/
abbrev Environment := List (String × String)

namespace Config

/-- A configuration that says nothing. -/
def empty : Config := ⟨none, none, none, none⟩

/-- One configuration, and another where the first says nothing. -/
def orElse (first second : Config) : Config :=
  ⟨first.settings <|> second.settings, first.fixtures <|> second.fixtures,
    first.logLevel <|> second.logLevel, first.logDirectory <|> second.logDirectory⟩

/-- The string under a key, which may be missing but not of another type. -/
def stringAt? (entries : Toml.Entries) (key : String) : Option (Option String) :=
  match entries.lookup key with
  | none => some none
  | some (.value (some text)) => some (some text)
  | some _ => none

/-- The configuration of a file's text; keys it does not know are passed over. -/
def ofText? (text : String) : Option Config := do
  let entries ← Toml.read? text.toList
  let settings ← stringAt? entries "settings"
  let fixtures ← stringAt? entries "fixtures"
  let logLevel ← stringAt? entries "log_level"
  let logDirectory ← stringAt? entries "log_dir"
  some ⟨settings, fixtures, logLevel, logDirectory⟩

/-- The configuration that the environment says. -/
def ofEnvironment (environment : Environment) : Config :=
  ⟨environment.lookup "MONGO_DS_SETTINGS", environment.lookup "MONGO_DS_FIXTURES",
    environment.lookup "MONGO_DS_LOG_LEVEL", environment.lookup "MONGO_DS_LOG_DIR"⟩

/-- The name of a configuration file. -/
def fileName : String := "mongo-ds.toml"

/-- The user's directory that a named variable holds, by default one in the user's home. -/
def userDirectory? (name default : String) (environment : Environment) : Option String :=
  -- The variable for it counts only when it holds an absolute path.
  match environment.lookup name with
  | some path => if path.startsWith "/" then some path else home
  | none => home
where
  /-- The directory in the user's home. -/
  home : Option String := match environment.lookup "HOME" with
    | some "" => none
    | some path => some (joinPath path default)
    | none => none

/-- The user's configuration directory. -/
def directory? (environment : Environment) : Option String :=
  userDirectory? "XDG_CONFIG_HOME" ".config" environment

/-- The directory of the log: the configured one, else one among the user's data. -/
def logDirectory? (config : Config) (environment : Environment) : Option String :=
  config.logDirectory <|>
    (userDirectory? "XDG_DATA_HOME" ".local/share" environment).map (joinPath · "mongo-ds")

/-- The name of the log's file. -/
def logName : String := "app.log"

/-- The configuration files in the order they are tried. -/
def paths (given : Option String) (environment : Environment) : List String :=
  given.toList ++ (environment.lookup "MONGO_DS_CONFIG").toList ++ [fileName] ++
    ((directory? environment).map (joinPath · fileName)).toList

/-- The first readable configuration file, and the paths of the ones passed over for faults. -/
def load (tree : FileTree) : List String → Config × List String
  | [] => (empty, [])
  | path :: rest =>
    -- A path where nothing stands is passed over without being named as faulty.
    if !tree.exists? path then load tree rest
    else
      let text := match tree.readText path with
        | .ok text => some text
        | .error _ => none
      match text.bind ofText? with
      | some config => (config, [])
      | none =>
        let (config, faulty) := load tree rest
        (config, path :: faulty)

end Config

end DocSource
