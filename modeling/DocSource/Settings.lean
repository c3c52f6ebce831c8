import DocSource.Bson.Document
import DocSource.Error
import DocSource.Pipeline.Basic

/-! Data-source settings: where to connect, which database, and the stage templates. -/

namespace DocSource

/-- The settings of one data source. -/
structure Settings where
  uri : String
  database : String
  templates : List StageTemplate
  deriving DecidableEq, Inhabited

namespace Settings

/-- Where to connect when the settings name no place. -/
def defaultUri : String := "mongodb://localhost:27017"

/-- The database when the settings name none. -/
def defaultDatabase : String := "test"

/-- The settings when none are given. -/
def default : Settings := ⟨defaultUri, defaultDatabase, []⟩

/-- The template of an entry: an object with a name and a stage that are not blank. -/
def usable? (entry : Json) : Option StageTemplate :=
  match entry with
  | .object _ =>
    let name := Text.trimmed (entry.stringAt "name" "")
    let stage := entry.stringAt "stage" ""
    if name = "" || Text.blank stage then none else some ⟨name, stage⟩
  | _ => none

/-- The templates of the usable entries, whose names must differ from each other and `seen`. -/
def templatesOf (seen : List String) : List Json → Except Error (List StageTemplate)
  | [] => .ok []
  | entry :: rest =>
    match usable? entry with
    | none => templatesOf seen rest
    | some template =>
      -- Only usable entries use up their names.
      if template.name ∈ seen then
        let name := template.name
        .error (.config s!"duplicate stage template name: {name}")
      else do
        let rest ← templatesOf (template.name :: seen) rest
        .ok (template :: rest)

/-- The settings of a JSON value. -/
def ofJson (json : Json) : Except Error Settings :=
  let uri := Text.trimmed (json.stringAt "mongodb_url" defaultUri)
  let database := Text.trimmed (json.stringAt "mongodb_db" defaultDatabase)
  -- Both texts are judged as they are kept, without the blanks around them.
  if !Text.occurs "://".toList uri.toList then .error (.config s!"invalid mongodb_url: '{uri}'")
  else if database = "" then .error (.config "mongodb_db must not be empty")
  else do
    let templates ← templatesOf [] (json.arrayAt "stages")
    .ok ⟨uri, database, templates⟩

/-- The settings of a text; a blank one means the defaults. -/
def ofText (text : String) : Except Error Settings :=
  match readJsonOrEmpty? text with
  | some json => ofJson json
  | none => .error (.config "invalid datasource settings: <json>")

end Settings

end DocSource
