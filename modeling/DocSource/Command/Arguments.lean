import DocSource.Number.Digits

/-! The arguments of the program: global options, a subcommand, and the subcommand's options. -/

namespace DocSource

/-- An option: its long name, whether it takes a value, and whether the value may be empty. -/
structure OptionSpec where
  name : String
  takesValue : Bool
  allowsEmpty : Bool

/-- Why the arguments lead to no command, or to none being needed. -/
inductive Ending
  | usage
  | help
  | version
  deriving DecidableEq

/-- The options found, with their values; one that takes none has an empty value. -/
abbrev Found := List (String × String)

/-- A subcommand as the arguments give it, before its texts are read. -/
inductive Action
  | compile (target : String) (collection shape : Option String) (start stop : String)
    (samples : Int64)
  | map (shape : Option String) (input refId : String)
  | query (request : String)
  | testConnection
  deriving DecidableEq

/-- The arguments in full. -/
structure Invocation where
  config : Option String
  settings : Option String
  fixtures : Option String
  logLevel : Option String
  pretty : Bool
  action : Action
  deriving DecidableEq

namespace Arguments

/-- The options that stand before the subcommand. -/
def globalOptions : List OptionSpec := [
  ⟨"config", true, false⟩, ⟨"settings", true, false⟩, ⟨"fixtures", true, false⟩,
  ⟨"log-level", true, true⟩, ⟨"pretty", false, true⟩]

/-- The options of each subcommand. -/
def subcommands : List (String × List OptionSpec) := [
  ("compile", [⟨"target", true, true⟩, ⟨"collection", true, true⟩, ⟨"kind", true, true⟩,
    ⟨"from", true, true⟩, ⟨"to", true, true⟩, ⟨"max-data-points", true, true⟩]),
  ("map", [⟨"kind", true, true⟩, ⟨"input", true, false⟩, ⟨"ref-id", true, true⟩]),
  ("query", [⟨"request", true, false⟩]),
  ("test-connection", [])]

/-- Records an option; none may be given twice or hold a value that it does not allow. -/
def record (spec : OptionSpec) (value : String) (found : Found) : Except Ending Found :=
  if (found.lookup spec.name).isSome || (value = "" && !spec.allowsEmpty) then .error .usage
  else if spec.name = "max-data-points" && (readInt64? value.toList).isNone then .error .usage
  else .ok (found ++ [(spec.name, value)])

/-- The parts of a long option around its equals sign. -/
def splitOption (text : List Char) : String × Option String :=
  let name := text.takeWhile (· != '=')
  match text.dropWhile (· != '=') with
  | _ :: value => (String.ofList name, some (String.ofList value))
  | [] => (String.ofList name, none)

/-- A text that can stand as the value of the option before it. -/
def isValue (text : String) : Bool := text = "-" || text.toList.head? ≠ some '-'

/-- Reads options up to the first plain word; `versioned` says whether a version can be asked. -/
def scan (specs : List OptionSpec) (versioned : Bool) (found : Found) :
    List String → Except Ending (Found × List String)
  | [] => .ok (found, [])
  | argument :: rest =>
    match argument.toList with
    -- Two dashes end the options, and a word behind them is one that no command takes.
    | ['-', '-'] => if rest = [] then .ok (found, []) else .error .usage
    | '-' :: '-' :: body =>
      let (name, attached) := splitOption body
      match specs.find? (·.name == name), attached with
      | some spec, attached =>
        -- A value is attached to its option, or else it is the next word.
        if spec.takesValue then
          match attached, rest with
          | some value, rest => do
            let found ← record spec value found
            scan specs versioned found rest
          | none, value :: rest =>
            if isValue value then do
              let found ← record spec value found
              scan specs versioned found rest
            else .error .usage
          | none, [] => .error .usage
        else if attached.isSome then .error .usage
        else do
          let found ← record spec "" found
          scan specs versioned found rest
      | none, some _ => .error .usage
      | none, none =>
        -- Help is known everywhere, and the version only in front of a subcommand.
        if name = "help" then .error .help
        else if name = "version" && versioned then .error .version
        else .error .usage
    | '-' :: flag :: _ =>
      if flag = 'h' then .error .help
      else if flag = 'V' && versioned then .error .version
      else .error .usage
    -- A plain word and all that follows it are left to the caller.
    | _ => .ok (found, argument :: rest)

/-- The value of an option that must be there. -/
def required (found : Found) (name : String) : Except Ending String :=
  match found.lookup name with
  | some value => .ok value
  | none => .error .usage

/-- The action of a subcommand with its options. -/
def actionOf (subcommand : String) (found : Found) : Except Ending Action :=
  if subcommand = "compile" then do
    let target ← required found "target"
    let samples := ((found.lookup "max-data-points").bind (readInt64? ·.toList)).getD 1
    .ok (.compile target (found.lookup "collection") (found.lookup "kind")
      ((found.lookup "from").getD "0") ((found.lookup "to").getD "0") samples)
  else if subcommand = "map" then do
    let input ← required found "input"
    .ok (.map (found.lookup "kind") input ((found.lookup "ref-id").getD "A"))
  else if subcommand = "query" then do
    let request ← required found "request"
    .ok (.query request)
  else .ok .testConnection

/-- What can stand behind the word for help: nothing, or one subcommand. -/
def isHelpTopic : List String → Bool
  | [] => true
  | [topic] => topic = "help" || (subcommands.lookup topic).isSome
  | _ => false

/-- Reads the arguments of the program. -/
def read (arguments : List String) : Except Ending Invocation := do
  let (global, rest) ← scan globalOptions true [] arguments
  match rest with
  | [] => .error .usage
  | subcommand :: rest =>
    match subcommands.lookup subcommand with
    -- The word for help stands in the place of a subcommand, and may have one as its topic.
    | none => .error (if subcommand = "help" && isHelpTopic rest then .help else .usage)
    | some specs =>
      let (found, extra) ← scan specs false [] rest
      -- Subcommands take options only.
      if extra ≠ [] then .error .usage
      else do
        let action ← actionOf subcommand found
        .ok ⟨global.lookup "config", global.lookup "settings", global.lookup "fixtures",
          global.lookup "log-level", (global.lookup "pretty").isSome, action⟩

end Arguments

end DocSource
