/-! How much is logged. -/

namespace DocSource

/-- The levels of logging. -/
inductive LogLevel
  | off
  | error
  | warn
  | info
  | debug
  | trace
  deriving DecidableEq, Inhabited

namespace LogLevel

/-- The word for a level. -/
def name : LogLevel → String
  | off => "off"
  | error => "error"
  | warn => "warn"
  | info => "info"
  | debug => "debug"
  | trace => "trace"

/-- The level with a name in any ASCII case; no name and unknown names mean the middle one. -/
def ofName (name : Option String) : LogLevel :=
  let word := (name.getD "info").toList.map Char.toLower
  ([off, error, warn, debug, trace].find? fun level => level.name.toList = word).getD info

end LogLevel

end DocSource
