/-! The errors of the data source: their kinds, their texts, and steps that may fail with them. -/

namespace DocSource

/-- What went wrong. -/
inductive Error
  | io (reason : String)
  | json
  | config (reason : String)
  | malformedQuery (reason : String)
  | unsupportedOperation (reason : String)
  | macroExpansion (name reason : String)
  | decode (reason : String)
  | unsupportedType (field typeName : String)
  | connection (reason : String)
  | execution (reason : String)
  deriving DecidableEq, Inhabited

namespace Error

/-- The word for the kind of an error. -/
def kind : Error → String
  | io _ => "io"
  | json => "json"
  | config _ => "config"
  | malformedQuery _ => "malformed_query"
  | unsupportedOperation _ => "unsupported_operation"
  | macroExpansion _ _ => "macro_expansion"
  | decode _ => "decode"
  | unsupportedType _ _ => "unsupported_type"
  | connection _ => "connection"
  | execution _ => "execution"

/-- The text of an error. -/
def message : Error → String
  | io reason => s!"I/O error: {reason}"
  | json => "Serde JSON: <json>"
  | config reason => s!"Configuration error: {reason}"
  | malformedQuery reason => s!"Malformed query: {reason}"
  | unsupportedOperation reason => s!"Unsupported operation: {reason}"
  | macroExpansion name reason => s!"Failed to parse stage macro {name}: {reason}"
  | decode reason => s!"Decode error: {reason}"
  | unsupportedType field typeName => s!"Could not handle type {typeName} of {field}"
  | connection reason => s!"Connection error: {reason}"
  | execution reason => s!"Execution error: {reason}"

end Error

/-- Two steps succeed when the first does, and the second with what the first gave. -/
theorem bind_eq_ok_iff {α β : Type} {first : Except Error α} {next : α → Except Error β}
    {result : β} :
    first >>= next = .ok result ↔ ∃ value, first = .ok value ∧ next value = .ok result := by
  -- A first step that fails leaves the second one out.
  cases first <;> simp [bind, Except.bind]

/-- Two steps fail when the first does, or when the second does with what the first gave. -/
theorem bind_eq_error_iff {α β : Type} {first : Except Error α} {next : α → Except Error β}
    {fault : Error} :
    first >>= next = .error fault ↔
      first = .error fault ∨ ∃ value, first = .ok value ∧ next value = .error fault := by
  -- Either the first step is where it ends, or its value is what the second one fails on.
  cases first <;> simp [bind, Except.bind]

end DocSource
