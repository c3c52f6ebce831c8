import DocSource.Proofs.Pipeline.Argument

/-!
Placeholders: filling leaves none of them in a text, whatever the text is, so that filling it once
more changes nothing.
-/

namespace DocSource.Placeholders

open Text (occurs)

/-- A text that comes in for a token without becoming part of another one. -/
structure Foreign (mark new : List Char) : Prop where
  -- No mark can begin or end inside the text and reach beyond it.
  front : ∃ c, new.head? = some c ∧ c ∉ mark
  back : ∃ c, new.getLast? = some c ∧ c ∉ mark
  absent : ¬ mark <:+: new

/-- Where a token is replaced by a foreign text, none of its kind is left. -/
theorem Foreign.not_infix_replace_self {token new : List Char} (foreign : Foreign token new)
    (text : List Char) : ¬ token <:+: Text.replace token new text := by
  obtain ⟨⟨c, arrives, front⟩, ⟨d, leaves, back⟩, absent⟩ := foreign
  intro found
  -- The token would stand where it does not stand.
  obtain ⟨rest, -, stands, other⟩ :=
    Text.exists_of_infix_replace arrives leaves front back absent found
  exact other stands

/-- A foreign text completes no mark that was not in the text before. -/
theorem Foreign.not_infix_replace {mark token new text : List Char} (foreign : Foreign mark new)
    (clear : ¬ mark <:+: text) : ¬ mark <:+: Text.replace token new text := by
  -- The ends of the new text are no characters of the mark, so a mark lies within or without it.
  obtain ⟨⟨c, arrives, front⟩, ⟨d, leaves, back⟩, absent⟩ := foreign
  intro found
  obtain ⟨rest, behind, stands, -⟩ :=
    Text.exists_of_infix_replace arrives leaves front back absent found
  exact clear (stands.isInfix.trans behind.isInfix)

/-- A whole number is written in digits, with a minus sign or without. -/
theorem isDigit_or_minus_of_mem_intText {n : Int} {c : Char} (among : c ∈ intText n) :
    c.isDigit = true ∨ c = '-' := by
  -- The sign is the only character that is no digit.
  unfold intText at among
  split at among
  · rcases List.mem_cons.mp among with rfl | digit
    · exact .inr rfl
    · exact .inl (isDigit_of_mem_natText digit)
  · exact .inl (isDigit_of_mem_natText among)

/-- No character of a whole number is one of a token. -/
theorem not_mem_token_of_mem_intText {n : Int} {token : List Char} (known : token ∈ tokens)
    {c : Char} (among : c ∈ intText n) : c ∉ token := by
  -- Tokens are words behind a dollar sign.
  have letters : (tokens.all fun token => token.all fun c => !c.isDigit && c ≠ '-') = true := by
    decide
  simp only [List.all_eq_true, Bool.and_eq_true, Bool.not_eq_true', decide_eq_true_eq] at letters
  intro inside
  obtain ⟨noDigit, noMinus⟩ := letters token known c inside
  rcases isDigit_or_minus_of_mem_intText among with digit | minus
  · rw [digit] at noDigit
    cases noDigit
  · exact noMinus minus

/-- Characters that are none of a token's push its occurrences behind them. -/
theorem occurs_append_of_apart {token : List Char} (solid : token ≠ []) {before : List Char}
    (apart : ∀ c ∈ before, c ∉ token) (after : List Char) :
    occurs token (before ++ after) = occurs token after := by
  -- Each character divides the text, and nothing stands in front of it.
  induction before with
  | nil => rfl
  | cons c more ih =>
    rw [List.forall_mem_cons] at apart
    have divided := Text.occurs_divided solid apart.1 [] (more ++ after)
    have none : occurs token [] = false := by simp [occurs, solid]
    rw [none, Bool.false_or, ih apart.2] at divided
    exact divided

/-- A whole number is foreign to every token. -/
theorem foreign_intText {token : List Char} (known : token ∈ tokens) (n : Int) :
    Foreign token (intText n) := by
  obtain ⟨c, more, shape, -⟩ := Json.intText_starts n
  have solid : intText n ≠ [] := by simp [shape]
  refine ⟨⟨c, by rw [shape]; rfl, not_mem_token_of_mem_intText (n := n) known (by simp [shape])⟩,
    ⟨(intText n).getLast solid, List.getLast?_eq_some_getLast solid,
      not_mem_token_of_mem_intText known (List.getLast_mem solid)⟩, ?_⟩
  -- Even the quote that a token starts with is missing.
  have quoted : ∀ token ∈ tokens, '"' ∈ token := by decide
  intro inside
  have quote := quoted token known
  exact not_mem_token_of_mem_intText known (inside.subset quote) quote

/-- A date has its digits between two texts that hold no token. -/
theorem dateText_parts (millis : Int64) :
    dateText millis = "\x7b\"$date\": \x7b\"$numberLong\"".toList ++ ':' ::
      ([' ', '"'] ++ (intText millis.toInt ++ ['"', '\x7d', '\x7d'])) := by
  -- The colon is set apart as the place where the value of a member begins.
  have shape (digits : List Char) :
      "\x7b\"$date\": \x7b\"$numberLong\": \"".toList ++ digits ++ "\"\x7d\x7d".toList =
        "\x7b\"$date\": \x7b\"$numberLong\"".toList ++ ':' ::
          ([' ', '"'] ++ (digits ++ ['"', '\x7d', '\x7d'])) := by simp
  exact shape (intText millis.toInt)

/-- No token stands in a date, neither in its keys nor at its digits. -/
theorem occurs_dateText {token : List Char} (known : token ∈ tokens) (millis : Int64) :
    occurs token (dateText millis) = false := by
  -- The colon behind the second key and the first digit divide the date.
  have pieces : ∀ token ∈ tokens, token ≠ [] ∧ ':' ∉ token ∧
      occurs token "\x7b\"$date\": \x7b\"$numberLong\"".toList = false ∧
      occurs token [' ', '"'] = false ∧ occurs token ['"', '\x7d', '\x7d'] = false := by decide
  obtain ⟨solid, colon, keys, opening, closing⟩ := pieces token known
  obtain ⟨c, more, shape, -⟩ := Json.intText_starts millis.toInt
  have apart : ∀ d ∈ c :: more, d ∉ token := fun d among =>
    not_mem_token_of_mem_intText (n := millis.toInt) known (by rw [shape]; exact among)
  rw [List.forall_mem_cons] at apart
  have digits : intText millis.toInt ++ ['"', '\x7d', '\x7d'] =
      c :: (more ++ ['"', '\x7d', '\x7d']) := by rw [shape, List.cons_append]
  rw [dateText_parts, Text.occurs_divided solid colon, keys, digits,
    Text.occurs_divided solid apart.1, opening, occurs_append_of_apart solid apart.2]
  exact closing

/-- A date is foreign to every token. -/
theorem foreign_dateText {token : List Char} (known : token ∈ tokens) (millis : Int64) :
    Foreign token (dateText millis) := by
  -- A date begins and ends with braces, and no token has any.
  have braces : ∀ token ∈ tokens, '\x7b' ∉ token ∧ '\x7d' ∉ token := by decide
  obtain ⟨opening, closing⟩ := braces token known
  have absent := occurs_dateText known millis
  rw [Bool.eq_false_iff, Ne, Text.occurs_iff] at absent
  have ends : (dateText millis).getLast? = some '\x7d' := by
    simp [dateText_parts, List.getLast?_cons]
  exact ⟨⟨'\x7b', rfl, opening⟩, ⟨'\x7d', ends, closing⟩, absent⟩

/--
Filling leaves no placeholder in a text, however the text puts them beside or into one another, and
a filled text stays as it is when it is filled with other values.
-/
theorem fill_settles (values : Placeholders) (text : List Char) :
    (∀ token ∈ tokens, ¬ token <:+: values.fill text) ∧
      ∀ others : Placeholders, others.fill (values.fill text) = values.fill text := by
  have start : startToken ∈ tokens := by decide
  have stop : stopToken ∈ tokens := by decide
  have samples : samplesToken ∈ tokens := by decide
  -- Each pass clears the text of its own token, and later passes bring none of them back.
  have starts : ¬ startToken <:+: values.fill text :=
    (foreign_intText start _).not_infix_replace
      ((foreign_dateText start values.stop).not_infix_replace
        ((foreign_dateText start values.start).not_infix_replace_self text))
  have stops : ¬ stopToken <:+: values.fill text :=
    (foreign_intText stop _).not_infix_replace
      ((foreign_dateText stop values.stop).not_infix_replace_self _)
  have numbers : ¬ samplesToken <:+: values.fill text :=
    (foreign_intText samples _).not_infix_replace_self _
  have none : ∀ token ∈ tokens, ¬ token <:+: values.fill text := by
    simp only [tokens, List.forall_mem_cons]
    exact ⟨starts, stops, numbers, by simp⟩
  refine ⟨none, fun others => others.fill_eq_self fun token known => ?_⟩
  rw [Bool.eq_false_iff, Ne, Text.occurs_iff]
  exact none token known

/-- A placeholder that shares its quotes with its neighbours is none once they are filled. -/
example : fill ⟨1, 2, 3⟩ "\"$maxDataPoints\"$to\"$from\"".toList =
    "3$to\x7b\"$date\": \x7b\"$numberLong\": \"1\"\x7d\x7d".toList := by
  decide

end DocSource.Placeholders
