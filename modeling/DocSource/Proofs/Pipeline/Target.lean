import DocSource.Proofs.Pipeline.Grammar

/-! Targets as they are written: a bare list of stages, and a call on a collection. -/

namespace DocSource

namespace Target

/-- Something is left of a name that is not blank when it is trimmed. -/
theorem trim_ne_nil {name : String} (solid : Text.blank name = false) :
    Text.trim name.toList ≠ [] := by
  -- A name that leaves nothing has blanks only.
  intro nothing
  have blank := List.all_eq_true.mpr (Text.trim_eq_nil_iff.mp nothing)
  rw [Text.blank, blank] at solid
  cases solid

/-- A text that is no call is the list of stages for the collection given beside it. -/
theorem ofText_bare {text : List Char} (bare : ¬ callMark <+: Text.trim text)
    {collection : String} (solid : Text.blank collection = false) :
    ofText text (some collection) = .ok ⟨Text.trimmed collection, Text.trim text⟩ :=
  -- The given collection is not blank, so it is taken without the blanks at its ends.
  (ofText_eq_ok_iff_of_bare bare).mpr ⟨collection, rfl, trim_ne_nil solid, rfl⟩

/-- A list of stages is read as it stands, for the collection given beside it. -/
theorem ofText_list (text : List Char) {collection : String}
    (named : Text.blank collection = false) :
    ofText ('[' :: text ++ [']']) (some collection) =
      .ok ⟨Text.trimmed collection, '[' :: text ++ [']']⟩ := by
  -- A bracket is no blank, and no call starts with it.
  have kept := Text.trim_enclosed '[' ']' text rfl rfl
  have bare : ¬ callMark <+: Text.trim ('[' :: text ++ [']']) := by
    rw [kept]
    intro front
    cases List.cons_prefix_cons.mp front with | intro same _ => exact absurd same (by decide)
  rw [ofText_bare bare named, kept]

/-- A name that a call can give: it is trimmed, and ends at the bracket behind it. -/
structure Callable (collection : String) : Prop where
  solid : collection ≠ ""
  trimmed : Text.trimmed collection = collection
  bracket : '(' ∉ collection.toList
  quote : '"' ∉ collection.toList

/-- What may stand behind a call: blanks, with at most one semicolon among them. -/
def Closing (text : List Char) : Prop :=
  -- A semicolon needs no blank on either side.
  (∀ c ∈ text, Text.isBlank c = true) ∨
    ∃ before after, (∀ c ∈ before, Text.isBlank c = true) ∧
      (∀ c ∈ after, Text.isBlank c = true) ∧ text = before ++ ';' :: after

/-- Behind a call there is nothing but blanks and a semicolon. -/
theorem Closing.not_mem {text : List Char} (closes : Closing text) {c : Char}
    (solid : Text.isBlank c = false) (other : c ≠ ';') : c ∉ text := by
  -- The character is no blank and no semicolon, and there is nothing else.
  intro among
  have dark : ∀ blanks : List Char, (∀ c ∈ blanks, Text.isBlank c = true) → c ∉ blanks := by
    intro blanks blank inside
    rw [blank c inside] at solid
    cases solid
  rcases closes with blank | ⟨before, after, blankBefore, blankAfter, rfl⟩
  · exact dark text blank among
  · simp only [List.mem_append, List.mem_cons] at among
    rcases among with inside | same | inside
    · exact dark before blankBefore inside
    · exact other same
    · exact dark after blankAfter inside

/-- What stands in a call before its argument. -/
def opening (collection : String) : List Char :=
  callMark ++ collection.toList ++ ".aggregate(".toList

/-- The text of a call. -/
def callText (collection : String) (argument closing : List Char) : List Char :=
  opening collection ++ argument ++ ')' :: closing

/-- A call is trimmed to its last bracket, or to a semicolon behind that. -/
theorem trim_callText (collection : String) {closing : List Char} (closes : Closing closing)
    (argument : List Char) :
    ∃ rest, Text.trim (callText collection argument closing) = callText collection argument rest ∧
      ')' ∉ rest ∧ (Text.trim rest = [] ∨ Text.trim rest = [';']) := by
  -- A call starts with a letter, so it is trimmed at its end alone.
  have enclosed : ∀ inner last, Text.isBlank last = false →
      Text.trim (opening collection ++ inner ++ [last]) = opening collection ++ inner ++ [last] :=
    fun inner last => Text.trim_enclosed 'd' last
      ('b' :: '.' :: collection.toList ++ ".aggregate(".toList ++ inner) rfl
  rcases closes with blank | ⟨before, after, blankBefore, blankAfter, rfl⟩
  · have shape : callText collection argument closing =
        opening collection ++ argument ++ [')'] ++ closing := by simp [callText]
    refine ⟨[], ?_, List.not_mem_nil, .inl rfl⟩
    rw [shape, Text.trim_append_blank blank, enclosed argument ')' rfl]
    rfl
  · have shape : callText collection argument (before ++ ';' :: after) =
        opening collection ++ (argument ++ ')' :: before) ++ [';'] ++ after := by simp [callText]
    have ended : opening collection ++ (argument ++ ')' :: before) ++ [';'] =
        callText collection argument (before ++ [';']) := by simp [callText]
    refine ⟨before ++ [';'], ?_, ?_, .inr ?_⟩
    · rw [shape, Text.trim_append_blank blankAfter, enclosed _ ';' rfl, ended]
    · -- No bracket is blank.
      intro bracket
      rcases List.mem_append.mp bracket with inside | inside
      · exact absurd (blankBefore ')' inside) (by decide)
      · exact absurd inside (by decide)
    · rw [Text.trim, List.dropWhile_append_of_pos blankBefore]
      rfl

namespace Callable

variable {collection : String} (callable : Callable collection)
include callable

/-- The name of a call is not blank. -/
theorem not_blank : Text.blank collection = false := by
  -- A blank name has nothing left when it is trimmed.
  rw [Bool.eq_false_iff]
  intro blank
  have nothing : Text.trim collection.toList = [] :=
    Text.trim_eq_nil_iff.mpr (List.all_eq_true.mp blank)
  have same := callable.trimmed
  rw [Text.trimmed, nothing] at same
  exact callable.solid same.symm

/-- A call is read as its argument, for the collection that it names and whatever else is given. -/
theorem ofText_callText {closing : List Char} (closes : Closing closing) (argument : List Char)
    (given : Option String) :
    ofText (callText collection argument closing) given =
      .ok ⟨collection, Text.trim argument⟩ := by
  obtain ⟨rest, trimmed, apart, trailing⟩ := trim_callText collection closes argument
  let call : Call := ⟨collection.toList, "aggregate".toList, argument, rest⟩
  have written : callText collection argument rest = call.text := by
    simp [call, callText, opening, Call.text, Call.head]
  -- Neither the name nor the method holds the bracket that opens the argument.
  have opens : '(' ∉ call.head := by
    simp only [call, Call.head, List.mem_append, List.mem_cons, not_or]
    exact ⟨by decide, callable.bracket, by decide, by decide⟩
  have points : '.' ∉ "aggregate".toList := by decide
  have aggregates : Text.trim "aggregate".toList = "aggregate".toList := by decide
  have accepted : call.Accepted :=
    ⟨⟨opens, apart, points⟩, trailing, aggregates, trim_ne_nil callable.not_blank⟩
  have target : call.target = ⟨collection, Text.trim argument⟩ := by
    rw [Call.target, ← Text.trimmed, callable.trimmed]
  have called : callMark <+: call.text := by simp [Call.text, Call.head]
  rw [ofText, trimmed, written, if_pos (List.isPrefixOf_iff_prefix.mpr called)]
  exact (Call.ofCall_eq_ok_iff called).mpr ⟨call, accepted, rfl, target⟩

end Callable

end Target

end DocSource
