import DocSource.Proofs.Json.Spelling

/-!
Arrays and objects are read part by part: where each part of a text reads as a value, so does the
whole.
-/

namespace DocSource.Json

/-- Blanks in front of the first item make no difference. -/
theorem takeItems_skipSpace (fuel : Nat) (text : List Char) :
    takeItems fuel (skipSpace text) = takeItems fuel text := by
  -- The first item is read as a value, which passes over blanks by itself.
  cases fuel with
  | zero => rfl
  | succ fuel => rw [takeItems, takeItems, takeValue_skipSpace]

/-- No item starts with the bracket that closes an array. -/
theorem takeItems_bracket (fuel : Nat) (text : List Char) :
    takeItems fuel (']' :: text) = none := by
  -- No literal starts with a bracket either.
  have value : takeValue fuel.pred (']' :: text) = none := by
    cases fuel.pred with
    | zero => rfl
    | succ fuel =>
      simp [takeValue, skipSpace, isSpace, takeLiteral, takeMinus, Literal.takeDigits]
  cases fuel with
  | zero => rfl
  | succ fuel =>
    rw [Nat.pred_succ] at value
    simp [takeItems, value]

/-- What is taken as items behind a bracket is taken as an array with it. -/
theorem takeValue_array {fuel : Nat} {text body left : List Char} {items : List Written}
    (opened : skipSpace text = '[' :: body) (taken : takeItems fuel body = some (items, left)) :
    takeValue (fuel + 1) text = some (.array items, left) := by
  -- Items never start with a closing bracket, so the array is not the empty one.
  rw [← takeItems_skipSpace] at taken
  rw [takeValue, opened]
  simp only
  split
  · next closed => simp [closed, takeItems_bracket] at taken
  · simp [taken]

/-- Items between commas are taken up to the bracket behind them. -/
theorem takeItems_joined {α : Type} {text : α → List Char} {value : α → Written}
    {items : List α} (solid : items ≠ [])
    (reads : ∀ item ∈ items, Reads (text item) (value item)) (fuel : Nat) (rest : List Char)
    (enough : 2 * (Text.joined [','] (items.map text)).length + 3 ≤ fuel) :
    takeItems fuel (Text.joined [','] (items.map text) ++ ']' :: rest) =
      some (items.map value, rest) := by
  -- Each item is followed by a comma and the other items, or by the bracket.
  induction items generalizing fuel with
  | nil => exact absurd rfl solid
  | cons item others ih =>
    obtain ⟨fuel, rfl⟩ : ∃ n, fuel = n + 1 := ⟨fuel - 1, by omega⟩
    have first := reads item (by simp)
    cases others with
    | nil =>
      simp only [List.map_cons, List.map_nil, Text.joined] at enough ⊢
      obtain ⟨left, taken, behind⟩ := first fuel (']' :: rest) (by omega) (by simp [closes])
      rw [skipSpace_solid (c := ']') rfl] at behind
      simp [takeItems, taken, behind]
    | cons next more =>
      simp only [List.map_cons, Text.joined, List.length_append, List.length_singleton]
        at enough ih ⊢
      obtain ⟨left, taken, behind⟩ := first fuel
        (',' :: (Text.joined [','] (text next :: more.map text) ++ ']' :: rest))
        (by omega) (by simp [closes])
      rw [skipSpace_solid (c := ',') rfl] at behind
      have remaining := ih (by simp) (fun other among => reads other (by simp [among])) fuel
        (by omega)
      simp [takeItems, taken, behind, remaining]

/-- Items that read as values make an array between brackets and commas. -/
theorem spells_array_of_reads {α : Type} (text : α → List Char) (value : α → Written)
    (items : List α) (reads : ∀ item ∈ items, Reads (text item) (value item)) :
    Spells ('[' :: Text.joined [','] (items.map text) ++ [']']) (.array (items.map value)) := by
  -- Nothing between the brackets is the empty array; otherwise the items are taken one by one.
  intro fuel rest enough ends
  simp only [List.length_append, List.length_cons, List.length_nil] at enough
  -- The bracket takes a step of its own, and what is left is enough for the items.
  obtain ⟨fuel, rfl⟩ : ∃ n, fuel = n + 1 := ⟨fuel - 1, by omega⟩
  by_cases none : items = []
  · subst none
    simp [Text.joined, takeValue, skipSpace, isSpace]
  · rw [List.cons_append, List.cons_append, List.append_assoc]
    exact takeValue_array (skipSpace_solid rfl)
      (takeItems_joined none reads fuel rest (by omega))

/-- Spelled items between brackets and commas spell an array. -/
theorem spells_array {α : Type} (text : α → List Char) (value : α → Written) (items : List α)
    (spelled : ∀ item ∈ items, Spells (text item) (value item)) :
    Spells ('[' :: Text.joined [','] (items.map text) ++ [']']) (.array (items.map value)) :=
  -- A text that spells a value reads as it.
  spells_array_of_reads text value items fun item among => (spelled item among).reads

/-- Blanks in front of the first member make no difference. -/
theorem takeMembers_skipSpace (fuel : Nat) (text : List Char) :
    takeMembers fuel (skipSpace text) = takeMembers fuel text := by
  -- The key of the first member is looked for behind blanks anyway.
  cases fuel with
  | zero => rfl
  | succ fuel => rw [takeMembers, takeMembers, skipSpace_skipSpace]

/-- No member starts with the brace that closes an object. -/
theorem takeMembers_brace (fuel : Nat) (text : List Char) :
    takeMembers fuel ('\x7d' :: text) = none := by
  -- A member starts with the quote of its key.
  cases fuel with
  | zero => rfl
  | succ fuel => simp [takeMembers, skipSpace, isSpace]

/-- What is taken as members behind a brace is taken as an object with it. -/
theorem takeValue_object {fuel : Nat} {text body left : List Char}
    {members : List (Option String × Written)} (opened : skipSpace text = '\x7b' :: body)
    (taken : takeMembers fuel body = some (members, left)) :
    takeValue (fuel + 1) text = some (.object members, left) := by
  -- Members never start with a closing brace, so the object is not the empty one.
  rw [← takeMembers_skipSpace] at taken
  rw [takeValue, opened]
  simp only
  split
  · next closed => simp [closed, takeMembers_brace] at taken
  · simp [taken]

/-- A member's key and a spelled value behind a colon. -/
def memberText (key : String) (value : List Char) : List Char := quoted key ++ ':' :: value

/-- A member as it is written: the text of its key, and the text of its value. -/
structure Member where
  key : String
  keyText : List Char
  valueText : List Char

/-- The text of a member, its key and its value around a colon. -/
def Member.text (member : Member) : List Char := member.keyText ++ ':' :: member.valueText

/-- A member whose key is written between quotes. -/
def Member.quoted (key : String) (valueText : List Char) : Member :=
  ⟨key, Json.quoted key, valueText⟩

section

variable {member : Member} {value : Written} {rest : List Char} {fuel : Nat}
  (names : Names member.keyText member.key) (reads : Reads member.valueText value)
  (enough : 2 * member.valueText.length + 2 ≤ fuel)
include names reads enough

/-- A member is taken with its value, and a brace behind it ends the members. -/
theorem takeMembers_last :
    takeMembers (fuel + 1) (member.text ++ '\x7d' :: rest) =
      some ([(some member.key, value)], rest) := by
  -- The key is read up to its quote, and the value behind the colon.
  obtain ⟨string, colon, opened, keyed, marked⟩ :=
    names (':' :: (member.valueText ++ '\x7d' :: rest))
  obtain ⟨left, taken, behind⟩ := reads fuel ('\x7d' :: rest) enough (by simp [closes])
  rw [skipSpace_solid (c := ':') rfl] at marked
  rw [skipSpace_solid (c := '\x7d') rfl] at behind
  simp [Member.text, takeMembers, opened, keyed, marked, taken, behind]

/-- A member is taken with its value, and a comma behind it leads on to the others. -/
theorem takeMembers_more :
    takeMembers (fuel + 1) (member.text ++ ',' :: rest) =
      (takeMembers fuel rest).map fun (members, rest) =>
        ((some member.key, value) :: members, rest) := by
  -- The key, the colon, the value and the comma are taken in turn, each behind blanks.
  obtain ⟨string, colon, opened, keyed, marked⟩ :=
    names (':' :: (member.valueText ++ ',' :: rest))
  obtain ⟨left, taken, behind⟩ := reads fuel (',' :: rest) enough (by simp [closes])
  rw [skipSpace_solid (c := ':') rfl] at marked
  rw [skipSpace_solid (c := ',') rfl] at behind
  simp only [Member.text, List.append_assoc, List.cons_append, takeMembers, opened, keyed, marked,
    taken, behind, Option.bind_eq_bind, Option.bind_some]
  cases takeMembers fuel rest <;> rfl

end

/-- Members between commas are taken up to the brace behind them. -/
theorem takeMembers_joined {α : Type} {member : α → Member} {value : α → Written} {parts : List α}
    (solid : parts ≠ []) (names : ∀ part ∈ parts, Names (member part).keyText (member part).key)
    (reads : ∀ part ∈ parts, Reads (member part).valueText (value part)) (fuel : Nat)
    (rest : List Char)
    (enough : 2 * (Text.joined [','] (parts.map fun part => (member part).text)).length + 3 ≤
      fuel) :
    takeMembers fuel
        (Text.joined [','] (parts.map fun part => (member part).text) ++ '\x7d' :: rest) =
      some (parts.map fun part => (some (member part).key, value part), rest) := by
  -- Each member is followed by a comma and the other members, or by the brace.
  induction parts generalizing fuel with
  | nil => exact absurd rfl solid
  | cons part others ih =>
    obtain ⟨fuel, rfl⟩ : ∃ n, fuel = n + 1 := ⟨fuel - 1, by omega⟩
    have shorter : (member part).valueText.length < (member part).text.length := by
      simp only [Member.text, List.length_append, List.length_cons]
      omega
    cases others with
    | nil =>
      simp only [List.map_cons, List.map_nil, Text.joined] at enough ⊢
      exact takeMembers_last (names part (by simp)) (reads part (by simp)) (by omega)
    | cons next more =>
      simp only [List.map_cons, Text.joined, List.length_append, List.length_singleton]
        at enough ih ⊢
      have remaining := ih (by simp) (fun other among => names other (by simp [among]))
        (fun other among => reads other (by simp [among])) fuel (by omega)
      rw [List.append_assoc, List.append_assoc, List.singleton_append,
        takeMembers_more (names part (by simp)) (reads part (by simp)) (by omega), remaining]
      rfl

/-- Members that read as keys and values make an object between braces and commas. -/
theorem spells_object_of_reads {α : Type} (member : α → Member) (value : α → Written)
    (parts : List α) (names : ∀ part ∈ parts, Names (member part).keyText (member part).key)
    (reads : ∀ part ∈ parts, Reads (member part).valueText (value part)) :
    Spells ('\x7b' :: Text.joined [','] (parts.map fun part => (member part).text) ++ ['\x7d'])
      (.object (parts.map fun part => (some (member part).key, value part))) := by
  -- Nothing between the braces is the empty object; otherwise the members are taken one by one.
  intro fuel rest enough ends
  simp only [List.length_append, List.length_cons, List.length_nil] at enough
  -- The brace takes a step of its own, and what is left is enough for the members.
  obtain ⟨fuel, rfl⟩ : ∃ n, fuel = n + 1 := ⟨fuel - 1, by omega⟩
  by_cases none : parts = []
  · subst none
    simp [Text.joined, takeValue, skipSpace, isSpace]
  · rw [List.cons_append, List.cons_append, List.append_assoc]
    exact takeValue_object (skipSpace_solid rfl)
      (takeMembers_joined none names reads fuel rest (by omega))

/-- Spelled members between braces and commas spell an object. -/
theorem spells_object {α : Type} (key : α → String) (text : α → List Char)
    (value : α → Written) (members : List α)
    (spelled : ∀ member ∈ members, Spells (text member) (value member)) :
    Spells ('\x7b' :: Text.joined [','] (members.map fun member =>
        memberText (key member) (text member)) ++ ['\x7d'])
      (.object (members.map fun member => (some (key member), value member))) :=
  -- A quoted key names itself, and a text that spells a value reads as it.
  spells_object_of_reads (fun member => .quoted (key member) (text member)) value members
    (fun member _ => names_quoted (key member)) fun member among => (spelled member among).reads

/-- An object of one member is spelled by that member between braces. -/
theorem spells_single (key : String) {text : List Char} {value : Written}
    (spelled : Spells text value) :
    Spells ('\x7b' :: memberText key text ++ ['\x7d']) (.object [(some key, value)]) :=
  -- A single member needs no comma.
  spells_object (fun _ => key) (fun _ => text) (fun _ => value) [()] fun _ _ => spelled

end DocSource.Json
