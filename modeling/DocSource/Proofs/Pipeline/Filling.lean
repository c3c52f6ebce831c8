import DocSource.Bson.Printer
import DocSource.Pipeline.Placeholder
import DocSource.Proofs.Json.Substitution

/-! Filling placeholders in the text of JSON is filling them in the value, string by string. -/

namespace DocSource

namespace Placeholders

/-- The names of all placeholders. -/
def names : List String := ["$from", "$to", "$maxDataPoints"]

/-- What a string stands for: an instant or a number when it is a placeholder, else itself. -/
def filling (values : Placeholders) (text : String) : Json :=
  -- Only a whole string is a placeholder, never a piece of one.
  if text = "$from" then Bson.dateJson .canonical values.start
  else if text = "$to" then Bson.dateJson .canonical values.stop
  else if text = "$maxDataPoints" then .int values.samples.toInt
  else .string text

/-- How a string is written once the placeholders are filled. -/
def spelling (values : Placeholders) (text : String) : List Char :=
  -- A date is written with blanks, unlike the printer writes it.
  if text = "$from" then dateText values.start
  else if text = "$to" then dateText values.stop
  else if text = "$maxDataPoints" then intText values.samples.toInt
  else Json.quoted text

/-- Each placeholder is quoted as it is. -/
theorem mark_of_mem_names {name : String} (among : name ∈ names) : Json.Mark name := by
  -- There are three names to look at.
  have dollar : ∀ name ∈ names, name.toList.head? = some '$' := by decide
  have plain : ∀ name ∈ names, name.toList.all Json.isPlain = true := by decide
  exact ⟨dollar name among, plain name among⟩

/-- An instant is an object in an object, with a blank behind each colon. -/
theorem dateText_eq (millis : Int64) :
    dateText millis = '\x7b' :: Json.memberText "$date" (' ' :: '\x7b' ::
      Json.memberText "$numberLong" (' ' :: Json.quoted (String.ofList (intText millis.toInt))) ++
        ['\x7d']) ++ ['\x7d'] := by
  -- The two keys are quoted as they are, and so are the digits.
  have outer : Json.quoted "$date" = '"' :: ("$date".toList ++ ['"']) :=
    Json.quoted_eq _ (by decide)
  have inner : Json.quoted "$numberLong" = '"' :: ("$numberLong".toList ++ ['"']) :=
    Json.quoted_eq _ (by decide)
  have shape (digits : List Char) :
      "\x7b\"$date\": \x7b\"$numberLong\": \"".toList ++ digits ++ "\"\x7d\x7d".toList =
        '\x7b' :: ('"' :: ("$date".toList ++ ['"']) ++ ':' :: ' ' :: '\x7b' ::
          ('"' :: ("$numberLong".toList ++ ['"']) ++ ':' :: ' ' ::
            '"' :: (digits ++ ['"'])) ++ ['\x7d']) ++ ['\x7d'] := by simp
  unfold Json.memberText
  rw [outer, inner, Json.quoted_intText]
  exact shape (intText millis.toInt)

/-- An instant spells its extended JSON. -/
theorem spells_dateText (millis : Int64) :
    Json.Spells (dateText millis) (Bson.dateJson .canonical millis).written := by
  -- The digits are a string in an object in an object.
  rw [dateText_eq]
  have digits := Json.spells_quoted (String.ofList (intText millis.toInt))
  have inner := Json.spells_single "$numberLong" (digits.blank (c := ' ') rfl)
  exact Json.spells_single "$date" (inner.blank (c := ' ') rfl)

/-- Every string spells what it stands for. -/
theorem spells_spelling (values : Placeholders) (text : String) :
    Json.Spells (values.spelling text) (values.filling text).written := by
  -- The two case distinctions are made in the same order.
  unfold spelling filling
  split
  · exact spells_dateText values.start
  · split
    · exact spells_dateText values.stop
    · split
      · exact Json.spells_int (fitsInt64_toInt values.samples)
      · exact Json.spells_quoted text

/-- What a string stands for has distinct keys. -/
theorem keysDistinct_filling (values : Placeholders) (text : String) :
    (values.filling text).KeysDistinct := by
  -- A date is the only object, with one key on each level.
  unfold filling
  repeat' split
  all_goals
    simp [Json.KeysDistinct, Json.parts, Json.partsOfMembers, Bson.dateJson, Bson.longJson,
      Bson.wrap, Json.int]

/-- No key of a value is a placeholder, and no key or string ends with one behind a quote. -/
structure Fillable (json : Json) : Prop where
  -- A string that ends so would be cut at its closing quote.
  keys : ∀ members, .object members ∈ json.parts → ∀ member ∈ members, ∀ name ∈ names,
    member.1 ≠ name ∧ ¬ '"' :: name.toList <:+ member.1.toList
  strings : ∀ text, .string text ∈ json.parts → ∀ name ∈ names,
    ¬ '"' :: name.toList <:+ text.toList

/-- Spellings where a name is written as another text. -/
def respelled (name : String) (new : List Char) (spell : String → List Char) (text : String) :
    List Char :=
  -- Later names win over earlier ones, and no name is another.
  if text = name then new else spell text

/-- The spelling of any other string, which does not end with the name, holds no such name. -/
def Stable (name : String) (spell : String → List Char) : Prop :=
  -- The text that takes the place of the name does not matter here.
  ∀ new text, text ≠ name → ¬ '"' :: name.toList <:+ text.toList →
    Json.Rewrites name new (spell text) (spell text)

/-- Strings between quotes hold no other name. -/
theorem stable_quoted {name : String} (among : name ∈ names) : Stable name Json.quoted :=
  -- A name would have to start at a quote, and the only quotes are those around the string.
  fun _ _ differs clear => Json.rewrites_quoted (mark_of_mem_names among) differs clear

/-- A text that holds no name may be written for other strings. -/
theorem Stable.respelled {name other : String} {text : List Char} {spell : String → List Char}
    (stable : Stable name spell) (free : ∀ new, Json.Rewrites name new text text) :
    Stable name (respelled other text spell) := by
  -- A string is spelled as before, or as the new text.
  intro new string differs clear
  unfold Placeholders.respelled
  split
  · exact free new
  · exact stable new string differs clear

/-- An instant holds no placeholder. -/
theorem rewrites_dateText {name : String} (among : name ∈ names) (millis : Int64)
    (new : List Char) : Json.Rewrites name new (dateText millis) (dateText millis) := by
  -- The keys of a date are no placeholders, and neither are its digits.
  have mark := mark_of_mem_names among
  have apart : ∀ key ∈ ["$date", "$numberLong"], ∀ name ∈ names,
      key ≠ name ∧ ¬ '"' :: name.toList <:+ key.toList := by decide
  have outer := apart "$date" (by simp) name among
  have inner := apart "$numberLong" (by simp) name among
  have digits : Json.Rewrites name new (Json.quoted (String.ofList (intText millis.toInt)))
      (Json.quoted (String.ofList (intText millis.toInt))) := by
    refine Json.rewrites_quoted mark ?_ ?_
    · -- No number starts with a dollar sign.
      rintro rfl
      obtain ⟨c, more, shape, starts⟩ := Json.intText_starts millis.toInt
      have dollar := mark.dollar
      rw [String.toList_ofList, shape] at dollar
      cases dollar
      rcases starts with digit | minus
      · exact absurd digit (by decide)
      · exact absurd minus (by decide)
    · intro ends
      rw [String.toList_ofList] at ends
      exact Json.quote_not_mem_intText millis.toInt (ends.subset List.mem_cons_self)
  rw [dateText_eq]
  have long := ((digits.cons (c := ' ') (by decide)).member mark inner.1 inner.2).enclosed
    '\x7b' '\x7d' (by decide)
  exact ((long.cons (c := ' ') (by decide)).member mark outer.1 outer.2).enclosed
    '\x7b' '\x7d' (by decide)

/-- In one pass over the text of a value, one name is written as another text. -/
theorem replace_compactWith {json : Json} (fillable : Fillable json) (whole : json.NumbersWhole)
    {name : String} (among : name ∈ names) (new : List Char) (spell : String → List Char)
    (own : spell name = Json.quoted name) (stable : Stable name spell) :
    Text.replace (Json.quoted name) new (json.compactWith spell) =
      json.compactWith (respelled name new spell) := by
  -- The name is the one string whose spelling changes.
  have mark := mark_of_mem_names among
  refine (Json.rewrites_compactWith mark spell _ json whole
    (fun members inside member within => fillable.keys members inside member within name among)
    fun text inside => ?_).replace_eq
  unfold respelled
  split
  · next same =>
    rw [same, own]
    exact Json.rewrites_name mark
  · next differs => exact stable new text differs (fillable.strings text inside name among)

/-- Filling the text of a value writes every string that is a placeholder as its value. -/
theorem fill_compact (values : Placeholders) {json : Json} (fillable : Fillable json)
    (whole : json.NumbersWhole) :
    values.fill json.compact = json.compactWith values.spelling := by
  have start : Json.quoted "$from" = startToken := Json.quoted_eq "$from" (by decide)
  have stop : Json.quoted "$to" = stopToken := Json.quoted_eq "$to" (by decide)
  have samples : Json.quoted "$maxDataPoints" = samplesToken :=
    Json.quoted_eq "$maxDataPoints" (by decide)
  -- Three passes, each over what the one before it left.
  let started := respelled "$from" (dateText values.start) Json.quoted
  let stopped := respelled "$to" (dateText values.stop) started
  have first := replace_compactWith fillable whole (show "$from" ∈ names by decide)
    (dateText values.start) Json.quoted rfl (stable_quoted (by decide))
  have second := replace_compactWith fillable whole (show "$to" ∈ names by decide)
    (dateText values.stop) started (if_neg (by decide))
    ((stable_quoted (by decide)).respelled (rewrites_dateText (by decide) values.start))
  have third := replace_compactWith fillable whole (show "$maxDataPoints" ∈ names by decide)
    (intText values.samples.toInt) stopped
    ((if_neg (by decide)).trans (if_neg (by decide)))
    (((stable_quoted (by decide)).respelled (rewrites_dateText (by decide) values.start)).respelled
      (rewrites_dateText (by decide) values.stop))
  have final : respelled "$maxDataPoints" (intText values.samples.toInt) stopped =
      values.spelling := by
    funext text
    simp only [stopped, started, respelled, spelling]
    repeat' split
    all_goals simp_all
  rw [start, Json.compactWith_quoted] at first
  rw [stop] at second
  rw [samples, final] at third
  simp only [fill]
  rw [first, second, third]

/-- A value whose placeholders are filled; keys stay. -/
def filled (values : Placeholders) (json : Json) : Json := json.mapStrings values.filling

/-- The filled text of a value reads as the filled value. -/
theorem read?_fill_compact (values : Placeholders) {json : Json} (fillable : Fillable json)
    (whole : json.NumbersWhole) (distinct : json.KeysDistinct)
    (shallow : (values.filled json).depth ≤ Json.depthLimit) :
    Json.read? (values.fill json.compact) = some (values.filled json) := by
  -- The filled text spells the filled value, string by string.
  rw [values.fill_compact fillable whole]
  have spelled := Json.spells_compactWith values.spelling values.filling id json whole.spelled
    fun text _ => values.spells_spelling text
  rw [Json.mapNumbers_id] at spelled
  exact Json.read?_of_spells spelled (distinct.mapStrings values.keysDistinct_filling) shallow

end Placeholders

end DocSource
