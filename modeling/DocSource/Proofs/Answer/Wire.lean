import DocSource.Host.Request
import DocSource.Proofs.Answer.Doubles
import DocSource.Proofs.Json.Doubles

/-!
Responses on the wire: the text of a response reads back as the response, each double as what its
own text reads as, unless there is a double that stands for no number. Main statement:
`Response.ofText_text`.
-/

namespace DocSource

open Json (compactWritten_array compactWritten_object compactWritten_double)

namespace Written

/-- Two fields are found under their keys. -/
theorem fields?_pair {first second : String} (apart : first ≠ second) (a b : Written) :
    fields? [first, second] (.object [(some first, a), (some second, b)]) =
      some [some a, some b] := by
  -- Neither key is the other, so each is found once.
  simp [fields?, fieldAt?, valuesAt, apart, apart.symm]

/-- A whole number of a word is read as the word. -/
theorem int64?_compactWritten (n : Int64) : (Json.int n.toInt).compactWritten.int64? = some n := by
  -- A word that became an integer is in the range of words.
  show DocSource.int64? n.toInt = some n
  rw [DocSource.int64?, if_pos (fitsInt64_toInt n), Int64.ofInt_toInt]

/-- A finite double is read as what its text reads as, and no other is read. -/
theorem double?_compactWritten (x : Double) :
    (Json.double x).compactWritten.double? = if x.isFinite then some x.reread else none := by
  -- What is not finite is written as nothing, which is no double.
  rw [compactWritten_double]
  split <;> rfl

/-- Items are read when each of them is. -/
theorem items?_compactWritten {α β : Type} {toJson : α → Json} {read : Written → Option β}
    {good : α → Bool} {value : α → β} (elements : List α)
    (each : ∀ element ∈ elements, read (toJson element).compactWritten =
      if good element then some (value element) else none) :
    (Json.array (elements.map toJson)).compactWritten.items? read =
      if elements.all good then some (elements.map value) else none := by
  -- Reading item by item succeeds when no item is refused.
  rw [compactWritten_array, List.map_map]
  exact Lists.mapM_map_eq elements each

end Written

/-- A point is read back when its value is finite. -/
theorem Point.ofWritten?_toJson (point : Point) :
    ofWritten? point.toJson.compactWritten =
      if point.doubles.all Double.isFinite then some (point.mapDoubles Double.reread)
      else none := by
  have fields := Written.fields?_pair (show "timestamp" ≠ "value" by decide)
    (Json.int point.timestamp.toInt).compactWritten (Json.double point.value).compactWritten
  simp only [ofWritten?, toJson, compactWritten_object, List.map_cons, List.map_nil, fields,
    Written.int64?_compactWritten, Written.double?_compactWritten, Option.bind_eq_bind,
    Option.bind_some, doubles, List.all_cons, List.all_nil, Bool.and_true]
  -- The value decides, as the timestamp is always read.
  cases point.value.isFinite <;> rfl

/-- A series is read back when the values of its points are finite. -/
theorem Series.ofWritten?_toJson (series : Series) :
    ofWritten? series.toJson.compactWritten =
      if series.doubles.all Double.isFinite then some (series.mapDoubles Double.reread)
      else none := by
  -- Both fields are found, and the points are the only part that may be refused.
  have fields := Written.fields?_pair (show "name" ≠ "points" by decide)
    (Json.string series.name).compactWritten
    (Json.array (series.points.map Point.toJson)).compactWritten
  have points := Written.items?_compactWritten series.points fun point _ =>
    point.ofWritten?_toJson
  have name : (Json.string series.name).compactWritten.string? = some series.name := rfl
  simp only [ofWritten?, toJson, compactWritten_object, List.map_cons, List.map_nil, fields, name,
    points, Option.bind_eq_bind, Option.bind_some, doubles, List.all_flatMap]
  cases series.points.all fun point => point.doubles.all Double.isFinite <;> rfl

/-- A cell is read by the kind that its tag names. -/
theorem Cell.ofWritten?_tagged (kind : String) (value : Written) :
    ofWritten? (.object [(some "kind", .string (some kind)), (some "value", value)]) =
      ofKind? kind value := by
  -- The tag is found under its key, and decides how the value is read.
  have fields := Written.fields?_pair (show "kind" ≠ "value" by decide)
    (.string (some kind)) value
  simp only [ofWritten?, fields, Option.bind_eq_bind, Option.bind_some]
  rfl

/-- A cell is read back as one of its own type, unless it holds a double that is not finite. -/
theorem Cell.ofWritten?_toJson (cell : Cell) :
    ofWritten? cell.toJson.compactWritten =
      if cell.doubles.all Double.isFinite then some (cell.mapDoubles Double.reread)
      else none := by
  -- The tag is the name of the type and picks the reader, so no type is taken for another.
  cases cell with
  | double x =>
    have value := Written.double?_compactWritten x
    rw [toJson, compactWritten_object]
    refine (ofWritten?_tagged "double" _).trans ?_
    rw [ofKind?, if_pos rfl, value, doubles, List.all_cons, List.all_nil, Bool.and_true]
    cases x.isFinite <;> rfl
  | int64 n =>
    have value := Written.int64?_compactWritten n
    rw [toJson, compactWritten_object]
    refine (ofWritten?_tagged "int64" _).trans ?_
    rw [ofKind?, if_neg (by decide), if_pos rfl, value]
    rfl
  | string text => rfl
  | bool value => rfl
  | dateTime millis =>
    have value := Written.int64?_compactWritten millis
    rw [toJson, compactWritten_object]
    refine (ofWritten?_tagged "dateTime" _).trans ?_
    rw [ofKind?, if_neg (by decide), if_neg (by decide), if_neg (by decide), if_neg (by decide),
      if_pos rfl, value]
    rfl

/-- An entry of a row is read back, also when it holds no cell. -/
theorem Cell.optionOfWritten?_optionToJson (entry : Option Cell) :
    optionOfWritten? (optionToJson entry).compactWritten =
      if (Table.doublesAt entry).all Double.isFinite then
        some (entry.map (mapDoubles Double.reread))
      else none := by
  cases entry with
  | none => rfl
  | some cell =>
    -- A cell is an object, and so is not taken for an absent one.
    have shape : optionOfWritten? cell.toJson.compactWritten =
        (ofWritten? cell.toJson.compactWritten).map some := by
      cases cell <;> rfl
    show optionOfWritten? cell.toJson.compactWritten = _
    rw [shape, ofWritten?_toJson]
    show Option.map some (if cell.doubles.all Double.isFinite then _ else none) =
      if cell.doubles.all Double.isFinite then _ else none
    cases cell.doubles.all Double.isFinite <;> rfl

/-- A table is read back when the doubles in its cells are finite. -/
theorem Table.ofWritten?_toJson (table : Table) :
    ofWritten? table.toJson.compactWritten =
      if table.doubles.all Double.isFinite then some (table.mapDoubles Double.reread)
      else none := by
  have fields := Written.fields?_pair (show "columns" ≠ "rows" by decide)
    (Json.array (table.columns.map .string)).compactWritten
    (Json.array (table.rows.map fun row => .array (row.map Cell.optionToJson))).compactWritten
  have columns : (Json.array (table.columns.map .string)).compactWritten.items?
      Written.string? = some table.columns := by
    have each : ∀ name ∈ table.columns, (Json.string name).compactWritten.string? =
        if true then some name else none := fun _ _ => rfl
    simpa using Written.items?_compactWritten table.columns each
  -- Rows are read one by one, whatever their widths are.
  have rows := Written.items?_compactWritten table.rows fun row _ =>
    Written.items?_compactWritten row fun entry _ => Cell.optionOfWritten?_optionToJson entry
  simp only [ofWritten?, toJson, compactWritten_object, List.map_cons, List.map_nil, fields,
    columns, rows, Option.bind_eq_bind, Option.bind_some, doubles, List.all_flatMap]
  cases table.rows.all fun row => row.all fun entry => (doublesAt entry).all Double.isFinite <;>
    rfl

/-- The value of a payload is read back under its key when its doubles are finite. -/
theorem Payload.ofMember?_toMember (payload : Payload) :
    ofMember? payload.toMember.1 payload.toMember.2.compactWritten =
      if payload.doubles.all Double.isFinite then some (payload.mapDoubles Double.reread)
      else none := by
  -- The key leads back to the kind it was chosen for, and the parts of that kind are read back.
  cases payload with
  | series list =>
    have items := Written.items?_compactWritten list fun one _ => one.ofWritten?_toJson
    rw [toMember, ofMember?, if_pos rfl, items, doubles, List.all_flatMap]
    cases list.all fun one => one.doubles.all Double.isFinite <;> rfl
  | table body =>
    rw [toMember, ofMember?, if_neg (show "table" ≠ "series" by decide), if_pos rfl,
      body.ofWritten?_toJson, doubles]
    cases body.doubles.all Double.isFinite <;> rfl
  | error message => rfl

namespace Written

/-- Items are sound together when each of them is. -/
theorem soundItems_eq_all (limit : Nat) (items : List Written) :
    soundItems limit items = items.all (sound limit) := by
  -- The recursion asks for the first item and then for the others, as a conjunction does.
  induction items with
  | nil => rfl
  | cons item rest ih => rw [soundItems, ih, List.all_cons]

/-- Members are sound together when each has a key and a sound value. -/
theorem soundMembers_eq_all (limit : Nat) (members : List (Option String × Written)) :
    soundMembers limit members =
      members.all fun member => member.1.isSome && member.2.sound limit := by
  -- A member without a key is not sound, whatever its value is.
  induction members with
  | nil => rfl
  | cons member rest ih => rw [soundMembers, ih, List.all_cons]

/-- An array takes one level of nesting. -/
theorem sound_array (limit : Nat) (items : List Json) :
    (Json.array items).compactWritten.sound (limit + 1) =
      items.all fun item => item.compactWritten.sound limit := by
  -- What is written of an item is what is asked about.
  rw [compactWritten_array, sound, soundItems_eq_all, List.all_map]
  rfl

/-- An object takes one level of nesting. -/
theorem sound_object (limit : Nat) (members : List (String × Json)) :
    (Json.object members).compactWritten.sound (limit + 1) =
      members.all fun member => member.2.compactWritten.sound limit := by
  -- Every member that is written has a key, so its value alone is asked about.
  rw [compactWritten_object, sound, soundMembers_eq_all, List.all_map]
  rfl

/-- A string names itself, at any level. -/
theorem sound_string (limit : Nat) (text : String) :
    (Json.string text).compactWritten.sound limit = true := by
  -- A string has no parts that would nest.
  simp [Json.compactWritten, Json.mapNumbers, Json.written, sound]

/-- A truth value names itself, at any level. -/
theorem sound_bool (limit : Nat) (value : Bool) :
    (Json.bool value).compactWritten.sound limit = true := by
  -- A truth value has no parts that would nest.
  simp [Json.compactWritten, Json.mapNumbers, Json.written, sound]

/-- A whole number names itself, at any level. -/
theorem sound_int (limit : Nat) (n : Int) : (Json.int n).compactWritten.sound limit = true := by
  -- A number has no parts that would nest.
  simp [Json.int, Json.compactWritten, Json.mapNumbers, Json.written, sound]

/-- A double is written as a number or as nothing, both of which are sound. -/
theorem sound_double (limit : Nat) (x : Double) :
    (Json.double x).compactWritten.sound limit = true := by
  -- Neither a number nor nothing has parts that would nest.
  rw [compactWritten_double]
  split <;> simp [sound]

end Written

open Written (sound_array sound_object sound_string sound_bool sound_int sound_double)

/-- A series nests three levels deep. -/
theorem Series.sound_toJson (limit : Nat) (series : Series) :
    series.toJson.compactWritten.sound (limit + 3) = true := by
  -- The object, the list of points and each point take a level.
  simp [toJson, Point.toJson, sound_object, sound_array, sound_string, sound_int, sound_double]

/-- An entry of a row nests one level deep. -/
theorem Cell.sound_optionToJson (limit : Nat) (entry : Option Cell) :
    (optionToJson entry).compactWritten.sound (limit + 1) = true := by
  -- A cell is an object with a tag and a value, and an absent one is nothing at all.
  cases entry with
  | none => rfl
  | some cell =>
    cases cell <;>
      simp [optionToJson, toJson, sound_object, sound_string, sound_bool, sound_int, sound_double]

/-- A table nests four levels deep. -/
theorem Table.sound_toJson (limit : Nat) (table : Table) :
    table.toJson.compactWritten.sound (limit + 4) = true := by
  -- The object, the list of rows, each row and each entry take a level.
  simp [toJson, sound_object, sound_array, sound_string, Cell.sound_optionToJson]

/-- The value of a payload nests no deeper than a member of a result may. -/
theorem Payload.sound_toMember (payload : Payload) :
    payload.toMember.2.compactWritten.sound Result.memberDepth = true := by
  -- Each kind nests less deep than the bound, which leaves room for the results around it.
  cases payload with
  | series list =>
    show (Json.array (list.map Series.toJson)).compactWritten.sound (123 + 1) = true
    rw [sound_array, List.all_map, List.all_eq_true]
    exact fun one _ => one.sound_toJson 120
  | table body => exact body.sound_toJson 120
  | error message => exact sound_string _ message

open Json (numbersSound_array numbersSound_object)

/-- A series is written in sound numbers. -/
theorem Series.numbersSound_toJson (series : Series) : series.toJson.NumbersSound := by
  -- Timestamps are words, and values are doubles.
  simp [toJson, Point.toJson, numbersSound_object, numbersSound_array]

/-- An entry of a row is written in sound numbers. -/
theorem Cell.numbersSound_optionToJson (entry : Option Cell) :
    (optionToJson entry).NumbersSound := by
  -- Each kind of cell is a string, a truth value, a word or a double under its tag.
  cases entry with
  | none => exact Json.numbersSound_null
  | some cell => cases cell <;> simp [optionToJson, toJson, numbersSound_object]

/-- A payload is written in sound numbers. -/
theorem Payload.numbersSound_toMember (payload : Payload) :
    payload.toMember.2.NumbersSound := by
  -- The parts of each kind are written in sound numbers, and a message has none.
  cases payload with
  | series list => simp [toMember, numbersSound_array, Series.numbersSound_toJson]
  | table body =>
    simp [toMember, Table.toJson, numbersSound_object, numbersSound_array,
      Cell.numbersSound_optionToJson]
  | error message => exact Json.numbersSound_string message

/-- A response is written in sound numbers. -/
theorem Response.numbersSound_toJson (response : Response) : response.toJson.NumbersSound := by
  -- A result has no number beside its payload.
  simp [toJson, Result.toJson, numbersSound_object, numbersSound_array,
    Payload.numbersSound_toMember]

/-- The key of a payload is one of those that are looked for, and not that of the reference. -/
theorem Payload.key_toMember (payload : Payload) :
    payload.toMember.1 ∈ keys ∧ payload.toMember.1 ≠ "refId" := by
  -- There are three kinds of payload, each with a key of its own.
  cases payload <;> exact ⟨by simp [toMember, keys], by simp [toMember]⟩

/-- A result is read back when the doubles of its payload are finite. -/
theorem Result.ofWritten?_toJson (result : Result) :
    ofWritten? result.toJson.compactWritten =
      if result.doubles.all Double.isFinite then some (result.mapDoubles Double.reread)
      else none := by
  obtain ⟨known, apart⟩ := result.payload.key_toMember
  have sound := result.payload.sound_toMember
  have payload := result.payload.ofMember?_toMember
  have shape : result.toJson.compactWritten =
      .object [(some "refId", .string (some result.refId)),
        (some result.payload.toMember.1, result.payload.toMember.2.compactWritten)] := by
    rw [toJson, compactWritten_object]
    rfl
  rw [shape]
  generalize result.payload.toMember = member at known apart sound payload ⊢
  obtain ⟨key, value⟩ := member
  dsimp only at known apart sound payload ⊢
  -- The reference is found under its key, and the payload is the one member besides.
  have refId : Written.fieldAt? [(some "refId", .string (some result.refId)),
      (some key, value.compactWritten)] "refId" = some (some (.string (some result.refId))) := by
    simp [Written.fieldAt?, Written.valuesAt, apart]
  have kept : decide (some key ≠ some "refId") = true := by simpa using apart
  have left : decide (some "refId" ≠ some "refId") = false := rfl
  simp only [ofWritten?, List.filter_cons, List.filter_nil, left, kept, if_true,
    Bool.false_eq_true, if_false, refId, Written.soundMembers, sound]
  simp only [Option.isSome_some, Bool.and_self, Bool.not_true, Option.bind_eq_bind,
    Option.bind_some, Written.string?, List.findSome?_cons, if_pos known, payload]
  show _ = if result.payload.doubles.all Double.isFinite then _ else none
  cases result.payload.doubles.all Double.isFinite <;> rfl

/-- One field is found under its key. -/
theorem Written.fields?_single (key : String) (value : Written) :
    fields? [key] (.object [(some key, value)]) = some [some value] := by
  -- Looking up the one key there is gives the one value.
  simp [fields?, fieldAt?, valuesAt]

/--
The text of a response reads back as the response with each double as what its own text reads as,
and as nothing when one of its doubles stands for no number.
-/
theorem Response.ofText_text (response : Response) :
    ofText response.text =
      if response.doubles.all Double.isFinite then .ok (response.mapDoubles Double.reread)
      else .error .json := by
  -- The text spells one structure, so all that is left is to read that structure.
  have structure_eq : Json.written? response.text.toList =
      some response.toJson.compactWritten := by
    rw [text, Json.compactText, String.toList_ofList]
    exact (Json.spells_compactWritten response.numbersSound_toJson).written?_eq
  have fields := Written.fields?_single "results"
    (Json.array (response.results.map Result.toJson)).compactWritten
  have results := Written.items?_compactWritten response.results fun result _ =>
    result.ofWritten?_toJson
  simp only [ofText, structure_eq, Option.bind_some, ofWritten?, toJson, compactWritten_object,
    List.map_cons, List.map_nil, fields, results, Option.bind_eq_bind, doubles, List.all_flatMap]
  cases response.results.all fun result => result.doubles.all Double.isFinite <;> rfl

/--
A response whose doubles are all finite reads back from its text with each double as what its own
text reads as; when those are the doubles themselves, the response reads back as it was.
-/
theorem Response.ofText_text_of_finite {response : Response}
    (finite : ∀ x ∈ response.doubles, x.isFinite = true) :
    ofText response.text = .ok (response.mapDoubles Double.reread) ∧
      ((∀ x ∈ response.doubles, Json.read? (x.text .data) = some (.number (.double x))) →
        ofText response.text = .ok response) := by
  have reads : ofText response.text = .ok (response.mapDoubles Double.reread) := by
    rw [ofText_text, if_pos (List.all_eq_true.mpr finite)]
  refine ⟨reads, fun exact => ?_⟩
  -- Each double is the one that its text reads as.
  rw [reads, mapDoubles_eq_self]
  intro x among
  rw [Double.reread, exact x among]

/-- Series, a table with an absent cell and three types of number, and an error read back. -/
theorem Response.ofText_text_of_finite_three :
    ofText (text ⟨[⟨"A", .series [⟨"s", [⟨5, ⟨0x3FF8000000000000⟩⟩, ⟨-1, ⟨0xC02E000000000000⟩⟩]⟩]⟩,
        ⟨"B", .table ⟨["a", "b"], [[some (.int64 7), none],
          [some (.dateTime 7), some (.double ⟨0x401C000000000000⟩)]]⟩⟩,
        ⟨"C", .error "a \"b\""⟩]⟩) =
      .ok ⟨[⟨"A", .series [⟨"s", [⟨5, ⟨0x3FF8000000000000⟩⟩, ⟨-1, ⟨0xC02E000000000000⟩⟩]⟩]⟩,
        ⟨"B", .table ⟨["a", "b"], [[some (.int64 7), none],
          [some (.dateTime 7), some (.double ⟨0x401C000000000000⟩)]]⟩⟩,
        ⟨"C", .error "a \"b\""⟩]⟩ := by
  -- Three doubles occur, and each of them is finite and reads back as itself.
  refine (ofText_text_of_finite (by decide +kernel)).2 fun x among => ?_
  have each : ∀ x ∈ [Double.mk 0x3FF8000000000000, ⟨0xC02E000000000000⟩, ⟨0x401C000000000000⟩],
      x.isFinite = true ∧ x.reread = x := by
    decide +kernel
  obtain ⟨finite, same⟩ := each x among
  rw [Json.read?_text finite, same]

end DocSource
