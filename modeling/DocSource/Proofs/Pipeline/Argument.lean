import DocSource.Proofs.Bson.CanonicalText
import DocSource.Proofs.Pipeline.Expansion
import DocSource.Proofs.Text.Replacement

/-! Template arguments: their texts, and their way through a template back to the value. -/

namespace DocSource

open Text (occurs)

namespace Bson

/-- The canonical text of a document is its argument text between braces. -/
theorem canonical_document (members : List (String × Bson)) :
    (document members).canonical =
      '\x7b' :: StageTemplate.argumentText (.document members) ++ ['\x7d'] := by
  -- The printer writes the members as the argument does, in the same order.
  simp [canonical, toJson, Json.compact, StageTemplate.argumentText, membersJson_eq_map,
    Json.compactMembers_eq_map, Function.comp_def]

/-- The canonical text of an array is its argument text between brackets. -/
theorem canonical_array (items : List Bson) :
    (array items).canonical = '[' :: StageTemplate.argumentText (.array items) ++ [']'] := by
  -- The printer writes the items as the argument does, in the same order.
  simp only [canonical, toJson, Json.compact, StageTemplate.argumentText, itemsJson_eq_map,
    Json.compactItems_eq_map, List.map_map]
  rfl

/--
The argument text of a document or an array is its canonical text without the brackets around it:
put between them it is the canonical text, and what the canonical text has between them is it.
-/
theorem argumentText_bracketed :
    (∀ members : Document,
      '\x7b' :: StageTemplate.argumentText (.document members) ++ ['\x7d'] =
          (document members).canonical ∧
        StageTemplate.argumentText (.document members) =
          (document members).canonical.tail.dropLast) ∧
    (∀ items : List Bson,
      '[' :: StageTemplate.argumentText (.array items) ++ [']'] = (array items).canonical ∧
        StageTemplate.argumentText (.array items) = (array items).canonical.tail.dropLast) := by
  -- Taking the two ends off undoes putting them on.
  refine ⟨fun members => ⟨(canonical_document members).symm, ?_⟩,
    fun items => ⟨(canonical_array items).symm, ?_⟩⟩
  · rw [canonical_document, List.cons_append, List.tail_cons, List.dropLast_concat]
  · rw [canonical_array, List.cons_append, List.tail_cons, List.dropLast_concat]

/-- Keys are escaped in an argument as they are in the canonical text. -/
example : StageTemplate.argumentText (.document [("a\"\n", .document []), ("b", .int32 1)]) =
    "\"a\\\"\\n\":\x7b\x7d,\"b\":\x7b\"$numberInt\":\"1\"\x7d".toList := by
  decide

/-- A text spells extended JSON of at most so many levels, and that is read as a value. -/
def Denoted (levels : Nat) (text : List Char) (value : Bson) : Prop :=
  -- The limit on depth is for the levels that are added around the text.
  ∃ json : Json, Json.Spells text json.written ∧ json.KeysDistinct ∧ json.depth ≤ levels ∧
    ofJson? json = some value

/-- Canonical text denotes its value, unless there are fractions in it. -/
theorem denoted_canonical {value : Bson} (sound : ∀ part ∈ value.parts, part.Sound)
    (free : value.FractionFree) :
    Denoted (value.toJson .canonical).depth value.canonical value :=
  -- The text is that of the printed value, which is well-formed because its source is sound.
  ⟨value.toJson .canonical, Json.spells_compact (numbersWhole_toJson free).spelled,
    keysDistinct_toJson sound, Nat.le_refl _, ofJson?_toJson sound free⟩

/-- A blank in front of a text changes nothing. -/
theorem Denoted.blank {levels : Nat} {text : List Char} {value : Bson}
    (denoted : Denoted levels text value) : Denoted levels (' ' :: text) value := by
  -- The reader passes over the blank before it looks for the value.
  obtain ⟨json, spelled, rest⟩ := denoted
  exact ⟨json, spelled.blank rfl, rest⟩

/-- A text under a plain key between braces denotes a document of one field. -/
theorem Denoted.field {levels : Nat} {text : List Char} {value : Bson}
    (denoted : Denoted levels text value) (key : String) (plain : isWrapperKey key = false) :
    Denoted (levels + 1) ('\x7b' :: Json.memberText key text ++ ['\x7d'])
      (.document [(key, value)]) := by
  -- The braces are one level more, and the one key is no wrapper.
  obtain ⟨json, spelled, distinct, shallow, read⟩ := denoted
  refine ⟨.object [(key, json)], Json.spells_single key spelled, ?_, ?_, ?_⟩
  · simpa [Json.keysDistinct_object] using distinct
  · simpa [Json.depth, Json.written, Json.writtenMembers, Written.depth, Written.depthMembers]
      using shallow
  · rw [ofJson?_object (by simpa using plain)]
    simp [ofMembers?, read]

/-- A text in brackets is read as the list of the one value that it denotes. -/
theorem Denoted.readValues_eq {levels : Nat} {text : List Char} {value : Bson}
    (denoted : Denoted levels text value) (shallow : levels < Json.depthLimit) :
    readValues ('[' :: text ++ [']']) = .ok [value] := by
  -- The list of one value is spelled as a whole, and then read as a whole.
  obtain ⟨json, spelled, distinct, within, read⟩ := denoted
  have listed : Json.Spells ('[' :: text ++ [']']) (Json.array [json]).written :=
    Json.spells_array (fun _ => text) (fun _ => json.written) [()] fun _ _ => spelled
  have found : Json.read? ('[' :: text ++ [']']) = some (.array [json]) := by
    refine Json.read?_of_spells listed ?_ ?_
    · simpa [Json.keysDistinct_array] using distinct
    · -- The brackets are one level more.
      have deep : (Json.array [json]).depth = json.depth + 1 := by
        simp [Json.depth, Json.written, Json.writtenItems, Written.depth, Written.depthItems]
      omega
  rw [readValues, found]
  simp [ofItems?, read]

/-- The values of a text are sound throughout. -/
theorem sound_of_readValues {text : List Char} {items : List Bson}
    (read : readValues text = .ok items) : ∀ value ∈ items, ∀ part ∈ value.parts, part.Sound := by
  -- The reader settles repeated keys before the values are made.
  intro value among
  unfold readValues at read
  split at read
  · cases read
  · next members found =>
    split at read
    · next values taken =>
      cases read
      obtain ⟨json, inside, own⟩ := exists_of_ofItems? taken among
      exact sound_of_ofJson? (Json.keysDistinct_array.mp (Json.keysDistinct_of_read? found) json
        inside) own
    · cases read
  · cases read

end Bson

namespace Placeholders

/-- The tokens of all placeholders. -/
def tokens : List (List Char) := [startToken, stopToken, samplesToken]

/-- A text without placeholders is filled as it is. -/
theorem fill_eq_self (values : Placeholders) {text : List Char}
    (absent : ∀ token ∈ tokens, occurs token text = false) : values.fill text = text := by
  -- Each of the three passes finds nothing.
  simp only [tokens, List.forall_mem_cons] at absent
  obtain ⟨start, stop, samples, _⟩ := absent
  simp only [fill, Text.replace_eq_self start, Text.replace_eq_self stop,
    Text.replace_eq_self samples]

/-- Between a blank and a brace, a text completes no placeholder with what stands around it. -/
theorem fill_between (values : Placeholders) (before : List Char) {text : List Char}
    (after : List Char) (front : ∀ token ∈ tokens, occurs token before = false)
    (absent : ∀ token ∈ tokens, occurs token text = false)
    (back : ∀ token ∈ tokens, occurs token after = false) :
    values.fill (before ++ ' ' :: (text ++ '\x7d' :: after)) =
      before ++ ' ' :: (text ++ '\x7d' :: after) := by
  -- No token holds a blank or a brace.
  have solid : ∀ token ∈ tokens, token ≠ [] ∧ ' ' ∉ token ∧ '\x7d' ∉ token := by decide
  refine values.fill_eq_self fun token among => ?_
  obtain ⟨some, blank, brace⟩ := solid token among
  rw [Text.occurs_divided some blank, Text.occurs_divided some brace, front token among,
    absent token among, back token among]
  rfl

end Placeholders

namespace StageTemplate

variable {values : Placeholders} {template : StageTemplate} {argument value : Bson}

/-- A stage that calls for a template expands to the stage that the filled text denotes. -/
theorem expand_of_denoted {levels : Nat} {text : List Char} {stage : Document}
    (filled : values.fill (render template.stage (argumentText argument)) = text)
    (denoted : Bson.Denoted levels text (.document stage)) (shallow : levels < Json.depthLimit) :
    expand [template] values [[(template.operator, argument)]] = .ok [stage] := by
  -- The template is found by its operator, and its text lists this one stage.
  have called : called? [template] [(template.operator, argument)] = some (template, argument) := by
    simp [called?]
  rw [expand_single, expandStage, called]
  refine (replacement_eq_ok_iff values).mpr ?_
  rw [filled, denoted.readValues_eq shallow]
  rfl

/-- A value put under the key of a match makes that match. -/
theorem expand_match (sound : ∀ part ∈ value.parts, part.Sound) (free : value.FractionFree)
    (shallow : (value.toJson .canonical).depth ≤ 120)
    (absent : ∀ token ∈ Placeholders.tokens, occurs token value.canonical = false)
    (rendered : render template.stage (argumentText argument) =
      "\x7b\"$match\":".toList ++ ' ' :: (value.canonical ++ ['\x7d'])) :
    expand [template] values [[(template.operator, argument)]] = .ok [[("$match", value)]] := by
  -- The template is the match, with the text of the value behind a blank.
  have denoted := (Bson.denoted_canonical sound free).blank.field "$match" rfl
  have kept := values.fill_between "\x7b\"$match\":".toList [] (by decide) absent (by decide)
  exact expand_of_denoted ((congrArg values.fill rendered).trans kept) denoted
    (by simp only [Json.depthLimit]; omega)

/-- A value put under a key inside a match makes that match. -/
theorem expand_match_field (sound : ∀ part ∈ value.parts, part.Sound) (free : value.FractionFree)
    (shallow : (value.toJson .canonical).depth ≤ 120)
    (absent : ∀ token ∈ Placeholders.tokens, occurs token value.canonical = false)
    (rendered : render template.stage (argumentText argument) =
      "\x7b\"$match\": \x7b\"x\":".toList ++ ' ' :: (value.canonical ++ ['\x7d', '\x7d'])) :
    expand [template] values [[(template.operator, argument)]] =
      .ok [[("$match", .document [("x", value)])]] := by
  -- The template is two braces deep, with the text of the value behind a blank.
  have inner := (Bson.denoted_canonical sound free).blank.field "x" rfl
  have denoted := inner.blank.field "$match" rfl
  have kept := values.fill_between "\x7b\"$match\": \x7b\"x\":".toList ['\x7d'] (by decide) absent
    (by decide)
  refine expand_of_denoted ((congrArg values.fill rendered).trans kept) ?_
    (show (value.toJson .canonical).depth + 1 + 1 < Json.depthLimit by
      simp only [Json.depthLimit]; omega)
  have outerKey : Json.quoted "$match" = "\"$match\"".toList := rfl
  have innerKey : Json.quoted "x" = "\"x\"".toList := rfl
  simpa [Json.memberText, outerKey, innerKey] using denoted

/--
The argument of a template keeps its value and its types: a document as the members of a document,
an array as the items of an array, and any other value but a string as a value.
-/
theorem expand_argument (values : Placeholders) {text : List Char} {items : List Bson}
    {value : Bson} (read : readValues text = .ok items) (among : value ∈ items)
    (free : value.FractionFree) (shallow : (value.toJson .canonical).depth ≤ 120)
    (absent : ∀ token ∈ Placeholders.tokens, occurs token value.canonical = false) :
    ((∃ members, value = .document members) →
      expand [⟨"m", "\x7b\"$match\": \x7b$QUERY\x7d\x7d"⟩] values [[("$m", value)]] =
        .ok [[("$match", value)]]) ∧
    ((∃ inner, value = .array inner) →
      expand [⟨"m", "\x7b\"$match\": \x7b\"x\": [$QUERY]\x7d\x7d"⟩] values [[("$m", value)]] =
        .ok [[("$match", .document [("x", value)])]]) ∧
    ((∀ members, value ≠ .document members) → (∀ inner, value ≠ .array inner) →
      (∀ string, value ≠ .string string) →
      expand [⟨"m", "\x7b\"$match\": \x7b\"x\": $QUERY\x7d\x7d"⟩] values [[("$m", value)]] =
        .ok [[("$match", .document [("x", value)])]]) := by
  -- In each case the brackets of the template complete the canonical text again.
  have sound := Bson.sound_of_readValues read value among
  refine ⟨?_, ?_, ?_⟩
  · rintro ⟨members, rfl⟩
    refine expand_match sound free shallow absent ?_
    rw [Bson.canonical_document, List.cons_append, List.cons_append, List.append_assoc]
    rfl
  · rintro ⟨inner, rfl⟩
    refine expand_match_field sound free shallow absent ?_
    rw [Bson.canonical_array, List.cons_append, List.cons_append, List.append_assoc]
    rfl
  · intro noDocument noArray noString
    refine expand_match_field sound free shallow absent ?_
    have plain : argumentText value = value.canonical := by
      cases value with
      | document members => exact absurd rfl (noDocument members)
      | array inner => exact absurd rfl (noArray inner)
      | string string => exact absurd rfl (noString string)
      | _ => rfl
    rw [plain]
    rfl

/-- Words of both sizes, a date, and text that looks like markup come back as they went in. -/
theorem expand_argument_document :
    expand [⟨"m", "\x7b\"$match\": \x7b$QUERY\x7d\x7d"⟩] ⟨0, 1, 2⟩
      [[("$m", .document [("a\"b", .array [.int64 7, .int32 7, .dateTime (-1)]),
        ("\\", .string "$QUERY\t")])]] =
      .ok [[("$match", .document [("a\"b", .array [.int64 7, .int32 7, .dateTime (-1)]),
        ("\\", .string "$QUERY\t")])]] := by
  -- The argument is free of fractions and of tokens but for the word in one of its own strings.
  let value : Bson := .document [("a\"b", .array [.int64 7, .int32 7, .dateTime (-1)]),
    ("\\", .string "$QUERY\t")]
  have free : value.FractionFree := by
    simp [value, Bson.FractionFree, Bson.parts, Bson.partsOfMembers, Bson.partsOfItems]
  have sound : ∀ part ∈ value.parts, part.Sound := by
    simp only [value, Bson.parts, Bson.partsOfMembers, Bson.partsOfItems, List.cons_append,
      List.nil_append, List.append_nil, List.forall_mem_cons, Bson.Sound]
    simp
    decide
  have read : readValues ('[' :: value.canonical ++ [']']) = .ok [value] :=
    (Bson.denoted_canonical sound free).readValues_eq (by decide)
  have absent : ∀ token ∈ Placeholders.tokens, occurs token value.canonical = false := by decide
  exact (expand_argument ⟨0, 1, 2⟩ read List.mem_cons_self free (by decide) absent).1 ⟨_, rfl⟩

end StageTemplate

end DocSource
