import DocSource.Bson.Document
import DocSource.Proofs.Bson.RoundTrip
import DocSource.Proofs.Bson.Soundness
import DocSource.Proofs.Json.RoundTrip

/-! The canonical text of a document value: what it spells, and which keys and numbers it holds. -/

namespace DocSource.Bson

/-- The canonical JSON of a sound value has distinct keys. -/
theorem keysDistinct_toJson {value : Bson} (sound : ∀ part ∈ value.parts, part.Sound) :
    (value.toJson .canonical).KeysDistinct := by
  induction value with
  | double x =>
    simp only [toJson, doubleJson, wrap]
    repeat' split
    all_goals simp [Json.KeysDistinct, Json.parts, Json.partsOfMembers]
  | string | null | boolean => simp [toJson, Json.KeysDistinct, Json.parts]
  | undefined | minKey | maxKey | symbol | javaScript | decimal128 | dateTime | objectId | int32
  | int64 | binary | timestamp | dbPointer | regex =>
    simp [toJson, Json.int, dateJson, objectIdJson, longJson, wrap, Json.KeysDistinct, Json.parts,
      Json.partsOfMembers]
  | array items ih =>
    rw [toJson, itemsJson_eq_map, Json.keysDistinct_array]
    simp only [List.forall_mem_map]
    intro item among
    exact ih item among fun part inside => sound part (mem_parts_of_item among inside)
  | document members ih =>
    rw [toJson, Json.keysDistinct_object, keys_membersJson]
    refine ⟨(sound _ (self_mem_parts _)).1, fun key json among => ?_⟩
    obtain ⟨value, inside, rfl⟩ := exists_of_mem_membersJson among
    exact ih key value inside fun part within => sound part (mem_parts_of_field inside within)
  | javaScriptWithScope code scope ih =>
    -- Besides the code there is the scope, an object of its own.
    have inner : (Json.object (membersJson .canonical scope)).KeysDistinct := by
      rw [Json.keysDistinct_object, keys_membersJson]
      refine ⟨sound _ (self_mem_parts _), fun key json among => ?_⟩
      obtain ⟨value, inside, rfl⟩ := exists_of_mem_membersJson among
      exact ih key value inside fun part within => sound part (mem_parts_of_scope inside within)
    rw [toJson, Json.keysDistinct_object]
    refine ⟨by simp, fun key json among => ?_⟩
    simp only [List.mem_cons, Prod.mk.injEq, List.not_mem_nil, or_false] at among
    rcases among with ⟨_, rfl⟩ | ⟨_, rfl⟩
    · simp [Json.KeysDistinct, Json.parts]
    · exact inner

/-- Each number in the JSON of a value is a whole one that fits a word, or a finite double of it. -/
theorem number_of_mem_toJson {form : Form} {value : Bson} {n : Number}
    (inside : Json.number n ∈ (value.toJson form).parts) :
    (∃ k, n = .int k ∧ fitsInt64 k = true) ∨
      ∃ x, n = .double x ∧ x.isFinite = true ∧ double x ∈ value.parts := by
  induction value with
  | double x =>
    -- A double that is written as a number is finite.
    refine .inr ⟨x, ?_⟩
    unfold toJson doubleJson at inside
    repeat' split at inside
    all_goals simp_all [wrap, Json.parts, Json.partsOfMembers, parts]
  | string | null | boolean => simp [toJson, Json.parts] at inside
  | undefined | symbol | javaScript | decimal128 | objectId | binary | dbPointer | regex =>
    simp [toJson, objectIdJson, wrap, Json.parts, Json.partsOfMembers] at inside
  | dateTime millis =>
    simp only [toJson, dateJson, longJson, wrap] at inside
    split at inside <;> simp [Json.parts, Json.partsOfMembers] at inside
  | minKey | maxKey =>
    refine .inl ⟨1, ?_, rfl⟩
    simpa [toJson, Json.int, Json.parts, Json.partsOfMembers] using inside
  | int32 k =>
    -- Thirty-two bits fit.
    have low := k.minValue_le_toInt
    have high := k.toInt_lt
    cases form <;> simp [toJson, wrap, Json.int, Json.parts, Json.partsOfMembers] at inside
    refine .inl ⟨k.toInt, inside, ?_⟩
    simp only [Int32.toInt_minValue] at low
    simp [fitsInt64]
    omega
  | int64 k =>
    cases form <;>
      simp [toJson, longJson, wrap, Json.int, Json.parts, Json.partsOfMembers] at inside
    exact .inl ⟨k.toInt, inside, fitsInt64_toInt k⟩
  | timestamp time increment =>
    -- Thirty-two bits without a sign fit.
    have timeBound := time.toNat_lt
    have incrementBound := increment.toNat_lt
    simp [toJson, Json.int, Json.parts, Json.partsOfMembers] at inside
    rcases inside with same | same
    · exact .inl ⟨_, same, by simp [fitsInt64]; omega⟩
    · exact .inl ⟨_, same, by simp [fitsInt64]; omega⟩
  | array items ih =>
    simp only [toJson, itemsJson_eq_map, Json.mem_parts_array, reduceCtorEq, false_or,
      List.mem_map] at inside
    obtain ⟨_, ⟨item, among, rfl⟩, own⟩ := inside
    rcases ih item among own with whole | ⟨x, same, finite, part⟩
    · exact .inl whole
    · exact .inr ⟨x, same, finite, mem_parts_of_item among part⟩
  | document members ih =>
    simp only [toJson, Json.mem_parts_object, reduceCtorEq, false_or] at inside
    obtain ⟨key, json, among, own⟩ := inside
    obtain ⟨value, held, rfl⟩ := exists_of_mem_membersJson among
    rcases ih key value held own with whole | ⟨x, same, finite, part⟩
    · exact .inl whole
    · exact .inr ⟨x, same, finite, mem_parts_of_field held part⟩
  | javaScriptWithScope code scope ih =>
    -- Besides the code there is the scope, an object of its own.
    have within : Json.number n ∈ (Json.object (membersJson form scope)).parts := by
      simpa [toJson, Json.parts, Json.partsOfMembers] using inside
    simp only [Json.mem_parts_object, reduceCtorEq, false_or] at within
    obtain ⟨key, json, among, own⟩ := within
    obtain ⟨value, held, rfl⟩ := exists_of_mem_membersJson among
    rcases ih key value held own with whole | ⟨x, same, finite, part⟩
    · exact .inl whole
    · exact .inr ⟨x, same, finite, mem_parts_of_scope held part⟩

/-- The canonical JSON of a value without fractions has whole numbers only. -/
theorem numbersWhole_toJson {value : Bson} (free : value.FractionFree) :
    (value.toJson .canonical).NumbersWhole := by
  -- A number of the text that is not whole is that of a fraction, and there is none.
  intro n inside
  rcases number_of_mem_toJson inside with whole | ⟨x, -, -, part⟩
  · exact whole
  · exact absurd part (free.1 x)

/-- The JSON of a value, in either form, has sound numbers only. -/
theorem numbersSound_toJson (form : Form) (value : Bson) : (value.toJson form).NumbersSound := by
  -- A fraction is written as the text of a finite double, and any other number is whole.
  intro n inside
  rcases number_of_mem_toJson inside with whole | ⟨x, same, finite, -⟩
  · exact .inl whole
  · exact .inr ⟨x, same, finite⟩

end DocSource.Bson
