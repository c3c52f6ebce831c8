import DocSource.Proofs.Bson.Parts

/-! Canonical extended JSON reads back as the value it was written for, type by type. -/

namespace DocSource.Bson

/-- Neither a double nor a decimal number stands inside a value. -/
def FractionFree (value : Bson) : Prop :=
  -- These are the two types whose texts are not looked into here.
  (∀ x, double x ∉ value.parts) ∧ ∀ d, decimal128 d ∉ value.parts

/-- An object of one wrapper is read as that wrapper says. -/
theorem ofJson?_wrapper {key : String} {json : Json} {read : Json → Option Bson}
    (named : wrapper? key = some read) : ofJson? (.object [(key, json)]) = read json := by
  -- The key of code is none of these keys.
  have notCode : ("$code" == key) = false := by
    rw [beq_eq_false_iff_ne]
    rintro rfl
    cases named
  simp [ofJson?, List.lookup_cons, notCode, isWrapperKey, named]

/-- Members whose values are read back are read back. -/
theorem ofMembers?_membersJson {form : Form} {members : List (String × Bson)}
    (each : ∀ key value, (key, value) ∈ members → ofJson? (value.toJson form) = some value) :
    ofMembers? (membersJson form members) = some members := by
  -- Writing and reading go member by member, so each member answers for itself.
  rw [membersJson_eq_map, ofMembers?_eq_some_iff, List.forall₂_map_left_iff, List.forall₂_same]
  exact fun member among => ⟨rfl, each member.1 member.2 among⟩

/-- An object without wrapper keys is read as a plain document. -/
theorem ofJson?_object {members : List (String × Json)}
    (plain : ∀ member ∈ members, isWrapperKey member.1 = false) :
    ofJson? (.object members) = (ofMembers? members).map document := by
  -- The key of code is a wrapper key as well.
  have noCode : members.lookup "$code" = none := by
    rw [List.lookup_eq_none_iff]
    intro member among
    have own := plain member among
    rw [bne_iff_ne]
    intro same
    rw [← same] at own
    cases own
  have noWrapper : members.any (isWrapperKey ·.1) = false := by
    rw [List.any_eq_false]
    intro member among
    simp [plain member among]
  simp [ofJson?, noCode, noWrapper]

/-- A body of two members has their values under the two keys. -/
theorem body?_pair {first second : String} (differ : second ≠ first) (a b : Json) :
    Json.body? [first, second] (.object [(first, a), (second, b)]) = some [a, b] := by
  -- Neither key hides the other.
  have other : (second == first) = false := by simpa using differ
  simp [Json.body?, List.lookup_cons, other]

/-- A body of one member has its value under the key. -/
theorem body?_single (key : String) (a : Json) :
    Json.body? [key] (.object [(key, a)]) = some [a] := by
  -- The body has as many members as there are keys to look for, and this is the key.
  simp [Json.body?]

/-- An object identifier is read back from its digits. -/
theorem readObjectId?_encode (id : ObjectId) :
    readObjectId? (.string (String.ofList (Hex.encode id.bytes))) = some id := by
  -- The digits give twelve bytes back, which is what an identifier has to have.
  simp [readObjectId?, Json.string?, Hex.decode_encode, id.length_eq]

/-- Numbers of thirty-two bits are read back. -/
theorem readUInt32?_toNat (n : UInt32) : readUInt32? (.int n.toNat) = some n := by
  -- The number is below two to the power of thirty-two.
  have bound := n.toNat_lt
  have high : (n.toNat : Int) < 4294967296 := by omega
  simp [readUInt32?, Json.int, high]

/-- Milliseconds are read back as the date they count to. -/
theorem ofJson?_dateJson (millis : Int64) :
    ofJson? (dateJson .canonical millis) = some (dateTime millis) := by
  -- The milliseconds stand under two wrappers.
  have named : wrapper? "$date" = some readDate? := rfl
  simp [dateJson, ofJson?_wrapper named, longJson, wrap, readDate?, body?_single, Json.string?,
    readInt64?_intText]

/-- Bytes are read back with their subtype. -/
theorem ofJson?_binary (subtype : UInt8) (bytes : List UInt8) :
    ofJson? ((binary subtype bytes).toJson .canonical) = some (binary subtype bytes) := by
  -- The subtype is two digits, the bytes are in base64.
  have named : wrapper? "$binary" = some readBinary? := rfl
  simp [toJson, ofJson?_wrapper named, readBinary?, body?_pair, Json.string?,
    Base64.decode_encode, Hex.decode_encode]

/-- A timestamp is read from its two numbers. -/
theorem readTimestamp?_object (time increment : Json) :
    readTimestamp? (.object [("t", time), ("i", increment)]) =
      (readUInt32? time).bind fun time => (readUInt32? increment).map (timestamp time) := by
  -- The two numbers are read one after the other.
  cases first : readUInt32? time <;> cases second : readUInt32? increment <;>
    simp [readTimestamp?, body?_pair, first, second]

/-- A timestamp is read back from its two numbers. -/
theorem ofJson?_timestamp (time increment : UInt32) :
    ofJson? ((timestamp time increment).toJson .canonical) = some (timestamp time increment) := by
  -- The wrapper is known by its key, and both of its numbers fit the words they came from.
  have named : wrapper? "$timestamp" = some readTimestamp? := rfl
  rw [toJson, ofJson?_wrapper named, readTimestamp?_object, readUInt32?_toNat,
    readUInt32?_toNat]
  rfl

/-- A pointer is read back from its reference and its identifier. -/
theorem ofJson?_dbPointer (reference : String) (id : ObjectId) :
    ofJson? ((dbPointer reference id).toJson .canonical) = some (dbPointer reference id) := by
  -- The wrapper is known by its key, and holds the wrapper of an identifier.
  have named : wrapper? "$dbPointer" = some readPointer? := rfl
  simp [toJson, ofJson?_wrapper named, readPointer?, body?_pair, body?_single, Json.string?,
    objectIdJson, wrap, readObjectId?_encode]

/-- A regular expression is read back when its options are in order already. -/
theorem ofJson?_regex {pattern options : String} (sound : (regex pattern options).Sound) :
    ofJson? ((regex pattern options).toJson .canonical) = some (regex pattern options) := by
  -- Reading sorts the options, which changes nothing.
  have named : wrapper? "$regularExpression" = some readRegex? := rfl
  obtain ⟨plainPattern, plainOptions, ordered⟩ := sound
  have kept : options.toList.mergeSort (· ≤ ·) = options.toList :=
    List.mergeSort_of_pairwise (by simpa using ordered)
  simp [toJson, ofJson?_wrapper named, readRegex?, body?_pair, Json.string?, plainPattern,
    plainOptions, kept]

/-- Code is read back with its scope, whose keys are all let through. -/
theorem ofJson?_codeWithScope (code : String) (scope : List (String × Json)) :
    ofJson? (.object [("$code", .string code), ("$scope", .object scope)]) =
      (ofMembers? scope).map (javaScriptWithScope code) := by
  -- The scope is read as members, whose keys are not judged.
  simp [ofJson?, readCode?, Json.string?, scope?, scopeValue?]
  cases ofMembers? scope <;> rfl

/-- What stands inside a value without fractions has none either. -/
theorem FractionFree.mono {value inner : Bson} (free : value.FractionFree)
    (inside : ∀ part ∈ inner.parts, part ∈ value.parts) : inner.FractionFree :=
  -- A part of the inner value is a part of the whole.
  ⟨fun x among => free.1 x (inside _ among), fun d among => free.2 d (inside _ among)⟩

/-- A value without doubles and decimals is read back from its canonical extended JSON. -/
theorem ofJson?_toJson {value : Bson} (sound : ∀ part ∈ value.parts, part.Sound)
    (free : value.FractionFree) : ofJson? (value.toJson .canonical) = some value := by
  -- The induction hands sound parts and the absence of fractions down to each part.
  induction value with
  | double x => exact absurd (self_mem_parts _) (free.1 x)
  | decimal128 d => exact absurd (self_mem_parts _) (free.2 d)
  | string | null | boolean | undefined | minKey | maxKey | symbol | javaScript => rfl
  | dateTime millis => exact ofJson?_dateJson millis
  | binary subtype bytes => exact ofJson?_binary subtype bytes
  | timestamp time increment => exact ofJson?_timestamp time increment
  | dbPointer reference id => exact ofJson?_dbPointer reference id
  | regex pattern options => exact ofJson?_regex (sound _ (self_mem_parts _))
  | objectId id =>
    have named : wrapper? "$oid" = some fun json => (readObjectId? json).map objectId := rfl
    simp [toJson, objectIdJson, wrap, ofJson?_wrapper named, readObjectId?_encode]
  | int32 n =>
    have named : wrapper? "$numberInt" =
      some fun json => (json.string?.bind (readInt32? ·.toList)).map int32 := rfl
    simp [toJson, wrap, ofJson?_wrapper named, Json.string?, readInt32?_intText]
  | int64 n =>
    have named : wrapper? "$numberLong" =
      some fun json => (json.string?.bind (readInt64? ·.toList)).map int64 := rfl
    simp [toJson, longJson, wrap, ofJson?_wrapper named, Json.string?, readInt64?_intText]
  | array items ih =>
    have all : ofItems? (itemsJson .canonical items) = some items := by
      rw [itemsJson_eq_map, ofItems?_eq_some_iff, List.forall₂_map_left_iff, List.forall₂_same]
      exact fun item among => ih item among
        (fun part inside => sound part (mem_parts_of_item among inside))
        (free.mono fun part inside => mem_parts_of_item among inside)
    rw [toJson, ofJson?, all]
    rfl
  | document members ih =>
    have all : ofMembers? (membersJson .canonical members) = some members :=
      ofMembers?_membersJson fun key value among => ih key value among
        (fun part inside => sound part (mem_parts_of_field among inside))
        (free.mono fun part inside => mem_parts_of_field among inside)
    obtain ⟨_, plain⟩ := sound _ (self_mem_parts _)
    have plainJson : ∀ member ∈ membersJson .canonical members,
        isWrapperKey member.1 = false := by
      intro member among
      obtain ⟨value, inside, _⟩ := exists_of_mem_membersJson among
      exact plain (member.1, value) inside
    rw [toJson, ofJson?_object plainJson, all]
    rfl
  | javaScriptWithScope code scope ih =>
    have all : ofMembers? (membersJson .canonical scope) = some scope :=
      ofMembers?_membersJson fun key value among => ih key value among
        (fun part inside => sound part (mem_parts_of_scope among inside))
        (free.mono fun part inside => mem_parts_of_scope among inside)
    rw [toJson, ofJson?_codeWithScope, all]
    rfl

end DocSource.Bson
