import DocSource.Answer.Wire
import DocSource.Proofs.Json.Composition
import DocSource.Proofs.Json.Locality
import DocSource.Proofs.Lists

/-!
Records as JSON: an object whose members may stand in any order, beside members that belong to no
field, or an array of the fields in order. Main statement: `fields?_of_record`, which says that
every such text gives each field its own value, or none where the field was left out.
-/

namespace DocSource.Json

/-- The texts that write a value, all of which are JSON. -/
structure Texts where
  Has : List Char → Prop
  readable : ∀ {text}, Has text → ∃ written, written? text = some written

namespace Texts

/-- The texts that are JSON for a value, however its scalars are spelled. -/
def exact (json : Json) : Texts where
  Has text := written? text = some json.written
  readable found := ⟨_, found⟩

/-- A structure that one of the texts has. -/
def Give (texts : Texts) (written : Written) : Prop :=
  ∃ text, texts.Has text ∧ written? text = some written

/-- All of the texts are read as a value by a reader of their structure. -/
def ReadAs {α : Type} (texts : Texts) (read : Written → Option α) (value : α) : Prop :=
  ∀ {written}, texts.Give written → read written = some value

/-- The texts for a word are read as it. -/
theorem readAs_int64 (n : Int64) : (exact (.int n.toInt)).ReadAs Written.int64? n := by
  rintro written ⟨text, has, found⟩
  obtain rfl : (int n.toInt).written = written := Option.some.inj (has.symm.trans found)
  -- The number that the text names fits the word it came from.
  show DocSource.int64? n.toInt = some n
  rw [DocSource.int64?, if_pos (fitsInt64_toInt n), Int64.ofInt_toInt]

/-- The texts for a string are read as it. -/
theorem readAs_string (string : String) :
    (exact (.string string)).ReadAs Written.string? string := by
  -- All of these texts have the structure of the string, which names it.
  rintro written ⟨text, has, found⟩
  obtain rfl : (Json.string string).written = written := Option.some.inj (has.symm.trans found)
  rfl

/-- The compact text of a word is one for it. -/
theorem has_int64 (n : Int64) : (exact (.int n.toInt)).Has (int n.toInt).compact :=
  -- A word in digits spells itself, whatever reader it meets.
  (spells_int (fitsInt64_toInt n)).written?_eq

/-- The compact text of a string is one for it. -/
theorem has_string (string : String) : (exact (.string string)).Has (Json.string string).compact :=
  -- A string between quotes spells itself.
  (spells_quoted string).written?_eq

/-- A key between quotes is a text for it. -/
@[simp] theorem has_quoted (key : String) (valueText : List Char) :
    (exact (.string (Member.quoted key valueText).key)).Has (Member.quoted key valueText).keyText :=
  has_string key

end Texts

/-- The structure of a text that has one. -/
def structured (text : List Char) : Written := (written? text).getD .null

/-- A text that is JSON has its structure. -/
theorem structured_eq {text : List Char} (found : ∃ written, written? text = some written) :
    written? text = some (structured text) := by
  -- The structure is the one that is found, and no default is needed.
  obtain ⟨written, found⟩ := found
  rw [structured, found, Option.getD_some]

/-- The text of items between brackets. -/
def arrayText (items : List (List Char)) : List Char := '[' :: Text.joined [','] items ++ [']']

/-- The structure of an array has that of each item. -/
theorem written?_arrayText {texts : List (List Char)}
    (valued : ∀ text ∈ texts, ∃ written, written? text = some written) :
    written? (arrayText texts) = some (.array (texts.map structured)) := by
  -- Each item reads as its own structure wherever it stands in the array.
  have spelled := spells_array_of_reads id structured texts fun text among =>
    reads_iff.mpr (structured_eq (valued text among))
  rw [List.map_id] at spelled
  exact spelled.written?_eq

namespace Texts

/-- The arrays whose items are written in turn by some texts. -/
def list (items : List Texts) : Texts where
  -- The items keep their order, and none may be left out.
  Has text := ∃ texts, List.Forall₂ Has items texts ∧ text = arrayText texts
  readable := by
    rintro _ ⟨texts, each, rfl⟩
    refine ⟨_, written?_arrayText fun text among => ?_⟩
    obtain ⟨item, _, has⟩ := Lists.exists_of_mem_results each among
    exact item.readable has

/-- Where each item is read as a value, the array is read as their list. -/
theorem readAs_list {α : Type} {texts : α → Texts} {read : Written → Option α} {values : List α}
    (each : ∀ value ∈ values, (texts value).ReadAs read value) :
    (list (values.map texts)).ReadAs (Written.items? read) values := by
  rintro written ⟨_, ⟨items, has, rfl⟩, found⟩
  rw [List.forall₂_map_left_iff] at has
  have valued : ∀ item ∈ items, ∃ written, written? item = some written := by
    intro item among
    obtain ⟨value, _, own⟩ := Lists.exists_of_mem_results has among
    exact (texts value).readable own
  rw [written?_arrayText valued, Option.some.injEq] at found
  subst found
  show (items.map structured).mapM read = some values
  -- The items are read one after the other.
  clear valued
  induction has with
  | nil => rfl
  | @cons value item values items own _ ih =>
    rw [List.forall_mem_cons] at each
    have first := each.1 ⟨item, own, structured_eq ((texts value).readable own)⟩
    simp [List.mapM_cons, first, ih each.2]

/-- Where each item has a text, the array of them has their array. -/
theorem has_list {α : Type} {texts : α → Texts} {text : α → List Char} {values : List α}
    (each : ∀ value ∈ values, (texts value).Has (text value)) :
    (list (values.map texts)).Has (arrayText (values.map text)) := by
  -- Value by value, one text is chosen for each item.
  refine ⟨_, ?_, rfl⟩
  rw [List.forall₂_map_left_iff, List.forall₂_map_right_iff, List.forall₂_same]
  exact each

end Texts

/-- A field of a record: its key, the texts that write its value, and when it may be left out. -/
structure Field where
  key : String
  texts : Texts
  Omits : Prop

namespace Field

/-- A field that is always written. -/
def required (key : String) (texts : Texts) : Field := ⟨key, texts, False⟩

/-- A field that may be left out when its value is the default. -/
def optional {α : Type} (key : String) (texts : Texts) (default value : α) : Field :=
  ⟨key, texts, value = default⟩

/-- What a reader finds for a field: a value that was written, or nothing if it was left out. -/
def Found (field : Field) : Option Written → Prop
  | none => field.Omits
  | some written => field.texts.Give written

/-- What is found for a field that is always written is read as its value. -/
theorem read_of_found {α : Type} {key : String} {texts : Texts} {read : Written → Option α}
    {value : α} (reads : texts.ReadAs read value) {found : Option Written}
    (here : (required key texts).Found found) :
    ∃ written, found = some written ∧ read written = some value := by
  -- A field that is always written is never found as nothing.
  cases found with
  | none => exact here.elim
  | some written => exact ⟨written, rfl, reads here⟩

end Field

/-- The members that an object may have for some fields of a record with these keys. -/
inductive Members (keys : List String) : List Field → List Member → Prop
  | nil : Members keys [] []
  /-- A field has a member with its key. -/
  | write {field : Field} {fields : List Field} {member : Member} {members : List Member} :
    member.key = field.key → field.texts.Has member.valueText → Members keys fields members →
      Members keys (field :: fields) (member :: members)
  /-- A field with its default is dropped. -/
  | drop {field : Field} {fields : List Field} {members : List Member} :
    field.Omits → Members keys fields members → Members keys (field :: fields) members
  /-- A member with a key that belongs to no field has any JSON for its value. -/
  | add {fields : List Field} {member : Member} {members : List Member} {written : Written} :
    member.key ∉ keys → written? member.valueText = some written → Members keys fields members →
      Members keys fields (member :: members)
  /-- Members change their places. -/
  | permute {fields : List Field} {members others : List Member} :
    members.Perm others → Members keys fields members → Members keys fields others

namespace Members

variable {keys : List String} {fields : List Field} {members : List Member}

/-- Each member writes a field under its key, or has another key over any JSON. -/
theorem origin (made : Members keys fields members) {member : Member} (among : member ∈ members) :
    (∃ field ∈ fields, member.key = field.key ∧ field.texts.Has member.valueText) ∨
      (member.key ∉ keys ∧ ∃ written, written? member.valueText = some written) := by
  -- The induction is on how the members were made, and each step brings one member at most.
  induction made with
  | nil => cases among
  | write keyed has made ih =>
    rcases List.mem_cons.mp among with rfl | among
    · exact .inl ⟨_, List.mem_cons_self, keyed, has⟩
    · rcases ih among with ⟨field, inside, own⟩ | other
      · exact .inl ⟨field, List.mem_cons_of_mem _ inside, own⟩
      · exact .inr other
  | drop omitted made ih =>
    rcases ih among with ⟨field, inside, own⟩ | other
    · exact .inl ⟨field, List.mem_cons_of_mem _ inside, own⟩
    · exact .inr other
  | add foreign found made ih =>
    rcases List.mem_cons.mp among with rfl | among
    · exact .inr ⟨foreign, _, found⟩
    · exact ih among
  | permute moved made ih => exact ih (moved.mem_iff.mpr among)

/-- The value of each member is JSON. -/
theorem valued (made : Members keys fields members) {member : Member} (among : member ∈ members) :
    ∃ written, written? member.valueText = some written := by
  -- A member of the record has a text of its field, and any other has JSON by itself.
  rcases made.origin among with ⟨field, _, _, has⟩ | ⟨_, found⟩
  · exact field.texts.readable has
  · exact found

/-- The members under a key. -/
def under (key : String) (members : List Member) : List Member :=
  members.filter fun member => member.key = key

/-- No member stands under a key of the record that none of these fields has. -/
theorem under_eq_nil (made : Members keys fields members) {key : String} (known : key ∈ keys)
    (absent : key ∉ fields.map Field.key) : under key members = [] := by
  -- A member with this key would be that of one of the fields.
  rw [under, List.filter_eq_nil_iff]
  intro member among same
  rw [decide_eq_true_eq] at same
  rcases made.origin among with ⟨field, inside, keyed, _⟩ | ⟨foreign, _⟩
  · exact absent (List.mem_map.mpr ⟨field, inside, keyed.symm.trans same⟩)
  · exact foreign (same ▸ known)

/-- Under the key of a field stands one member that writes it, or none where it is left out. -/
def Sole (field : Field) (members : List Member) : Prop :=
  (under field.key members = [] ∧ field.Omits) ∨
    ∃ member, under field.key members = [member] ∧ field.texts.Has member.valueText

/-- A member with another key changes nothing for a field. -/
theorem sole_cons {field : Field} {member : Member} (apart : member.key ≠ field.key) :
    Sole field (member :: members) ↔ Sole field members := by
  -- The member is passed over when those under the key are gathered.
  simp [Sole, under, apart]

/-- It makes no difference for a field in which order the members stand. -/
theorem Sole.perm {field : Field} {others : List Member} (sole : Sole field members)
    (moved : members.Perm others) : Sole field others := by
  -- At most one member stands under the key, and so its place among them is fixed.
  have same : (under field.key members).Perm (under field.key others) := moved.filter _
  rcases sole with ⟨none, omitted⟩ | ⟨member, one, has⟩
  · rw [none] at same
    exact .inl ⟨same.nil_eq.symm, omitted⟩
  · rw [one] at same
    exact .inr ⟨member, (List.singleton_perm.mp same).symm, has⟩

/-- Each field has one member that writes it, or none where it is left out. -/
theorem sole (made : Members keys fields members) (distinct : (fields.map Field.key).Nodup)
    (known : ∀ field ∈ fields, field.key ∈ keys) : ∀ field ∈ fields, Sole field members := by
  -- Each step keeps this for the fields before, whose keys differ from that of its own member.
  induction made with
  | nil => simp
  | @write first fields member members keyed has made ih =>
    rw [List.map_cons, List.nodup_cons] at distinct
    rw [List.forall_mem_cons] at known ⊢
    refine ⟨.inr ⟨member, ?_, has⟩, fun field inside => ?_⟩
    · have none := made.under_eq_nil known.1 distinct.1
      rw [under] at none
      rw [under, List.filter_cons_of_pos (by simpa using keyed), none]
    · have apart : member.key ≠ field.key := by
        intro same
        exact distinct.1 (List.mem_map.mpr ⟨field, inside, same.symm.trans keyed⟩)
      exact (sole_cons apart).mpr (ih distinct.2 known.2 field inside)
  | drop omitted made ih =>
    rw [List.map_cons, List.nodup_cons] at distinct
    rw [List.forall_mem_cons] at known ⊢
    exact ⟨.inl ⟨made.under_eq_nil known.1 distinct.1, omitted⟩, ih distinct.2 known.2⟩
  | @add fields member members written foreign found made ih =>
    intro field inside
    have apart : member.key ≠ field.key := fun same => foreign (same ▸ known field inside)
    exact (sole_cons apart).mpr (ih distinct known field inside)
  | permute moved made ih =>
    intro field inside
    exact (ih distinct known field inside).perm moved

/-- The members of the structure of an object. -/
def written (members : List Member) : List (Option String × Written) :=
  members.map fun member => (some member.key, structured member.valueText)

/-- The values under a key are those of the members under it. -/
theorem valuesAt_written (key : String) (members : List Member) :
    Written.valuesAt key (written members) =
      (under key members).map fun member => structured member.valueText := by
  -- Keys are compared member by member, on either side.
  simp [Written.valuesAt, written, under, List.filter_map, Function.comp_def]

/-- What is found under the key of a field is what its member writes, or nothing. -/
theorem Sole.fieldAt?_eq {field : Field} (sole : Sole field members) :
    ∃ found, field.Found found ∧
      Written.fieldAt? (written members) field.key = some found := by
  -- A field that was left out has no member under its key, and any other has one.
  rcases sole with ⟨empty, omitted⟩ | ⟨member, one, has⟩
  · refine ⟨none, omitted, ?_⟩
    rw [Written.fieldAt?, valuesAt_written, empty, List.map_nil]
  · refine ⟨some (structured member.valueText), ?_, ?_⟩
    · exact ⟨_, has, structured_eq (field.texts.readable has)⟩
    · rw [Written.fieldAt?, valuesAt_written, one, List.map_singleton]

end Members

/-- The text of members between braces. -/
def objectText (members : List Member) : List Char :=
  '\x7b' :: Text.joined [','] (members.map Member.text) ++ ['\x7d']

/-- The structure of an object has that of each member under its key. -/
theorem written?_objectText {members : List Member}
    (keyed : ∀ member ∈ members, (Texts.exact (.string member.key)).Has member.keyText)
    (valued : ∀ member ∈ members, ∃ written, written? member.valueText = some written) :
    written? (objectText members) = some (.object (Members.written members)) := by
  -- Each key names itself and each value reads as its structure, wherever they stand.
  apply Spells.written?_eq
  apply spells_object_of_reads (fun member => member)
  · intro member among
    exact names_of_written? (keyed member among)
  · intro member among
    exact reads_iff.mpr (structured_eq (valued member among))

/-- The texts of a record: an object with its members, or an array of its fields in order. -/
inductive Record (fields : List Field) : List Char → Prop
  /-- An object may have its members in any order, with others among them. -/
  | object {members : List Member} : Members (fields.map Field.key) fields members →
    (∀ member ∈ members, (Texts.exact (.string member.key)).Has member.keyText) →
      Record fields (objectText members)
  /-- An array may leave out fields at its end alone, as it has no keys. -/
  | array {kept dropped : List Field} {texts : List (List Char)} : kept ++ dropped = fields →
    List.Forall₂ (fun field text => field.texts.Has text) kept texts →
      (∀ field ∈ dropped, field.Omits) → Record fields (arrayText texts)

namespace Record

variable {fields : List Field}

/-- The items of a record that is written as an array are JSON. -/
theorem valued {kept : List Field} {texts : List (List Char)}
    (each : List.Forall₂ (fun field text => field.texts.Has text) kept texts) :
    ∀ text ∈ texts, ∃ written, written? text = some written := by
  -- Each item is one of the texts of its field.
  intro text among
  obtain ⟨field, _, has⟩ := Lists.exists_of_mem_results each among
  exact field.texts.readable has

/-- Every text of a record is JSON. -/
theorem readable {text : List Char} (record : Record fields text) :
    ∃ written, written? text = some written := by
  -- A record is an object or an array, and both have a structure.
  cases record with
  | object made keyed => exact ⟨_, written?_objectText keyed fun member => made.valued⟩
  | array _ each _ => exact ⟨_, written?_arrayText (valued each)⟩

end Record

/-- The texts of a record with some fields. -/
def Texts.record (fields : List Field) : Texts := ⟨Record fields, Record.readable⟩

/-- Where each field is found by its key, all of them are found together. -/
theorem mapM_fieldAt? {fields : List Field} {members : List (Option String × Written)}
    (each : ∀ field ∈ fields, ∃ found, field.Found found ∧
      Written.fieldAt? members field.key = some found) :
    ∃ values, List.Forall₂ Field.Found fields values ∧
      (fields.map Field.key).mapM (Written.fieldAt? members) = some values := by
  -- A field that is not found would be the one to fail, and none is.
  induction fields with
  | nil => exact ⟨[], .nil, rfl⟩
  | cons field fields ih =>
    rw [List.forall_mem_cons] at each
    obtain ⟨⟨found, own, first⟩, others⟩ := each
    obtain ⟨values, related, rest⟩ := ih others
    exact ⟨found :: values, .cons own related, by simp [List.mapM_cons, first, rest]⟩

/-- Fields whose texts stand in order are found as what these texts are. -/
theorem found_structured {kept : List Field} {texts : List (List Char)}
    (each : List.Forall₂ (fun field text => field.texts.Has text) kept texts) :
    List.Forall₂ Field.Found kept ((texts.map structured).map some) := by
  -- Each text has the structure that its field may be found as.
  induction each with
  | nil => exact .nil
  | @cons field text fields texts has _ ih =>
    exact .cons ⟨text, has, structured_eq (field.texts.readable has)⟩ ih

/-- Fields that are left out are found as nothing. -/
theorem found_replicate {dropped : List Field} (omitted : ∀ field ∈ dropped, field.Omits) :
    List.Forall₂ Field.Found dropped (List.replicate dropped.length none) := by
  -- For a field that may be left out, nothing is a thing to find.
  induction dropped with
  | nil => exact .nil
  | cons field dropped ih =>
    rw [List.forall_mem_cons] at omitted
    exact .cons omitted.1 (ih omitted.2)

/-- Every text of a record gives each field what was written for it, or nothing. -/
theorem fields?_of_record {fields : List Field} (distinct : (fields.map Field.key).Nodup)
    {written : Written} (given : (Texts.record fields).Give written) :
    ∃ values, written.fields? (fields.map Field.key) = some values ∧
      List.Forall₂ Field.Found fields values := by
  obtain ⟨text, record, read⟩ := given
  cases record with
  | @object members made keyed =>
    rw [written?_objectText keyed fun member => made.valued, Option.some.injEq] at read
    subst read
    have known : ∀ field ∈ fields, field.key ∈ fields.map Field.key :=
      fun field inside => List.mem_map_of_mem inside
    obtain ⟨values, related, found⟩ := mapM_fieldAt? fun field inside =>
      (made.sole distinct known field inside).fieldAt?_eq
    refine ⟨values, ?_, related⟩
    -- No key is without a name, so the fields are looked up.
    rw [Written.fields?, if_pos (by simp [Members.written]), found]
  | @array kept dropped texts split each omitted =>
    rw [written?_arrayText (Record.valued each), Option.some.injEq] at read
    subst split read
    refine ⟨_, ?_, List.rel_append (found_structured each) (found_replicate omitted)⟩
    -- There is one item for each field that is kept.
    have same := each.length_eq
    simp [Written.fields?, ← same]

/-- In the compact text of an object stands a member for each field of a record. -/
theorem has_record {fields : List Field} {members : List (String × Json)}
    (each : List.Forall₂ (fun field member => member.1 = field.key ∧
      field.texts.Has member.2.compact) fields members) :
    (Texts.record fields).Has (object members).compact := by
  -- No member is moved, added or dropped.
  have made : ∀ keys, Members keys fields
      (members.map fun member => .quoted member.1 member.2.compact) := by
    intro keys
    induction each with
    | nil => exact .nil
    | cons own _ ih => exact .write own.1 own.2 ih
  have text : (object members).compact =
      objectText (members.map fun member => .quoted member.1 member.2.compact) := by
    rw [compact, compactMembers_eq_map, objectText, List.map_map]
    rfl
  rw [text]
  refine Record.object (made _) fun member among => ?_
  obtain ⟨own, _, rfl⟩ := List.mem_map.mp among
  exact Texts.has_quoted own.1 _

end DocSource.Json
