import DocSource.Settings

/-!
Settings: which values are accepted and with what templates, and with what error others fail. Main
statement: `Settings.ofText_described`, which says so of texts.
-/

namespace DocSource

/-- What is found under a key: a value of one kind, or else a default. -/
def Json.Under {α : Type} (json : Json) (key : String) (kind : α → Json) (default value : α) :
    Prop :=
  -- A value of another kind counts like none at all.
  json.get? key = some (kind value) ∨
    (∀ other, json.get? key ≠ some (kind other)) ∧ value = default

/-- A reader of one kind of values finds what is under a key, or else the default. -/
theorem Json.under_iff {α : Type} (read : Json → Option α) {kind : α → Json}
    (reads : ∀ json value, read json = some value ↔ json = kind value) (json : Json)
    (key : String) (default value : α) :
    ((json.get? key).bind read).getD default = value ↔ json.Under key kind default value := by
  have found : ∀ other, (json.get? key).bind read = some other ↔
      json.get? key = some (kind other) := by
    intro other
    rw [Option.bind_eq_some_iff]
    constructor
    · rintro ⟨inner, there, own⟩
      rw [there, (reads inner other).mp own]
    · intro there
      exact ⟨kind other, there, (reads _ other).mpr rfl⟩
  rw [Json.Under, ← found value]
  cases own : (json.get? key).bind read with
  | none =>
    -- Nothing of this kind is there.
    have none : ∀ other, json.get? key ≠ some (kind other) := by
      intro other there
      rw [(found other).mpr there] at own
      cases own
    simpa [none] using eq_comm
  | some inner =>
    have there := (found inner).mp own
    constructor
    · rintro rfl
      exact .inl rfl
    · rintro (same | ⟨none, -⟩)
      · exact Option.some.inj same
      · exact absurd there (none inner)

/-- A string under a key is the text of a string there, or else the default. -/
theorem Json.stringAt_eq_iff {json : Json} {key default text : String} :
    json.stringAt key default = text ↔ json.Under key .string default text := by
  -- Of all values only a string is looked at.
  refine Json.under_iff Json.string? ?_ json key default text
  intro inner value
  cases inner <;> simp [Json.string?]

/-- The items under a key are those of an array there, or else none. -/
theorem Json.arrayAt_eq_iff {json : Json} {key : String} {items : List Json} :
    json.arrayAt key = items ↔ json.Under key .array [] items := by
  -- Of all values only an array is looked at.
  refine Json.under_iff Json.array? ?_ json key [] items
  intro inner value
  cases inner <;> simp [Json.array?]

namespace Settings

/-- Templates are those of the usable entries, and are accepted when their names are distinct. -/
theorem templatesOf_eq_ok_iff {seen : List String} {entries : List Json}
    {templates : List StageTemplate} :
    templatesOf seen entries = .ok templates ↔
      entries.filterMap usable? = templates ∧ (templates.map (·.name)).Nodup ∧
        ∀ template ∈ templates, template.name ∉ seen := by
  -- The names that were seen grow by that of each usable entry.
  induction entries generalizing seen templates with
  | nil =>
    simp only [templatesOf, Except.ok.injEq, List.filterMap_nil]
    exact ⟨fun same => by simp [← same], fun same => same.1⟩
  | cons entry rest ih =>
    rw [templatesOf]
    cases found : usable? entry with
    | none => simpa [found] using ih
    | some template =>
      rw [List.filterMap_cons_some found]
      by_cases again : template.name ∈ seen
      · -- A name that was seen before is refused.
        simp only [if_pos again, reduceCtorEq, false_iff]
        rintro ⟨rfl, -, fresh⟩
        exact fresh template (by simp) again
      · simp only [if_neg again]
        constructor
        · intro accepted
          cases others : templatesOf (template.name :: seen) rest with
          | error reason => simp [others, bind, Except.bind] at accepted
          | ok more =>
            obtain ⟨rfl, distinct, fresh⟩ := ih.mp others
            obtain rfl : template :: _ = templates := by
              simpa [others, bind, Except.bind] using accepted
            simp only [List.mem_cons, not_or] at fresh
            refine ⟨rfl, ?_, ?_⟩
            · rw [List.map_cons, List.nodup_cons]
              refine ⟨fun twice => ?_, distinct⟩
              obtain ⟨other, among, same⟩ := List.mem_map.mp twice
              exact (fresh other among).1 same
            · exact List.forall_mem_cons.mpr ⟨again, fun other among => (fresh other among).2⟩
        · rintro ⟨rfl, distinct, fresh⟩
          rw [List.map_cons, List.nodup_cons] at distinct
          have others : templatesOf (template.name :: seen) rest = .ok (rest.filterMap usable?) :=
            ih.mpr ⟨rfl, distinct.2, fun other among => by
              rw [List.mem_cons, not_or]
              exact ⟨fun same => distinct.1 (List.mem_map.mpr ⟨other, among, same⟩),
                fresh other (List.mem_cons_of_mem _ among)⟩⟩
          simp [others, bind, Except.bind]

/-- Settings are those of a value: its place has a scheme, its names are not blank or doubled. -/
structure Accepted (json : Json) (settings : Settings) : Prop where
  uri_eq : settings.uri = Text.trimmed (json.stringAt "mongodb_url" defaultUri)
  database_eq : settings.database = Text.trimmed (json.stringAt "mongodb_db" defaultDatabase)
  templates_eq : settings.templates = (json.arrayAt "stages").filterMap usable?
  scheme : Text.occurs "://".toList settings.uri.toList = true
  named : settings.database ≠ ""
  distinct : (settings.templates.map (·.name)).Nodup

/-- A value is read as settings exactly when they are its settings and usable. -/
theorem ofJson_eq_ok_iff {json : Json} {settings : Settings} :
    ofJson json = .ok settings ↔ Accepted json settings := by
  -- No name was seen before the first entry.
  have templates (list : List StageTemplate) : templatesOf [] (json.arrayAt "stages") = .ok list ↔
      (json.arrayAt "stages").filterMap usable? = list ∧ (list.map (·.name)).Nodup := by
    simpa using @templatesOf_eq_ok_iff [] (json.arrayAt "stages") list
  simp only [ofJson]
  constructor
  · intro read
    split at read
    · cases read
    · next scheme =>
      split at read
      · cases read
      · next named =>
        cases taken : templatesOf [] (json.arrayAt "stages") with
        | error fault => simp [taken, bind, Except.bind] at read
        | ok list =>
          obtain ⟨same, distinct⟩ := (templates list).mp taken
          obtain rfl : _ = settings := by simpa [taken, bind, Except.bind] using read
          exact ⟨rfl, rfl, same.symm, by simpa using scheme, named, distinct⟩
  · rintro ⟨uri, database, list, scheme, named, distinct⟩
    have taken := (templates settings.templates).mpr ⟨list.symm, distinct⟩
    rw [← uri, ← database, if_neg (by rw [scheme]; decide), if_neg named, taken]
    rfl

/-- Templates are refused with an error of the configuration. -/
theorem exists_config_of_templatesOf {seen : List String} {entries : List Json} {fault : Error}
    (refused : templatesOf seen entries = .error fault) : ∃ reason, fault = .config reason := by
  -- The first entry is skipped, refused as a duplicate, or kept in front of the others.
  induction entries generalizing seen with
  | nil => simp [templatesOf] at refused
  | cons entry rest ih =>
    rw [templatesOf] at refused
    cases found : usable? entry with
    | none => exact ih (by simpa [found] using refused)
    | some template =>
      simp only [found] at refused
      split at refused
      · exact ⟨_, (Except.error.inj refused).symm⟩
      · cases others : templatesOf (template.name :: seen) rest with
        | error reason =>
          have same : reason = fault := by simpa [others, bind, Except.bind] using refused
          subst same
          exact ih others
        | ok templates => simp [others, bind, Except.bind] at refused

/-- Settings are refused with an error of the configuration. -/
theorem exists_config_of_ofText {text : String} {fault : Error}
    (refused : ofText text = .error fault) : ∃ reason, fault = .config reason := by
  unfold ofText at refused
  split at refused
  · -- A value is refused for its place, its database or its templates.
    rename_i json _
    simp only [ofJson] at refused
    split at refused
    · exact ⟨_, (Except.error.inj refused).symm⟩
    · split at refused
      · exact ⟨_, (Except.error.inj refused).symm⟩
      · cases taken : templatesOf [] (json.arrayAt "stages") with
        | error reason =>
          have same : reason = fault := by simpa [taken, bind, Except.bind] using refused
          subst same
          exact exists_config_of_templatesOf taken
        | ok templates => simp [taken, bind, Except.bind] at refused
  · exact ⟨_, (Except.error.inj refused).symm⟩

/-- An entry is usable as a template: an object with a name and a stage that are not blank. -/
def Usable (entry : Json) (template : StageTemplate) : Prop :=
  -- The name loses the blanks around it, and the stage is kept as it is written.
  ∃ members name stage, entry = .object members ∧
    members.lookup "name" = some (.string name) ∧ Text.blank name = false ∧
    members.lookup "stage" = some (.string stage) ∧ Text.blank stage = false ∧
    template = ⟨Text.trimmed name, stage⟩

/-- The templates that entries list: those of the usable ones in their order, and no others. -/
inductive Listed : List Json → List StageTemplate → Prop
  | nil : Listed [] []
  /-- A usable entry gives its template, in its place. -/
  | usable {entry : Json} {template : StageTemplate} {rest : List Json}
      {templates : List StageTemplate} :
      Usable entry template → Listed rest templates →
        Listed (entry :: rest) (template :: templates)
  /-- An entry that no template can be made of is passed over. -/
  | unusable {entry : Json} {rest : List Json} {templates : List StageTemplate} :
      (∀ template, ¬ Usable entry template) → Listed rest templates →
        Listed (entry :: rest) templates

/-- Nothing is left of a text without its blanks exactly when it is blank. -/
theorem trimmed_eq_empty_iff {text : String} :
    Text.trimmed text = "" ↔ Text.blank text = true := by
  -- A text is empty when trimming leaves no character of it.
  rw [Text.trimmed, ← String.toList_inj, String.toList_ofList, Text.blank, List.all_eq_true]
  exact Text.trim_eq_nil_iff

/-- A member that is not blank as a string is a string. -/
theorem lookup_of_stringAt {members : List (String × Json)} {key : String}
    (solid : Text.blank ((Json.object members).stringAt key "") = false) :
    members.lookup key = some (.string ((Json.object members).stringAt key "")) := by
  have under : (Json.object members).Under key .string "" _ := Json.stringAt_eq_iff.mp rfl
  rcases under with there | ⟨-, empty⟩
  · exact there
  · -- The default is blank.
    rw [empty] at solid
    cases solid

/-- An entry gives the template that it is usable as. -/
theorem usable?_eq_some_iff {entry : Json} {template : StageTemplate} :
    usable? entry = some template ↔ Usable entry template := by
  cases entry with
  | object members =>
    simp only [usable?, Bool.or_eq_true, decide_eq_true_eq, trimmed_eq_empty_iff]
    constructor
    · intro given
      split at given
      · cases given
      · next solid =>
        rw [not_or, Bool.not_eq_true, Bool.not_eq_true] at solid
        exact ⟨members, _, _, rfl, lookup_of_stringAt solid.1, solid.1,
          lookup_of_stringAt solid.2, solid.2, (Option.some.inj given).symm⟩
    · rintro ⟨own, name, stage, same, named, solid, staged, full, rfl⟩
      cases same
      have nameAt : (Json.object members).stringAt "name" "" = name :=
        Json.stringAt_eq_iff.mpr (.inl named)
      have stageAt : (Json.object members).stringAt "stage" "" = stage :=
        Json.stringAt_eq_iff.mpr (.inl staged)
      rw [nameAt, stageAt, if_neg (by simp [solid, full])]
  | _ =>
    -- Only an object has members.
    constructor
    · nofun
    · rintro ⟨_, _, _, same, -⟩
      cases same

/-- Entries list the templates that they give one after the other. -/
theorem listed_iff {entries : List Json} {templates : List StageTemplate} :
    Listed entries templates ↔ entries.filterMap usable? = templates := by
  -- An entry that is passed over has no template, and any other has one.
  constructor
  · intro listed
    induction listed with
    | nil => rfl
    | usable own _ ih => rw [List.filterMap_cons_some (usable?_eq_some_iff.mpr own), ih]
    | unusable none _ ih =>
      rw [List.filterMap_cons_none, ih]
      exact Option.eq_none_iff_forall_ne_some.mpr fun template own =>
        none template (usable?_eq_some_iff.mp own)
  · -- The other direction goes by what each entry gives.
    rintro rfl
    induction entries with
    | nil => exact .nil
    | cons entry rest ih =>
      cases own : usable? entry with
      | none =>
        rw [List.filterMap_cons_none own]
        refine .unusable ?_ ih
        intro template usable
        rw [usable?_eq_some_iff.mpr usable] at own
        cases own
      | some template =>
        rw [List.filterMap_cons_some own]
        exact .usable (usable?_eq_some_iff.mp own) ih

/-- Settings are described by a value: two texts or their defaults, and the templates it lists. -/
structure Described (json : Json) (settings : Settings) : Prop where
  /-- The place is a text of its own or the default, without the blanks around it. -/
  uri : ∃ text, json.Under "mongodb_url" .string "mongodb://localhost:27017" text ∧
    settings.uri = Text.trimmed text
  /-- So is the name of the database. -/
  database : ∃ text, json.Under "mongodb_db" .string "test" text ∧
    settings.database = Text.trimmed text
  /-- The templates are those of the entries, and there are none without a list of entries. -/
  templates : ∃ entries, json.Under "stages" .array [] entries ∧
    Listed entries settings.templates
  /-- A place needs a scheme. -/
  scheme : "://".toList <:+: settings.uri.toList
  /-- Blanks alone are no name for a database. -/
  named : settings.database ≠ ""
  /-- No two templates have one name, once the blanks around it are gone. -/
  distinct : (settings.templates.map (·.name)).Nodup

/-- Settings are accepted exactly when a value describes them. -/
theorem accepted_iff {json : Json} {settings : Settings} :
    Accepted json settings ↔ Described json settings := by
  -- Each clause of the one is a clause of the other, with the values under the keys made explicit.
  constructor
  · intro accepted
    exact {
      uri := ⟨_, Json.stringAt_eq_iff.mp rfl, accepted.uri_eq⟩
      database := ⟨_, Json.stringAt_eq_iff.mp rfl, accepted.database_eq⟩
      templates := ⟨_, Json.arrayAt_eq_iff.mp rfl, listed_iff.mpr accepted.templates_eq.symm⟩
      scheme := Text.occurs_iff.mp accepted.scheme
      named := accepted.named
      distinct := accepted.distinct }
  · intro described
    obtain ⟨_, uri, same⟩ := described.uri
    obtain ⟨_, database, alike⟩ := described.database
    obtain ⟨_, entries, listed⟩ := described.templates
    obtain rfl := Json.stringAt_eq_iff.mpr uri
    obtain rfl := Json.stringAt_eq_iff.mpr database
    obtain rfl := Json.arrayAt_eq_iff.mpr entries
    exact ⟨same, alike, (listed_iff.mp listed).symm, Text.occurs_iff.mpr described.scheme,
      described.named, described.distinct⟩

/-- A text is read as an empty object when it is blank, and otherwise as the JSON that it is. -/
theorem readJsonOrEmpty?_eq_some_iff {text : String} {json : Json} :
    readJsonOrEmpty? text = some json ↔
      Text.blank text = true ∧ json = .object [] ∨
        Text.blank text = false ∧ Json.read? text.toList = some json := by
  -- A blank text is no JSON, but stands for an object without members.
  unfold readJsonOrEmpty? readJson?
  cases Text.blank text <;> simp [eq_comm]

/-- A text is read as settings when it has a value that they are accepted of. -/
theorem ofText_iff_accepted {text : String} {settings : Settings} :
    ofText text = .ok settings ↔
      ∃ json, readJsonOrEmpty? text = some json ∧ Accepted json settings := by
  -- A text that is read has one value, which is accepted or not.
  unfold ofText
  cases readJsonOrEmpty? text with
  | none => simp
  | some json => simp [ofJson_eq_ok_iff]

end Settings

/--
A text is read as settings exactly when it is blank or JSON and its value describes them; any other
text is an error of the configuration. The names of the templates are never empty.
-/
theorem Settings.ofText_described (text : String) :
    (∀ settings, Settings.ofText text = .ok settings ↔
      ∃ json, (Text.blank text = true ∧ json = .object [] ∨
        Text.blank text = false ∧ Json.read? text.toList = some json) ∧
        Described json settings) ∧
    (∀ fault, Settings.ofText text = .error fault → ∃ reason, fault = .config reason) ∧
    ∀ settings, Settings.ofText text = .ok settings →
      ∀ template ∈ settings.templates, template.name ≠ "" ∧ Text.blank template.stage = false := by
  -- The description is what acceptance says of the value, taken apart.
  refine ⟨?_, ?_, ?_⟩
  · intro settings
    simp only [ofText_iff_accepted, readJsonOrEmpty?_eq_some_iff, accepted_iff]
  · intro fault
    exact exists_config_of_ofText
  · -- A template comes from a usable entry, whose name is not blank.
    intro settings given template among
    obtain ⟨json, -, accepted⟩ := ofText_iff_accepted.mp given
    rw [accepted.templates_eq] at among
    obtain ⟨entry, -, own⟩ := List.mem_filterMap.mp among
    obtain ⟨_, name, stage, -, -, named, -, staged, rfl⟩ := usable?_eq_some_iff.mp own
    refine ⟨?_, staged⟩
    intro empty
    rw [trimmed_eq_empty_iff.mp empty] at named
    cases named

/-- An entry that is no object and one with a blank stage stand between two that are usable. -/
example :
    (Settings.ofText ("\x7b\"stages\": [\x7b\"name\": \" a\", \"stage\": \"1 \"\x7d, 7, " ++
      "\x7b\"name\": \"a\", \"stage\": \" \"\x7d, " ++
      "\x7b\"name\": \"b\", \"stage\": \"2\"\x7d]\x7d")).toOption =
      some ⟨"mongodb://localhost:27017", "test", [⟨"a", "1 "⟩, ⟨"b", "2"⟩]⟩ := by decide +kernel

end DocSource
