import DocSource.Pipeline.Query
import DocSource.Proofs.Pipeline.Expansion
import DocSource.Proofs.Settings
import Mathlib.Data.List.Nodup

/-!
The order of templates: with distinct names, a stage calls for the same template in whatever order
they are listed, and for the same one beside others that it does not name. Main statement:
`compile_rearranged`, which says so of queries and of the settings values that list the templates.
-/

namespace DocSource

namespace StageTemplate

/-- Templates are told apart by the operators that call for them. -/
theorem name_eq_of_operator_eq {template other : StageTemplate}
    (same : template.operator = other.operator) : template.name = other.name :=
  -- Operators are names behind one common sign.
  (String.append_right_inj "$").mp same

/-- Among templates with distinct names, the one with an operator is found wherever it stands. -/
theorem find?_eq_some_iff {templates : List StageTemplate}
    (distinct : (templates.map (·.name)).Nodup) {key : String} {template : StageTemplate} :
    templates.find? (·.operator == key) = some template ↔
      template ∈ templates ∧ template.operator = key := by
  constructor
  · intro found
    exact ⟨List.mem_of_find?_eq_some found, by simpa using List.find?_some found⟩
  · rintro ⟨among, rfl⟩
    -- Something is found, and no other template has this operator.
    cases found : templates.find? (·.operator == template.operator) with
    | none =>
      have missed := List.find?_eq_none.mp found template among
      simp at missed
    | some other =>
      have same : other.operator = template.operator := by simpa using List.find?_some found
      rw [List.inj_on_of_nodup_map distinct (List.mem_of_find?_eq_some found) among
        (name_eq_of_operator_eq same)]

/-- The template that a key calls for is the same in any order of the templates. -/
theorem find?_perm {templates others : List StageTemplate} (moved : others.Perm templates)
    (distinct : (templates.map (·.name)).Nodup) (key : String) :
    others.find? (·.operator == key) = templates.find? (·.operator == key) := by
  -- Names are distinct, so at most one template has the operator, wherever it stands.
  have apart : (others.map (·.name)).Nodup := (moved.map _).nodup_iff.mpr distinct
  refine Option.ext fun template => ?_
  rw [find?_eq_some_iff apart, find?_eq_some_iff distinct, moved.mem_iff]

/-- Stages that call for the same templates in two lists expand alike with either. -/
theorem expand_congr {templates others : List StageTemplate} (values : Placeholders)
    {stages : List Document}
    (same : ∀ stage ∈ stages, called? others stage = called? templates stage) :
    expand others values stages = expand templates values stages := by
  -- A stage is expanded by what it calls for and by nothing else in the templates.
  induction stages with
  | nil => rfl
  | cons stage rest ih =>
    have first : expandStage others values stage = expandStage templates values stage := by
      rw [expandStage, expandStage, same stage (by simp)]
    rw [expand, expand, first, ih fun other among => same other (by simp [among])]

/-- A stage calls for the same template in any order of the templates. -/
theorem called?_perm {templates others : List StageTemplate} (moved : others.Perm templates)
    (distinct : (templates.map (·.name)).Nodup) (stage : Document) :
    called? others stage = called? templates stage := by
  -- Only a stage of one key looks a template up.
  match stage with
  | [] | _ :: _ :: _ => rfl
  | [(key, argument)] => rw [called?, called?, find?_perm moved distinct]

/-- A template in front of others makes no difference to a stage that does not name it. -/
theorem called?_cons {template : StageTemplate} {stage : Document}
    (free : ∀ argument, stage ≠ [(template.operator, argument)])
    (templates : List StageTemplate) :
    called? (template :: templates) stage = called? templates stage := by
  -- Only a stage of one key looks a template up, and the one in front has another operator.
  match stage with
  | [] | _ :: _ :: _ => rfl
  | [(key, argument)] =>
    have differs : (template.operator == key) = false := by
      rw [beq_eq_false_iff_ne]
      rintro rfl
      exact free argument rfl
    rw [called?, called?, List.find?_cons_of_neg (by simp [differs])]

end StageTemplate

namespace Query

/-- The stages that a query lists, before any template takes the place of one. -/
def listed (query : Query) (range : TimeRange) : Except Error (List Document) := do
  -- The values are those that the query is compiled with.
  let values : Placeholders :=
    ⟨range.start, range.stop, if query.samples < 1 then 1 else query.samples⟩
  let target ← Target.ofText (values.fill query.target.toList) query.collection
  readStages target.source

/-- A query compiles alike with templates for which its stages call alike. -/
theorem compile_congr {query : Query} {range : TimeRange} {templates others : List StageTemplate}
    (same : ∀ stages, query.listed range = .ok stages → ∀ stage ∈ stages,
      StageTemplate.called? others stage = StageTemplate.called? templates stage) :
    query.compile range others = query.compile range templates := by
  unfold compile
  cases query.rejected with
  | some reason => rfl
  | none =>
    cases query.shape with
    | error fault => rfl
    | ok shape =>
      -- Templates come in behind the stages, so nothing before them is concerned.
      unfold listed at same
      simp only [bind, Except.bind, compileText] at same ⊢
      split
      · rfl
      · next target read =>
        rw [read] at same
        split
        · rfl
        · next stages taken => rw [StageTemplate.expand_congr _ (same stages taken)]

end Query

namespace Settings

/-- Two values name the same place and the same database, whatever templates they list. -/
structure Alike (json other : Json) : Prop where
  uri_eq : other.stringAt "mongodb_url" defaultUri = json.stringAt "mongodb_url" defaultUri
  database_eq :
    other.stringAt "mongodb_db" defaultDatabase = json.stringAt "mongodb_db" defaultDatabase

/-- Objects that differ in what they list as templates alone are alike. -/
theorem Alike.of_members (before after : List (String × Json)) (value other : Json) :
    Alike (.object (before ++ ("stages", value) :: after))
      (.object (before ++ ("stages", other) :: after)) := by
  -- A member under another key is passed over, whatever its value is.
  have passed : ∀ key, (key == "stages") = false →
      (before ++ ("stages", other) :: after).lookup key =
        (before ++ ("stages", value) :: after).lookup key := by
    intro key differs
    simp only [List.lookup_append, List.lookup_cons, differs]
  constructor
  · simp only [Json.stringAt, Json.stringAt?, Json.get?, passed "mongodb_url" (by decide)]
  · simp only [Json.stringAt, Json.stringAt?, Json.get?, passed "mongodb_db" (by decide)]

/-- A value that lists other templates with distinct names is accepted like the first. -/
theorem Accepted.alike {json other : Json} {settings : Settings}
    (accepted : Accepted json settings) (alike : Alike json other)
    (distinct : (((other.arrayAt "stages").filterMap usable?).map (·.name)).Nodup) :
    Accepted other { settings with templates := (other.arrayAt "stages").filterMap usable? } where
  -- Nothing but the list of templates is read differently.
  uri_eq := by rw [alike.uri_eq]; exact accepted.uri_eq
  database_eq := by rw [alike.database_eq]; exact accepted.database_eq
  templates_eq := rfl
  scheme := accepted.scheme
  named := accepted.named
  distinct := distinct

end Settings

/--
Settings with their entries in another order are accepted as well and compile every query alike, to
the same pipeline or the same error; and so are settings with one more usable entry, whose name is
new, for every query that does not list a stage with its operator for the only key.
-/
theorem compile_rearranged {json other : Json} {settings : Settings}
    (accepted : Settings.ofJson json = .ok settings) (alike : Settings.Alike json other) :
    ((other.arrayAt "stages").Perm (json.arrayAt "stages") →
      ∃ moved, Settings.ofJson other = .ok moved ∧ moved.templates.Perm settings.templates ∧
        ∀ (query : Query) (range : TimeRange),
          query.compile range moved.templates = query.compile range settings.templates) ∧
    ∀ entry template, Settings.usable? entry = some template →
      template.name ∉ settings.templates.map (·.name) →
      (other.arrayAt "stages").Perm (entry :: json.arrayAt "stages") →
      ∃ wider, Settings.ofJson other = .ok wider ∧
        wider.templates.Perm (template :: settings.templates) ∧
        ∀ (query : Query) (range : TimeRange),
          (∀ stages, query.listed range = .ok stages →
            ∀ argument, [(template.operator, argument)] ∉ stages) →
          query.compile range wider.templates = query.compile range settings.templates := by
  have given := Settings.ofJson_eq_ok_iff.mp accepted
  constructor
  · intro rearranged
    have moved := rearranged.filterMap Settings.usable?
    rw [← given.templates_eq] at moved
    have distinct := (moved.map (·.name)).nodup_iff.mpr given.distinct
    refine ⟨_, Settings.ofJson_eq_ok_iff.mpr (given.alike alike distinct), moved, ?_⟩
    intro query range
    exact Query.compile_congr fun _ _ stage _ =>
      StageTemplate.called?_perm moved given.distinct stage
  · intro entry template usable fresh extended
    have moved := extended.filterMap Settings.usable?
    rw [List.filterMap_cons_some usable, ← given.templates_eq] at moved
    have apart : ((template :: settings.templates).map (·.name)).Nodup :=
      List.nodup_cons.mpr ⟨fresh, given.distinct⟩
    have distinct := (moved.map (·.name)).nodup_iff.mpr apart
    refine ⟨_, Settings.ofJson_eq_ok_iff.mpr (given.alike alike distinct), moved, ?_⟩
    intro query range free
    refine Query.compile_congr fun stages read stage among => ?_
    -- The new template may be thought of as the first, which the stage passes over.
    rw [StageTemplate.called?_perm moved apart,
      StageTemplate.called?_cons fun argument same => free stages read argument (same ▸ among)]

/-- Two templates change places around an entry without a stage, and a third one comes in. -/
theorem compile_rearranged_pair :
    let entry (name : String) : Json := .object [("name", .string name), ("stage", .string "7")]
    let json (entries : List Json) : Json :=
      .object [("mongodb_db", .string " db "), ("stages", .array entries)]
    let given : List StageTemplate := [⟨"a", "7"⟩, ⟨"b", "7"⟩]
    let listing : Query :=
      ⟨"A", "[\x7b\"$a\":1\x7d]", "table", some "x", 1, .timeSeries, none⟩
    (∃ moved, Settings.ofJson (json [entry "b", .null, entry " a "]) = .ok moved ∧
      ∀ (query : Query) (range : TimeRange),
        query.compile range moved.templates = query.compile range given) ∧
    ∃ wider, Settings.ofJson (json [entry " a ", entry "c", entry "b", .null]) = .ok wider ∧
      listing.compile ⟨0, 9⟩ wider.templates = listing.compile ⟨0, 9⟩ given := by
  intro entry json given listing
  have accepted : Settings.ofJson (json [entry " a ", entry "b", .null]) =
      .ok ⟨Settings.defaultUri, "db", given⟩ := by
    rw [Settings.ofJson_eq_ok_iff]
    constructor <;> decide +kernel +zetaReduce
  have alike (entries : List Json) :
      Settings.Alike (json [entry " a ", entry "b", .null]) (json entries) :=
    .of_members [("mongodb_db", .string " db ")] [] _ _
  have listed (entries : List Json) : (json entries).arrayAt "stages" = entries := by rfl
  constructor
  · have turned : ((json [entry "b", .null, entry " a "]).arrayAt "stages").Perm
        ((json [entry " a ", entry "b", .null]).arrayAt "stages") := by
      rw [listed, listed]
      show ([entry "b", .null] ++ [entry " a "]).Perm ([entry " a "] ++ [entry "b", .null])
      exact List.perm_append_comm
    obtain ⟨moved, read, -, same⟩ := (compile_rearranged accepted (alike _)).1 turned
    exact ⟨moved, read, same⟩
  · have added : ((json [entry " a ", entry "c", entry "b", .null]).arrayAt "stages").Perm
        (entry "c" :: (json [entry " a ", entry "b", .null]).arrayAt "stages") := by
      rw [listed, listed]
      exact .swap ..
    have usable : Settings.usable? (entry "c") = some ⟨"c", "7"⟩ := by
      decide +kernel +zetaReduce
    have fresh : "c" ∉ given.map (·.name) := by decide
    obtain ⟨wider, read, -, same⟩ :=
      (compile_rearranged accepted (alike _)).2 (entry "c") ⟨"c", "7"⟩ usable fresh added
    refine ⟨wider, read, same listing ⟨0, 9⟩ fun stages taken argument among => ?_⟩
    -- The one stage that is listed has another key.
    have keys : (listing.listed ⟨0, 9⟩).map (List.map (List.map Prod.fst)) = .ok [["$a"]] := by
      decide +kernel +zetaReduce
    rw [taken, Except.map, Except.ok.injEq] at keys
    have found := List.mem_map_of_mem (f := List.map Prod.fst) among
    rw [keys] at found
    simp [StageTemplate.operator] at found

end DocSource
