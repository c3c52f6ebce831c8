import DocSource.Pipeline.Template

/-! Expansion as a splice: what stands for each stage, one behind the other, and nothing else. -/

namespace DocSource.StageTemplate

variable (templates : List StageTemplate) (values : Placeholders)

/-- A stage alone expands to what stands for it. -/
theorem expand_single (stage : Document) :
    expand templates values [stage] = expandStage templates values stage := by
  -- Nothing is added behind what stands for the stage.
  cases result : expandStage templates values stage <;>
    simp [expand, result, bind, Except.bind]

/-- Two lists of stages expand one behind the other, and the first failure is the failure. -/
theorem expand_append (before after : List Document) :
    expand templates values (before ++ after) =
      match expand templates values before, expand templates values after with
      | .ok first, .ok second => .ok (first ++ second)
      | .error fault, _ => .error fault
      | .ok _, .error fault => .error fault := by
  -- The induction follows the expansion of the first list.
  induction before with
  | nil =>
    cases result : expand templates values after <;> simp [expand, result]
  | cons stage rest ih =>
    cases first : expandStage templates values stage with
    | error fault => simp [expand, first, bind, Except.bind]
    | ok documents =>
      cases second : expand templates values rest <;>
        cases third : expand templates values after <;>
          simp_all [expand, bind, Except.bind]

/-- Expansion joins what stands for each stage. -/
theorem expand_eq_flatten (stages : List Document) :
    expand templates values stages =
      (stages.mapM (expandStage templates values)).map List.flatten := by
  -- The traversal and the expansion take the stages in the same order.
  induction stages with
  | nil => rfl
  | cons stage rest ih =>
    cases first : expandStage templates values stage with
    | error fault => simp [expand, first, bind, Except.bind, Except.map]
    | ok documents =>
      cases others : rest.mapM (expandStage templates values) <;>
        simp [expand, first, ih, others, bind, Except.bind, pure, Except.pure, Except.map]

/-- An expansion fails as its first failing stage does. -/
theorem expand_eq_error_iff {stages : List Document} {fault : Error} :
    expand templates values stages = .error fault ↔
      ∃ before stage after, stages = before ++ stage :: after ∧
        (∀ earlier ∈ before, ∃ documents, expandStage templates values earlier = .ok documents) ∧
        expandStage templates values stage = .error fault := by
  -- The induction follows the expansion, which stops at the first failure.
  induction stages with
  | nil => simp [expand]
  | cons stage rest ih =>
    cases first : expandStage templates values stage with
    | error other =>
      -- Nothing stands before a failing stage at the front.
      simp only [expand, first, bind, Except.bind, Except.error.injEq]
      constructor
      · rintro rfl
        exact ⟨[], stage, rest, rfl, by simp, first⟩
      · rintro ⟨before, failing, after, shape, fine, fails⟩
        cases before with
        | nil =>
          cases shape
          rw [first] at fails
          exact Except.error.inj fails
        | cons earlier more =>
          cases shape
          obtain ⟨documents, done⟩ := fine stage (by simp)
          rw [first] at done
          cases done
    | ok documents =>
      -- The failing stage stands among the others.
      have passed : expand templates values (stage :: rest) = .error fault ↔
          expand templates values rest = .error fault := by
        cases others : expand templates values rest <;>
          simp [expand, first, others, bind, Except.bind]
      rw [passed, ih]
      constructor
      · rintro ⟨before, failing, after, rfl, fine, fails⟩
        refine ⟨stage :: before, failing, after, rfl, ?_, fails⟩
        simpa [first] using fine
      · rintro ⟨before, failing, after, shape, fine, fails⟩
        cases before with
        | nil =>
          cases shape
          rw [first] at fails
          cases fails
        | cons earlier more =>
          cases shape
          exact ⟨more, failing, after, rfl, fun other among => fine other (by simp [among]), fails⟩

/-- A stage calls for no template unless its only key is a template's operator. -/
theorem called?_eq_none {templates : List StageTemplate} {stage : Document}
    (free : ∀ key argument, stage = [(key, argument)] →
      ∀ template ∈ templates, template.operator ≠ key) : called? templates stage = none := by
  -- Only a stage with one key can name a template.
  match stage with
  | [] | _ :: _ :: _ => rfl
  | [(key, argument)] =>
    have none : templates.find? (·.operator == key) = none := by
      rw [List.find?_eq_none]
      intro template among
      simpa using free key argument rfl template among
    simp [called?, none]

/-- Stages that call for no template stay. -/
theorem expand_eq_self {stages : List Document}
    (free : ∀ stage ∈ stages, called? templates stage = none) :
    expand templates values stages = .ok stages := by
  -- Each stage stands for itself, in its own place.
  induction stages with
  | nil => rfl
  | cons stage rest ih =>
    have first : expandStage templates values stage = .ok [stage] := by
      rw [expandStage, free stage (by simp)]
    have others := ih fun other among => free other (by simp [among])
    simp [expand, first, others, bind, Except.bind]

/-- Values are taken as stages exactly when all of them are documents. -/
theorem stages_eq_ok_iff {name : String} {items : List Bson} {documents : List Document} :
    stages name items = .ok documents ↔ items = documents.map .document := by
  -- The first value that is no document ends the taking.
  induction items generalizing documents with
  | nil => cases documents <;> simp [stages]
  | cons item rest ih =>
    cases item
    case document members =>
      cases documents with
      | nil => cases others : stages name rest <;> simp [stages, others, bind, Except.bind]
      | cons document more =>
        have tail : stages name rest = .ok more ↔ rest = more.map .document := ih
        cases others : stages name rest <;> simp_all [stages, bind, Except.bind]
    all_goals cases documents <;> simp [stages]

/-- A template's stages are the documents of its text, whatever their operators. -/
theorem replacement_eq_ok_iff {template : StageTemplate} {argument : Bson}
    {documents : List Document} :
    replacement values template argument = .ok documents ↔
      readValues ('[' :: values.fill (render template.stage (argumentText argument)) ++ [']']) =
        .ok (documents.map .document) := by
  -- What is read is taken as it is, and not expanded again.
  simp only [replacement]
  split
  · next items read =>
    rw [read, stages_eq_ok_iff, Except.ok.injEq]
  · next fault read =>
    rw [read]
    exact ⟨nofun, nofun⟩

/--
Expansion is one splice in place, from left to right: lists of stages expand one behind the other,
the first failing stage alone is the failure, a stage that calls for no template stands for itself,
and the documents of a template's text stand as they are, whatever their operators.
-/
theorem expand_splices :
    (∀ before after, expand templates values (before ++ after) =
      match expand templates values before, expand templates values after with
      | .ok first, .ok second => .ok (first ++ second)
      | .error fault, _ => .error fault
      | .ok _, .error fault => .error fault) ∧
    (∀ stages, expand templates values stages =
      (stages.mapM fun stage => expand templates values [stage]).map List.flatten) ∧
    (∀ stages fault, expand templates values stages = .error fault ↔
      ∃ before stage after, stages = before ++ stage :: after ∧
        (∀ earlier ∈ before, ∃ documents, expand templates values [earlier] = .ok documents) ∧
        expand templates values [stage] = .error fault) ∧
    (∀ stage, (∀ key argument, stage = [(key, argument)] →
        ∀ template ∈ templates, key ≠ "$" ++ template.name) →
      expand templates values [stage] = .ok [stage]) ∧
    ∀ key argument template, templates.find? (fun other => "$" ++ other.name == key) =
        some template → ∀ documents,
      expand templates values [[(key, argument)]] = .ok documents ↔
        readValues ('[' :: values.fill (render template.stage (argumentText argument)) ++ [']']) =
          .ok (documents.map .document) := by
  -- Each part speaks of a stage alone, which is what stands for it.
  refine ⟨expand_append templates values, ?_, ?_, ?_, ?_⟩
  · intro stages
    simp only [expand_single]
    exact expand_eq_flatten templates values stages
  · intro stages fault
    simp only [expand_single, expand_eq_error_iff]
  · intro stage free
    have none : called? templates stage = none :=
      called?_eq_none fun key argument shape template among same =>
        free key argument shape template among same.symm
    rw [expand_single, expandStage, none]
  · intro key argument template found documents
    have called : called? templates [(key, argument)] = some (template, argument) :=
      congrArg (Option.map fun t => (t, argument)) found
    rw [expand_single, expandStage, called]
    exact replacement_eq_ok_iff values

end DocSource.StageTemplate
