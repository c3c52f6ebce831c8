import DocSource.Proofs.Pipeline.Compilation

/-!
How a query fails: in its target, in its stages or in a template, in this order. Main statement:
`compileText_fails`, which says which errors there are and which queries fail with each of them.
-/

namespace DocSource

namespace Target

/-- A name that is refused makes the query malformed. -/
theorem malformed_of_named {name : List Char} {fault : Error}
    (refused : named name = .error fault) : ∃ reason, fault = .malformedQuery reason := by
  -- There is one way to refuse a name, and that is for leaving nothing.
  simp only [named] at refused
  split at refused
  · exact ⟨_, (Except.error.inj refused).symm⟩
  · cases refused

namespace Call

/-- A call with at most a semicolon behind it, of another method than the one that is supported. -/
structure Foreign (call : Call) : Prop extends Divided call where
  ends : Text.trim call.trailing = [] ∨ Text.trim call.trailing = [';']
  other : Text.trim call.method ≠ "aggregate".toList

/-- Why a call of another method is refused. -/
def refusal (call : Call) : String :=
  String.ofList (Text.trim call.method) ++ ": only aggregate is supported"

/-- A divided call is refused for its method exactly when it is foreign, whatever its name. -/
theorem Divided.ofCall_unsupported_iff {call : Call} (divided : call.Divided) {reason : String} :
    ofCall call.text = .error (.unsupportedOperation reason) ↔
      call.Foreign ∧ call.refusal = reason := by
  rw [divided.ofCall_text]
  split
  · -- What trails the call is judged first, and makes it malformed.
    next trails =>
    have none : ¬ call.Foreign := by
      intro foreign
      exact foreign.ends.elim trails.1 trails.2
    simp [none]
  · next ends =>
    split
    · next other =>
      have foreign : call.Foreign :=
        ⟨divided, (not_and_or.mp ends).imp not_not.mp not_not.mp, other⟩
      simp only [Except.error.injEq, Error.unsupportedOperation.injEq, foreign, true_and, refusal]
    · -- A call of the supported method can only lack a name, and is malformed then.
      next aggregates =>
      have none : ¬ call.Foreign := by
        intro foreign
        exact aggregates foreign.other
      cases taken : Target.named call.name with
      | error fault =>
        obtain ⟨why, rfl⟩ := malformed_of_named taken
        simp [none, Except.map]
      | ok collection => simp [none, Except.map]

/-- A divided call that is not read is malformed or unsupported. -/
theorem Divided.fault_cases {call : Call} (divided : call.Divided) {fault : Error}
    (failed : ofCall call.text = .error fault) :
    (∃ reason, fault = .malformedQuery reason) ∨
      ∃ reason, fault = .unsupportedOperation reason := by
  -- The three tests come one after the other, and each has its own kind of error.
  rw [divided.ofCall_text] at failed
  split at failed
  · exact .inl ⟨_, (Except.error.inj failed).symm⟩
  · split at failed
    · exact .inr ⟨_, (Except.error.inj failed).symm⟩
    · cases taken : Target.named call.name with
      | error own =>
        rw [taken] at failed
        obtain rfl := Except.error.inj failed
        exact .inl (malformed_of_named taken)
      | ok collection =>
        rw [taken] at failed
        cases failed

end Call

/-- A text that starts like a call is read as one. -/
theorem ofText_of_called {text : List Char} (called : callMark <+: Text.trim text)
    (given : Option String) : ofText text given = ofCall (Text.trim text) :=
  -- The mark in front decides, and the collection beside it is not looked at.
  if_pos (List.isPrefixOf_iff_prefix.mpr called)

/-- A text that does not start like a call lacks a collection when it is not read. -/
theorem malformed_of_bare {text : List Char} (bare : ¬ callMark <+: Text.trim text)
    {given : Option String} {fault : Error} (failed : ofText text given = .error fault) :
    ∃ reason, fault = .malformedQuery reason := by
  rw [← List.isPrefixOf_iff_prefix] at bare
  simp only [ofText, if_neg bare] at failed
  -- The name is taken first, and the source is any text.
  rcases bind_eq_error_iff.mp failed with unnamed | ⟨collection, -, read⟩
  · exact malformed_of_named unnamed
  · cases read

/-- A target that is not read is malformed or unsupported. -/
theorem fault_of_ofText {text : List Char} {given : Option String} {fault : Error}
    (failed : ofText text given = .error fault) :
    (∃ reason, fault = .malformedQuery reason) ∨
      ∃ reason, fault = .unsupportedOperation reason := by
  by_cases called : callMark <+: Text.trim text
  · rw [ofText_of_called called] at failed
    by_cases malformed : ∃ reason, fault = .malformedQuery reason
    · exact .inl malformed
    · -- A call that is not malformed has all of its parts.
      have whole : ∀ reason, ofCall (Text.trim text) ≠ .error (.malformedQuery reason) := by
        intro reason own
        exact malformed ⟨reason, Except.error.inj (failed.symm.trans own)⟩
      obtain ⟨call, divided, same⟩ := Call.exists_divided called whole
      rw [← same] at failed
      exact divided.fault_cases failed
  · exact .inl (malformed_of_bare called failed)

/-- A target is refused for its method exactly when it is a foreign call. -/
theorem ofText_unsupported_iff {text : List Char} {given : Option String} {reason : String} :
    ofText text given = .error (.unsupportedOperation reason) ↔
      ∃ call : Call, call.Foreign ∧ call.text = Text.trim text ∧ call.refusal = reason := by
  by_cases called : callMark <+: Text.trim text
  · rw [ofText_of_called called]
    constructor
    · intro refused
      have whole : ∀ why, ofCall (Text.trim text) ≠ .error (.malformedQuery why) := by
        intro why
        rw [refused]
        nofun
      obtain ⟨call, divided, same⟩ := Call.exists_divided called whole
      rw [← same, divided.ofCall_unsupported_iff] at refused
      exact ⟨call, refused.1, same, refused.2⟩
    · intro foreign
      obtain ⟨call, foreign, same, why⟩ := foreign
      rw [← same, foreign.toDivided.ofCall_unsupported_iff]
      exact ⟨foreign, why⟩
  · -- Only a call has a method, and a call starts with its mark.
    constructor
    · intro refused
      obtain ⟨why, same⟩ := malformed_of_bare called refused
      cases same
    · intro foreign
      obtain ⟨call, -, same, -⟩ := foreign
      apply absurd _ called
      rw [← same, Call.text, Call.head, List.append_assoc]
      exact List.prefix_append _ _

end Target

/-- Stages that are not taken make the query malformed, and those that are taken are documents. -/
theorem stagesOf_cases (index : Nat) (values : List Bson) :
    (∃ stages, values = stages.map .document ∧ stagesOf index values = .ok stages) ∨
      (∀ stages : List Document, values ≠ stages.map .document) ∧
        ∃ reason, stagesOf index values = .error (.malformedQuery reason) := by
  -- The stages are documents, or the first value that is none is the error.
  obtain ⟨taken, refused⟩ := stagesOf_eq index values
  cases own : Bson.documents? values with
  | some stages => exact .inl ⟨stages, Bson.documents?_eq_some_iff.mp own, taken stages own⟩
  | none =>
    -- If all values were documents, they would be the stages.
    refine .inr ⟨?_, refused own⟩
    intro stages same
    rw [Bson.documents?_eq_some_iff.mpr same] at own
    cases own

/-- The stages of a text are the documents that it lists, when it lists nothing else. -/
theorem readStages_eq_ok_iff {source : List Char} {stages : List Document} :
    readStages source = .ok stages ↔ readValues source = .ok (stages.map .document) := by
  unfold readStages
  cases readValues source with
  | error fault => simp
  | ok values =>
    rcases stagesOf_cases 0 values with ⟨documents, rfl, taken⟩ | ⟨other, reason, refused⟩
    · -- The same values are the same documents.
      have injective : Function.Injective Bson.document := by
        intro one other same
        cases same
        rfl
      simp only [taken, Except.ok.injEq, (List.map_injective_iff.mpr injective).eq_iff]
    · simp only [refused, Except.ok.injEq, reduceCtorEq, false_iff]
      exact other stages

/-- A text that lists no stages makes the query malformed. -/
theorem malformed_of_readStages {source : List Char} {fault : Error}
    (failed : readStages source = .error fault) : ∃ reason, fault = .malformedQuery reason := by
  -- A text is no list of values, or one of its values is no document.
  unfold readStages at failed
  cases read : readValues source with
  | error own =>
    rw [read] at failed
    exact ⟨_, (Except.error.inj failed).symm⟩
  | ok values =>
    rw [read] at failed
    rcases stagesOf_cases 0 values with ⟨stages, -, taken⟩ | ⟨-, reason, refused⟩
    · exact nomatch taken.symm.trans failed
    · exact ⟨reason, (Except.error.inj (refused.symm.trans failed)).symm⟩

namespace StageTemplate

variable {templates : List StageTemplate} {values : Placeholders}

/-- A stage calls for a template whose text, with argument and values filled in, lists no stages. -/
def CallsInVain (templates : List StageTemplate) (values : Placeholders) (stage : Document)
    (template : StageTemplate) : Prop :=
  -- A stage with more than one key calls for nothing, and of two templates the first is called.
  ∃ key argument, stage = [(key, argument)] ∧
    templates.find? (·.operator == key) = some template ∧
    ∀ documents : List Document,
      readValues ('[' :: values.fill (render template.stage (argumentText argument)) ++ [']']) ≠
        .ok (documents.map .document)

/-- Values that are not all documents are refused in the name of the template. -/
theorem expansion_of_stages {name : String} {items : List Bson} {fault : Error}
    (failed : stages name items = .error fault) :
    ∃ reason, fault = .macroExpansion name reason := by
  induction items with
  | nil => cases failed
  | cons item rest ih =>
    -- A document only fails with those behind it, and any other value fails itself.
    cases item
    case document members =>
      rw [stages] at failed
      rcases bind_eq_error_iff.mp failed with others | ⟨documents, -, taken⟩
      · exact ih others
      · cases taken
    all_goals exact ⟨_, (Except.error.inj failed).symm⟩

/-- A template that is not replaced by stages is named in the error. -/
theorem expansion_of_replacement {template : StageTemplate} {argument : Bson} {fault : Error}
    (failed : replacement values template argument = .error fault) :
    ∃ reason, fault = .macroExpansion template.name reason := by
  -- The text that is filled lists no values, or one of them is no document.
  simp only [replacement] at failed
  split at failed
  · exact expansion_of_stages failed
  · exact ⟨_, (Except.error.inj failed).symm⟩

/-- A stage calls for a template when its one key is the operator of the first such template. -/
theorem called?_eq_some_iff {stage : Document} {template : StageTemplate} {argument : Bson} :
    called? templates stage = some (template, argument) ↔
      ∃ key, stage = [(key, argument)] ∧
        templates.find? (·.operator == key) = some template := by
  -- Only a stage of one key can call, and the templates are searched from the front.
  match stage with
  | [] | _ :: _ :: _ => simp [called?]
  | [(key, own)] =>
    rw [called?, Option.map_eq_some_iff]
    constructor
    · intro calls
      obtain ⟨first, found, same⟩ := calls
      cases same
      exact ⟨key, rfl, found⟩
    · intro single
      obtain ⟨other, same, found⟩ := single
      cases same
      exact ⟨template, found, rfl⟩

/-- A stage that calls in vain fails in the name of its template, and any other does not fail. -/
theorem expandStage_cases (templates : List StageTemplate) (values : Placeholders)
    (stage : Document) :
    (∃ template reason, CallsInVain templates values stage template ∧
      expandStage templates values stage = .error (.macroExpansion template.name reason)) ∨
    (∀ template, ¬ CallsInVain templates values stage template) ∧
      ∃ documents, expandStage templates values stage = .ok documents := by
  rw [expandStage]
  cases calls : called? templates stage with
  | none =>
    -- Without a template the stage stands for itself.
    refine .inr ⟨?_, [stage], rfl⟩
    intro template vain
    obtain ⟨key, argument, own, found, -⟩ := vain
    rw [called?_eq_some_iff.mpr ⟨key, own, found⟩] at calls
    cases calls
  | some call =>
    obtain ⟨template, argument⟩ := call
    obtain ⟨key, rfl, found⟩ := called?_eq_some_iff.mp calls
    cases replaced : replacement values template argument with
    | error fault =>
      obtain ⟨reason, rfl⟩ := expansion_of_replacement replaced
      refine .inl ⟨template, reason, ⟨key, argument, rfl, found, ?_⟩, replaced⟩
      intro documents read
      rw [(replacement_eq_ok_iff values).mpr read] at replaced
      cases replaced
    | ok documents =>
      -- The stage calls for this template and for no other.
      refine .inr ⟨?_, documents, replaced⟩
      intro other vain
      obtain ⟨_, _, same, again, unlisted⟩ := vain
      cases same
      obtain rfl := Option.some.inj (found.symm.trans again)
      exact unlisted documents ((replacement_eq_ok_iff values).mp replaced)

/-- An expansion fails in the name of a template. -/
theorem expansion_of_expand {stages : List Document} {fault : Error}
    (failed : expand templates values stages = .error fault) :
    ∃ name reason, fault = .macroExpansion name reason := by
  -- The failure is that of a stage, and a stage fails in nothing but the template it calls.
  obtain ⟨_, stage, _, -, -, own⟩ := (expand_eq_error_iff templates values).mp failed
  rcases expandStage_cases templates values stage with
    ⟨template, reason, -, fails⟩ | ⟨-, documents, stands⟩
  · exact ⟨template.name, reason, Except.error.inj (own.symm.trans fails)⟩
  · exact nomatch own.symm.trans stands

/-- An expansion fails in the name of the first template, from the left, that is called in vain. -/
theorem expand_fails_iff {stages : List Document} {name : String} :
    (∃ reason, expand templates values stages = .error (.macroExpansion name reason)) ↔
      ∃ before stage after template, stages = before ++ stage :: after ∧
        (∀ earlier ∈ before, ∀ other, ¬ CallsInVain templates values earlier other) ∧
        CallsInVain templates values stage template ∧ template.name = name := by
  constructor
  · intro failure
    obtain ⟨reason, failed⟩ := failure
    -- The stage that fails is the first that does, and its template gives the name.
    obtain ⟨before, stage, after, rfl, fine, own⟩ :=
      (expand_eq_error_iff templates values).mp failed
    rcases expandStage_cases templates values stage with
      ⟨template, why, vain, fails⟩ | ⟨-, documents, stands⟩
    · refine ⟨before, stage, after, template, rfl, ?_, vain, ?_⟩
      · -- A stage before it was expanded, so it does not call in vain.
        intro earlier among
        obtain ⟨documents, done⟩ := fine earlier among
        rcases expandStage_cases templates values earlier with ⟨_, _, -, fails⟩ | ⟨none, -⟩
        · exact nomatch done.symm.trans fails
        · exact none
      · cases own.symm.trans fails
        rfl
    · exact nomatch own.symm.trans stands
  · intro call
    obtain ⟨before, stage, after, template, rfl, fine, vain, rfl⟩ := call
    rcases expandStage_cases templates values stage with ⟨other, reason, own, fails⟩ | ⟨none, -⟩
    · -- Both templates are the first with the operator of the stage.
      have same : other = template := by
        obtain ⟨key, argument, rfl, found, -⟩ := vain
        obtain ⟨_, _, again, first, -⟩ := own
        cases again
        exact Option.some.inj (first.symm.trans found)
      subst same
      refine ⟨reason, (expand_eq_error_iff templates values).mpr
        ⟨before, stage, after, rfl, ?_, fails⟩⟩
      -- Nothing before it calls in vain, so all of that was expanded.
      intro earlier among
      rcases expandStage_cases templates values earlier with ⟨_, _, bad, -⟩ | ⟨-, done⟩
      · exact absurd bad (fine earlier among _)
      · exact done
    · exact absurd vain (none template)

end StageTemplate

section Compiling

variable {text : String} {given : Option String} {shape : Shape} {range : TimeRange}
  {samples : Int64} {templates : List StageTemplate} {fault : Error}

/-- A compilation fails in its target, in its stages, or in one of its templates. -/
theorem compileText_eq_error_iff :
    let values := Placeholders.ofRange range samples
    compileText text given shape range samples templates = .error fault ↔
      Target.ofText (values.fill text.toList) given = .error fault ∨
      ∃ target, Target.ofText (values.fill text.toList) given = .ok target ∧
        (readStages target.source = .error fault ∨
        ∃ stages, readStages target.source = .ok stages ∧
          StageTemplate.expand templates values stages = .error fault) := by
  -- Each step hands what it gives on to the next, and the last one cannot fail.
  simp only [compileText, Placeholders.ofRange_eq, bind_eq_error_iff, reduceCtorEq, and_false,
    exists_false, or_false]

/-- A query that fails to compile is malformed, unsupported, or an expansion that failed. -/
theorem fault_of_compileText
    (failed : compileText text given shape range samples templates = .error fault) :
    (∃ reason, fault = .malformedQuery reason) ∨ (∃ reason, fault = .unsupportedOperation reason) ∨
      ∃ name reason, fault = .macroExpansion name reason := by
  -- The three steps that can fail have one kind of error each, but for the target, which has two.
  rcases compileText_eq_error_iff.mp failed with unread | ⟨target, -, later⟩
  · exact (Target.fault_of_ofText unread).imp_right .inl
  · rcases later with unlisted | ⟨stages, -, unexpanded⟩
    · exact .inl (malformed_of_readStages unlisted)
    · exact .inr (.inr (StageTemplate.expansion_of_expand unexpanded))

/-- Only a target is unsupported. -/
theorem compileText_unsupported_iff {reason : String} :
    compileText text given shape range samples templates =
        .error (.unsupportedOperation reason) ↔
      Target.ofText ((Placeholders.ofRange range samples).fill text.toList) given =
        .error (.unsupportedOperation reason) := by
  constructor
  · intro failed
    rcases compileText_eq_error_iff.mp failed with unread | ⟨target, -, later⟩
    · exact unread
    · -- Stages are malformed, and templates fail to expand.
      rcases later with unlisted | ⟨stages, -, unexpanded⟩
      · obtain ⟨_, same⟩ := malformed_of_readStages unlisted
        cases same
      · obtain ⟨_, _, same⟩ := StageTemplate.expansion_of_expand unexpanded
        cases same
  · intro unread
    exact compileText_eq_error_iff.mpr (.inl unread)

/-- Only the stages of a target that was read and lists documents fail to expand. -/
theorem compileText_expansion_iff {name reason : String} :
    compileText text given shape range samples templates = .error (.macroExpansion name reason) ↔
      ∃ target stages,
        Target.ofText ((Placeholders.ofRange range samples).fill text.toList) given = .ok target ∧
        readValues target.source = .ok (stages.map .document) ∧
        StageTemplate.expand templates (.ofRange range samples) stages =
          .error (.macroExpansion name reason) := by
  constructor
  · intro failed
    rcases compileText_eq_error_iff.mp failed with unread | ⟨target, read, later⟩
    · -- Neither a target nor a list of stages has a template to name.
      rcases Target.fault_of_ofText unread with ⟨_, same⟩ | ⟨_, same⟩ <;> cases same
    · rcases later with unlisted | ⟨stages, listed, unexpanded⟩
      · obtain ⟨_, same⟩ := malformed_of_readStages unlisted
        cases same
      · exact ⟨target, stages, read, readStages_eq_ok_iff.mp listed, unexpanded⟩
  · intro failure
    obtain ⟨target, stages, read, listed, unexpanded⟩ := failure
    exact compileText_eq_error_iff.mpr
      (.inr ⟨target, read, .inr ⟨stages, readStages_eq_ok_iff.mpr listed, unexpanded⟩⟩)

end Compiling

/--
A query that fails to compile is malformed, unsupported, or an expansion that failed. It is
unsupported exactly when its filled text is a call of another method; an expansion fails exactly
when target and stages are read and a stage calls in vain, in the name of the first such template.
-/
theorem compileText_fails (text : String) (given : Option String) (shape : Shape)
    (range : TimeRange) (samples : Int64) (templates : List StageTemplate) :
    let values := Placeholders.ofRange range samples
    let filled := values.fill text.toList
    let outcome := compileText text given shape range samples templates
    (∀ fault, outcome = .error fault →
      (∃ reason, fault = .malformedQuery reason) ∨
      (∃ reason, fault = .unsupportedOperation reason) ∨
        ∃ name reason, fault = .macroExpansion name reason) ∧
    (∀ reason, outcome = .error (.unsupportedOperation reason) ↔
      ∃ call : Target.Call, call.Foreign ∧ call.text = Text.trim filled ∧
        call.refusal = reason) ∧
    ∀ name, (∃ reason, outcome = .error (.macroExpansion name reason)) ↔
      ∃ target stages, Target.ofText filled given = .ok target ∧
        readValues target.source = .ok (stages.map .document) ∧
        ∃ before stage after template, stages = before ++ stage :: after ∧
          (∀ earlier ∈ before, ∀ other,
            ¬ StageTemplate.CallsInVain templates values earlier other) ∧
          StageTemplate.CallsInVain templates values stage template ∧ template.name = name := by
  intro values filled outcome
  refine ⟨?_, ?_, ?_⟩
  · intro fault failed
    exact fault_of_compileText failed
  · intro reason
    rw [compileText_unsupported_iff, Target.ofText_unsupported_iff]
  · -- The reason is whatever the reader of the text says, so only the name is followed.
    intro name
    constructor
    · intro failure
      obtain ⟨reason, failed⟩ := failure
      obtain ⟨target, stages, read, listed, unexpanded⟩ := compileText_expansion_iff.mp failed
      exact ⟨target, stages, read, listed, StageTemplate.expand_fails_iff.mp ⟨reason, unexpanded⟩⟩
    · intro call
      obtain ⟨target, stages, read, listed, vain⟩ := call
      obtain ⟨reason, unexpanded⟩ := StageTemplate.expand_fails_iff.mpr vain
      exact ⟨reason, compileText_expansion_iff.mpr ⟨target, stages, read, listed, unexpanded⟩⟩

/-- A method is refused although the collection in front of it is blank. -/
example : (compileText "db. .find(\"$from\")" (some "c") .table ⟨5, 9⟩ 1 []).map (·.collection) =
    .error (.unsupportedOperation "find: only aggregate is supported") := by decide +kernel

/-- The second stage names a template that lists a number, and the third is not reached. -/
example :
    (compileText "[\x7b\"$a\": 1\x7d, \x7b\"$b\": 2\x7d, \x7b\"$c\": 3\x7d]" (some "c") .table
        ⟨5, 9⟩ 1 [⟨"c", "["⟩, ⟨"b", "$QUERY"⟩]).map (·.collection) =
      .error (.macroExpansion "b" "expected a stage object, found int") := by decide +kernel

end DocSource
