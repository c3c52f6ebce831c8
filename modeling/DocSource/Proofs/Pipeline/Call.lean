import DocSource.Pipeline.Compile
import DocSource.Proofs.Json.Spelling
import DocSource.Proofs.Pipeline.Target
import DocSource.Proofs.Text.Replacement

/-! Queries written as calls: they compile as their arguments do for the collection they name. -/

namespace DocSource

namespace Placeholders

/-- A text that starts neither with a blank nor like a call. -/
def Opens (text : List Char) : Prop :=
  ∃ c, text.head? = some c ∧ Text.isBlank c = false ∧ c ∉ Target.callMark

/-- A date starts with a brace. -/
theorem opens_dateText (millis : Int64) : Opens (dateText millis) :=
  ⟨'\x7b', rfl, rfl, by decide⟩

/-- A whole number starts with a digit or a sign. -/
theorem opens_intText (n : Int) : Opens (intText n) := by
  obtain ⟨c, more, shape, starts⟩ := Json.intText_starts n
  refine ⟨c, by rw [shape]; rfl, ?_⟩
  rcases starts with digit | rfl
  · -- The digits are a range of characters without blanks, letters or points.
    have bounds : 48 ≤ c.toNat ∧ c.toNat ≤ 57 := Char.isDigit_iff_toNat.mp digit
    refine ⟨?_, ?_⟩
    · simp only [Text.isBlank, Bool.or_eq_false_iff, Bool.and_eq_false_iff, decide_eq_false_iff_not,
        beq_eq_false_iff_ne]
      omega
    · intro among
      have letters : ∀ mark ∈ Target.callMark, mark.isDigit = false := by simp [Target.callMark]
      rw [letters c among] at digit
      cases digit
  · exact ⟨rfl, by decide⟩

/-- What a replacement of quoted tokens does to the text around and at the front of a call. -/
structure Passes (pass : List Char → List Char) : Prop where
  around : ∀ before text after, '"' ∉ before → '"' ∉ after →
    pass (before ++ text ++ after) = before ++ pass text ++ after
  front : ∀ text, Target.callMark <+: Text.trim (pass text) → Target.callMark <+: Text.trim text

/-- A token between quotes is replaced without touching what has no quotes. -/
theorem passes_replace {token new : List Char} (starts : token.head? = some '"')
    (ends : token.getLast? = some '"') (opens : Opens new) :
    Passes (Text.replace token new) where
  around before text after first last := by
    rw [Text.replace_append_right ends last, Text.replace_append_left starts first]
  front text called := by
    obtain ⟨c, arrives, solid, apart⟩ := opens
    have dark : ∀ mark ∈ Target.callMark, Text.isBlank mark = false := by
      simp [Target.callMark, Text.isBlank]
    rw [Text.prefix_trim_iff dark] at called ⊢
    -- The blanks in front are the same ones, and no letter of a call comes in behind them.
    rw [Text.dropWhile_replace arrives starts rfl solid] at called
    exact Text.prefix_of_prefix_replace arrives apart called

/-- Filling the placeholders of a text does not touch what has no quotes. -/
theorem passes_fill (values : Placeholders) : Passes values.fill := by
  have start : Passes (Text.replace startToken (dateText values.start)) :=
    passes_replace rfl rfl (opens_dateText values.start)
  have stop : Passes (Text.replace stopToken (dateText values.stop)) :=
    passes_replace rfl rfl (opens_dateText values.stop)
  have samples : Passes (Text.replace samplesToken (intText values.samples.toInt)) :=
    passes_replace rfl rfl (opens_intText values.samples.toInt)
  -- Three passes, each over what the one before it left.
  refine ⟨fun before text after first last => ?_, fun text called => ?_⟩
  · simp only [fill]
    rw [start.around _ _ _ first last, stop.around _ _ _ first last,
      samples.around _ _ _ first last]
  · exact start.front _ (stop.front _ (samples.front _ called))

end Placeholders

namespace Target

variable {collection closing : String} (callable : Callable collection)
  (closes : Closing closing.toList)
include callable closes

/-- Filled as a call or as a bare text, an argument is read for the collection as the same target. -/
theorem ofText_fill_callText (values : Placeholders) {argument : List Char}
    (bare : ¬ callMark <+: Text.trim argument) (given : Option String) :
    ofText (values.fill (callText collection argument closing.toList)) given =
      ofText (values.fill argument) (some collection) := by
  -- No quote stands around the argument, so no token reaches over its ends.
  have first : '"' ∉ opening collection := by
    simp only [opening, List.mem_append, not_or]
    exact ⟨⟨by decide, callable.quote⟩, by decide⟩
  have last : '"' ∉ ')' :: closing.toList := by
    rw [List.mem_cons, not_or]
    exact ⟨by decide, closes.not_mem rfl (by decide)⟩
  have filled : values.fill (callText collection argument closing.toList) =
      callText collection (values.fill argument) closing.toList :=
    -- Filling makes no call out of a bare text.
    values.passes_fill.around _ _ _ first last
  have stillBare : ¬ callMark <+: Text.trim (values.fill argument) :=
    fun called => bare (values.passes_fill.front _ called)
  rw [filled, callable.ofText_callText closes, ofText_bare stillBare callable.not_blank,
    callable.trimmed]

end Target

/--
A query written as a call compiles as its argument does for the collection that the call names: what
is read as its stages is the same text, and so are the query and the error that come of it.
-/
theorem compileText_call {collection source closing : String} (callable : Target.Callable collection)
    (closes : Target.Closing closing.toList)
    (bare : ¬ Target.callMark <+: Text.trim source.toList) (given : Option String) (shape : Shape)
    (range : TimeRange) (samples : Int64) (templates : List StageTemplate) :
    let call := "db." ++ collection ++ ".aggregate(" ++ source ++ ")" ++ closing
    (∀ values : Placeholders, Target.ofText (values.fill call.toList) given =
        Target.ofText (values.fill source.toList) (some collection)) ∧
      compileText call given shape range samples templates =
        compileText source (some collection) shape range samples templates := by
  intro call
  have written : call.toList = Target.callText collection source.toList closing.toList := by
    simp [call, Target.callText, Target.opening, Target.callMark]
  have target : ∀ values : Placeholders, Target.ofText (values.fill call.toList) given =
      Target.ofText (values.fill source.toList) (some collection) := by
    intro values
    rw [written]
    exact Target.ofText_fill_callText callable closes values bare given
  refine ⟨target, ?_⟩
  -- Only the target is read from the text; the rest of a compilation goes on from there.
  simp only [compileText, target]

/-- A call on a name with a point in it, its argument full of brackets and placeholders. -/
theorem compileText_call_dotted :
    compileText ("db." ++ "a.b" ++ ".aggregate(" ++
        "[\x7b\"$limit\": \"$maxDataPoints\"\x7d, \x7b\"(\": \")\"\x7d] " ++ ")" ++ " ; ")
        (some "c") .table ⟨5, 9⟩ 0 [] =
      compileText "[\x7b\"$limit\": \"$maxDataPoints\"\x7d, \x7b\"(\": \")\"\x7d] " (some "a.b")
        .table ⟨5, 9⟩ 0 [] := by
  -- Neither the point in the name nor what stands in the argument is in the way of the division.
  have callable : Target.Callable "a.b" := ⟨by decide, by decide, by decide, by decide⟩
  have blank : ∀ c ∈ [' '], Text.isBlank c = true := by simp [Text.isBlank]
  have closes : Target.Closing " ; ".toList := .inr ⟨[' '], [' '], blank, blank, rfl⟩
  exact (compileText_call callable closes (by decide) (some "c") .table ⟨5, 9⟩ 0 []).2

end DocSource
