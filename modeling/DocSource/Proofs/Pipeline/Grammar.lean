import DocSource.Pipeline.Target
import DocSource.Proofs.Text.Trimming

/-!
The grammar of targets: a call divides in one way only, at its first opening bracket, its last
closing bracket and the last point before its method. Main statement: `ofText_eq_ok_iff`, which
says exactly which texts are read, and as what.
-/

namespace DocSource

namespace Target

/-- A name is taken when something is left of it without the blanks at its ends. -/
theorem named_eq_ok_iff {name : List Char} {collection : String} :
    named name = .ok collection ↔
      Text.trim name ≠ [] ∧ String.ofList (Text.trim name) = collection := by
  -- What is left is the name, and leaving nothing is the only fault.
  by_cases none : Text.trim name = [] <;> simp [named, none]

/-- The mark of a call stays in front when the blanks at the two ends are dropped. -/
theorem trim_callMark_append (tail : List Char) :
    Text.trim (callMark ++ tail) = callMark ++ tail.rdropWhile Text.isBlank :=
  -- The mark has no blank in it, so trimming changes nothing but the end.
  Text.trim_append_of_solid (by simp [callMark, Text.isBlank]) (by simp [callMark]) tail

/-- A call by its parts: a name and a method around a point, an argument, and what trails it. -/
structure Call where
  name : List Char
  method : List Char
  argument : List Char
  trailing : List Char
  deriving DecidableEq

namespace Call

/-- What stands before the argument's bracket. -/
def head (call : Call) : List Char := callMark ++ (call.name ++ '.' :: call.method)

/-- The text of a call. -/
def text (call : Call) : List Char :=
  call.head ++ '(' :: (call.argument ++ ')' :: call.trailing)

/-- The target that a call names. -/
def target (call : Call) : Target :=
  ⟨String.ofList (Text.trim call.name), Text.trim call.argument⟩

/-- The brackets and the point of a call are the first, the last and the last of their kind. -/
structure Divided (call : Call) : Prop where
  opens : '(' ∉ call.head
  closes : ')' ∉ call.trailing
  points : '.' ∉ call.method

/-- A call that is read: an aggregation on a collection, with at most a semicolon behind it. -/
structure Accepted (call : Call) : Prop extends Divided call where
  ends : Text.trim call.trailing = [] ∨ Text.trim call.trailing = [';']
  aggregates : Text.trim call.method = "aggregate".toList
  named : Text.trim call.name ≠ []

namespace Divided

variable {call : Call} (divided : call.Divided)
include divided

/-- A call is divided at its first opening bracket. -/
theorem divideFirst_text :
    Text.divideFirst '(' call.text = some (call.head, call.argument ++ ')' :: call.trailing) :=
  -- There is no opening bracket in the head.
  Text.divideFirst_eq_some_iff.mpr ⟨rfl, divided.opens⟩

/-- What stands behind that bracket is divided at the last closing one. -/
theorem divideLast_argument :
    Text.divideLast ')' (call.argument ++ ')' :: call.trailing) =
      some (call.argument, call.trailing) :=
  -- There is no closing bracket in what trails.
  Text.divideLast_eq_some_iff.mpr ⟨rfl, divided.closes⟩

/-- The head without its mark is divided at the last point. -/
theorem divideLast_head :
    Text.divideLast '.' (call.name ++ '.' :: call.method) = some (call.name, call.method) :=
  -- There is no point in the method.
  Text.divideLast_eq_some_iff.mpr ⟨rfl, divided.points⟩

/-- The trimmed head is divided at the same point, with the same method but for blanks. -/
theorem divideLast_trim_head :
    ∃ method, Text.divideLast '.' ((Text.trim call.head).drop callMark.length) =
      some (call.name, method) ∧ Text.trim method = Text.trim call.method := by
  have whole := divided.divideLast_head
  rw [Text.divideLast_rdropWhile rfl, Option.map_eq_some_iff] at whole
  obtain ⟨⟨name, method⟩, found, same⟩ := whole
  simp only [Prod.mk.injEq] at same
  obtain ⟨rfl, same⟩ := same
  refine ⟨method, by rw [head, trim_callMark_append, List.drop_left, found], ?_⟩
  -- The blanks that were trimmed off the head are those at the end of the method.
  rw [← same, Text.trim_append_blank fun c => List.mem_rtakeWhile_imp]

/-- A call has only these parts. -/
theorem eq_of_text_eq {other : Call} (again : other.Divided) (same : call.text = other.text) :
    call = other := by
  -- Each division finds the same place in both, and the parts are what lies between the places.
  have first := divided.divideFirst_text
  rw [same, again.divideFirst_text] at first
  simp only [Option.some.injEq, Prod.mk.injEq, head, List.append_cancel_left_eq] at first
  obtain ⟨heads, behind⟩ := first
  have last := divided.divideLast_argument
  rw [← behind, again.divideLast_argument] at last
  have point := divided.divideLast_head
  rw [← heads, again.divideLast_head] at point
  cases call
  cases other
  simp_all

/-- A divided call is read by its trailing text, its method and its name, in this order. -/
theorem ofCall_text :
    ofCall call.text =
      if Text.trim call.trailing ≠ [] ∧ Text.trim call.trailing ≠ [';'] then
        .error (.malformedQuery ("unexpected text after call: " ++
          String.ofList (Text.trim call.trailing)))
      else if Text.trim call.method ≠ "aggregate".toList then
        .error (.unsupportedOperation
          (String.ofList (Text.trim call.method) ++ ": only aggregate is supported"))
      else (Target.named call.name).map fun collection => ⟨collection, Text.trim call.argument⟩ := by
  -- The text is divided again at the places it was put together at.
  obtain ⟨method, point, same⟩ := divided.divideLast_trim_head
  have split : splitCall call.text =
      .ok (Text.trim call.head, call.argument, Text.trim call.trailing) := by
    rw [splitCall, divided.divideFirst_text]
    simp only [divided.divideLast_argument]
  simp only [ofCall, split, bind, Except.bind, point, same, Bool.and_eq_true, decide_eq_true_eq]
  cases Target.named call.name <;> rfl

end Divided

/-- A divided call is read exactly when it is accepted, and then as the target that it names. -/
theorem Divided.ofCall_eq_ok_iff {call : Call} (divided : call.Divided) {target : Target} :
    ofCall call.text = .ok target ↔ call.Accepted ∧ call.target = target := by
  rw [divided.ofCall_text]
  constructor
  · -- Each of the three conditions would be the error if it failed.
    intro read
    split at read
    · cases read
    · next ends =>
      split at read
      · cases read
      · next aggregates =>
        cases taken : Target.named call.name with
        | error fault => rw [taken] at read; cases read
        | ok collection =>
          rw [taken] at read
          obtain ⟨named, rfl⟩ := named_eq_ok_iff.mp taken
          have accepted : call.Accepted :=
            ⟨divided, (not_and_or.mp ends).imp not_not.mp not_not.mp, not_not.mp aggregates,
              named⟩
          exact ⟨accepted, Except.ok.inj read⟩
  · rintro ⟨accepted, rfl⟩
    have ends := accepted.ends
    rw [if_neg (by rintro ⟨some, more⟩; exact ends.elim some more),
      if_neg (by simp [accepted.aggregates]), named_eq_ok_iff.mpr ⟨accepted.named, rfl⟩]
    rfl

/-- A text that starts like a call divides as one, unless it is malformed. -/
theorem exists_divided {text : List Char} (called : callMark <+: text)
    (whole : ∀ reason, ofCall text ≠ .error (.malformedQuery reason)) :
    ∃ call : Call, call.Divided ∧ call.text = text := by
  unfold ofCall splitCall at whole
  cases first : Text.divideFirst '(' text with
  | none => simp [first, bind, Except.bind] at whole
  | some parts =>
    obtain ⟨head, rest⟩ := parts
    obtain ⟨rfl, opens⟩ := Text.divideFirst_eq_some_iff.mp first
    cases last : Text.divideLast ')' rest with
    | none => simp [first, last, bind, Except.bind] at whole
    | some parts =>
      obtain ⟨argument, trailing⟩ := parts
      obtain ⟨rfl, closes⟩ := Text.divideLast_eq_some_iff.mp last
      -- The mark of a call holds no bracket, so it stands in front of the first one.
      obtain ⟨tail, rfl⟩ := Text.prefix_of_prefix_divided (by decide) called
      simp only [first, last, bind, Except.bind] at whole
      split at whole
      · exact absurd rfl (whole _)
      · cases point : Text.divideLast '.' tail with
        | none =>
          -- A head without a point has none when it is trimmed.
          rw [Text.divideLast_rdropWhile rfl, Option.map_eq_none_iff] at point
          rw [trim_callMark_append, List.drop_left, point] at whole
          exact absurd rfl (whole _)
        | some parts =>
          obtain ⟨name, method⟩ := parts
          obtain ⟨rfl, points⟩ := Text.divideLast_eq_some_iff.mp point
          exact ⟨⟨name, method, argument, trailing⟩, ⟨opens, closes, points⟩, rfl⟩

/-- A text that starts like a call is read exactly when it is the text of an accepted call. -/
theorem ofCall_eq_ok_iff {text : List Char} (called : callMark <+: text) {target : Target} :
    ofCall text = .ok target ↔
      ∃ call : Call, call.Accepted ∧ call.text = text ∧ call.target = target := by
  -- A text that is read divides somehow, and a divided call is read exactly when it is accepted.
  constructor
  · intro read
    obtain ⟨call, divided, rfl⟩ := exists_divided called fun reason => by rw [read]; nofun
    obtain ⟨accepted, same⟩ := divided.ofCall_eq_ok_iff.mp read
    exact ⟨call, accepted, rfl, same⟩
  · rintro ⟨call, accepted, rfl, same⟩
    exact accepted.toDivided.ofCall_eq_ok_iff.mpr ⟨accepted, same⟩

end Call

/-- A text that does not start like a call is read as it stands, for a collection that is given. -/
theorem ofText_eq_ok_iff_of_bare {text : List Char} (bare : ¬ callMark <+: Text.trim text)
    {given : Option String} {target : Target} :
    ofText text given = .ok target ↔
      ∃ name, given = some name ∧ Text.trim name.toList ≠ [] ∧
        target = ⟨Text.trimmed name, Text.trim text⟩ := by
  -- The given name is judged, and the text is taken without a look at what it lists.
  rw [← List.isPrefixOf_iff_prefix] at bare
  simp only [ofText, if_neg bare]
  cases given with
  | none => simp [named, bind, Except.bind, Text.trim]
  | some name =>
    cases taken : named name.toList with
    -- A name is refused for being blank alone.
    | error fault =>
      have none : Text.trim name.toList = [] := by
        by_contra some
        rw [named_eq_ok_iff.mpr ⟨some, rfl⟩] at taken
        cases taken
      simp [taken, none, bind, Except.bind]
    | ok collection =>
      obtain ⟨some, rfl⟩ := named_eq_ok_iff.mp taken
      simpa [taken, some, bind, Except.bind, Text.trimmed] using eq_comm

end Target

/--
A text that starts like a call is read exactly when it divides into an accepted call, which it does
in one way only, and then as the target that the call names, whatever is given beside it.
Any other text is read as it stands, exactly when a collection is given whose name is not blank.
-/
theorem ofText_eq_ok_iff (text : List Char) (given : Option String) (target : Target) :
    (Target.callMark <+: Text.trim text →
      (Target.ofText text given = .ok target ↔
        ∃ call : Target.Call, call.Accepted ∧ call.text = Text.trim text ∧ call.target = target) ∧
      ∀ call other : Target.Call, call.Divided → other.Divided →
        call.text = Text.trim text → other.text = Text.trim text → call = other) ∧
    (¬ Target.callMark <+: Text.trim text →
      (Target.ofText text given = .ok target ↔
        ∃ name, given = some name ∧ Text.trim name.toList ≠ [] ∧
          target = ⟨Text.trimmed name, Text.trim text⟩)) := by
  -- The mark in front decides which of the two readings there is.
  refine ⟨fun called => ⟨?_, ?_⟩, fun bare => Target.ofText_eq_ok_iff_of_bare bare⟩
  · have route : Target.ofText text given = Target.ofCall (Text.trim text) :=
      if_pos (List.isPrefixOf_iff_prefix.mpr called)
    rw [route, Target.Call.ofCall_eq_ok_iff called]
  · intro call other divided again own its
    exact divided.eq_of_text_eq again (own.trans its.symm)

/-- A call with points, brackets and blanks in all of its parts. -/
example : Target.ofText " db. a.b . aggregate\t ((x) ) ;\n".toList none =
    .ok ⟨"a.b", "(x)".toList⟩ := by decide

end DocSource
