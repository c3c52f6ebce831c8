import DocSource.Proofs.Answer.Series
import DocSource.Proofs.Answer.Table

/-!
Refusals: why an item of a stream is not taken, whatever was taken before it. Main statement:
`decode_stops`, which says that the first such item ends a decoding and that nothing else does.
-/

namespace DocSource

/-- The error of an outcome that is one. -/
def faultOf? {α : Type} : Except Error α → Option Error
  | .error fault => some fault
  | .ok _ => none

/-- What is made of a value makes no difference to an error. -/
@[simp] theorem faultOf?_map {α β : Type} (outcome : Except Error α) (next : α → β) :
    faultOf? (outcome.map next) = faultOf? outcome := by
  cases outcome <;> rfl

/-- Why a field of a document is at fault, when it is missing or its value does not fit. -/
def fieldFault? (document : Document) (field expected : String) (fits : Bson → Bool) :
    Option Error :=
  -- A field that is there with a value of another type is at fault just like a missing one.
  if (document.lookup field).any fits then none
  else some (Series.fieldError field expected (document.lookup field))

/-- Why a document is no point: its name is at fault, or else its value, or else its instant. -/
def pointFault? (document : Document) : Option Error :=
  -- The order is the one in which the fields are read, so the first fault is the reported one.
  fieldFault? document "name" "string" (·.text?.isSome) <|>
    fieldFault? document "value" "number" (·.number?.isSome) <|>
    fieldFault? document "ts" "date" (·.instant?.isSome)

/-- Why a document is no row: its first field without a cell, by its name and its type. -/
def rowFault? (document : Document) : Option Error :=
  (document.find? (·.2.cell?.isNone)).map fun field => .unsupportedType field.1 field.2.typeName

/-- Why a document is refused in an answer of a shape. -/
def Shape.refusal? : Shape → Document → Option Error
  | .series => pointFault?
  | .table => rowFault?

/-- Why an item of a stream is not taken: the stream failed there, or the document is refused. -/
def itemFault? (refusal? : Document → Option Error) : Except Error Document → Option Error
  | .error fault => some fault
  | .ok document => refusal? document

section Feeding

variable {α : Type} {push : α → Document → Except Error Unit × α}
  {refusal? : Document → Option Error}
  (judged : ∀ state document, faultOf? (push state document).1 = refusal? document)
include judged

/-- A document that is not refused is pushed, and feeding goes on with what follows. -/
theorem feed_cons_of_fine {item : Except Error Document} (fine : itemFault? refusal? item = none)
    (state : α) (rest : DocumentStream) :
    ∃ reached, feed push state (item :: rest) = feed push reached rest := by
  cases item with
  | error fault => cases fine
  | ok document =>
    -- The verdict is the same in every state, and only what is reached depends on it.
    have verdict : faultOf? (push state document).1 = none := (judged state document).trans fine
    rw [feed]
    cases pushed : push state document with
    | mk outcome reached =>
      rw [pushed] at verdict
      cases outcome with
      | error fault => cases verdict
      | ok done => exact ⟨reached, rfl⟩

/-- An item that is not taken ends the feeding, and what follows stays. -/
theorem feed_cons_of_fault {item : Except Error Document} {fault : Error}
    (bad : itemFault? refusal? item = some fault) (state : α) (rest : DocumentStream) :
    feed push state (item :: rest) = (.error fault, rest) := by
  -- What is wrong with the item is what its failure, or the accumulator, reports of it.
  cases item with
  | error own =>
    obtain rfl := Option.some.inj bad
    rfl
  | ok document =>
    -- The accumulator refuses the document whatever was fed to it before.
    have verdict : faultOf? (push state document).1 = some fault :=
      (judged state document).trans bad
    rw [feed]
    cases pushed : push state document with
    | mk outcome reached =>
      rw [pushed] at verdict
      cases outcome with
      | error own =>
        obtain rfl := Option.some.inj verdict
        rfl
      | ok done => cases verdict

/-- Items that are all taken leave an accumulator that goes on with the rest of the stream. -/
theorem feed_append_of_fine {taken : DocumentStream}
    (fine : ∀ item ∈ taken, itemFault? refusal? item = none) (state : α)
    (rest : DocumentStream) :
    ∃ reached, feed push state (taken ++ rest) = feed push reached rest := by
  -- Each item meets what those before it left, and is judged by itself.
  induction taken generalizing state with
  | nil => exact ⟨state, rfl⟩
  | cons item more ih =>
    obtain ⟨own, others⟩ := List.forall_mem_cons.mp fine
    obtain ⟨next, step⟩ := feed_cons_of_fine judged own state (more ++ rest)
    obtain ⟨reached, later⟩ := ih others next
    exact ⟨reached, step.trans later⟩

/-- Feeding ends at the first item that is not taken, with its error, and what follows stays. -/
theorem feed_stops {stream : DocumentStream} {index : Nat} {item : Except Error Document}
    {fault : Error} (found : stream[index]? = some item)
    (bad : itemFault? refusal? item = some fault)
    (fine : ∀ earlier ∈ stream.take index, itemFault? refusal? earlier = none) (state : α) :
    feed push state stream = (.error fault, stream.drop (index + 1)) := by
  -- The stream divides at the item: those before it are taken, and those behind it stay.
  obtain ⟨within, rfl⟩ := List.getElem?_eq_some_iff.mp found
  have divided := List.take_append_drop index stream
  rw [List.drop_eq_getElem_cons within] at divided
  obtain ⟨reached, same⟩ :=
    feed_append_of_fine judged fine state (stream[index] :: stream.drop (index + 1))
  rw [divided] at same
  rw [same, feed_cons_of_fault judged bad]

/-- Feeding takes the whole stream when every item of it is taken. -/
theorem feed_takes {stream : DocumentStream}
    (fine : ∀ item ∈ stream, itemFault? refusal? item = none) (state : α) :
    ∃ last, feed push state stream = (.ok last, []) := by
  -- A stream is taken in front of whatever follows it, which here is nothing.
  obtain ⟨last, same⟩ := feed_append_of_fine judged fine state []
  rw [List.append_nil] at same
  exact ⟨last, same⟩

end Feeding

/-- A table reads the fields of a document up to the first that has no cell. -/
theorem TableBuilder.faultOf?_readFields (builder : TableBuilder) (document : Document) :
    faultOf? (builder.readFields document).1 = rowFault? document := by
  -- The columns that are there already make no difference to what a value is.
  induction document generalizing builder with
  | nil => rfl
  | cons field rest ih =>
    obtain ⟨name, value⟩ := field
    rw [TableBuilder.readFields, Cell.ofField_eq, rowFault?, List.find?_cons]
    -- A field without a cell is the first, and any other leaves the search to those behind it.
    cases value.cell? with
    | none => rfl
    | some cell => exact (faultOf?_map _ _).trans (ih (builder.column name).2)

/-- A table refuses a document for its first field that has no cell, whatever it holds. -/
theorem TableBuilder.faultOf?_push (builder : TableBuilder) (document : Document) :
    faultOf? (builder.push document).1 = rowFault? document := by
  -- Reading the fields is the only step that can refuse.
  rw [← faultOf?_readFields builder, push]
  cases builder.readFields document with
  | mk verdict registered => cases verdict <;> rfl

namespace Series

/-- The name of a series is refused unless it is a string. -/
theorem faultOf?_nameOf (document : Document) :
    faultOf? (nameOf document) = fieldFault? document "name" "string" (·.text?.isSome) := by
  -- A missing field and one of another type are the two ways to be no string.
  unfold nameOf fieldFault?
  cases document.lookup "name" with
  | none => rfl
  | some value => cases value <;> rfl

/-- The value of a point is refused unless it is a number. -/
theorem faultOf?_valueOf (document : Document) :
    faultOf? (valueOf document) = fieldFault? document "value" "number" (·.number?.isSome) := by
  -- A missing field and one of another type are the two ways to be no number.
  unfold valueOf fieldFault?
  cases document.lookup "value" with
  | none => rfl
  | some value => cases value <;> rfl

/-- The instant of a point is refused unless it is a date. -/
theorem faultOf?_timestampOf (document : Document) :
    faultOf? (timestampOf document) = fieldFault? document "ts" "date" (·.instant?.isSome) := by
  -- A missing field and one of another type are the two ways to be no date.
  unfold timestampOf fieldFault?
  cases document.lookup "ts" with
  | none => rfl
  | some value => cases value <;> rfl

/-- A point is refused for the first of its three fields that is at fault. -/
theorem faultOf?_pointOf (document : Document) :
    faultOf? (pointOf document) = pointFault? document := by
  -- Each field is read only if those before it were.
  rw [pointOf, pointFault?, ← faultOf?_nameOf, ← faultOf?_valueOf, ← faultOf?_timestampOf]
  cases nameOf document <;> cases valueOf document <;> cases timestampOf document <;> rfl

end Series

/-- Series refuse a document for what keeps it from being a point, whatever they hold. -/
theorem SeriesBuilder.faultOf?_pushDocument (builder : SeriesBuilder) (document : Document) :
    faultOf? (builder.pushDocument document).1 = pointFault? document := by
  -- Reading the point is the only step that can refuse.
  rw [← Series.faultOf?_pointOf, pushDocument]
  cases Series.pointOf document <;> rfl

/-- Decoding feeds an accumulator that judges each document by itself, and makes a result of it. -/
theorem decode_eq_feed (shape : Shape) (refId : String) :
    ∃ (α : Type) (push : α → Document → Except Error Unit × α) (start : α) (finish : α → Payload),
      (∀ state document, faultOf? (push state document).1 = shape.refusal? document) ∧
      ∀ stream, decode shape refId stream =
        ((feed push start stream).1.map fun last => ⟨refId, finish last⟩,
          (feed push start stream).2) := by
  -- Both shapes differ in their accumulator only, which is empty at the start.
  cases shape with
  | series =>
    refine ⟨SeriesBuilder, SeriesBuilder.pushDocument, .empty, fun last => .series last.finish,
      SeriesBuilder.faultOf?_pushDocument, fun stream => ?_⟩
    simp only [decode, decodeSeries]
    cases (feed SeriesBuilder.pushDocument .empty stream).1 <;> rfl
  | table =>
    refine ⟨TableBuilder, TableBuilder.push, .empty, fun last => .table last.finish,
      TableBuilder.faultOf?_push, fun stream => ?_⟩
    simp only [decode, decodeTable]
    cases (feed TableBuilder.push .empty stream).1 <;> rfl

/--
A decoding ends at the first item that is at fault, with the error that this item gives alone:
the items before it make no difference to the error, and those behind it are not taken.
Without such an item all are taken, and there is a result.
-/
theorem decode_stops (shape : Shape) (refId : String) (stream : DocumentStream) :
    (∀ item, faultOf? (decode shape refId [item]).1 = itemFault? shape.refusal? item) ∧
    (∀ index item fault, stream[index]? = some item →
      itemFault? shape.refusal? item = some fault →
      (∀ earlier ∈ stream.take index, itemFault? shape.refusal? earlier = none) →
      decode shape refId stream = (.error fault, stream.drop (index + 1))) ∧
    ((∀ item ∈ stream, itemFault? shape.refusal? item = none) →
      ∃ payload, decode shape refId stream = (.ok ⟨refId, payload⟩, [])) := by
  obtain ⟨α, push, start, finish, judged, decoded⟩ := decode_eq_feed shape refId
  refine ⟨?_, ?_, ?_⟩
  · -- An item alone is the first of its stream, and nothing stands before it.
    intro item
    rw [decoded, faultOf?_map]
    cases own : itemFault? shape.refusal? item with
    | none =>
      obtain ⟨reached, same⟩ := feed_cons_of_fine judged own start []
      rw [same]
      rfl
    | some fault =>
      rw [feed_cons_of_fault judged own]
      rfl
  · intro index item fault found bad fine
    rw [decoded, feed_stops judged found bad fine]
    rfl
  · intro fine
    obtain ⟨last, same⟩ := feed_takes judged fine start
    exact ⟨finish last, by rw [decoded, same]; rfl⟩

/-- The second document has a field without a cell, and the failure behind it is not reached. -/
theorem decode_stops_second :
    decode .table "A" [.ok [("a", .int32 1)], .ok [("b", .null), ("c", .null)], .error .json] =
      (.error (.unsupportedType "b" "null"), [.error .json]) := by
  -- The first document has cells throughout, so the second one decides.
  refine (decode_stops .table "A" _).2.1 1 _ _ rfl rfl ?_
  intro earlier among
  obtain rfl := List.mem_singleton.mp among
  rfl

end DocSource
