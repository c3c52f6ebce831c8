import DocSource.Proofs.Answer.Feed
import DocSource.Proofs.Answer.Places

/-! Series hold the points that were brought, each under its own name, in the order of the calls. -/

namespace DocSource

/-- The text of a string. -/
def Bson.text? : Bson → Option String
  | string text => some text
  | _ => none

/-- The value of a number; whole numbers become the nearest double. -/
def Bson.number? : Bson → Option Double
  | double x => some x
  | int32 n => some (Double.ofInt n.toInt)
  | int64 n => some (Double.ofInt n.toInt)
  | _ => none

/-- The instant of a date. -/
def Bson.instant? : Bson → Option Int64
  | dateTime millis => some millis
  | _ => none

/-- The point that a document holds, and the name of its series. -/
def pointIn? (document : Document) : Option (String × Point) := do
  -- All three fields must be there and fit, whatever else the document holds.
  let name ← (document.lookup "name").bind Bson.text?
  let value ← (document.lookup "value").bind Bson.number?
  let timestamp ← (document.lookup "ts").bind Bson.instant?
  some (name, ⟨timestamp, value⟩)

/-- The name of a series is read from a string. -/
theorem Series.toOption_nameOf (document : Document) :
    (nameOf document).toOption = (document.lookup "name").bind Bson.text? := by
  -- Only a string among the kinds of value gives a name.
  unfold nameOf
  cases document.lookup "name" with
  | none => rfl
  | some value => cases value <;> rfl

/-- The value of a point is read from a number. -/
theorem Series.toOption_valueOf (document : Document) :
    (valueOf document).toOption = (document.lookup "value").bind Bson.number? := by
  -- Doubles and both widths of integers are numbers; no other kind of value is.
  unfold valueOf
  cases document.lookup "value" with
  | none => rfl
  | some value => cases value <;> rfl

/-- The instant of a point is read from a date. -/
theorem Series.toOption_timestampOf (document : Document) :
    (timestampOf document).toOption = (document.lookup "ts").bind Bson.instant? := by
  -- Only a date among the kinds of value gives an instant.
  unfold timestampOf
  cases document.lookup "ts" with
  | none => rfl
  | some value => cases value <;> rfl

/-- A point is read from a document that holds one, and only from such. -/
theorem Series.toOption_pointOf (document : Document) :
    (pointOf document).toOption = pointIn? document := by
  -- The fields are read one after the other, and each may end the reading.
  rw [pointOf, pointIn?, ← toOption_nameOf, ← toOption_valueOf, ← toOption_timestampOf]
  cases nameOf document <;> cases valueOf document <;> cases timestampOf document <;> rfl

/-- The series of a name among points. -/
def seriesOf (points : List (String × Point)) (name : String) : Series :=
  ⟨name, (points.filter (·.1 = name)).map Prod.snd⟩

/-- A name that no point has is the name of a series without points. -/
theorem seriesOf_absent {points : List (String × Point)} {name : String}
    (absent : name ∉ points.map Prod.fst) : seriesOf points name = ⟨name, []⟩ := by
  -- A point that is kept has the name, and no point has it.
  have none : points.filter (·.1 = name) = [] := by
    refine List.filter_eq_nil_iff.mpr fun point among => ?_
    have differs : point.1 ≠ name := fun same => absent (List.mem_map.mpr ⟨point, among, same⟩)
    simpa using differs
  rw [seriesOf, none, List.map_nil]

/-- One more point comes last in the series of its name, and changes no other. -/
theorem seriesOf_concat (points : List (String × Point)) (name : String) (point : Point) :
    seriesOf (points ++ [(name, point)]) =
      Function.update (seriesOf points) name
        ⟨name, (seriesOf points name).points ++ [point]⟩ := by
  funext other
  by_cases same : other = name
  · -- The point passes the filter of its own name, and is the last one that does.
    subst same
    simp [seriesOf]
  · simp [seriesOf, Function.update_of_ne same, Ne.symm same]

/-- A call of a builder: a point with the name of its series, or a document that may hold both. -/
inductive SeriesCall
  | point (name : String) (point : Point)
  | document (document : Document)

/-- The point that a call brings, and the name of its series. -/
def SeriesCall.point? : SeriesCall → Option (String × Point)
  | .point name brought => some (name, brought)
  | .document given => pointIn? given

namespace SeriesBuilder

/-- A builder after a call. -/
def call (builder : SeriesBuilder) : SeriesCall → SeriesBuilder
  | .point name point => builder.push name point
  | .document document => (builder.pushDocument document).2

/-- A builder after calls. -/
def run (builder : SeriesBuilder) (calls : List SeriesCall) : SeriesBuilder :=
  calls.foldl call builder

/-- A builder has the series of names among points, and the index has their places. -/
structure Keeps (builder : SeriesBuilder) (names : List String)
    (points : List (String × Point)) : Prop where
  series_eq : builder.series = names.map (seriesOf points)
  indexed : Indexed builder.index names

/-- A builder has one series for each name among points. -/
def Groups (builder : SeriesBuilder) (points : List (String × Point)) : Prop :=
  builder.Keeps (points.map Prod.fst).eraseDups points

variable {builder : SeriesBuilder} {points : List (String × Point)}

/-- An empty builder groups no points. -/
theorem groups_empty : empty.Groups [] :=
  -- There is no series, and the index of no names is empty.
  ⟨rfl, .nil⟩

/-- A builder that asks for the place of a name has a series for that name too. -/
theorem keeps_seriesAt (groups : builder.Groups points) (name : String) :
    (builder.seriesAt name).2.Keeps (points.map Prod.fst ++ [name]).eraseDups points ∧
      (points.map Prod.fst ++ [name]).eraseDups[(builder.seriesAt name).1]? = some name := by
  rw [seriesAt, eraseDups_concat]
  cases found : builder.index.lookup name with
  | some place =>
    -- A known name is among those of the points, and nothing changes.
    have there := (groups.indexed name place).mp found
    have known := List.mem_eraseDups.mp (List.mem_of_getElem? there)
    rw [if_pos known]
    exact ⟨groups, there⟩
  | none =>
    -- A new name begins an empty series at the end, and no point so far has that name.
    have absent := groups.indexed.lookup_eq_none_iff.mp found
    rw [List.mem_eraseDups] at absent
    have length_eq : builder.series.length = (points.map Prod.fst).eraseDups.length := by
      rw [groups.series_eq, List.length_map]
    rw [if_neg absent, length_eq]
    refine ⟨⟨?_, groups.indexed.concat found⟩, List.getElem?_concat_length⟩
    simp only [groups.series_eq, List.map_append, List.map_singleton, seriesOf_absent absent]

/-- A point is added to the points of its name. -/
theorem groups_push (groups : builder.Groups points) (name : String) (point : Point) :
    (builder.push name point).Groups (points ++ [(name, point)]) := by
  obtain ⟨keeps, there⟩ := keeps_seriesAt groups name
  unfold Groups
  rw [List.map_append, List.map_singleton]
  refine ⟨?_, keeps.indexed⟩
  -- The point goes to the place of its name, and to no other since names are distinct.
  have added := modify_map keeps.indexed.nodup there (seriesOf points) fun series =>
    { series with points := series.points ++ [point] }
  rw [← keeps.series_eq] at added
  rw [seriesOf_concat]
  exact added

/-- A document is taken exactly when it holds a point. -/
theorem pushDocument_eq_ok_iff (builder : SeriesBuilder) (document : Document) :
    (builder.pushDocument document).1 = .ok () ↔ (pointIn? document).isSome := by
  -- The error of a point that cannot be read is the only one.
  rw [pushDocument, ← Series.toOption_pointOf]
  cases Series.pointOf document <;> simp [Except.toOption]

/-- A document that holds no point leaves everything as it was. -/
theorem pushDocument_refused (builder : SeriesBuilder) {document : Document}
    (without : pointIn? document = none) : (builder.pushDocument document).2 = builder := by
  -- The refusal hands back the builder that came in.
  rw [← Series.toOption_pointOf] at without
  rw [pushDocument]
  cases read : Series.pointOf document with
  | error fault => rfl
  | ok named => simp [read, Except.toOption] at without

/-- A document that holds a point is pushed as that point. -/
theorem pushDocument_taken (builder : SeriesBuilder) {document : Document} {name : String}
    {point : Point} (held : pointIn? document = some (name, point)) :
    (builder.pushDocument document).2 = builder.push name point := by
  -- A point that is read is pushed under the name that is read with it.
  rw [← Series.toOption_pointOf] at held
  rw [pushDocument]
  cases read : Series.pointOf document with
  | error fault => simp [read, Except.toOption] at held
  | ok named =>
    obtain rfl : named = (name, point) := by simpa [read, Except.toOption] using held
    rfl

/-- A call adds the point that it brings, if it brings one. -/
theorem groups_call (groups : builder.Groups points) (call : SeriesCall) :
    (builder.call call).Groups (points ++ call.point?.toList) := by
  cases call with
  | point name point => exact groups_push groups name point
  | document document =>
    -- A document counts for the point that it holds.
    rw [SeriesBuilder.call, SeriesCall.point?]
    cases held : pointIn? document with
    | none => simpa [pushDocument_refused builder held] using groups
    | some named => simpa [pushDocument_taken builder held] using groups_push groups _ _

/-- Calls add the points that they bring, in their order. -/
theorem groups_run (groups : builder.Groups points) (calls : List SeriesCall) :
    (builder.run calls).Groups (points ++ calls.filterMap SeriesCall.point?) := by
  -- Each call meets what the calls before it left.
  induction calls generalizing builder points with
  | nil => simpa [run] using groups
  | cons first rest ih =>
    have later := ih (groups_call groups first)
    rw [List.append_assoc] at later
    have split : (first :: rest).filterMap SeriesCall.point? =
        first.point?.toList ++ rest.filterMap SeriesCall.point? := by
      cases brought : first.point? <;> simp [brought]
    rw [split]
    exact later

end SeriesBuilder

/-- Series group points when each name among the points has one, with the points of the name. -/
structure GroupedBy (series : List Series) (points : List (String × Point)) : Prop where
  names_eq : series.map (·.name) = (points.map Prod.fst).eraseDups
  distinct : (series.map (·.name)).Nodup
  points_eq : ∀ one ∈ series, one.points = (points.filter (·.1 = one.name)).map Prod.snd

/-- A builder that groups points has series that do. -/
theorem SeriesBuilder.Groups.groupedBy {builder : SeriesBuilder}
    {points : List (String × Point)} (groups : builder.Groups points) :
    GroupedBy builder.finish points := by
  -- The series are laid out by the distinct names, and so are named by them in their order.
  have names_eq : builder.finish.map (·.name) = (points.map Prod.fst).eraseDups := by
    rw [finish, groups.series_eq, List.map_map]
    exact List.map_id _
  refine ⟨names_eq, names_eq ▸ groups.indexed.nodup, ?_⟩
  rw [finish, groups.series_eq]
  intro one among
  obtain ⟨name, _, rfl⟩ := List.mem_map.mp among
  rfl

/-- There are as many series as names among the points. -/
theorem SeriesBuilder.Groups.length_eq {builder : SeriesBuilder} {points : List (String × Point)}
    (groups : builder.Groups points) :
    builder.length = (points.map Prod.fst).eraseDups.length := by
  -- There is one series for each distinct name.
  rw [SeriesBuilder.length, groups.series_eq, List.length_map]

/-- There are no series when there are no points. -/
theorem SeriesBuilder.Groups.isEmpty_eq {builder : SeriesBuilder} {points : List (String × Point)}
    (groups : builder.Groups points) : builder.isEmpty = points.isEmpty := by
  -- The first point of any has a name, which has a series.
  rw [SeriesBuilder.isEmpty, groups.series_eq, List.isEmpty_map]
  cases points with
  | nil => rfl
  | cons first rest => rw [List.map_cons, List.eraseDups_cons]; rfl

/--
Calls of a builder group the points that they bring: a call that brings none is refused and changes
nothing, and decoding documents is one run of such calls, none of which is refused.
-/
theorem SeriesBuilder.run_grouped :
    (∀ calls : List SeriesCall,
      let built := SeriesBuilder.empty.run calls
      let points := calls.filterMap SeriesCall.point?
      GroupedBy built.finish points ∧ built.length = (points.map Prod.fst).eraseDups.length ∧
        built.isEmpty = points.isEmpty) ∧
    (∀ (builder : SeriesBuilder) (document : Document),
      ((builder.pushDocument document).1 = .ok () ↔ (pointIn? document).isSome) ∧
        ((builder.pushDocument document).1 ≠ .ok () →
          (builder.pushDocument document).2 = builder)) ∧
    ∀ (documents : List Document) (series : List Series),
      (decodeSeries (documents.map .ok)).1 = .ok series ↔
        (∀ document ∈ documents, (pointIn? document).isSome) ∧
          (SeriesBuilder.empty.run (documents.map .document)).finish = series := by
  refine ⟨fun calls => ?_, fun builder document => ⟨pushDocument_eq_ok_iff builder document, ?_⟩,
    fun documents series => ?_⟩
  · -- The first builder groups no points, and the run adds those of its calls.
    have groups := groups_run groups_empty calls
    rw [List.nil_append] at groups
    exact ⟨groups.groupedBy, groups.length_eq, groups.isEmpty_eq⟩
  · intro refused
    rw [ne_eq, pushDocument_eq_ok_iff, Option.not_isSome_iff_eq_none] at refused
    exact pushDocument_refused builder refused
  · -- Decoding pushes document after document onto the first builder.
    have decoded := map_feed_eq_ok_iff pushDocument_eq_ok_iff finish documents .empty series
    rw [run, List.foldl_map]
    exact decoded

/-- Points of one name come together across a document that is refused and a point of another. -/
example (first second third : Point) :
    (SeriesBuilder.empty.run
      [.point "a" first, .document [], .point "b" second, .point "a" third]).finish =
      [⟨"a", [first, third]⟩, ⟨"b", [second]⟩] := rfl

end DocSource
