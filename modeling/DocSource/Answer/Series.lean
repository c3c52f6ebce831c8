import DocSource.Bson.Basic
import DocSource.Error

/-! Series: points grouped by name, in the order names and points arrive. -/

namespace DocSource

/-- A value at an instant, in milliseconds since 1970. -/
structure Point where
  timestamp : Int64
  value : Double
  deriving DecidableEq, Inhabited

/-- A named list of points. -/
structure Series where
  name : String
  points : List Point
  deriving DecidableEq, Inhabited

namespace Series

/-- Why a field is not what a series needs. -/
def fieldError (field expected : String) (found : Option Bson) : Error :=
  match found with
  | none => .decode s!"missing field '{field}'"
  | some value =>
    let name := value.typeName
    .decode s!"field '{field}': expected {expected}, found {name}"

/-- The name of the series that a document belongs to. -/
def nameOf (document : Document) : Except Error String :=
  match document.lookup "name" with
  | some (.string name) => .ok name
  | other => .error (fieldError "name" "string" other)

/-- The value of a document's point; whole numbers become the nearest double. -/
def valueOf (document : Document) : Except Error Double :=
  match document.lookup "value" with
  | some (.double x) => .ok x
  | some (.int32 n) => .ok (Double.ofInt n.toInt)
  | some (.int64 n) => .ok (Double.ofInt n.toInt)
  | other => .error (fieldError "value" "number" other)

/-- The instant of a document's point. -/
def timestampOf (document : Document) : Except Error Int64 :=
  match document.lookup "ts" with
  | some (.dateTime millis) => .ok millis
  | other => .error (fieldError "ts" "date" other)

/-- The series name and the point of a document. -/
def pointOf (document : Document) : Except Error (String × Point) := do
  let name ← nameOf document
  let value ← valueOf document
  let timestamp ← timestampOf document
  .ok (name, ⟨timestamp, value⟩)

end Series

/-- Series while points arrive, with the places of the series by name. -/
structure SeriesBuilder where
  index : List (String × Nat)
  series : List Series
  deriving DecidableEq, Inhabited

namespace SeriesBuilder

/-- A builder without series. -/
def empty : SeriesBuilder := ⟨[], []⟩

/-- The place of the series of a name, which is begun at the end when it is new. -/
def seriesAt (builder : SeriesBuilder) (name : String) : Nat × SeriesBuilder :=
  match builder.index.lookup name with
  | some place => (place, builder)
  | none =>
    let place := builder.series.length
    (place, ⟨(name, place) :: builder.index, builder.series ++ [⟨name, []⟩]⟩)

/-- Adds a point to the series of a name. -/
def push (builder : SeriesBuilder) (name : String) (point : Point) : SeriesBuilder :=
  let (place, builder) := builder.seriesAt name
  { builder with series := builder.series.modify place fun series =>
      { series with points := series.points ++ [point] } }

/-- Adds the point of a document; one that has none changes nothing. -/
def pushDocument (builder : SeriesBuilder) (document : Document) :
    Except Error Unit × SeriesBuilder :=
  match Series.pointOf document with
  | .error error => (.error error, builder)
  | .ok (name, point) => (.ok (), builder.push name point)

/-- How many series there are. -/
def length (builder : SeriesBuilder) : Nat := builder.series.length

/-- There are no series. -/
def isEmpty (builder : SeriesBuilder) : Bool := builder.series.isEmpty

/-- The series in the order their first points arrived. -/
def finish (builder : SeriesBuilder) : List Series := builder.series

end SeriesBuilder

end DocSource
