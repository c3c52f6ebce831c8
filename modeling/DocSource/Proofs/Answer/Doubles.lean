import DocSource.Answer.Wire
import DocSource.Proofs.Lists

/-! The doubles of a response, and the response with others in their places. -/

namespace DocSource

variable (f : Double → Double)

namespace Cell

/-- The double of a cell that holds one. -/
def doubles : Cell → List Double
  | double x => [x]
  | _ => []

/-- A cell with another double, if it holds one. -/
def mapDoubles : Cell → Cell
  | double x => double (f x)
  | cell => cell

/-- A cell whose double stays is itself. -/
theorem mapDoubles_eq_self {cell : Cell} (same : ∀ x ∈ cell.doubles, f x = x) :
    cell.mapDoubles f = cell := by
  -- A cell of another kind holds no double to change.
  cases cell with
  | double x => rw [mapDoubles, same x (List.mem_singleton_self x)]
  | _ => rfl

end Cell

namespace Point

/-- The one double of a point. -/
def doubles (point : Point) : List Double := [point.value]

/-- A point with another value at its instant. -/
def mapDoubles (point : Point) : Point := { point with value := f point.value }

end Point

namespace Series

/-- The doubles of a series, point by point. -/
def doubles (series : Series) : List Double := series.points.flatMap Point.doubles

/-- A series with other values at the instants of its points. -/
def mapDoubles (series : Series) : Series :=
  { series with points := series.points.map (Point.mapDoubles f) }

/-- A series whose values stay is itself. -/
theorem mapDoubles_eq_self {series : Series} (same : ∀ x ∈ series.doubles, f x = x) :
    series.mapDoubles f = series := by
  -- Every value of a point is a double of its series, and is left as it is.
  have points : series.points.map (Point.mapDoubles f) = series.points :=
    Lists.map_eq_self fun point among => by
      have own := same point.value
        (List.mem_flatMap.mpr ⟨point, among, List.mem_singleton_self _⟩)
      simp only [Point.mapDoubles, own]
  rw [mapDoubles, points]

end Series

namespace Table

/-- The double of an entry whose cell holds one. -/
def doublesAt (entry : Option Cell) : List Double := (entry.map Cell.doubles).getD []

/-- The doubles of a table, row by row. -/
def doubles (table : Table) : List Double := table.rows.flatMap fun row => row.flatMap doublesAt

/-- A table with other doubles in its cells. -/
def mapDoubles (table : Table) : Table :=
  { table with rows := table.rows.map fun row => row.map (Option.map (Cell.mapDoubles f)) }

/-- A table whose doubles stay is itself. -/
theorem mapDoubles_eq_self {table : Table} (same : ∀ x ∈ table.doubles, f x = x) :
    table.mapDoubles f = table := by
  -- A double of the table stands in some cell of some row, and an absent cell holds none.
  have rows : (table.rows.map fun row => row.map (Option.map (Cell.mapDoubles f))) = table.rows :=
    Lists.map_eq_self fun row among => Lists.map_eq_self fun entry inside => by
      cases entry with
      | none => rfl
      | some cell =>
        rw [Option.map_some, Cell.mapDoubles_eq_self f fun x own => same x
          (List.mem_flatMap.mpr ⟨row, among, List.mem_flatMap.mpr ⟨_, inside, own⟩⟩)]
  rw [mapDoubles, rows]

end Table

namespace Payload

/-- The doubles of a payload. -/
def doubles : Payload → List Double
  | series list => list.flatMap Series.doubles
  | table body => body.doubles
  | error _ => []

/-- A payload with other doubles. -/
def mapDoubles : Payload → Payload
  | series list => series (list.map (Series.mapDoubles f))
  | table body => table (body.mapDoubles f)
  | error message => error message

/-- A payload whose doubles stay is itself. -/
theorem mapDoubles_eq_self {payload : Payload} (same : ∀ x ∈ payload.doubles, f x = x) :
    payload.mapDoubles f = payload := by
  -- The doubles of the parts are doubles of the payload, and an error message holds none.
  cases payload with
  | series list =>
    have each : list.map (Series.mapDoubles f) = list :=
      Lists.map_eq_self fun one among => Series.mapDoubles_eq_self f fun x own =>
        same x (List.mem_flatMap.mpr ⟨one, among, own⟩)
    rw [mapDoubles, each]
  | table body => rw [mapDoubles, Table.mapDoubles_eq_self f same]
  | error message => rfl

/-- Other doubles leave a payload under its key. -/
theorem key_mapDoubles (payload : Payload) :
    (payload.mapDoubles f).toMember.1 = payload.toMember.1 := by
  -- The key names the kind of a payload, which its doubles have no part in.
  cases payload <;> rfl

end Payload

namespace Result

/-- The doubles of a result. -/
def doubles (result : Result) : List Double := result.payload.doubles

/-- A result with other doubles. -/
def mapDoubles (result : Result) : Result :=
  { result with payload := result.payload.mapDoubles f }

end Result

namespace Response

/-- The doubles of a response, result by result. -/
def doubles (response : Response) : List Double := response.results.flatMap Result.doubles

/-- A response with other doubles. -/
def mapDoubles (response : Response) : Response :=
  ⟨response.results.map (Result.mapDoubles f)⟩

/-- A response whose doubles stay is itself. -/
theorem mapDoubles_eq_self {response : Response} (same : ∀ x ∈ response.doubles, f x = x) :
    response.mapDoubles f = response := by
  -- The doubles of each result are doubles of the response.
  have results : response.results.map (Result.mapDoubles f) = response.results :=
    Lists.map_eq_self fun result among => by
      have own := Payload.mapDoubles_eq_self f fun x own =>
        same x (List.mem_flatMap.mpr ⟨result, among, own⟩)
      simp only [Result.mapDoubles, own]
  rw [mapDoubles, results]

/-- The outline of a response: the reference of each result, and the key of what it carries. -/
def outline (response : Response) : List (String × String) :=
  response.results.map fun result => (result.refId, result.payload.toMember.1)

/-- Other doubles leave the outline of a response. -/
theorem outline_mapDoubles (response : Response) :
    (response.mapDoubles f).outline = response.outline := by
  -- References are not looked at, and the kind of each payload stays.
  rw [outline, mapDoubles, List.map_map]
  exact List.map_congr_left fun result _ => by
    rw [Function.comp_apply, Result.mapDoubles, Payload.key_mapDoubles]

end Response

end DocSource
