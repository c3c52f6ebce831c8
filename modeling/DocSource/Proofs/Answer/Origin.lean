import DocSource.Proofs.Answer.Doubles
import DocSource.Proofs.Answer.Series
import DocSource.Proofs.Answer.Table

/-! Where doubles come from: each double of a decoded result is a number that a document holds. -/

namespace DocSource

/-- A field of a document holds a number that is a double, or becomes one. -/
def Holds (document : Document) (x : Double) : Prop :=
  ∃ field ∈ document, field.2.number? = some x

/-- What is looked up in a document is one of its fields. -/
theorem mem_of_lookup {document : Document} {name : String} {value : Bson}
    (found : document.lookup name = some value) : (name, value) ∈ document := by
  -- A lookup stops in front of a field with this name and value.
  obtain ⟨front, rest, rfl, -⟩ := List.lookup_eq_some_iff.mp found
  exact List.mem_append_right _ List.mem_cons_self

/-- The value of a point is a number of the document that holds the point. -/
theorem holds_of_pointIn? {document : Document} {name : String} {point : Point}
    (held : pointIn? document = some (name, point)) : Holds document point.value := by
  -- A point is read from three lookups, and the second one gives its value.
  simp only [pointIn?, Option.bind_eq_bind, Option.bind_eq_some_iff, Option.some.injEq] at held
  obtain ⟨_, _, value, ⟨stored, found, number⟩, _, _, same⟩ := held
  obtain ⟨-, rfl⟩ := Prod.mk.inj same
  exact ⟨_, mem_of_lookup found, number⟩

/-- Each double of decoded series is a number that one of the documents holds. -/
theorem holds_of_decodeSeries {documents : List Document} {series : List Series}
    (given : (decodeSeries (documents.map .ok)).1 = .ok series) {x : Double}
    (among : x ∈ series.flatMap Series.doubles) : ∃ document ∈ documents, Holds document x := by
  obtain ⟨-, rfl⟩ := (map_feed_eq_ok_iff SeriesBuilder.pushDocument_eq_ok_iff
    SeriesBuilder.finish documents .empty series).mp given
  -- The builder groups the points of the documents, and its series have no others.
  have groups := SeriesBuilder.groups_run SeriesBuilder.groups_empty (documents.map .document)
  rw [List.nil_append, SeriesBuilder.run, List.foldl_map] at groups
  obtain ⟨one, inside, own⟩ := List.mem_flatMap.mp among
  have points := groups.groupedBy.points_eq one inside
  obtain ⟨point, inOne, value⟩ := List.mem_flatMap.mp own
  obtain rfl : x = point.value := List.mem_singleton.mp value
  rw [points, List.mem_map] at inOne
  obtain ⟨⟨name, _⟩, kept, rfl⟩ := inOne
  obtain ⟨call, called, brought⟩ := List.mem_filterMap.mp (List.mem_of_mem_filter kept)
  obtain ⟨document, stored, rfl⟩ := List.mem_map.mp called
  exact ⟨document, stored, holds_of_pointIn? brought⟩

/-- A cell of a row is one of the cells that were set in it. -/
theorem TableBuilder.mem_row {width : Nat} {cells : List (Nat × Cell)} {cell : Cell}
    (among : some cell ∈ row width cells) : ∃ placed ∈ cells, placed.2 = cell := by
  -- Setting a place brings one cell, and the row begins without any.
  have general : ∀ start : List (Option Cell),
      some cell ∈ cells.foldl (fun row placed => row.set placed.1 (some placed.2)) start →
      some cell ∈ start ∨ ∃ placed ∈ cells, placed.2 = cell := by
    clear among
    induction cells with
    | nil => exact fun _ among => .inl among
    | cons first rest ih =>
      intro start among
      rcases ih _ among with earlier | ⟨placed, inside, same⟩
      · rcases List.mem_or_eq_of_mem_set earlier with before | own
        · exact .inl before
        · exact .inr ⟨first, List.mem_cons_self, (Option.some.inj own).symm⟩
      · exact .inr ⟨placed, List.mem_cons_of_mem _ inside, same⟩
  rcases general _ among with empty | set
  · cases List.eq_of_mem_replicate empty
  · exact set

/-- A cell that holds a double is that of a stored double. -/
theorem number?_of_cell? {value : Bson} {cell : Cell} (own : value.cell? = some cell) {x : Double}
    (among : x ∈ cell.doubles) : value.number? = some x := by
  -- A double cell comes from a stored double alone; no other kind of cell holds a double.
  cases cell with
  | double y =>
    obtain rfl : x = y := List.mem_singleton.mp among
    cases value <;> simp_all [Bson.cell?, Bson.number?]
  | _ => simp [Cell.doubles] at among

/-- Each cell of the rows is that of a field of one of the documents. -/
def TableBuilder.CellsFrom (builder : TableBuilder) (documents : List Document) : Prop :=
  ∀ row ∈ builder.rows, ∀ cell, some cell ∈ row →
    ∃ document ∈ documents, ∃ field ∈ document, field.2.cell? = some cell

/-- A document that is pushed brings cells of its own fields alone. -/
theorem TableBuilder.cellsFrom_push {builder : TableBuilder} {names : List String}
    {documents : List Document} (seen : builder.Seen names)
    (cells : builder.CellsFrom documents) {document : Document} (among : document ∈ documents) :
    (builder.push document).2.CellsFrom documents := by
  intro row inside cell here
  cases read : (builder.readFields document).1 with
  | error fault =>
    -- A document that is refused adds no row.
    have rows : (builder.push document).2.rows = builder.rows := by
      rw [push, ← builder.rows_readFields document]
      cases shape : builder.readFields document with
      | mk verdict registered =>
        rw [shape] at read
        obtain rfl : verdict = .error fault := read
        rfl
    exact cells row (rows ▸ inside) cell here
  | ok found =>
    rw [push_eq_of_readFields read] at inside
    simp only [rows_readFields, List.mem_append, List.mem_singleton] at inside
    rcases inside with before | rfl
    · exact cells row before cell here
    · -- The new row has the cells that were read of the document.
      obtain ⟨⟨place, _⟩, placed, rfl⟩ := mem_row here
      obtain ⟨field, own, _, same⟩ :=
        Lists.exists_of_mem_results (placed_readFields seen read) placed
      exact ⟨document, among, field, own, same⟩

/-- Each double of a decoded table is a number that one of the documents holds. -/
theorem holds_of_decodeTable {documents : List Document} {table : Table}
    (given : (decodeTable (documents.map .ok)).1 = .ok table) {x : Double}
    (among : x ∈ table.doubles) : ∃ document ∈ documents, Holds document x := by
  -- Each row of the builder keeps to the documents it was built from.
  obtain ⟨-, rfl⟩ := decodeTable_eq_ok_iff.mp given
  have built : (∃ names, (pushAll TableBuilder.push .empty documents).Seen names) ∧
      (pushAll TableBuilder.push .empty documents).CellsFrom documents := by
    refine List.foldlRecOn (motive := fun builder : TableBuilder =>
      (∃ names, builder.Seen names) ∧ builder.CellsFrom documents) documents _ ?_ ?_
    · -- A builder without rows has nothing to account for.
      exact ⟨⟨_, TableBuilder.seen_empty⟩, fun _ none => nomatch none⟩
    · rintro builder ⟨⟨names, seen⟩, cells⟩ document inside
      exact ⟨⟨_, TableBuilder.seen_push seen document⟩,
        TableBuilder.cellsFrom_push seen cells inside⟩
  obtain ⟨row, inside, own⟩ := List.mem_flatMap.mp among
  obtain ⟨entry, here, own⟩ := List.mem_flatMap.mp own
  cases entry with
  | none => cases own
  -- The double is that of a cell, and the cell is that of a field.
  | some cell =>
    obtain ⟨document, stored, field, held, same⟩ := built.2 row inside cell here
    exact ⟨document, stored, field, held, number?_of_cell? same own⟩

/-- Each double of a decoded result is a number that one of the documents holds. -/
theorem holds_of_decode {shape : Shape} {refId : String} {documents : List Document}
    {result : Result} (given : (decode shape refId (documents.map .ok)).1 = .ok result)
    {x : Double} (among : x ∈ result.doubles) : ∃ document ∈ documents, Holds document x := by
  -- Decoding succeeds in the shape that was asked for, and each shape answers for its doubles.
  cases shape with
  | series =>
    simp only [decode] at given
    cases decoded : (decodeSeries (documents.map .ok)).1 with
    | error fault => simp [decoded, Except.map] at given
    | ok series =>
      simp only [decoded, Except.map, Except.ok.injEq] at given
      subst given
      exact holds_of_decodeSeries decoded among
  | table =>
    simp only [decode] at given
    cases decoded : (decodeTable (documents.map .ok)).1 with
    | error fault => simp [decoded, Except.map] at given
    | ok table =>
      simp only [decoded, Except.map, Except.ok.injEq] at given
      subst given
      exact holds_of_decodeTable decoded among

end DocSource
