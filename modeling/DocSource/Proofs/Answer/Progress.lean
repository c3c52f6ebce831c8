import DocSource.Proofs.Answer.Refusal
import DocSource.Proofs.Lists

/-!
Tables while they are built: what a document changes, whether or not it is taken, and what holds
after any number of them. Main statement: `TableBuilder.pushAll_consistent`.
-/

namespace DocSource

/-- The names that are not among columns, each once, in their order. -/
def newNames (columns names : List String) : List String :=
  (names.filter (· ∉ columns)).eraseDups

/-- Names behind others add those of them that are new. -/
theorem eraseDups_append_newNames (names more : List String) :
    (names ++ more).eraseDups = names.eraseDups ++ newNames names.eraseDups more := by
  -- A name is among others exactly when it is among them without their repetitions.
  have same : more.removeAll names = more.filter (· ∉ names.eraseDups) := by
    refine List.filter_congr ?_
    intro name _
    simp
  rw [List.eraseDups_append, same, newNames]

/-- What is read of a document ends at its first field that has no cell, and takes in its name. -/
theorem namesRead_eq_of_offending {before rest : Document} {name : String} {value : Bson}
    (tabular : Tabular before) (without : value.cell? = none) :
    namesRead (before ++ (name, value) :: rest) = namesOf before ++ [name] := by
  -- Fields with cells are passed over, and the first one without ends the reading.
  induction before with
  | nil => simp [namesRead, namesOf, without]
  | cons field more ih =>
    obtain ⟨own, others⟩ := tabular_cons.mp tabular
    rw [List.cons_append, namesRead, if_pos own, ih others, namesOf, namesOf, List.map_cons,
      List.cons_append]

/-- A document is no row because of a field without a cell, behind fields that all have cells. -/
theorem exists_of_rowFault? {document : Document} {fault : Error}
    (refused : rowFault? document = some fault) :
    ∃ before name value rest, document = before ++ (name, value) :: rest ∧ Tabular before ∧
      value.cell? = none ∧ fault = .unsupportedType name value.typeName := by
  -- The fault is that of the first field without a cell, so every field before it has one.
  obtain ⟨⟨name, value⟩, found, rfl⟩ := Option.map_eq_some_iff.mp refused
  obtain ⟨without, before, rest, rfl, fine⟩ := List.find?_eq_some_iff_append.mp found
  refine ⟨before, name, value, rest, rfl, ?_, by simpa using without, rfl⟩
  intro field among
  simpa [Option.isSome_iff_ne_none] using fine field among

/-- Where names are distinct, the cell under the name of a field is that of its value. -/
theorem cellUnder_eq {document : Document} (once : (namesOf document).Nodup)
    {field : String × Bson} (among : field ∈ document) :
    cellUnder document field.1 = field.2.cell? := by
  obtain ⟨before, rest, rfl⟩ := List.append_of_mem among
  -- No field before this one has its name.
  have first : (before ++ field :: rest).lookup field.1 = some field.2 := by
    refine List.lookup_eq_some_iff.mpr ⟨before, rest, rfl, ?_⟩
    intro earlier inside
    rw [namesOf, List.map_append, List.nodup_append] at once
    have differs := once.2.2 earlier.1 (List.mem_map_of_mem inside) field.1 List.mem_cons_self
    simpa using differs.symm
  rw [cellUnder, first, Option.bind_some]

namespace TableBuilder

variable {builder : TableBuilder} {names : List String}

/-- Setting cells leaves a row as wide as it was. -/
theorem length_row (width : Nat) (cells : List (Nat × Cell)) :
    (row width cells).length = width := by
  -- Any row keeps its width, also one in which cells were set before.
  have general : ∀ start : List (Option Cell),
      (cells.foldl (fun row placed => row.set placed.1 (some placed.2)) start).length =
        start.length := by
    induction cells with
    | nil =>
      intro start
      rfl
    | cons first rest ih =>
      intro start
      rw [List.foldl_cons, ih, List.length_set]
  exact (general _).trans List.length_replicate

/-- A document adds to the columns those names that are read of it and new. -/
theorem columns_push (seen : builder.Seen names) (document : Document) :
    (builder.push document).2.columns =
      builder.columns ++ newNames builder.columns (namesRead document) := by
  -- Names seen by way of this document stand behind those seen before, each once.
  rw [(seen_push seen document).columns_eq, seen.columns_eq, eraseDups_append_newNames]

/-- A document that is refused adds no row. -/
theorem rows_push_of_error {document : Document} {fault : Error}
    (refused : (builder.push document).1 = .error fault) :
    (builder.push document).2.rows = builder.rows := by
  -- Reading fields may add columns, but it makes no row.
  have kept := rows_readFields builder document
  rw [push] at refused ⊢
  cases read : builder.readFields document with
  | mk verdict registered =>
    rw [read] at refused kept
    cases verdict with
    | error own => exact kept
    | ok cells => cases refused

/-- A document that is taken is read, and adds the row of the cells that were read. -/
theorem rows_push_of_ok {document : Document} (taken : (builder.push document).1 = .ok ()) :
    ∃ cells, (builder.readFields document).1 = .ok cells ∧
      (builder.push document).2.columns = (builder.readFields document).2.columns ∧
      (builder.push document).2.rows =
        builder.rows ++ [row (builder.push document).2.columns.length cells] := by
  -- Taking needs cells for all fields, and reading the fields gives them without touching the rows.
  obtain ⟨cells, read⟩ :=
    (exists_readFields_iff builder document).mpr ((push_eq_ok_iff builder document).mp taken)
  refine ⟨cells, read, ?_⟩
  rw [push_eq_of_readFields read]
  simp only [rows_readFields, and_self]

/-- Columns are distinct, the index has their places, and rows widen with them. -/
structure Consistent (builder : TableBuilder) : Prop where
  distinct : builder.columns.Nodup
  /-- The index knows all columns, and nothing else. -/
  indexed : ∀ name place,
    builder.index.lookup name = some place ↔ builder.columns[place]? = some name
  /-- Columns are only added, so a later row is never the narrower one. -/
  widening : builder.rows.Pairwise fun early late => early.length ≤ late.length
  within : ∀ row ∈ builder.rows, row.length ≤ builder.columns.length

/-- A document leaves the rows no wider than the columns, and a new row is none of the narrower. -/
theorem consistent_push (seen : builder.Seen names) (consistent : builder.Consistent)
    (document : Document) : (builder.push document).2.Consistent := by
  have after := seen_push seen document
  -- Columns are only added, so the rows so far are no wider than they are now.
  have wider : builder.columns.length ≤ (builder.push document).2.columns.length := by
    rw [columns_push seen, List.length_append]
    exact Nat.le_add_right _ _
  have earlier : ∀ row ∈ builder.rows, row.length ≤ (builder.push document).2.columns.length := by
    intro row among
    exact Nat.le_trans (consistent.within row among) wider
  cases verdict : (builder.push document).1 with
  | error fault =>
    have rows := rows_push_of_error verdict
    refine ⟨after.indexed.nodup, after.indexed, ?_, ?_⟩
    · rw [rows]
      exact consistent.widening
    · rw [rows]
      exact earlier
  | ok done =>
    obtain ⟨cells, -, -, rows⟩ := rows_push_of_ok verdict
    refine ⟨after.indexed.nodup, after.indexed, ?_, ?_⟩
    · -- The new row is the last, and as wide as the columns.
      rw [rows, List.pairwise_append]
      refine ⟨consistent.widening, List.pairwise_singleton _ _, ?_⟩
      intro early among late own
      rw [List.mem_singleton.mp own, length_row]
      exact earlier early among
    · rw [rows]
      intro one among
      rcases List.mem_append.mp among with old | new
      · exact earlier one old
      · rw [List.mem_singleton.mp new]
        exact Nat.le_of_eq (length_row _ _)

/-- Any number of documents leaves columns, index and rows consistent. -/
theorem consistent_pushAll (seen : builder.Seen names) (consistent : builder.Consistent)
    (documents : List Document) : (pushAll push builder documents).Consistent := by
  -- Each document is pushed onto what those before it left, whether or not they were taken.
  induction documents generalizing builder names with
  | nil => exact consistent
  | cons document rest ih => exact ih (seen_push seen document) (consistent_push seen consistent _)

/-- A document is refused: its names are added up to the field at fault, and no row is. -/
structure Refuses (builder : TableBuilder) (document : Document) (fault : Error) : Prop where
  /-- No row comes of the document. -/
  rows_eq : (builder.push document).2.rows = builder.rows
  /-- The first field without a cell is at fault, and its column is there already. -/
  columns_eq : ∃ before name value rest, document = before ++ (name, value) :: rest ∧
    (∀ field ∈ before, field.2.cell?.isSome) ∧ value.cell? = none ∧
    fault = .unsupportedType name value.typeName ∧
    (builder.push document).2.columns =
      builder.columns ++ newNames builder.columns (before.map Prod.fst ++ [name])

/-- A document is taken: its names are added, and a row with its cells and no others. -/
structure Takes (builder : TableBuilder) (document : Document) (row : List (Option Cell)) :
    Prop where
  rows_eq : (builder.push document).2.rows = builder.rows ++ [row]
  columns_eq : (builder.push document).2.columns =
    builder.columns ++ newNames builder.columns (document.map Prod.fst)
  width : row.length = (builder.push document).2.columns.length
  -- Every cell that is set has a place in the row.
  placed : ∃ cells, (builder.readFields document).1 = .ok cells ∧
    row = TableBuilder.row row.length cells ∧ ∀ cell ∈ cells, cell.1 < row.length
  -- A document has one field under each of its names.
  present : (document.map Prod.fst).Nodup → ∀ field ∈ document, ∃ (place : Nat) (cell : Cell),
    (builder.push document).2.columns[place]? = some field.1 ∧
      Cell.ofField field.1 field.2 = .ok cell ∧ row[place]? = some (some cell)
  absent : (document.map Prod.fst).Nodup → ∀ (place : Nat) (name : String),
    (builder.push document).2.columns[place]? = some name → name ∉ document.map Prod.fst →
      row[place]? = some none

/-- A document that fails is refused for its first field that has no cell. -/
theorem refuses_of_error (seen : builder.Seen names) {document : Document} {fault : Error}
    (refused : (builder.push document).1 = .error fault) : builder.Refuses document fault := by
  -- The error says at which field the reading stopped.
  have own := faultOf?_push builder document
  rw [refused] at own
  obtain ⟨before, name, value, rest, rfl, tabular, without, same⟩ := exists_of_rowFault? own.symm
  refine ⟨rows_push_of_error refused, before, name, value, rest, rfl, tabular, without, same, ?_⟩
  rw [columns_push seen, namesRead_eq_of_offending tabular without, namesOf]

/-- A document that does not fail becomes a row. -/
theorem takes_of_ok (seen : builder.Seen names) {document : Document}
    (taken : (builder.push document).1 = .ok ()) : ∃ row, builder.Takes document row := by
  have tabular := (push_eq_ok_iff builder document).mp taken
  obtain ⟨cells, read, columns, rows⟩ := rows_push_of_ok taken
  have after := seen_push seen document
  -- Each cell has the place of its field, and so the row is that of the document.
  have placed := placed_readFields seen read
  rw [← columns] at placed
  have shown : (namesOf document).Nodup →
      row (builder.push document).2.columns.length cells =
        rowUnder (builder.push document).2.columns document := by
    intro once
    exact row_eq after.indexed.nodup once placed
  refine ⟨_, rows, ?_, length_row _ _, ⟨cells, read, ?_, ?_⟩, ?_, ?_⟩
  · rw [columns_push seen, namesRead_eq tabular, namesOf]
  · rw [length_row]
  · -- The place of a cell is that of a column, and the row is as wide as the columns.
    intro cell among
    obtain ⟨field, -, there, -⟩ := Lists.exists_of_mem_results placed among
    rw [length_row]
    exact (List.getElem?_eq_some_iff.mp there).1
  · -- A field and its cell stand at one position, and the cell's place is that of the name.
    intro once field among
    obtain ⟨position, found⟩ := List.mem_iff_getElem?.mp among
    obtain ⟨⟨place, cell⟩, ⟨there, own⟩, -⟩ := Lists.exists_of_getElem? placed found
    refine ⟨place, cell, there, ?_, ?_⟩
    · rw [Cell.ofField_eq, own]
    · rw [shown once, rowUnder, List.getElem?_map, there, Option.map_some,
        cellUnder_eq once among, own]
  · intro once place name there other
    rw [shown once, rowUnder, List.getElem?_map, there]
    simp [cellUnder, lookup_eq_none other]

end TableBuilder

/--
After any documents, some of which may have failed, the columns are distinct and indexed by their
places, and rows get wider with the columns. One document more adds its new names up to a field
that has no cell, and no row; or all of its new names, and one row with its cells.
-/
theorem TableBuilder.pushAll_consistent (documents : List Document) :
    let builder := pushAll TableBuilder.push .empty documents
    builder.Consistent ∧ ∀ document,
      (∀ fault, (builder.push document).1 = .error fault → builder.Refuses document fault) ∧
      ((builder.push document).1 = .ok () → ∃ row, builder.Takes document row) := by
  -- The invariant holds of whatever the documents were; what one more does follows from the names.
  intro builder
  have seen := seen_pushAll seen_empty documents
  refine ⟨?_, ?_⟩
  · have start : Consistent .empty := ⟨List.nodup_nil, Indexed.nil, List.Pairwise.nil, nofun⟩
    exact consistent_pushAll seen_empty start documents
  · intro document
    refine ⟨?_, ?_⟩
    · intro fault refused
      exact refuses_of_error seen refused
    · exact takes_of_ok seen

/-- A document is taken after one that failed and left a column behind. -/
theorem TableBuilder.pushAll_consistent_failed :
    let builder := pushAll TableBuilder.push .empty
      [[("a", .int32 1)], [("b", .int32 2), ("c", .null), ("d", .int32 3)]]
    builder.columns = ["a", "b", "c"] ∧
      ∃ row, builder.Takes [("d", .int32 4), ("a", .int32 5)] row :=
  -- The failure in the second document stops it before its last field.
  ⟨rfl, ((TableBuilder.pushAll_consistent _).2 _).2 rfl⟩

end DocSource
