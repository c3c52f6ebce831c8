import DocSource.Proofs.Answer.Feed
import DocSource.Proofs.Answer.Places

/-! Tables hold what their documents hold: nothing is lost, moved or invented. -/

namespace DocSource

/-- The cell of a value: whole numbers are widened, and other types than these have none. -/
def Bson.cell? : Bson → Option Cell
  | double x => some (.double x)
  | int32 n => some (.int64 n.toInt64)
  | int64 n => some (.int64 n)
  | string text => some (.string text)
  | boolean value => some (.bool value)
  | dateTime millis => some (.dateTime millis)
  | _ => none

/-- A value is classified as its cell; without one, the error names its field and its type. -/
theorem Cell.ofField_eq (field : String) (value : Bson) :
    ofField field value =
      match value.cell? with
      | some cell => .ok cell
      | none => .error (.unsupportedType field value.typeName) := by
  -- Six kinds of value have a cell, and every other one fails with its name.
  cases value <;> rfl

/-- The names of a document's fields. -/
def namesOf (document : Document) : List String := document.map Prod.fst

/-- A document has nothing under a name that none of its fields has. -/
theorem lookup_eq_none {document : Document} {name : String} (absent : name ∉ namesOf document) :
    document.lookup name = none := by
  -- A field that the lookup stops at would have the name.
  refine List.lookup_eq_none_iff.mpr fun field among => ?_
  have differs : name ≠ field.1 := fun same =>
    absent (List.mem_map.mpr ⟨field, among, same.symm⟩)
  simpa using differs

/-- Every field of a document has a cell. -/
def Tabular (document : Document) : Prop := ∀ field ∈ document, field.2.cell?.isSome

/-- A document is tabular when its first field and the others are. -/
theorem tabular_cons {name : String} {value : Bson} {rest : Document} :
    Tabular ((name, value) :: rest) ↔ value.cell?.isSome ∧ Tabular rest := List.forall_mem_cons

/-- The names that are read of a document: up to the first field that has no cell. -/
def namesRead : Document → List String
  | [] => []
  | (field, value) :: rest => field :: if value.cell?.isSome then namesRead rest else []

/-- All names are read of a document whose fields all have cells. -/
theorem namesRead_eq {document : Document} (tabular : Tabular document) :
    namesRead document = namesOf document := by
  -- Reading stops behind a field without a cell, and there is none.
  induction document with
  | nil => rfl
  | cons field rest ih =>
    obtain ⟨own, others⟩ := tabular_cons.mp tabular
    rw [namesRead, if_pos own, ih others, namesOf, namesOf, List.map_cons]

/-- The cell that a document has under a name. -/
def cellUnder (document : Document) (name : String) : Option Cell :=
  (document.lookup name).bind Bson.cell?

/-- The row of a document under columns. -/
def rowUnder (columns : List String) (document : Document) : List (Option Cell) :=
  columns.map (cellUnder document)

/-- The rows of documents that come after documents with some names. -/
def rowsAfter : List String → List Document → List (List (Option Cell))
  | _, [] => []
  | names, document :: rest =>
    -- A row is as wide as the columns that are known when it is made, its own among them.
    let names := names ++ namesOf document
    rowUnder names.eraseDups document :: rowsAfter names rest

/-- There is one row for each document, under the names of the documents up to its own. -/
theorem getElem?_rowsAfter (names : List String) (documents : List Document) (index : Nat) :
    (rowsAfter names documents)[index]? =
      documents[index]?.map
        (rowUnder (names ++ (documents.take (index + 1)).flatMap namesOf).eraseDups) := by
  -- The names of each document move to those that came before.
  induction documents generalizing names index with
  | nil => rfl
  | cons document rest ih =>
    cases index with
    | zero => simp [rowsAfter]
    | succ index =>
      rw [rowsAfter, List.getElem?_cons_succ, ih, List.getElem?_cons_succ, List.take_succ_cons,
        List.flatMap_cons, List.append_assoc]

/-- There are as many rows as documents. -/
theorem length_rowsAfter (names : List String) (documents : List Document) :
    (rowsAfter names documents).length = documents.length := by
  -- Later documents see more names, but each still makes one row.
  induction documents generalizing names with
  | nil => rfl
  | cons document rest ih => rw [rowsAfter, List.length_cons, ih, List.length_cons]

namespace TableBuilder

/-- A builder has the columns of the names it has seen, and the index has their places. -/
structure Seen (builder : TableBuilder) (names : List String) : Prop where
  columns_eq : builder.columns = names.eraseDups
  indexed : Indexed builder.index builder.columns

variable {builder : TableBuilder} {names : List String}

/-- An empty builder has seen no names. -/
theorem seen_empty : Seen .empty [] :=
  -- Neither side has a column.
  ⟨rfl, .nil⟩

/-- A builder that asks for the place of a name has seen that name too. -/
theorem seen_column (seen : builder.Seen names) (name : String) :
    (builder.column name).2.Seen (names ++ [name]) := by
  unfold TableBuilder.column
  cases found : builder.index.lookup name with
  | some place =>
    -- A known name is among those seen, and nothing changes.
    have known : name ∈ builder.columns :=
      List.mem_of_getElem? ((seen.indexed name place).mp found)
    rw [seen.columns_eq, List.mem_eraseDups] at known
    exact ⟨by rw [eraseDups_concat, if_pos known, seen.columns_eq], seen.indexed⟩
  | none =>
    -- A new name goes to the end of both lists.
    have fresh : name ∉ builder.columns := seen.indexed.lookup_eq_none_iff.mp found
    rw [seen.columns_eq, List.mem_eraseDups] at fresh
    exact ⟨by rw [eraseDups_concat, if_neg fresh, seen.columns_eq], seen.indexed.concat found⟩

/-- The place of a column holds its name. -/
theorem getElem?_column (seen : builder.Seen names) (name : String) :
    (builder.column name).2.columns[(builder.column name).1]? = some name := by
  -- A known name stands where the index says, and a new one at the end.
  unfold TableBuilder.column
  cases found : builder.index.lookup name with
  | some place => exact (seen.indexed name place).mp found
  | none => simp

/-- Asking for a place adds no row. -/
@[simp] theorem rows_column (builder : TableBuilder) (name : String) :
    (builder.column name).2.rows = builder.rows := by
  unfold TableBuilder.column
  split <;> rfl

/-- Reading a document registers the names that are read of it. -/
theorem seen_readFields (seen : builder.Seen names) (document : Document) :
    (builder.readFields document).2.Seen (names ++ namesRead document) := by
  -- Each field is registered before its value is judged, and the rest is read if it has a cell.
  induction document generalizing builder names with
  | nil => simpa [TableBuilder.readFields, namesRead] using seen
  | cons field rest ih =>
    obtain ⟨name, value⟩ := field
    have registered := seen_column seen name
    rw [TableBuilder.readFields, namesRead, Cell.ofField_eq]
    cases value.cell? with
    | none => exact registered
    | some cell =>
      have others := ih registered
      rw [List.append_assoc] at others
      exact others

/-- Reading a document adds no row. -/
@[simp] theorem rows_readFields (builder : TableBuilder) (document : Document) :
    (builder.readFields document).2.rows = builder.rows := by
  -- Fields touch columns and their places alone.
  induction document generalizing builder with
  | nil => rfl
  | cons field rest ih =>
    obtain ⟨name, value⟩ := field
    rw [TableBuilder.readFields, Cell.ofField_eq]
    cases value.cell? with
    | none => exact rows_column builder name
    | some cell => exact (ih _).trans (rows_column builder name)

/-- A document is read exactly when its fields all have cells. -/
theorem exists_readFields_iff (builder : TableBuilder) (document : Document) :
    (∃ cells, (builder.readFields document).1 = .ok cells) ↔ Tabular document := by
  induction document generalizing builder with
  | nil => simp [TableBuilder.readFields, Tabular]
  | cons field rest ih =>
    obtain ⟨name, value⟩ := field
    rw [TableBuilder.readFields, tabular_cons, Cell.ofField_eq]
    cases value.cell? with
    | none => simp
    | some cell =>
      -- The first field is read, so the rest decides.
      rw [← ih (builder.column name).2]
      cases read : ((builder.column name).2.readFields rest).1 <;> simp [read, Except.map]

/-- A field and its cell belong together when the cell is placed under the field's name. -/
def Placed (columns : List String) (field : String × Bson) (cell : Nat × Cell) : Prop :=
  columns[cell.1]? = some field.1 ∧ field.2.cell? = some cell.2

/-- The cells that are read of a document are those of its fields, at the places of their names. -/
theorem placed_readFields (seen : builder.Seen names) {document : Document}
    {cells : List (Nat × Cell)} (read : (builder.readFields document).1 = .ok cells) :
    List.Forall₂ (Placed (builder.readFields document).2.columns) document cells := by
  -- The first field is placed before the rest is read, and keeps its place while that is read.
  induction document generalizing builder names cells with
  | nil =>
    obtain rfl : [] = cells := Except.ok.inj read
    exact .nil
  | cons field rest ih =>
    obtain ⟨name, value⟩ := field
    have registered := seen_column seen name
    rw [TableBuilder.readFields, Cell.ofField_eq] at read ⊢
    cases own : value.cell? with
    | none => simp [own] at read
    | some cell =>
      simp only [own] at read ⊢
      cases others : ((builder.column name).2.readFields rest).1 with
      | error fault => simp [others, Except.map] at read
      | ok more =>
        simp only [others, Except.map, Except.ok.injEq] at read
        subst read
        refine .cons ⟨?_, own⟩ (ih registered others)
        -- Columns that the rest registers come after this one, which keeps its place.
        have within := eraseDups_prefix (names ++ [name]) (namesRead rest)
        rw [← registered.columns_eq, ← (seen_readFields registered rest).columns_eq] at within
        obtain ⟨inside, there⟩ := List.getElem?_eq_some_iff.mp (getElem?_column seen name)
        rw [List.prefix_iff_getElem?.mp within _ inside, there]

/-- Cells that are set in a row take the places of their names, and the others stay. -/
theorem foldl_set {columns : List String} (distinct : columns.Nodup) {document : Document}
    (once : (namesOf document).Nodup) {cells : List (Nat × Cell)}
    (placed : List.Forall₂ (Placed columns) document cells) (entry : String → Option Cell) :
    cells.foldl (fun row (place, cell) => row.set place (some cell)) (columns.map entry) =
      columns.map fun name => (cellUnder document name).or (entry name) := by
  -- Setting a place changes the entry of its name, from which the other cells go on.
  induction placed generalizing entry with
  | nil => simp [cellUnder]
  | @cons field cell rest more own others ih =>
    obtain ⟨name, value⟩ := field
    obtain ⟨place, cell⟩ := cell
    obtain ⟨fresh, once⟩ := List.nodup_cons.mp once
    have set : (columns.map entry).set place (some cell) =
        columns.map (Function.update entry name (some cell)) := by
      rw [List.set_eq_modify, modify_map distinct own.1]
    rw [List.foldl_cons]
    simp only [set]
    rw [ih once]
    refine List.map_congr_left fun other _ => ?_
    by_cases same : other = name
    · -- No later field has this name, so its cell stays.
      subst same
      have absent : rest.lookup other = none := lookup_eq_none fresh
      have given : value.cell? = some cell := own.2
      simp [cellUnder, absent, given]
    · have differs : (other == name) = false := by simpa using same
      simp [cellUnder, List.lookup_cons, differs, Function.update_of_ne same]

/-- A row with the cells of a document is the row of the document. -/
theorem row_eq {columns : List String} (distinct : columns.Nodup) {document : Document}
    (once : (namesOf document).Nodup) {cells : List (Nat × Cell)}
    (placed : List.Forall₂ (Placed columns) document cells) :
    row columns.length cells = rowUnder columns document := by
  -- A row begins with no cell under any name.
  have start := foldl_set distinct once placed fun _ => none
  simp only [List.map_const', Option.or_none] at start
  exact start

/-- A document is taken exactly when its fields all have cells. -/
theorem push_eq_ok_iff (builder : TableBuilder) (document : Document) :
    (builder.push document).1 = .ok () ↔ Tabular document := by
  -- Reading the fields succeeds on a tabular document alone, and nothing else can fail.
  rw [← exists_readFields_iff builder document, push]
  cases builder.readFields document with
  | mk verdict registered => cases verdict <;> simp

/-- A document that is read becomes a row as wide as the columns then are. -/
theorem push_eq_of_readFields {document : Document} {cells : List (Nat × Cell)}
    (read : (builder.readFields document).1 = .ok cells) :
    builder.push document =
      let registered := (builder.readFields document).2
      (.ok (), { registered with
        rows := registered.rows ++ [row registered.columns.length cells] }) := by
  -- The row is made from what was read, over the columns that reading registered.
  rw [push]
  cases whole : builder.readFields document with
  | mk verdict registered =>
    rw [whole] at read
    obtain rfl : verdict = .ok cells := read
    rfl

/-- A document's names are seen as far as they are read, whether or not it is taken. -/
theorem seen_push (seen : builder.Seen names) (document : Document) :
    (builder.push document).2.Seen (names ++ namesRead document) := by
  -- A row changes neither columns nor their places.
  have after := seen_readFields seen document
  rw [TableBuilder.push]
  cases read : builder.readFields document with
  | mk verdict registered =>
    rw [read] at after
    cases verdict with
    | error fault => exact after
    | ok cells => exact ⟨after.columns_eq, after.indexed⟩

/-- A document that is taken adds its row, under the names that are seen by then. -/
theorem rows_push (seen : builder.Seen names) {document : Document}
    (tabular : Tabular document) (once : (namesOf document).Nodup) :
    (builder.push document).2.rows =
      builder.rows ++ [rowUnder (names ++ namesOf document).eraseDups document] := by
  -- Reading has seen the names of this document as well, and placed each cell under its own.
  obtain ⟨cells, read⟩ := (exists_readFields_iff builder document).mpr tabular
  have after := seen_readFields seen document
  have built := row_eq after.indexed.nodup once (placed_readFields seen read)
  rw [← namesRead_eq tabular, ← after.columns_eq, ← built, push_eq_of_readFields read]
  simp only [rows_readFields]

/-- The names of documents are seen as far as they are read. -/
theorem seen_pushAll (seen : builder.Seen names) (documents : List Document) :
    (pushAll push builder documents).Seen (names ++ documents.flatMap namesRead) := by
  -- Each document is pushed onto what the documents before it left.
  induction documents generalizing builder names with
  | nil => simpa [pushAll] using seen
  | cons document rest ih =>
    rw [List.flatMap_cons, ← List.append_assoc]
    exact ih (seen_push seen document)

/-- Documents that are taken add their rows. -/
theorem rows_pushAll (seen : builder.Seen names) {documents : List Document}
    (tabular : ∀ document ∈ documents, Tabular document)
    (once : ∀ document ∈ documents, (namesOf document).Nodup) :
    (pushAll push builder documents).rows =
      builder.rows ++ rowsAfter names documents := by
  -- Each row is built under the names that are seen by then.
  induction documents generalizing builder names with
  | nil => simp [pushAll, rowsAfter]
  | cons document rest ih =>
    obtain ⟨own, others⟩ := List.forall_mem_cons.mp tabular
    obtain ⟨ownOnce, othersOnce⟩ := List.forall_mem_cons.mp once
    have after := seen_push seen document
    rw [namesRead_eq own] at after
    have more := ih after others othersOnce
    rw [rows_push seen own ownOnce, List.append_assoc, List.singleton_append] at more
    exact more

end TableBuilder

/-- A table shows documents when its columns, its rows and its cells are theirs. -/
structure Table.Shows (table : Table) (documents : List Document) : Prop where
  /-- Columns stand in the order in which their names first occur. -/
  columns_eq : table.columns = (documents.flatMap namesOf).eraseDups
  rows_length : table.rows.length = documents.length
  /-- A row ends with the last column that was known when it was made. -/
  width : ∀ index row, table.rows[index]? = some row →
    row.length = ((documents.take (index + 1)).flatMap namesOf).eraseDups.length
  /-- A cell is that of the document's value, and empty where the document has none. -/
  cell : ∀ index document name place, documents[index]? = some document →
    table.columnIndex? name = some place → table.cell? index place = cellUnder document name

/-- Rows under columns show their documents, also under columns that come later. -/
theorem Table.shows_of_rows (documents : List Document) :
    Table.Shows ⟨(documents.flatMap namesOf).eraseDups, rowsAfter [] documents⟩ documents := by
  refine ⟨rfl, length_rowsAfter [] documents, ?_, ?_⟩
  · -- A row has an entry for each name known by then.
    intro index row found
    rw [getElem?_rowsAfter, Option.map_eq_some_iff] at found
    obtain ⟨document, _, rfl⟩ := found
    simp [rowUnder]
  · intro index document name place found standing
    let known := ((documents.take (index + 1)).flatMap namesOf).eraseDups
    have row : (rowsAfter [] documents)[index]? = some (rowUnder known document) := by
      rw [getElem?_rowsAfter, found]
      rfl
    have initial : known <+: (documents.flatMap namesOf).eraseDups := by
      have split := eraseDups_prefix ((documents.take (index + 1)).flatMap namesOf)
        ((documents.drop (index + 1)).flatMap namesOf)
      rwa [← List.flatMap_append, List.take_append_drop] at split
    rw [Table.cell?, row, Option.bind_some, rowUnder, List.getElem?_map,
      getElem?_first initial standing]
    split
    case isTrue => rfl
    case isFalse later =>
      -- The column came later, so the document has no field of this name.
      have absent : name ∉ namesOf document := fun own =>
        later (List.mem_eraseDups.mpr (List.mem_flatMap.mpr
          ⟨document, List.mem_of_getElem? (List.getElem?_take_of_succ ▸ found), own⟩))
      rw [cellUnder, lookup_eq_none absent]
      rfl

/-- Documents are decoded when all are tabular, and then give the table that was built of them. -/
theorem decodeTable_eq_ok_iff {documents : List Document} {table : Table} :
    (decodeTable (documents.map .ok)).1 = .ok table ↔
      (∀ document ∈ documents, Tabular document) ∧
        (pushAll TableBuilder.push .empty documents).finish = table :=
  -- A document is taken when it is tabular, whatever was built before it.
  map_feed_eq_ok_iff TableBuilder.push_eq_ok_iff TableBuilder.finish documents .empty table

/--
Documents, each with distinct names, are decoded into a table exactly when every value is of a type
that cells have, and the table shows the documents.
-/
theorem decodeTable_shows {documents : List Document}
    (once : ∀ document ∈ documents, (document.map Prod.fst).Nodup) :
    ((∃ table, (decodeTable (documents.map .ok)).1 = .ok table) ↔
        ∀ document ∈ documents, ∀ field ∈ document, field.2.cell?.isSome) ∧
      ∀ table, (decodeTable (documents.map .ok)).1 = .ok table → table.Shows documents := by
  constructor
  · -- The documents determine the table.
    simp only [decodeTable_eq_ok_iff, exists_and_left, exists_eq', and_true]
    rfl
  · intro table given
    obtain ⟨tabular, rfl⟩ := decodeTable_eq_ok_iff.mp given
    -- Every document was taken, so all its names were read.
    have seen := TableBuilder.seen_pushAll TableBuilder.seen_empty documents
    have names : documents.flatMap namesRead = documents.flatMap namesOf :=
      List.flatMap_congr fun document among => namesRead_eq (tabular document among)
    have columns := seen.columns_eq
    rw [List.nil_append, names] at columns
    have rows : (pushAll TableBuilder.push .empty documents).rows = rowsAfter [] documents :=
      TableBuilder.rows_pushAll TableBuilder.seen_empty tabular once
    rw [TableBuilder.finish, columns, rows]
    exact Table.shows_of_rows documents

/-- A column that comes with the second document is absent in the first row, which is shorter. -/
theorem decodeTable_shows_pair :
    Table.Shows
      ⟨["b", "a", "c"],
        [[some (.int64 1), some (.int64 2)], [none, some (.int64 3), some (.string "x")]]⟩
      [[("b", .int32 1), ("a", .int64 2)], [("a", .int32 3), ("c", .string "x")]] :=
  -- Only the distinctness of keys is left to check, and it is computed.
  (decodeTable_shows (by decide)).2 _ rfl

end DocSource
