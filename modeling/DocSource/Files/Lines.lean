import DocSource.Bson.Document
import DocSource.Error
import DocSource.Files.Tree
import DocSource.Store.Basic

/-! Document files: one extended JSON document on each line that is not blank. -/

namespace DocSource

/-- The byte that ends a line. -/
def lineEnd : UInt8 := 10

/-- The lines of a file, none for a line that is no UTF-8. -/
def fileLines (content : ByteArray) : List (Option String) :=
  (Text.lines lineEnd content.data.toList).map fun line => String.fromUTF8? ⟨line.toArray⟩

/-- The document of a trimmed line, none for a blank one. -/
def lineDocument (line : String) : Except TextFault (Option Document) :=
  let text := Text.trim line.toList
  if text = [] then .ok none else (readDocument text).map some

/-- The documents of lines counted from `number`; the first bad line is the error. -/
def readLines (path : String) (number : Nat) :
    List (Option String) → Except Error (List Document)
  | [] => .ok []
  -- Bytes that are no text are a fault of the file, which has no line number.
  | none :: _ => .error (.io FileFault.notUtf8.message)
  | some line :: rest =>
    match lineDocument line with
    | .error fault =>
      let reason := fault.message
      .error (.io s!"{path}:{number}: {reason}")
    -- Blank lines hold no document, but they are counted.
    | .ok none => readLines path (number + 1) rest
    | .ok (some document) => do
      let documents ← readLines path (number + 1) rest
      .ok (document :: documents)

/-- The documents of a file. -/
def readDocuments (tree : FileTree) (path : String) : Except Error (List Document) :=
  match tree.read path with
  | .error fault => .error (.io fault.message)
  | .ok content => readLines path 1 (fileLines content)

/-- The name of the collection that a file holds. -/
def collectionOf? (name : String) : Option String :=
  -- The ending alone names no collection.
  let stem := name.toList.take (name.length - 7)
  if ".ndjson".toList.isSuffixOf name.toList && stem ≠ [] then some (String.ofList stem) else none

/-- Loads each document file among names into a database; earlier ones stay when one fails. -/
def loadFiles (tree : FileTree) (database directory : String) :
    List String → Store → Except Error Nat × Store
  | [], store => (.ok 0, store)
  | name :: rest, store =>
    match collectionOf? name with
    -- A file with a name of another kind is passed over.
    | none => loadFiles tree database directory rest store
    | some collection =>
      match readDocuments tree (joinPath directory name) with
      | .error error => (.error error, store)
      | .ok documents =>
        -- What is put in the store here stays there when a later file fails.
        let (count, store) :=
          loadFiles tree database directory rest (store.insert database collection documents)
        (count.map (· + 1), store)

/-- Loads the document files of a directory into a database, and counts them. -/
def loadDirectory (tree : FileTree) (database directory : String) (store : Store) :
    Except Error Nat × Store :=
  match tree.list directory with
  | .error fault => (.error (.io fault.message), store)
  | .ok names => loadFiles tree database directory names store

end DocSource
