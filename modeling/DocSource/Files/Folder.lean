import DocSource.Files.Tree

/-! Folders of files given by their paths: what stands where, and making more of them. -/

namespace DocSource

/-- Files and directories below a working directory, each by the parts of its path. -/
structure Folder where
  files : List (List String × ByteArray)
  directories : List (List String)

/-- Where a path leads: to a place below the working directory, or out of it. -/
inductive Place
  | inside (parts : List String)
  | outside
  deriving DecidableEq

namespace Place

/-- The most bytes that the name of a file or directory has. -/
def nameLimit : Nat := 255

/-- The bytes from which on a path is too long. -/
def pathLimit : Nat := 4096

/-- The place that one more part of a path leads to from a directory. -/
def enter (place : Place) (part : String) : Except FileFault Place :=
  if part = "" || part = "." then .ok place
  else match place with
    -- Nothing is known to stand outside, but a name can still be too long there.
    | outside =>
      if part = ".." then .ok outside
      else if nameLimit < part.utf8ByteSize then .error .nameTooLong
      else .error .notFound
    | inside parts =>
      -- The parent of the top is outside.
      if part = ".." then .ok (if parts = [] then outside else inside parts.dropLast)
      else if nameLimit < part.utf8ByteSize then .error .nameTooLong
      else .ok (inside (parts ++ [part]))

/-- The place where a path starts, if it is one that can be followed. -/
def start? (path : String) : Except FileFault Place :=
  if path.toList.contains '\x00' then .error .nulInName
  else if pathLimit ≤ path.utf8ByteSize then .error .nameTooLong
  else if path.startsWith "/" then .ok outside
  else .ok (inside [])

end Place

namespace Folder

/-- The parts of a path between its slashes. -/
def parts (path : String) : List String := path.splitOn "/"

/-- The parts that a path names by itself, without those that stay where they are. -/
def namedParts (path : String) : List String :=
  (parts path).filter fun part => part ≠ "" && part ≠ "."

/-- The folder of given files and directories. -/
def ofPaths (files : List (String × ByteArray)) (directories : List String) : Folder :=
  ⟨files.map fun (path, content) => (namedParts path, content), directories.map namedParts⟩

/-- The names that files and directories have in a directory, each once. -/
def namesIn (directory : List String) (paths : List (List String)) : List String :=
  let below := paths.filterMap fun path =>
    if directory.isPrefixOf path then path[directory.length]? else none
  below.eraseDups

/-- What stands at a place; out of the folder, only directories with nothing to see in them. -/
def entry? (folder : Folder) : Place → Option Entry
  | .outside => some (.directory [])
  | .inside parts =>
    -- The root is there in any case, and so is every directory on the way to something.
    let paths := folder.files.map (·.1) ++ folder.directories
    match folder.files.lookup parts with
    | some content => some (.file content)
    | none =>
      if parts = [] || paths.any parts.isPrefixOf then some (.directory (namesIn parts paths))
      else none

/-- The place that one more part of a path leads to, which only a directory has. -/
def step (folder : Folder) (place : Place) (part : String) : Except FileFault Place :=
  match folder.entry? place with
  | none => .error .notFound
  | some (.file _) => .error .notDirectory
  | some (.directory _) => place.enter part

/-- What stands at a path. -/
def look (folder : Folder) (path : String) : Except FileFault Entry := do
  let start ← Place.start? path
  -- An empty path has no parts that could fail, and names nothing all the same.
  if path = "" then .error .notFound
  else
    let place ← (parts path).foldlM folder.step start
    match folder.entry? place with
    | some entry => .ok entry
    | none => .error .notFound

/-- The tree that a command sees. -/
def tree (folder : Folder) : FileTree := ⟨folder.look⟩

/-- Makes the directories that parts of a path lead through and stops at a part that fails. -/
def makeBelow (folder : Folder) (place : Place) : List String → Folder × Option Place
  | [] => (folder, some place)
  | part :: rest =>
    match place.enter part with
    | .error _ => (folder, none)
    | .ok next =>
      match folder.entry? next, next with
      -- A directory is made only where nothing stands yet, and a file there ends the walk.
      | some (.file _), _ => (folder, none)
      | none, .inside parts =>
        makeBelow ⟨folder.files, folder.directories ++ [parts]⟩ next rest
      | _, _ => makeBelow folder next rest

/-- Makes the directory at a path with all above it; the place is missing when one fails. -/
def makeDirectory (folder : Folder) (path : String) : Folder × Option Place :=
  match Place.start? path with
  | .error _ => (folder, none)
  | .ok start => makeBelow folder start (parts path)

/-- Makes an empty file in a directory where nothing has its name. -/
def touch (folder : Folder) (directory : Place) (name : String) : Folder :=
  match directory with
  | .outside => folder
  | .inside parts =>
    let file := parts ++ [name]
    if (folder.entry? (.inside file)).isSome then folder
    else ⟨folder.files ++ [(file, .empty)], folder.directories⟩

end Folder

end DocSource
