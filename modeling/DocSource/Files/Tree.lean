/-! Files as a command sees them: what stands at a path, and why something cannot be read. -/

namespace DocSource

/-- Why a file or directory cannot be read. -/
inductive FileFault
  | notFound
  | notDirectory
  | isDirectory
  | nameTooLong
  | nulInName
  | notUtf8
  | other (reason : String)
  deriving DecidableEq

/-- The text of a fault. -/
def FileFault.message : FileFault → String
  | notFound => "No such file or directory (os error 2)"
  | notDirectory => "Not a directory (os error 20)"
  | isDirectory => "Is a directory (os error 21)"
  | nameTooLong => "File name too long (os error 36)"
  | nulInName => "file name contained an unexpected NUL byte"
  | notUtf8 => "stream did not contain valid UTF-8"
  | other reason => reason

/-- What stands at a path. -/
inductive Entry
  | file (content : ByteArray)
  | directory (names : List String)

/-- What stands at each path, or why nothing can be seen there. -/
structure FileTree where
  look : String → Except FileFault Entry

namespace FileTree

/-- Something stands at a path. -/
def exists? (tree : FileTree) (path : String) : Bool :=
  match tree.look path with
  | .ok _ => true
  | .error _ => false

/-- The bytes of a file. -/
def read (tree : FileTree) (path : String) : Except FileFault ByteArray :=
  match tree.look path with
  | .ok (.file content) => .ok content
  | .ok (.directory _) => .error .isDirectory
  | .error fault => .error fault

/-- The text of a file, which must be UTF-8. -/
def readText (tree : FileTree) (path : String) : Except FileFault String := do
  let content ← tree.read path
  match String.fromUTF8? content with
  | some text => .ok text
  | none => .error .notUtf8

/-- The names in a directory. -/
def list (tree : FileTree) (path : String) : Except FileFault (List String) :=
  match tree.look path with
  | .ok (.directory names) => .ok names
  | .ok (.file _) => .error .notDirectory
  | .error fault => .error fault

end FileTree

/-- A path below a directory. -/
def joinPath (directory name : String) : String :=
  if directory = "" || directory.endsWith "/" then directory ++ name else directory ++ "/" ++ name

end DocSource
