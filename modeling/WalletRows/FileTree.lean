import WalletRows.Text.Decimal

/-!
# Files

A file tree holds directories and text files.  A path is a list of names that is
followed from the root; every name but the last must lead to a directory.  An
operation that fails half way keeps what it has done so far.
-/

namespace WalletRows

/-- Why an operation on files fails. -/
inductive FileError where
  | notFound
  | alreadyExists
  | notADirectory
  | isADirectory
  | nameTooLong
  /-- The path holds a character that no name can have. -/
  | invalidPath
  /-- The content of the file is not UTF-8. -/
  | invalidText
  /-- Any other refusal, as the system words it. -/
  | refused (reason : String)
deriving DecidableEq

namespace FileError

def kind : FileError → String
  | .notFound => "NotFound"
  | .alreadyExists => "AlreadyExists"
  | .notADirectory => "NotADirectory"
  | .isADirectory => "IsADirectory"
  | .nameTooLong => "InvalidFilename"
  | .invalidPath => "InvalidInput"
  | .invalidText => "InvalidData"
  | .refused _ => "Other"

def message : FileError → String
  | .notFound => "No such file or directory (os error 2)"
  | .alreadyExists => "File exists (os error 17)"
  | .notADirectory => "Not a directory (os error 20)"
  | .isADirectory => "Is a directory (os error 21)"
  | .nameTooLong => "File name too long (os error 36)"
  | .invalidPath => "file name contained an unexpected NUL byte"
  | .invalidText => "stream did not contain valid UTF-8"
  | .refused reason => reason

end FileError

/-- What stands at a place. -/
inductive Node where
  | directory
  /-- A file, with its content if that is text. -/
  | file (content : Option String)
deriving DecidableEq

/-- A place in a file tree: the names from the root on. -/
abbrev Place := List String

/-- The directories and files below a root, the latest first. -/
structure FileTree where
  nodes : List (Place × Node) := []
deriving DecidableEq

namespace FileTree

/-- The number of bytes that a name may have. -/
def maxNameLength : Nat := 255

/-- The number of bytes that a path may have. -/
def maxPathLength : Nat := 4095

/-- Check that a path can be followed at all. -/
def checkPath (path : String) : Except FileError Unit :=
  if '\x00' ∈ path.toList then .error .invalidPath
  else if path = "" then .error .notFound
  else if maxPathLength < path.utf8ByteSize then .error .nameTooLong
  else .ok ()

/-- What stands at a place.  The root is always a directory. -/
def node? (tree : FileTree) (place : Place) : Option Node :=
  if place = [] then some .directory else tree.nodes.lookup place

def put (tree : FileTree) (place : Place) (node : Node) : FileTree :=
  ⟨(place, node) :: tree.nodes⟩

/-- Go from a place to a name in it. -/
def enter (tree : FileTree) (place : Place) (name : String) :
    Except FileError Place :=
  match tree.node? place with
  | none => .error .notFound
  | some (.file _) => .error .notADirectory
  | some .directory =>
      if name = "" ∨ name = "." then .ok place
      else if name = ".." then .ok place.dropLast
      else if maxNameLength < name.utf8ByteSize then .error .nameTooLong
      else .ok (place ++ [name])

/-- Follow names from the root. -/
def resolve (tree : FileTree) (names : List String) : Except FileError Place :=
  names.foldlM tree.enter []

/-- The place of a directory with given names. -/
def resolveDirectory (tree : FileTree) (names : List String) :
    Except FileError Place := do
  tree.enter (← tree.resolve names) "."

/-- Whether given names lead to a directory. -/
def isDirectory (tree : FileTree) (names : List String) : Bool :=
  (tree.resolveDirectory names).isOk

def names (path : String) : List String :=
  (path.toList.splitOn '/').map String.ofList

/-- The names of a path but for those that stand for where they are. -/
def steps (path : String) : List String :=
  (names path).filter fun name => name ≠ "" && name ≠ "."

/-- The path of the directory that a file lies in. -/
def parent (path : String) : String :=
  "/" ++ "/".intercalate (steps path).dropLast

def textAt (tree : FileTree) (place : Place) : Except FileError String :=
  match tree.node? place with
  | none => .error .notFound
  | some .directory => .error .isADirectory
  | some (.file none) => .error .invalidText
  | some (.file (some content)) => .ok content

/-- Put a text file at a place where no directory is. -/
def putText (tree : FileTree) (place : Place) (content : String) :
    Except FileError FileTree :=
  match tree.node? place with
  | some .directory => .error .isADirectory
  | none | some (.file _) => .ok (tree.put place (.file (some content)))

/-- Read a text file.  A relative path starts from the directory `here`. -/
def readFrom (tree : FileTree) (here path : String) :
    Except FileError String := do
  checkPath path
  let start := if path.startsWith "/" then [] else names here
  let place ← tree.resolve (start ++ names path)
  tree.textAt place

def read (tree : FileTree) (path : String) : Except FileError String :=
  tree.readFrom "/" path

/-- Write a text file.  Its directory must exist, and a path that ends in a
slash or in dots is that of a directory. -/
def write (tree : FileTree) (path content : String) :
    Except FileError FileTree := do
  checkPath path
  let parts := (names path).filter (· ≠ "")
  let directory ← tree.resolveDirectory parts.dropLast
  match parts.getLast? with
  | none => .error .isADirectory
  | some name =>
      if name = "." ∨ name = ".." ∨ (names path).getLast? = some "" then
        .error .isADirectory
      else
        let place ← tree.enter directory name
        tree.putText place content

/-- Make the directory with the name `last` in the one with the names `outer`. -/
def makeDirectory (tree : FileTree) (outer : List String) (last : String) :
    Except FileError FileTree := do
  let directory ← tree.resolveDirectory outer
  if last = ".." then
    .error .alreadyExists
  else
    let place ← tree.enter directory last
    match tree.node? place with
    | some _ => .error .alreadyExists
    | none => .ok (tree.put place .directory)

/-- Make a directory unless it exists. -/
def ensureDirectory (tree : FileTree) (outer : List String) (last : String) :
    FileTree × Except FileError Unit :=
  match tree.makeDirectory outer last with
  | .ok made => (made, .ok ())
  | .error error =>
      (tree,
        if tree.isDirectory (outer ++ [last]) then .ok () else .error error)

/-- Make a directory unless it exists, given by its names from the last one to
the first.  Only where the directory that it lies in is not found is that one
made first. -/
def makeInnermostFirst (tree : FileTree) :
    List String → FileTree × Except FileError Unit
  | [] => (tree, .ok ())
  | last :: outer =>
      match tree.ensureDirectory outer.reverse last with
      | (_, .error .notFound) =>
          match makeInnermostFirst tree outer with
          | (made, .error error) => (made, .error error)
          | (made, .ok ()) => made.ensureDirectory outer.reverse last
      | result => result

/-- Make a directory and those that it lies in, as far as they do not exist. -/
def makeDirectories (tree : FileTree) (path : String) :
    FileTree × Except FileError Unit :=
  match checkPath path with
  | .error error => (tree, .error error)
  | .ok () => tree.makeInnermostFirst (steps path).reverse

end FileTree

end WalletRows
