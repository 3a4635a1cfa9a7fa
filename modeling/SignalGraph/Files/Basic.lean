/-! Paths, what may be wrong with one, and the operations on files that a program asks for.

A path is names with slashes between them. It starts at the root if it starts with a slash, and
in the working folder if not. Slashes in a row are one, and a slash at the end says that the
path leads to a folder.
-/

set_option autoImplicit false

namespace SignalGraph

/-- Why a path does not lead to what was asked for. -/
inductive PathError where
  | notFound
  | alreadyThere
  /-- The path goes on below a file. -/
  | notFolder
  | isFolder
  | nameTooLong
  /-- The zero character stands in the path, where it would end it. -/
  | zeroInside
  | other (cause : String)
  deriving DecidableEq

def PathError.message : PathError → String
  | notFound => "No such file or directory (os error 2)"
  | alreadyThere => "File exists (os error 17)"
  | notFolder => "Not a directory (os error 20)"
  | isFolder => "Is a directory (os error 21)"
  | nameTooLong => "File name too long (os error 36)"
  | zeroInside => "file name contained an unexpected NUL byte"
  | other cause => cause

namespace Path

def isAbsolute (path : String) : Bool := path.toList.head? = some '/'

/-- A path that goes on from a folder. An absolute one does not go on from anywhere. -/
def join (folder path : String) : String :=
  if isAbsolute path then path
  else if folder = "" ∨ folder.toList.getLast? = some '/' then folder ++ path
  else folder ++ "/" ++ path

/-- The names along a path. A slash at the end reads like a slash and a dot. -/
def names (path : String) : List String :=
  (path.splitOn "/").filter (· ≠ "") ++ if path.toList.getLast? = some '/' then ["."] else []

end Path

/-- What a program can do with files, in a monad that has some. Making a folder makes the
folders it lies in; a folder that is there already is no failure. -/
class Files (m : Type → Type) where
  read : String → m (Except PathError ByteArray)
  write : String → ByteArray → m (Except PathError Unit)
  makeFolder : String → m (Except PathError Unit)

end SignalGraph
