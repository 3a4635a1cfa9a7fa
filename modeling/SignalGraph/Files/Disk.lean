import SignalGraph.Files.Basic

/-! Files held as a value: a tree of folders, and a working folder in it.

A path is walked name by name. One dot stays in a folder and two lead to the folder it lies in,
which for the root is the root.
-/

set_option autoImplicit false

namespace SignalGraph

inductive FileTree where
  | file (contents : ByteArray)
  | folder (entries : List (String × FileTree))

namespace FileTree

/-- What lies at a place, given by the names from the root. -/
def at? (tree : FileTree) : List String → Option FileTree
  | [] => some tree
  | name :: rest =>
    match tree with
    | file _ => none
    | folder entries => (entries.lookup name).bind (·.at? rest)

/-- Put a tree at a place, and folders on the way where there are none. -/
def put (tree : FileTree) : List String → FileTree → FileTree
  | [], added => added
  | name :: rest, added =>
    let entries := match tree with
      | file _ => []
      | folder entries => entries
    folder ((name, put ((entries.lookup name).getD (folder [])) rest added) ::
      entries.filter fun entry => entry.1 ≠ name)

/-- What was put at a place lies there. -/
theorem at?_put (tree : FileTree) (names : List String) (added : FileTree) :
    (tree.put names added).at? names = some added := by
  induction names generalizing tree with
  | nil => simp [put, at?]
  | cons name rest ih => simp [put, at?, ih]

end FileTree

structure Disk where
  root : FileTree
  /-- The place of the working folder. -/
  working : List String

namespace Disk

/-- The bytes that a name, and a path, may have at most. -/
def nameLimit : Nat := 255

def pathLimit : Nat := 4095

/-- Refuse a path that is not fit to be walked at all. -/
def check (path : String) : Except PathError Unit :=
  if '\x00' ∈ path.toList then .error .zeroInside
  else if path = "" then .error .notFound
  else if pathLimit < path.utf8ByteSize then .error .nameTooLong
  else .ok ()

/-- The place that a walk starts from. -/
def start (disk : Disk) (path : String) : List String :=
  if Path.isAbsolute path then [] else disk.working

/-- One step of a walk. -/
def step (root : FileTree) (place : List String) (name : String) :
    Except PathError (List String) :=
  match root.at? place with
  | none => .error .notFound
  | some (.file _) => .error .notFolder
  | some (.folder entries) =>
    if name = "." then .ok place
    else if name = ".." then .ok place.dropLast
    else if nameLimit < name.utf8ByteSize then .error .nameTooLong
    else if (entries.lookup name).isSome then .ok (place ++ [name])
    else .error .notFound

/-- The place that a path leads to. -/
def resolve (disk : Disk) (path : String) : Except PathError (List String) := do
  check path
  (Path.names path).foldlM (step disk.root) (disk.start path)

def read (disk : Disk) (path : String) : Except PathError ByteArray := do
  match disk.root.at? (← disk.resolve path) with
  | some (.file contents) => .ok contents
  | some (.folder _) => .error .isFolder
  | none => .error .notFound

/-- One step of a walk that makes the folders that are missing. -/
def stepMaking : FileTree × List String → String → Except PathError (FileTree × List String)
  | (root, place), name =>
    match step root place name with
    | .ok next => .ok (root, next)
    | .error .notFound => .ok (root.put (place ++ [name]) (.folder []), place ++ [name])
    | .error error => .error error

def makeFolder (disk : Disk) (path : String) : Except PathError Disk := do
  check path
  let (root, place) ← (Path.names path).foldlM stepMaking (disk.root, disk.start path)
  match root.at? place with
  | some (.folder _) => .ok { disk with root }
  | _ => .error .alreadyThere

/-- Write a file into a folder that is there, over a file of that name. -/
def write (disk : Disk) (path : String) (contents : ByteArray) : Except PathError Disk := do
  check path
  match (Path.names path).getLast? with
  | none => .error .isFolder
  | some name =>
    let place ← (Path.names path).dropLast.foldlM (step disk.root) (disk.start path)
    match step disk.root place name with
    | .ok next =>
      match disk.root.at? next with
      | some (.folder _) => .error .isFolder
      | _ => .ok { disk with root := disk.root.put next (.file contents) }
    | .error .notFound =>
      .ok { disk with root := disk.root.put (place ++ [name]) (.file contents) }
    | .error error => .error error

/-- The answer of an operation that changes a disk if it succeeds. -/
def run (operation : Disk → Except PathError Disk) : StateM Disk (Except PathError Unit) :=
  fun disk =>
    match operation disk with
    | .ok disk => (.ok (), disk)
    | .error error => (.error error, disk)

instance : Files (StateM Disk) where
  read path := fun disk => (disk.read path, disk)
  write path contents := run fun disk => disk.write path contents
  makeFolder path := run fun disk => disk.makeFolder path

end Disk

end SignalGraph
