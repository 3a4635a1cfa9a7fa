import SignalGraph.Database.Element.Reader

/-! Parts of elements by their paths: finding them, changing them, and changing an element after
another one.

A path is read step by step. What stands behind a step that leads nowhere does not matter.
-/

set_option autoImplicit false

namespace SignalGraph.Database.Element

/-- Why a path leads to no part. -/
inductive PathFault where
  | absent
  | misspelled
  deriving DecidableEq

/-- What is done at the end of a path. -/
inductive Edit where
  | remove
  | replace
  | insert
  | set
  deriving DecidableEq

namespace Edit

/-- A part that is not there is made. -/
def makes : Edit → Bool
  | insert | set => true
  | remove | replace => false

end Edit

/-- A label in quotes, up to the last one. -/
def quotedKey : List Char → List Char → Option (List Char × List Char)
  | done, '"' :: rest => some (done.reverse, rest)
  | done, '\\' :: c :: rest => quotedKey (c :: '\\' :: done) rest
  | done, c :: rest => quotedKey (c :: done) rest
  | _, [] => none

/-- The label behind a point, and the rest of the path. -/
def key? (path : List Char) : Option (Spelled × List Char) :=
  match path with
  | '"' :: rest => do
    let (body, rest) ← quotedKey [] rest
    return (⟨if body.contains '\\' then .loose else .raw, String.ofList body⟩, rest)
  | rest =>
    let isEnd (c : Char) : Bool := c == '.' || c == '['
    let body := rest.takeWhile (!isEnd ·)
    if body = [] then none else some (⟨.raw, String.ofList body⟩, rest.dropWhile (!isEnd ·))

/-- Places count within a short word. -/
def placeOf (digits : List Char) : Nat := digitsValue 0 digits % power 2 32

/-- The place between brackets in an array of so many items, and the rest of the path. -/
def place (count : Nat) (path : List Char) : Except PathFault (Nat × List Char) :=
  let (digits, rest) := splitDigits path
  match digits, rest with
  | _ :: _, ']' :: rest => .ok (placeOf digits, rest)
  | [], '#' :: rest =>
    let fromEnd : List Char × List Char := match rest with
      | '-' :: after => if (splitDigits after).1 = [] then ([], rest) else splitDigits after
      | rest => ([], rest)
    if count < placeOf fromEnd.1 then .error .absent
    else
      match fromEnd.2 with
      | ']' :: rest => .ok (count - placeOf fromEnd.1, rest)
      | _ => .error .misspelled
  | _, _ => .error .misspelled

/-- The part at the end of a path, and its label if it is a member. -/
def find : Nat → List Char → Option Spelled → Element → Except PathFault (Element × Option Spelled)
  | _, [], label, element => .ok (element, label)
  | fuel + 1, '.' :: path, _, element =>
    match key? path, element with
    | none, _ => .error .misspelled
    | some (key, path), object members =>
      match members.find? fun entry => key.same entry.1 with
      | some (label, value) => find fuel path (some label) value
      | none => .error .absent
    | some _, _ => .error .absent
  | fuel + 1, '[' :: path, _, element =>
    match element with
    | array items => do
      let (index, path) ← place items.length path
      match items[index]? with
      | some item => find fuel path none item
      | none => throw .absent
    | _ => .error .absent
  | _, _, _, _ => .error .misspelled

/-- The part at a path, behind its first sign. -/
def part (element : Element) (path : List Char) : Except PathFault Element := do
  let (found, _) ← find (path.length + 1) path none element
  return found

/-- Change the first of some members that has a label; one that is taken away leaves nothing. -/
def changeMember {m : Type → Type} [Monad m] (key : Spelled)
    (change : Element → m (Option Element)) :
    List (Spelled × Element) → m (List (Spelled × Element))
  | [] => return []
  | (label, value) :: rest =>
    if key.same label then do
      match ← change value with
      | some value => return (label, value) :: rest
      | none => return rest
    else do return (label, value) :: (← changeMember key change rest)

/-- Change the part at the end of a path. Nothing is left of an element that is taken away. -/
def edit (how : Edit) (new : Element) (fuel : Nat) (path : List Char) (element : Element) :
    Except PathFault (Option Element) :=
  match fuel with
  | 0 => .error .misspelled
  | fuel + 1 =>
    let made (path : List Char) : Except PathFault Element := do
      match path with
      | [] => return new
      | sign :: _ =>
        let empty := if sign = '.' then object [] else array []
        return (← edit how new fuel path empty).getD empty
    match path with
    | [] =>
      match how with
      | .remove => .ok none
      | .insert => .ok (some element)
      | .replace | .set => .ok (some new)
    | '.' :: path =>
      match key? path, element with
      | none, _ => .error .misspelled
      | some (key, path), object members => do
        if members.any fun entry => key.same entry.1 then
          return some (object (← changeMember key (fun value => edit how new fuel path value) members))
        else if how.makes then return some (object (members ++ [(key, ← made path)]))
        else throw .absent
      | some _, _ => .error .absent
    | '[' :: path =>
      match element with
      | array items => do
        let (index, path) ← place items.length path
        match items[index]? with
        | some item =>
          match ← edit how new fuel path item with
          | some item => return some (array (items.set index item))
          | none => return some (array (items.eraseIdx index))
        | none =>
          if index = items.length ∧ how.makes then
            return some (array (items ++ [← made path]))
          else throw .absent
      | _ => .error .absent
    | _ => .error .misspelled
termination_by structural fuel

mutual

/-- The element after changes that are written as an element: members replace those with their
label, and null takes them away. -/
def patched (target : Element) : Element → Element
  | object changes =>
    object (patchedMembers (match target with
      | object members => members
      | _ => []) changes)
  | other => other

def patchedMembers (members : List (Spelled × Element)) :
    List (Spelled × Element) → List (Spelled × Element)
  | [] => members
  | (label, change) :: rest =>
    let old? := members.find? fun entry => entry.1.same label
    let next : Option Element := match change with
      | null => none
      | change => some (patched ((old?.map fun entry => entry.2).getD null) change)
    let members := match old?, next with
      | some _, next => Id.run (changeMember label (fun _ => next) members)
      | none, some value => members ++ [(label, value)]
      | none, none => members
    patchedMembers members rest

end

end SignalGraph.Database.Element
