import SignalGraph.Database.Element.Binary

/-! The parts of an element one by one, each with its path and the place of its bytes.

The parts of one level are told, or all parts with the element itself in front.
-/

set_option autoImplicit false

namespace SignalGraph.Database.Element

/-- A part on a walk. -/
structure Station where
  key : Datum
  element : Element
  /-- Where the bytes of the part begin, with those of its label. -/
  start : Nat
  parent : Option Nat
  fullPath : String
  path : String

/-- The bytes in front of the body of an element that has so many bytes in all. -/
def headSize (element : Element) : Nat :=
  match split? element.encode with
  | some (_, body, _) => element.encode.length - body.length
  | none => 0

/-- A step of a path to a member. -/
def memberStep (label : Spelled) : String :=
  if label.body ≠ "" ∧ label.body.toList.all Char.isAlphanum then "." ++ label.body
  else ".\"" ++ label.body ++ "\""

def itemStep (index : Nat) : String := "[" ++ toString index ++ "]"

/-- The part at the end of a path with the place of its bytes, and the place of its label. -/
def locate : Nat → List Char → Nat → Option Nat → Element →
    Except PathFault (Element × Nat × Option Nat)
  | _, [], start, label, element => .ok (element, start, label)
  | fuel + 1, '.' :: path, start, _, element =>
    match key? path, element with
    | none, _ => .error .misspelled
    | some (key, path), object members =>
      match members.findIdx? fun entry => key.same entry.1 with
      | some index =>
        let before := start + headSize element + (encodeMembers (members.take index)).length
        match members[index]? with
        | some (label, value) =>
          locate fuel path (before + (encodeSpelled label).length) (some before) value
        | none => .error .absent
      | none => .error .absent
    | some _, _ => .error .absent
  | fuel + 1, '[' :: path, start, _, element =>
    match element with
    | array items => do
      let (index, path) ← place items.length path
      match items[index]? with
      | some item =>
        locate fuel path (start + headSize element + (encodeItems (items.take index)).length) none
          item
      | none => throw .absent
    | _ => .error .absent
  | _, _, _, _, _ => .error .misspelled

mutual

/-- All parts inside of an element, of which the body begins at a place. -/
def inside (deep : Bool) (parent : Option Nat) (path : String) (body : Nat) :
    Element → List Station
  | array items => insideItems deep parent path body 0 items
  | object members => insideMembers deep parent path body members
  | _ => []

def insideItems (deep : Bool) (parent : Option Nat) (path : String) (start index : Nat) :
    List Element → List Station
  | [] => []
  | item :: rest =>
    let fullPath := path ++ itemStep index
    let parts := if deep then item.inside deep (some start) fullPath (start + item.headSize) else []
    { key := .integer index, element := item, start, parent, fullPath, path } ::
      (parts ++ insideItems deep parent path (start + item.encode.length) (index + 1) rest)

def insideMembers (deep : Bool) (parent : Option Nat) (path : String) (start : Nat) :
    List (Spelled × Element) → List Station
  | [] => []
  | (label, value) :: rest =>
    let fullPath := path ++ memberStep label
    let behind := start + (encodeSpelled label).length
    let parts :=
      if deep then value.inside deep (some start) fullPath (behind + value.headSize) else []
    { key := .text label.value, element := value, start, parent, fullPath, path } ::
      (parts ++ insideMembers deep parent path (behind + value.encode.length) rest)

end

/-- How much of a path leads to what a part stands in, if the part is the first one there. -/
def frontOf (element : Element) (path : List Char) (start : Nat) : Nat → Nat
  | 0 => 1
  | 1 => 1
  | size + 1 =>
    let sign := path[size]?
    let found := if sign = some '[' ∨ sign = some '.' then
        match locate (size + 1) ((path.take size).drop 1) 0 none element with
        | .ok (part, place, _) => decide (place + part.headSize = start)
        | .error _ => false
      else false
    if found then size else frontOf element path start size

/-- The key that the last step of a path tells. -/
def lastKey (step : List Char) : Datum :=
  match step with
  | [] => .null
  | '[' :: rest => .integer (digitsValue 0 (splitDigits rest).1)
  | _ :: '"' :: rest => .text (String.ofList rest.dropLast)
  | _ :: rest => .text (String.ofList rest)

/-- The parts from the end of a path on: those of one level, or all of them. -/
def walk (element : Element) (path : List Char) (deep : Bool) : Except PathFault (List Station) := do
  let (part, place, label) ← locate (path.length + 1) (path.drop 1) 0 none element
  let start := label.getD place
  let whole := String.ofList path
  let body := place + part.headSize
  if deep then
    let front := if path.length < 2 then path.length else frontOf element path start path.length
    return { key := lastKey (path.drop front), element := part, start, parent := none
             fullPath := whole, path := String.ofList (path.take front) } ::
      part.inside true (some start) whole body
  else if part.isContainer then return part.inside false none whole body
  else
    return [{ key := .null, element := part, start, parent := none, fullPath := whole, path := whole }]

end SignalGraph.Database.Element
