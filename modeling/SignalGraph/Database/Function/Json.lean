import SignalGraph.Database.Element.Walk
import SignalGraph.Database.Function.Format

/-! Functions on values that hold JSON, as text or as bytes. -/

set_option autoImplicit false

namespace SignalGraph.Database.JsonFunction

open Element (Edit PathFault)

/-- A value, and whether it is the result of a function that makes JSON text. -/
abbrev Argument := Datum × Bool

def malformed {α : Type} : Except StatementFault α := .error .malformedText

def badPath {α : Type} (path : List Char) : Except StatementFault α :=
  .error (.domain ("bad JSON path: " ++ String.ofList (Directive.quoted false path)))

/-- The element that a value holds. Bytes that are none count as text. -/
def read (value : Datum) : Except StatementFault Element :=
  let ofText : Except StatementFault Element :=
    match (Element.ofText (TextFunction.characters value.asText)).1 with
    | .ok element => .ok element
    | .error _ => malformed
  match value with
  | .blob bytes =>
    if Element.looksBinary bytes then
      match Element.ofBytes? bytes with
      | some element => .ok element
      | none => malformed
    else ofText
  | _ => ofText

/-- The text that a value becomes inside of JSON. -/
def written (argument : Argument) : Except StatementFault String :=
  match argument with
  | (.null, _) => .ok "null"
  | (.integer n, _) => .ok (toString n)
  | (.real x, _) => .ok (RealStyle.finite.text x)
  | (.text text, true) => .ok text
  | (.text text, false) => .ok (String.ofList (Tree.quote text))
  | (.blob bytes, _) =>
    if Element.looksBinary bytes then
      match Element.ofBytes? bytes with
      | some element => .ok element.toText
      | none => malformed
    else .error (.domain "JSON cannot hold BLOB values")

/-- The element that a value becomes inside of another one. -/
def partOf (argument : Argument) : Except StatementFault Element :=
  match argument with
  | (.null, _) => .ok .null
  | (.integer n, _) => .ok (.integer false (toString n))
  | (.real (.infinite negative), _) => .ok (.real false (if negative then "-9e999" else "9e999"))
  | (.real x, _) => .ok (.real false (Datum.realText x))
  | (.text text, true) => read (.text text)
  | (.text text, false) => .ok (.text ⟨.raw, text⟩)
  | (.blob bytes, _) =>
    if Element.looksBinary bytes then read (.blob bytes)
    else .error (.domain "JSON cannot hold BLOB values")

/-- A path behind its first sign. -/
def path (value : Datum) : Except StatementFault (List Char) :=
  match TextFunction.characters value.asText with
  | '$' :: rest => .ok rest
  | text => badPath text

/-- What an arrow takes for a path: a path, a key, or the number of an item. -/
def arrowPath (value : Datum) : List Char :=
  let text := TextFunction.characters value.asText
  match value, text with
  | _, '$' :: rest => rest
  | .integer n, _ => '[' :: ((if n < 0 then ['#'] else []) ++ text ++ [']'])
  | _, _ =>
    if text.all fun c => c.isAlphanum || c = '_' then '.' :: text
    else if text.head? = some '[' ∧ 3 ≤ text.length ∧ text.getLast? = some ']' then text
    else ['.', '"'] ++ text ++ ['"']

/-- The part at a path, if there is one. -/
def partAt (element : Element) (told steps : List Char) :
    Except StatementFault (Option Element) :=
  match element.part steps with
  | .ok part => .ok (some part)
  | .error .absent => .ok none
  | .error .misspelled => badPath told

def datumOf (element : Element) : Except StatementFault Datum :=
  match element.toDatum? with
  | some value => .ok value
  | none => malformed

/-- An element as a result, as text or as bytes. -/
def result (binary : Bool) (element : Element) : Argument :=
  if binary then (.blob element.encode, false) else (.text element.toText, true)

/-- JSON text as a result, as it is or as bytes. -/
def textResult (binary : Bool) (text : String) : Argument :=
  if binary then
    match (Element.ofText text.toList).1 with
    | .ok element => (.blob element.encode, false)
    | .error _ => (.null, false)
  else (.text text, true)

def pairs {α : Type} : List α → List (α × α)
  | first :: second :: rest => (first, second) :: pairs rest
  | _ => []

/-- One change of an element after another. -/
def editAll (how : Edit) (element : Element) (changes : List (Argument × Argument)) :
    Except StatementFault Element :=
  changes.foldlM (fun element change => do
    if change.1.1.isNull then return element
    let steps ← path change.1.1
    let new ← partOf change.2
    match Element.edit how new (steps.length + 1) steps element with
    | .ok changed => return changed.getD element
    | .error .absent => return element
    | .error .misspelled => badPath ('$' :: steps)) element

def changing (how : Edit) (word : String) (binary : Bool) (arguments : List Argument) :
    Except StatementFault Argument := do
  match arguments with
  | [] => return (.null, false)
  | (value, _) :: rest =>
    if rest.length % 2 = 1 then
      throw (.domain ("json_" ++ word ++ "() needs an odd number of arguments"))
    else if value.isNull then return (.null, false)
    else return result binary (← editAll how (← read value) (pairs rest))

/-- The element without parts at some places; nothing is left if it is taken away itself. -/
def removing (element : Element) : List Datum → Except StatementFault (Option Element)
  | [] => .ok (some element)
  | place :: rest => do
    if place.isNull then return none
    let steps ← path place
    if steps = [] then return none
    match Element.edit .remove .null (steps.length + 1) steps element with
    | .ok changed => removing (changed.getD element) rest
    | .error .absent => removing element rest
    | .error .misspelled => badPath ('$' :: steps)

/-- The parts of an element at some places, as far as a place that is null. -/
def partsAt (element : Element) : List Datum →
    Except StatementFault (Option (List (Option Element)))
  | [] => .ok (some [])
  | place :: rest => do
    if place.isNull then return none
    let steps ← path place
    let found ← partAt element ('$' :: steps) steps
    return (← partsAt element rest).map fun parts => found :: parts

/-- The element that a function looks at, or the part at a place. -/
def chosen (value : Datum) (places : List Datum) : Except StatementFault (Option Element) := do
  let element ← read value
  match places with
  | [] => return some element
  | place :: _ =>
    if place.isNull then return none
    else
      let steps ← path place
      partAt element ('$' :: steps) steps

/-- How strict JSON text is asked for, or how closely bytes are looked at. -/
def isValid (value : Datum) (flags : Nat) : Bool :=
  let ofText : Bool :=
    match Element.ofText (TextFunction.characters value.asText) with
    | (.ok _, progress) => flags / 2 % 2 = 1 || (flags % 2 = 1 && !progress.loose)
    | (.error _, _) => false
  match value with
  | .blob bytes =>
    if Element.looksBinary bytes then
      flags / 4 % 2 = 1 ||
        (flags / 8 % 2 = 1 && ((Element.ofBytes? bytes).map Element.isSound).getD false)
    else ofText
  | _ => ofText

/-- Where the text of a value is broken; zero if it is not. -/
def brokenAt (value : Datum) : Nat :=
  let ofText : Nat :=
    match (Element.ofText (TextFunction.characters value.asText)).1 with
    | .ok _ => 0
    | .error place => place
  match value with
  | .blob bytes =>
    if Element.looksBinary bytes then
      if ((Element.ofBytes? bytes).map Element.isSound).getD false then 0 else 1
    else ofText
  | _ => ofText

/-- How many arguments each function takes, at least and at most. -/
def signatures (most : Nat) : List (String × Nat × Nat) :=
  [("json", 1, 1), ("json_array", 0, most), ("json_array_length", 1, 2),
   ("json_error_position", 1, 1), ("json_extract", 0, most), ("->", 2, 2), ("->>", 2, 2),
   ("json_insert", 0, most), ("json_object", 0, most), ("json_patch", 2, 2), ("json_pretty", 1, 2),
   ("json_quote", 1, 1), ("json_remove", 0, most), ("json_replace", 0, most),
   ("json_set", 0, most), ("json_type", 1, 2), ("json_valid", 1, 2), ("jsonb", 1, 1),
   ("jsonb_array", 0, most), ("jsonb_extract", 0, most), ("jsonb_insert", 0, most),
   ("jsonb_object", 0, most), ("jsonb_patch", 2, 2), ("jsonb_remove", 0, most),
   ("jsonb_replace", 0, most), ("jsonb_set", 0, most)]

def isName (name : String) : Bool := (signatures 0).any fun entry => entry.1 = name

def array (binary : Bool) (arguments : List Argument) : Except StatementFault Argument := do
  let items ← arguments.mapM written
  return textResult binary ("[" ++ String.intercalate "," items ++ "]")

/-- The text of an object. -/
def objectText (members : List (String × String)) : String :=
  let texts := members.map fun (label, value) =>
    String.ofList (Tree.quote label) ++ ":" ++ value
  "\x7b" ++ String.intercalate "," texts ++ "\x7d"

def object (binary : Bool) (arguments : List Argument) : Except StatementFault Argument := do
  if arguments.length % 2 = 1 then
    throw (.domain "json_object() requires an even number of arguments")
  let members ← (pairs arguments).mapM fun (key, value) => do
    match key.1 with
    | .text key => return (key, ← written value)
    | _ => throw (.domain "json_object() labels must be TEXT")
  return textResult binary (objectText members)

def extract (binary : Bool) (value : Datum) (places : List Datum) :
    Except StatementFault Argument := do
  let element ← read value
  match ← partsAt element places with
  | none => return (.null, false)
  | some [none] => return (.null, false)
  | some [some part] =>
    if part.isContainer then return result binary part else return (← datumOf part, false)
  | some parts =>
    let texts := parts.map fun part => ((part.map Element.toText).getD "null")
    return textResult binary ("[" ++ String.intercalate "," texts ++ "]")

def arrow (asText : Bool) (value place : Datum) : Except StatementFault Argument := do
  let element ← read value
  if place.isNull then return (.null, false)
  match ← partAt element (TextFunction.characters place.asText) (arrowPath place) with
  | none => return (.null, false)
  | some part => if asText then return result false part else return (← datumOf part, false)

/-- The value of a function, and whether it is JSON text. -/
def apply (name : String) (arguments : List Argument) : Except StatementFault Argument := do
  let values : List Datum := arguments.map fun argument => argument.1
  let plain (value : Datum) : Argument := (value, false)
  let binary := name.startsWith "jsonb"
  match name, values with
  | "json_array", _ | "jsonb_array", _ => array binary arguments
  | "json_object", _ | "jsonb_object", _ => object binary arguments
  | "json_quote", _ => return (.text (← written (arguments.headD (.null, false))), true)
  | "json_valid", value :: flags =>
    let flags := (flags.head?.map Datum.toInt).getD 1
    if flags < 1 ∨ 15 < flags then
      throw (.domain "FLAGS parameter to json_valid() must be between 1 and 15")
    else if value.isNull then return plain .null
    else return plain (.ofBool (isValid value flags.toNat))
  | "json_set", _ | "jsonb_set", _ => changing .set "set" binary arguments
  | "json_insert", _ | "jsonb_insert", _ => changing .insert "insert" binary arguments
  | "json_replace", _ | "jsonb_replace", _ => changing .replace "replace" binary arguments
  | "json_extract", [_] | "jsonb_extract", [_] => return plain .null
  | _, .null :: _ => return plain .null
  | "json", [value] | "jsonb", [value] => return result binary (← read value)
  | "json_extract", value :: places | "jsonb_extract", value :: places =>
    extract binary value places
  | "->", [value, place] => arrow true value place
  | "->>", [value, place] => arrow false value place
  | "json_type", value :: places =>
    return plain (((← chosen value places).map fun part => Datum.text part.typeName).getD .null)
  | "json_array_length", value :: places =>
    match ← chosen value places with
    | some (.array items) => return plain (.integer items.length)
    | some _ => return plain (.integer 0)
    | none => return plain .null
  | "json_remove", value :: places | "jsonb_remove", value :: places =>
    return ((← removing (← read value) places).map (result binary)).getD (plain .null)
  | "json_patch", [value, change] | "jsonb_patch", [value, change] =>
    let element ← read value
    if change.isNull then return plain .null
    else return result binary (element.patched (← read change))
  | "json_pretty", value :: indent =>
    let indent := match indent with
      | value :: _ => if value.isNull then [' ', ' ', ' ', ' '] else TextFunction.characters value.asText
      | [] => [' ', ' ', ' ', ' ']
    return plain (.text (String.ofList ((← read value).pretty indent 0)))
  | "json_error_position", [value] => return plain (.integer (brokenAt value))
  | _, _ => return plain .null

end SignalGraph.Database.JsonFunction
