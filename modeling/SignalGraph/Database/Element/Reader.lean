import SignalGraph.Database.Element.Basic

/-! Reading JSON text, strict or in its looser form with comments, bare labels and other numbers.

A place in a text is told by what is left of it there.
-/

set_option autoImplicit false

namespace SignalGraph.Database.Element

/-- What is known beside the element that is read. -/
structure Progress where
  /-- Something is not as strict JSON would have it. -/
  loose : Bool := false
  /-- How much was left of the text where something unfitting was met last. -/
  left : Option Nat := none

/-- What stands at a place of a text. -/
inductive Reading where
  | element (element : Element) (rest : List Char)
  /-- A sign that closes or parts containers. -/
  | sign (sign : Char) (rest : List Char)
  | nothing
  | broken

/-- Blanks of strict JSON. -/
def isBlank (c : Char) : Bool := c = ' ' || c = '\t' || c = '\n' || c = '\r'

def isLooseBlank (c : Char) : Bool :=
  isBlank c || c = '\x0b' || c = '\x0c' || c = '\u00a0' || c = '\u1680' ||
    ('\u2000' ≤ c && c ≤ '\u200a') || Spelled.isLineMark c || c = '\u202f' || c = '\u205f' ||
    c = '\u3000' || c = '\ufeff'

/-- What follows the end of a comment. -/
def afterComment? : List Char → Option (List Char)
  | '*' :: '/' :: rest => some rest
  | _ :: rest => afterComment? rest
  | [] => none

def afterLine : List Char → List Char
  | [] => []
  | c :: rest => if c = '\n' ∨ c = '\r' ∨ Spelled.isLineMark c then rest else afterLine rest

/-- What follows blanks and comments. -/
def skipLoose : Nat → List Char → List Char
  | fuel + 1, '/' :: '*' :: first :: rest =>
    match afterComment? (first :: rest) with
    | some after => skipLoose fuel after
    | none => '/' :: '*' :: first :: rest
  | fuel + 1, '/' :: '/' :: rest => skipLoose fuel (afterLine rest)
  | fuel + 1, c :: rest => if isLooseBlank c then skipLoose fuel rest else c :: rest
  | _, others => others

def afterBlanks (text : List Char) : List Char := skipLoose (text.length + 1) text

/-- What follows the blanks in front of an element; they are strict as long as no other is met. -/
def front (text : List Char) : List Char × Bool :=
  let strict := text.dropWhile isBlank
  let rest := afterBlanks strict
  (rest, rest.length < strict.length)

def isLabelStart (c : Char) : Bool := c.isAlpha || c = '$' || c = '_' || 128 ≤ c.toNat

def isLabelPart (c : Char) : Bool := isLabelStart c || c.isDigit

def isHexRun (count : Nat) (text : List Char) : Bool :=
  (text.take count).length = count && (text.take count).all Spelled.isHex

def isEscapedPart : List Char → Bool
  | '\\' :: 'u' :: rest => isHexRun 4 rest
  | _ => false

/-- A label without quotes, and whether it has escapes. -/
def bareLabel (first escaped : Bool) : List Char → List Char × Bool × List Char
  | [] => ([], escaped, [])
  | c :: rest =>
    if isEscapedPart (c :: rest) then
      let (label, escaped, rest) := bareLabel false true rest
      (c :: label, escaped, rest)
    else if (if first then isLabelStart c else isLabelPart c && !isLooseBlank c) then
      let (label, escaped, rest) := bareLabel false escaped rest
      (c :: label, escaped, rest)
    else ([], escaped, c :: rest)

/-- The escape behind a backslash is one of strict JSON. -/
def isUsualEscape : List Char → Bool
  | 'u' :: code => isHexRun 4 code
  | c :: _ => ['"', '\\', '/', 'b', 'f', 'n', 'r', 't'].contains c
  | [] => false

/-- The escape behind a backslash is one of the others. -/
def isLooseEscape : List Char → Bool
  | 'x' :: code => isHexRun 2 code
  | '0' :: after => !((after.head?.map Char.isDigit).getD false)
  | c :: _ => c = '\'' || c = 'v' || c = '\n' || c = '\r' || Spelled.isLineMark c
  | [] => false

/-- Read the body of a string up to its mark; without an end it is broken where that is noticed. -/
def body (mark : Char) (spelling : Spelling) (done : List Char) :
    List Char → Except (List Char) (Spelled × List Char)
  | [] => .error []
  | '\\' :: '\r' :: '\n' :: rest => body mark .loose ('\n' :: '\r' :: '\\' :: done) rest
  | ['\\'] => .error []
  | '\\' :: c :: rest =>
    if isUsualEscape (c :: rest) then
      body mark (if spelling = .plain then .escaped else spelling) (c :: '\\' :: done) rest
    else if isLooseEscape (c :: rest) then body mark .loose (c :: '\\' :: done) rest
    else .error (c :: rest)
  | c :: rest =>
    if c = mark then .ok (⟨spelling, String.ofList done.reverse⟩, rest)
    else body mark (if c.toNat < 32 ∨ c = '"' then .loose else spelling) (c :: done) rest

/-- A string with something that strict JSON does not have. -/
def isLooseString (mark : Char) (value : Spelled) : Bool := mark = '\'' || value.spelling = .loose

def startsWith (word text : List Char) : Bool :=
  (text.take word.length).map Char.toLower == word

/-- The rest of a number behind its first sign, where the signs that are read already stand in
front, the last one first. -/
def digits (done : List Char) (loose real scaled : Bool) :
    List Char → Except (List Char) (List Char × Bool × Bool × List Char)
  | '.' :: rest =>
    if real then .error ('.' :: rest) else digits ('.' :: done) loose true scaled rest
  | c :: rest =>
    let pointed := done.head? = some '.'
    let complete := !pointed || ((done.drop 1).head?.map Char.isDigit).getD false
    if c.isDigit then digits (c :: done) loose real scaled rest
    else if c = 'e' ∨ c = 'E' then
      let isDigitNext (text : List Char) : Bool := (text.head?.map Char.isDigit).getD false
      if !complete || scaled then .error (c :: rest)
      else
        match rest with
        | sign :: after =>
          if sign = '+' ∨ sign = '-' then
            if isDigitNext after then digits (sign :: c :: done) (loose || pointed) true true after
            else .error rest
          else if sign.isDigit then digits (c :: done) (loose || pointed) true true (sign :: after)
          else .error (c :: rest)
        | [] => .error [c]
    else if complete then .ok (done.reverse, loose || pointed, real, c :: rest)
    else .error (c :: rest)
  | [] =>
    let pointed := done.head? = some '.'
    if !pointed || ((done.drop 1).head?.map Char.isDigit).getD false then
      .ok (done.reverse, loose || pointed, real, [])
    else .error []

/-- A number, where one begins. -/
def number (text : List Char) : Except (List Char) (Element × Bool × List Char) :=
  let hexDigits (front rest : List Char) : Element × Bool × List Char :=
    (.integer true (String.ofList (front ++ rest.takeWhile Spelled.isHex)), true,
      rest.dropWhile Spelled.isHex)
  let isHexNext (rest : List Char) : Bool :=
    match rest with
    | mark :: c :: _ => (mark = 'x' || mark = 'X') && Spelled.isHex c
    | _ => false
  let isDigitNext (rest : List Char) : Bool := (rest.head?.map Char.isDigit).getD false
  let ordinary (sign : List Char) (plus : Bool) (loose : Bool) (real : Bool) (first : Char)
      (rest : List Char) : Except (List Char) (Element × Bool × List Char) := do
    let (found, loose, real, rest) ← digits (first :: sign) loose real false rest
    let text := String.ofList found
    return (if real then .real loose text else .integer loose text, loose || plus, rest)
  match text with
  | '.' :: rest => ordinary [] false true true '.' rest
  | '0' :: rest =>
    if isHexNext rest then .ok (hexDigits ('0' :: rest.take 1) (rest.drop 1))
    else if isDigitNext rest then .error rest
    else ordinary [] false false false '0' rest
  | sign :: rest =>
    if sign = '-' ∨ sign = '+' then
      let kept := if sign = '-' then ['-'] else []
      match rest with
      | '0' :: after =>
        if isDigitNext after then .error rest
        else if isHexNext after then .ok (hexDigits (kept ++ '0' :: after.take 1) (after.drop 1))
        else ordinary kept (sign = '+') false false '0' after
      | '.' :: after =>
        -- The digits are complete only if one stands in front of the point or behind it.
        if isDigitNext after then ordinary kept true true true '.' after
        else .error after
      | c :: after =>
        if c.isDigit then ordinary kept (sign = '+') false false c after
        else if startsWith ['i', 'n', 'f'] rest then
          let rest := rest.drop 3
          let rest := if startsWith ['i', 'n', 'i', 't', 'y'] rest then rest.drop 5 else rest
          .ok (.real false (if sign = '-' then "-9e999" else "9e999"), true, rest)
        else .error text
      | [] => .error text
    else ordinary [] false false false sign rest
  | [] => .error []

/-- Words for numbers that are infinite or none. -/
def strangeWords : List (List Char × Element) :=
  [("inf".toList, .real false "9e999"), ("infinity".toList, .real false "9e999"),
   ("nan".toList, .null), ("qnan".toList, .null), ("snan".toList, .null)]

/-- A word that ends where no letter or digit follows. -/
def word? (text : List Char) : Option (Element × Bool × List Char) :=
  let ends (rest : List Char) : Bool := !((rest.head?.map Char.isAlphanum).getD false)
  let plain (word : String) (element : Element) : Option (Element × Bool × List Char) :=
    let word := word.toList
    if word.isPrefixOf text && ends (text.drop word.length) then
      some (element, false, text.drop word.length)
    else none
  plain "true" (.bool true) <|> plain "false" (.bool false) <|> plain "null" .null <|>
    strangeWords.findSome? fun (word, element) =>
      if startsWith word text && ends (text.drop word.length) then
        some (element, true, text.drop word.length)
      else none

/-- How deep containers may stand in each other. -/
def depthLimit : Nat := 1000

namespace Progress

def at_ (progress : Progress) (place : List Char) : Progress :=
  { progress with left := some place.length }

def loosen (progress : Progress) (loose : Bool) : Progress :=
  { progress with loose := progress.loose || loose }

end Progress

mutual

/-- Read what stands at a place. -/
def read (fuel depth : Nat) (progress : Progress) (text : List Char) : Reading × Progress :=
  match fuel with
  | 0 => (.broken, progress)
  | fuel + 1 =>
    let (text, loose) := front text
    let progress := progress.loosen loose
    match text with
    | [] => (.nothing, progress)
    | c :: rest =>
      if c = '\x7b' then
        if depth = 0 then (.broken, progress.at_ text)
        else readMembers fuel (depth - 1) progress [] rest
      else if c = '[' then
        if depth = 0 then (.broken, progress.at_ text)
        else readItems fuel (depth - 1) progress [] rest
      else if c = '"' ∨ c = '\'' then
        match body c .plain [] rest with
        | .ok (value, rest) => (.element (.text value) rest, progress.loosen (isLooseString c value))
        | .error place => (.broken, progress.at_ place)
      else if c = '\x7d' ∨ c = ']' ∨ c = ',' ∨ c = ':' then (.sign c text, progress.at_ text)
      else if c.isDigit ∨ c = '-' ∨ c = '+' ∨ (c = '.' ∧ (rest.head?.map Char.isDigit).getD false) then
        match number text with
        | .ok (element, loose, rest) => (.element element rest, progress.loosen loose)
        | .error place => (.broken, progress.at_ place)
      else
        match word? text with
        | some (element, loose, rest) => (.element element rest, progress.loosen loose)
        | none => (.broken, progress.at_ text)
termination_by structural fuel

/-- The items of an array from a place on, behind those that are read already. -/
def readItems (fuel depth : Nat) (progress : Progress) (done : List Element) (text : List Char) :
    Reading × Progress :=
  match fuel with
  | 0 => (.broken, progress)
  | fuel + 1 =>
    let finish (progress : Progress) (items : List Element) (rest : List Char) :
        Reading × Progress := (.element (.array items.reverse) rest, progress)
    match read fuel depth progress text with
    | (.element item rest, progress) =>
      let done := item :: done
      match rest.dropWhile isBlank with
      | ',' :: rest => readItems fuel depth progress done rest
      | ']' :: rest => finish progress done rest
      | rest =>
        match read fuel depth progress rest with
        | (.sign ',' rest, progress) => readItems fuel depth progress done (rest.drop 1)
        | (.sign ']' rest, progress) => finish progress done (rest.drop 1)
        | (_, progress) => (.broken, progress.at_ rest)
    | (.sign ']' rest, progress) => finish (progress.loosen !done.isEmpty) done (rest.drop 1)
    | (.broken, progress) => (.broken, progress)
    | (_, progress) => (.broken, progress.at_ text)
termination_by structural fuel

/-- The members of an object from a place on, behind those that are read already. -/
def readMembers (fuel depth : Nat) (progress : Progress) (done : List (Spelled × Element))
    (text : List Char) : Reading × Progress :=
  match fuel with
  | 0 => (.broken, progress)
  | fuel + 1 =>
    let finish (progress : Progress) (members : List (Spelled × Element)) (rest : List Char) :
        Reading × Progress := (.element (.object members.reverse) rest, progress)
    let withLabel (label : Spelled) (rest : List Char) (progress : Progress) :
        Reading × Progress :=
      let (value?, progress) : Option (List Char) × Progress :=
        match rest.dropWhile isBlank with
        | ':' :: rest => (some rest, progress)
        | rest =>
          match read fuel depth progress rest with
          | (.sign ':' rest, progress) => (some (rest.drop 1), progress)
          | (.broken, progress) => (none, progress)
          | (_, progress) => (none, progress.at_ rest)
      match value? with
      | none => (.broken, progress)
      | some place =>
        match read fuel depth progress place with
        | (.element value rest, progress) =>
          let done := (label, value) :: done
          match rest.dropWhile isBlank with
          | ',' :: rest => readMembers fuel depth progress done rest
          | '\x7d' :: rest => finish progress done rest
          | rest =>
            match read fuel depth progress rest with
            | (.sign ',' rest, progress) => readMembers fuel depth progress done (rest.drop 1)
            | (.sign '\x7d' rest, progress) => finish progress done (rest.drop 1)
            | (_, progress) => (.broken, progress.at_ rest)
        | (.broken, progress) => (.broken, progress)
        | (_, progress) => (.broken, progress.at_ place)
    match read fuel depth progress text with
    | (.element (.text label) rest, progress) => withLabel label rest progress
    | (.element _ _, progress) => (.broken, progress.at_ text)
    | (.sign '\x7d' rest, progress) => finish (progress.loosen !done.isEmpty) done (rest.drop 1)
    | (found, progress) =>
      let place := afterBlanks text
      match bareLabel true false place with
      | ([], _, _) =>
        match found with
        | .broken => (.broken, progress)
        | _ => (.broken, progress.at_ place)
      | (label, escaped, rest) =>
        withLabel ⟨if escaped then .escaped else .plain, String.ofList label⟩ rest
          (progress.loosen true)
termination_by structural fuel

end

/-- Read a text that holds one element; and where it is broken if it is, counted from one. -/
def ofText (text : List Char) : Except Nat Element × Progress :=
  match read (4 * text.length + 8) depthLimit {} text with
  | (.element element rest, progress) =>
    let rest := rest.dropWhile isBlank
    if rest = [] then (.ok element, progress)
    else if afterBlanks rest = [] then (.ok element, progress.loosen true)
    else (.error (place progress), progress)
  | (_, progress) => (.error (place progress), progress)
where
  place (progress : Progress) : Nat :=
    match progress.left with
    | some left => text.length - left + 1
    | none => 1

end SignalGraph.Database.Element
