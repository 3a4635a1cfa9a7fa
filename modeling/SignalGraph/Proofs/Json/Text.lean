import Mathlib.Tactic.SplitIfs
import SignalGraph.Json.Record
import SignalGraph.Proofs.Json.Number

/-! Trees that are written are read back.

`readBack` says what a reader makes of the text of a tree, whatever the tree and the layout are:
what is no number becomes `null`, and a container nested too deep becomes unreadable. A tree without
such parts is read back as it is.
-/

set_option autoImplicit false

namespace SignalGraph.Tree

/-! ## Strings -/

theorem readUnits_short {mark c : Char} (rest : List Char) (short : escaped? mark = some c) :
    readUnits ('\\' :: mark :: rest) =
      (readUnits rest).map fun (units, rest) => (c.toNat :: units, rest) := by
  have other : mark ≠ 'u' := by
    rintro rfl
    exact absurd short nofun
  rw [readUnits, short]
  · cases readUnits rest <;> rfl
  · exact fun _ _ _ _ _ same => absurd same other

theorem readUnits_hex {a b c d : Char} {unit : Nat} (rest : List Char)
    (hex : hexUnit? a b c d = some unit) :
    readUnits ('\\' :: 'u' :: a :: b :: c :: d :: rest) =
      (readUnits rest).map fun (units, rest) => (unit :: units, rest) := by
  rw [readUnits, hex]
  cases readUnits rest <;> rfl

theorem readUnits_plain {c : Char} (rest : List Char) (quote : c ≠ '"') (backslash : c ≠ '\\')
    (plain : ¬c.toNat < 0x20) :
    readUnits (c :: rest) =
      (readUnits rest).map fun (units, rest) => (c.toNat :: units, rest) := by
  rw [readUnits, if_neg plain]
  · cases readUnits rest <;> rfl
  · exact quote
  · exact fun _ _ _ _ _ same _ => backslash same
  · exact fun _ _ same _ => backslash same

theorem hexUnit?_control {n : Nat} (control : n < 0x20) :
    hexUnit? '0' '0' (hexDigit (n / 16)) (hexDigit (n % 16)) = some n := by
  revert n
  decide

theorem readUnits_escape (c : Char) (rest : List Char) :
    readUnits (escape c ++ rest) =
      (readUnits rest).map fun (units, rest) => (c.toNat :: units, rest) := by
  unfold escape
  split_ifs with quote backslash backspace tab newline feed carriage control
  · rw [quote]; exact readUnits_short rest rfl
  · rw [backslash]; exact readUnits_short rest rfl
  · rw [backspace]; exact readUnits_short rest rfl
  · rw [tab]; exact readUnits_short rest rfl
  · rw [newline]; exact readUnits_short rest rfl
  · rw [feed]; exact readUnits_short rest rfl
  · rw [carriage]; exact readUnits_short rest rfl
  · exact readUnits_hex rest (hexUnit?_control control)
  · exact readUnits_plain rest quote backslash control

theorem readUnits_quoted (characters rest : List Char) :
    readUnits (characters.flatMap escape ++ '"' :: rest) =
      some (characters.map Char.toNat, rest) := by
  induction characters with
  | nil => rfl
  | cons c characters ih =>
    rw [List.flatMap_cons, List.append_assoc, readUnits_escape, ih]
    rfl

/-- No character is half of a surrogate pair. -/
theorem toNat_outside_surrogates (c : Char) :
    isHighSurrogate c.toNat = false ∧ isLowSurrogate c.toNat = false := by
  have valid : c.toNat < 0xD800 ∨ (0xDFFF < c.toNat ∧ c.toNat < 0x110000) := c.valid
  simp only [isHighSurrogate, isLowSurrogate, Bool.and_eq_false_iff, decide_eq_false_iff_not]
  omega

theorem characters?_map_toNat (characters : List Char) :
    characters? (characters.map Char.toNat) = some characters := by
  induction characters with
  | nil => rfl
  | cons c characters ih =>
    obtain ⟨high, low⟩ := toNat_outside_surrogates c
    rw [List.map_cons]
    unfold characters?
    simp [high, low, ih]

theorem textOfUnits?_map_toNat (text : String) :
    textOfUnits? (text.toList.map Char.toNat) = some text := by
  rw [textOfUnits?, characters?_map_toNat, Option.map_some, String.ofList_toList]

/-! ## Blanks -/

theorem skipSpace_of_head {first : Char} (rest : List Char) (solid : isSpace first = false) :
    skipSpace (first :: rest) = first :: rest := by
  rw [skipSpace, List.dropWhile_cons, solid]
  rfl

theorem skipSpace_lineBreak (layout : Layout) (level : Nat) (rest : List Char) :
    skipSpace (layout.lineBreak level ++ rest) = skipSpace rest := by
  refine List.dropWhile_append_of_pos fun c member => ?_
  cases layout with
  | compact => exact absurd member List.not_mem_nil
  | indented =>
    rcases List.mem_cons.mp member with rfl | member
    · rfl
    · rw [List.eq_of_mem_replicate member]
      rfl

theorem skipSpace_colon (layout : Layout) (rest : List Char) :
    skipSpace (layout.colon ++ rest) = ':' :: (layout.colon.drop 1 ++ rest) := by
  cases layout <;> rfl

/-- A text that starts with a solid character no number goes on with. -/
theorem closes_cons {next : Char} (rest : List Char)
    (closes : next.isDigit = false ∧ next ≠ '.' ∧ next ≠ 'e' ∧ next ≠ 'E') :
    Closes (next :: rest) := by
  rintro _ ⟨⟩
  exact closes

theorem closes_lineBreak (layout : Layout) (level : Nat) {rest : List Char}
    (closes : Closes rest) : Closes (layout.lineBreak level ++ rest) := by
  cases layout with
  | compact => exact closes
  | indented => exact closes_cons _ (by decide)

/-! ## What a reader makes of a written tree -/

mutual

/-- What the text of the tree is read back as where so many containers may be opened. -/
def readBack (allowed : Nat) : Tree → Tree
  | null => null
  | bool value => bool value
  | integer n => ofLiteral (n < 0) (Nat.toDigits 10 n.natAbs) [] none
  | float x => if x.IsFinite then float x else null
  | string text => string text
  | array items => nested allowed (array (readBackItems (allowed - 1) items))
  | object members => nested allowed (object (readBackMembers (allowed - 1) members))
  | unreadable => null

def readBackItems (allowed : Nat) : List Tree → List Tree
  | [] => []
  | item :: rest => item.readBack allowed :: readBackItems allowed rest

def readBackMembers (allowed : Nat) : List (String × Tree) → List (String × Tree)
  | [] => []
  | (key, value) :: rest => (key, value.readBack allowed) :: readBackMembers allowed rest

end

theorem readBackItems_map {α : Type} (write : α → Tree) (values : List α) (allowed : Nat) :
    readBackItems allowed (values.map write) =
      values.map fun value => (write value).readBack allowed := by
  induction values with
  | nil => rfl
  | cons value rest ih => rw [List.map_cons, readBackItems, ih, List.map_cons]

theorem readBackMembers_map {α : Type} (write : α → Tree) (entries : List (String × α))
    (allowed : Nat) :
    readBackMembers allowed (entries.map fun entry => (entry.1, write entry.2)) =
      entries.map fun entry => (entry.1, (write entry.2).readBack allowed) := by
  induction entries with
  | nil => rfl
  | cons entry rest ih => rw [List.map_cons, readBackMembers, ih, List.map_cons]

/-! ## Items and members after the first -/

section Written

variable {layout : Layout} {level : Nat}

def moreItems (layout : Layout) (level : Nat) : List Tree → List Char
  | [] => []
  | item :: rest =>
    ',' :: (layout.lineBreak level ++ (render layout level item ++ moreItems layout level rest))

theorem renderItems_cons (item : Tree) (rest : List Tree) :
    renderItems layout level (item :: rest) =
      layout.lineBreak level ++ (render layout level item ++ moreItems layout level rest) := by
  induction rest generalizing item with
  | nil => simp [renderItems, moreItems]
  | cons next rest ih => simp [renderItems, ih next, moreItems]

def renderMember (layout : Layout) (level : Nat) (entry : String × Tree) : List Char :=
  quote entry.1 ++ (layout.colon ++ render layout level entry.2)

def moreMembers (layout : Layout) (level : Nat) : List (String × Tree) → List Char
  | [] => []
  | entry :: rest =>
    ',' :: (layout.lineBreak level ++
      (renderMember layout level entry ++ moreMembers layout level rest))

theorem renderMembers_cons (entry : String × Tree) (rest : List (String × Tree)) :
    renderMembers layout level (entry :: rest) =
      layout.lineBreak level ++
        (renderMember layout level entry ++ moreMembers layout level rest) := by
  induction rest generalizing entry with
  | nil => simp [renderMembers, moreMembers, renderMember]
  | cons next rest ih => simp [renderMembers, ih next, moreMembers, renderMember]

/-! ## How a value starts -/

theorem isSpace_of_isDigit {c : Char} (digit : c.isDigit = true) : isSpace c = false := by
  simp only [isSpace, Bool.or_eq_false_iff, beq_eq_false_iff_ne]
  refine ⟨⟨⟨?_, ?_⟩, ?_⟩, ?_⟩ <;> (rintro rfl; exact absurd digit (by decide))

theorem exists_digit_written (decimal : Decimal) :
    ∃ first rest, decimal.written = first :: rest ∧ first.isDigit = true := by
  obtain ⟨literal, spells⟩ := exists_spells decimal
  obtain ⟨first, rest, whole, digit⟩ :=
    spells.wellFormed.whole.exists_cons spells.wellFormed.whole_ne_nil
  exact ⟨first, _, by rw [spells.text, Literal.text, whole, List.cons_append], digit⟩

/-- The text of a value starts with a character that is no blank and closes no array. -/
theorem exists_render (layout : Layout) (level : Nat) (tree : Tree) :
    ∃ first rest, render layout level tree = first :: rest ∧ isSpace first = false ∧
      first ≠ ']' := by
  have ofDigits : ∀ text : List Char, (∃ first rest, text = first :: rest ∧ first.isDigit = true) →
      ∃ first rest, text = first :: rest ∧ isSpace first = false ∧ first ≠ ']' := by
    rintro _ ⟨first, rest, rfl, digit⟩
    refine ⟨first, rest, rfl, isSpace_of_isDigit digit, ?_⟩
    rintro rfl
    exact absurd digit (by decide)
  cases tree with
  | null | unreadable => exact ⟨_, _, rfl, by decide⟩
  | bool value => cases value <;> exact ⟨_, _, rfl, by decide⟩
  | string text => exact ⟨_, _, rfl, by decide⟩
  | array items => cases items <;> exact ⟨_, _, rfl, by decide⟩
  | object members => cases members <;> exact ⟨_, _, rfl, by decide⟩
  | integer n =>
    simp only [render, integerText]
    split
    · exact ⟨_, _, rfl, by decide⟩
    · exact ofDigits _ ((AllDigits.toDigits _).exists_cons Nat.toDigits_ne_nil)
  | float x =>
    match x with
    | .finite true magnitude => exact ⟨_, _, rfl, by decide⟩
    | .finite false magnitude => exact ofDigits _ (exists_digit_written _)
    | .infinite _ | .nan => exact ⟨_, _, rfl, by decide⟩

theorem skipSpace_render (layout : Layout) (level : Nat) (tree : Tree) (rest : List Char) :
    skipSpace (render layout level tree ++ rest) = render layout level tree ++ rest := by
  obtain ⟨first, others, start, solid, -⟩ := exists_render layout level tree
  rw [start]
  exact skipSpace_of_head _ solid

theorem skipSpace_renderMember (entry : String × Tree) (rest : List Char) :
    skipSpace (renderMember layout level entry ++ rest) =
      renderMember layout level entry ++ rest := rfl

/-! ## Steps of the reader -/

variable {fuel allowed : Nat} {rest : List Char}

theorem readValue_of_digit {first : Char} (digit : first.isDigit = true) :
    readValue (fuel + 1) allowed (first :: rest) = readNumber false (first :: rest) := by
  unfold readValue
  split <;> first | rfl | next same => cases same; exact absurd digit (by decide)

theorem readValue_integer (n : Int) (closes : Closes rest) :
    readValue (fuel + 1) allowed (integerText n ++ rest) =
      some (ofLiteral (n < 0) (Nat.toDigits 10 n.natAbs) [] none, rest) := by
  unfold integerText
  split
  · rename_i negative
    rw [List.cons_append, readValue, readNumber_integer true _ closes, decide_eq_true negative]
  · rename_i positive
    obtain ⟨first, others, start, digit⟩ :=
      (AllDigits.toDigits n.natAbs).exists_cons Nat.toDigits_ne_nil
    rw [start, List.cons_append, readValue_of_digit digit, ← List.cons_append, ← start,
      readNumber_integer false _ closes, decide_eq_false positive]

theorem readValue_float (x : Binary64) (closes : Closes rest) :
    readValue (fuel + 1) allowed (floatText x ++ rest) =
      some (if x.IsFinite then float x else null, rest) := by
  match x with
  | .infinite _ | .nan => rfl
  | .finite true magnitude => exact readNumber_float true magnitude closes
  | .finite false magnitude =>
    obtain ⟨first, others, start, digit⟩ := exists_digit_written magnitude.shortestDecimal
    have text : floatText (.finite false magnitude) = magnitude.shortestDecimal.written := rfl
    rw [text, start, List.cons_append, readValue_of_digit digit, ← List.cons_append, ← start]
    exact readNumber_float false magnitude closes

theorem readUnits_quote (text : String) :
    readUnits ((quote text).drop 1 ++ rest) = some (text.toList.map Char.toNat, rest) := by
  rw [quote, List.drop_one, List.tail_cons, List.append_assoc]
  exact readUnits_quoted text.toList rest

section Steps

variable {text after : List Char} {item : Tree} {items : List Tree} {entry : List Nat × Tree}
  {members : List (List Nat × Tree)}

theorem readItems_of_value {first : Char} (other : first ≠ ']')
    (value : readValue fuel allowed (first :: text) = some (item, after))
    (more : readMoreItems fuel allowed (skipSpace after) = some (items, rest)) :
    readItems (fuel + 1) allowed (first :: text) = some (item :: items, rest) := by
  rw [readItems, value]
  · simp only [Option.bind_eq_bind, Option.bind_some, more]
    rfl
  · exact fun _ same => other (List.cons.inj same).1

theorem readMoreItems_of_value
    (value : readValue fuel allowed (skipSpace text) = some (item, after))
    (more : readMoreItems fuel allowed (skipSpace after) = some (items, rest)) :
    readMoreItems (fuel + 1) allowed (',' :: text) = some (item :: items, rest) := by
  rw [readMoreItems, value]
  simp only [Option.bind_eq_bind, Option.bind_some, more]
  rfl

theorem readMembers_of_member {first : Char} (other : first ≠ '}')
    (member : readMember fuel allowed (first :: text) = some (entry, after))
    (more : readMoreMembers fuel allowed (skipSpace after) = some (members, rest)) :
    readMembers (fuel + 1) allowed (first :: text) = some (entry :: members, rest) := by
  rw [readMembers, member]
  · simp only [Option.bind_eq_bind, Option.bind_some, more]
    rfl
  · exact fun _ same => other (List.cons.inj same).1

theorem readMoreMembers_of_member
    (member : readMember fuel allowed (skipSpace text) = some (entry, after))
    (more : readMoreMembers fuel allowed (skipSpace after) = some (members, rest)) :
    readMoreMembers (fuel + 1) allowed (',' :: text) = some (entry :: members, rest) := by
  rw [readMoreMembers, member]
  simp only [Option.bind_eq_bind, Option.bind_some, more]
  rfl

end Steps

/-- The reader takes the text of a value for what is read back of it, given fuel for its length. -/
def ReadsBack (layout : Layout) (tree : Tree) : Prop :=
  ∀ (level fuel allowed : Nat) (rest : List Char), Closes rest →
    (render layout level tree).length ≤ fuel →
    readValue fuel allowed (render layout level tree ++ rest) = some (tree.readBack allowed, rest)

/-- The items after the first, up to the bracket that closes their array. -/
def ReadsItems (layout : Layout) (items : List Tree) : Prop :=
  ∀ (level outer fuel allowed : Nat) (rest : List Char),
    (moreItems layout level items).length < fuel →
    readMoreItems fuel allowed (skipSpace
        (moreItems layout level items ++ (layout.lineBreak outer ++ ']' :: rest))) =
      some (readBackItems allowed items, rest)

/-- A member as the reader holds it, its key in code units. -/
def inUnits (entry : String × Tree) : List Nat × Tree := (entry.1.toList.map Char.toNat, entry.2)

/-- The members after the first, up to the brace that closes their object. -/
def ReadsMembers (layout : Layout) (members : List (String × Tree)) : Prop :=
  ∀ (level outer fuel allowed : Nat) (rest : List Char),
    (moreMembers layout level members).length < fuel →
    readMoreMembers fuel allowed (skipSpace
        (moreMembers layout level members ++ (layout.lineBreak outer ++ '}' :: rest))) =
      some ((readBackMembers allowed members).map inUnits, rest)

theorem length_render_pos (layout : Layout) (level : Nat) (tree : Tree) :
    0 < (render layout level tree).length := by
  obtain ⟨first, others, start, -⟩ := exists_render layout level tree
  simp [start]

theorem length_renderMember (layout : Layout) (level : Nat) (entry : String × Tree) :
    (render layout level entry.2).length + 3 ≤ (renderMember layout level entry).length := by
  have colon : 1 ≤ layout.colon.length := by cases layout <;> decide
  simp only [renderMember, quote, List.length_append, List.length_cons]
  omega

theorem exists_renderMember (layout : Layout) (level : Nat) (entry : String × Tree) :
    ∃ rest, renderMember layout level entry = '"' :: rest := ⟨_, rfl⟩

theorem readMember_render {entry : String × Tree} (value : entry.2.ReadsBack layout)
    (level fuel allowed : Nat) (closes : Closes rest)
    (enough : (renderMember layout level entry).length ≤ fuel) :
    readMember fuel allowed (renderMember layout level entry ++ rest) =
      some (inUnits (entry.1, entry.2.readBack allowed), rest) := by
  have length := length_renderMember layout level entry
  obtain ⟨fuel, rfl⟩ : ∃ less, fuel = less + 1 := ⟨fuel - 1, by omega⟩
  have after : skipSpace (layout.colon.drop 1 ++ (render layout level entry.2 ++ rest)) =
      render layout level entry.2 ++ rest := by
    cases layout <;> exact skipSpace_render _ level entry.2 rest
  have start : renderMember layout level entry ++ rest = '"' :: ((quote entry.1).drop 1 ++
      (layout.colon ++ (render layout level entry.2 ++ rest))) := by
    simp [renderMember, quote]
  rw [start, readMember, readUnits_quote]
  simp only [Option.bind_eq_bind, Option.bind_some, skipSpace_colon, after]
  rw [value level fuel allowed rest closes (by omega)]
  rfl

theorem mapM_inUnits (members : List (String × Tree)) :
    (members.map inUnits).mapM (fun (units, value) => (textOfUnits? units).map (·, value)) =
      some members := by
  induction members with
  | nil => rfl
  | cons entry rest ih =>
    rw [List.map_cons, List.mapM_cons, ih, inUnits]
    simp [textOfUnits?_map_toNat]

theorem ofUnitMembers_inUnits (members : List (String × Tree)) :
    ofUnitMembers (members.map inUnits) = object members := by
  rw [ofUnitMembers, mapM_inUnits]

/-! ## The law, one shape of trees at a time -/

theorem ReadsBack.of_succ {tree : Tree}
    (read : ∀ (level fuel allowed : Nat) (rest : List Char), Closes rest →
      (render layout level tree).length ≤ fuel + 1 →
      readValue (fuel + 1) allowed (render layout level tree ++ rest) =
        some (tree.readBack allowed, rest)) : tree.ReadsBack layout := by
  intro level fuel allowed rest closes enough
  have some := length_render_pos layout level tree
  obtain ⟨fuel, rfl⟩ : ∃ less, fuel = less + 1 := ⟨fuel - 1, by omega⟩
  exact read level fuel allowed rest closes enough

theorem ReadsBack.string (text : String) : (Tree.string text).ReadsBack layout := by
  refine .of_succ fun level fuel allowed rest closes enough => ?_
  have start : quote text ++ rest = '"' :: ((quote text).drop 1 ++ rest) := rfl
  rw [render, start, readValue, readUnits_quote]
  simp only [Option.bind_eq_bind, Option.bind_some, textOfUnits?_map_toNat]
  rfl

theorem ReadsItems.nil : ReadsItems layout [] := by
  intro level outer fuel allowed rest enough
  obtain ⟨fuel, rfl⟩ : ∃ less, fuel = less + 1 := ⟨fuel - 1, by omega⟩
  rw [moreItems, List.nil_append, skipSpace_lineBreak]
  rfl

theorem ReadsMembers.nil : ReadsMembers layout [] := by
  intro level outer fuel allowed rest enough
  obtain ⟨fuel, rfl⟩ : ∃ less, fuel = less + 1 := ⟨fuel - 1, by omega⟩
  rw [moreMembers, List.nil_append, skipSpace_lineBreak]
  rfl

section Containers

variable {item : Tree} {items : List Tree} {entry : String × Tree} {members : List (String × Tree)}

/-- What follows an item: the other items and the end of the array. -/
theorem closes_afterItem (layout : Layout) (level outer : Nat) (items : List Tree)
    (rest : List Char) :
    Closes (moreItems layout level items ++ (layout.lineBreak outer ++ ']' :: rest)) := by
  have closes : Closes (layout.lineBreak outer ++ ']' :: rest) :=
    closes_lineBreak layout outer (closes_cons rest (by decide))
  cases items with
  | nil => exact closes
  | cons item items => exact closes_cons _ (by decide)

theorem closes_afterMember (layout : Layout) (level outer : Nat)
    (members : List (String × Tree)) (rest : List Char) :
    Closes (moreMembers layout level members ++ (layout.lineBreak outer ++ '}' :: rest)) := by
  have closes : Closes (layout.lineBreak outer ++ '}' :: rest) :=
    closes_lineBreak layout outer (closes_cons rest (by decide))
  cases members with
  | nil => exact closes
  | cons entry members => exact closes_cons _ (by decide)

theorem ReadsItems.cons (first : item.ReadsBack layout) (others : ReadsItems layout items) :
    ReadsItems layout (item :: items) := by
  intro level outer fuel allowed rest enough
  obtain ⟨fuel, rfl⟩ : ∃ less, fuel = less + 1 := ⟨fuel - 1, by omega⟩
  simp only [moreItems, List.length_cons, List.length_append] at enough
  have some := length_render_pos layout level item
  have value := first level fuel allowed _ (closes_afterItem layout level outer items rest)
    (by omega)
  have more := others level outer fuel allowed rest (by omega)
  rw [← skipSpace_render, ← skipSpace_lineBreak layout level] at value
  rw [moreItems, List.cons_append, skipSpace_of_head _ (by decide), List.append_assoc,
    List.append_assoc]
  exact readMoreItems_of_value value more

theorem ReadsMembers.cons (first : entry.2.ReadsBack layout)
    (others : ReadsMembers layout members) : ReadsMembers layout (entry :: members) := by
  intro level outer fuel allowed rest enough
  obtain ⟨fuel, rfl⟩ : ∃ less, fuel = less + 1 := ⟨fuel - 1, by omega⟩
  simp only [moreMembers, List.length_cons, List.length_append] at enough
  have some := length_renderMember layout level entry
  have member := readMember_render first level fuel allowed
    (closes_afterMember layout level outer members rest) (by omega)
  have more := others level outer fuel allowed rest (by omega)
  rw [← skipSpace_renderMember, ← skipSpace_lineBreak layout level] at member
  rw [moreMembers, List.cons_append, skipSpace_of_head _ (by decide), List.append_assoc,
    List.append_assoc]
  exact readMoreMembers_of_member member more

theorem ReadsBack.array (first : item.ReadsBack layout) (others : ReadsItems layout items) :
    (Tree.array (item :: items)).ReadsBack layout := by
  refine .of_succ fun level fuel allowed rest closes enough => ?_
  simp only [render, renderItems_cons, List.length_cons, List.length_append] at enough
  have some := length_render_pos layout (level + 1) item
  obtain ⟨fuel, rfl⟩ : ∃ less, fuel = less + 1 := ⟨fuel - 1, by omega⟩
  have value := first (level + 1) fuel (allowed - 1) _
    (closes_afterItem layout (level + 1) level items rest) (by omega)
  have more := others (level + 1) level fuel (allowed - 1) rest (by omega)
  have text : render layout level (Tree.array (item :: items)) ++ rest =
      '[' :: (layout.lineBreak (level + 1) ++ (render layout (level + 1) item ++
        (moreItems layout (level + 1) items ++ (layout.lineBreak level ++ ']' :: rest)))) := by
    simp [render, renderItems_cons]
  obtain ⟨head, tail, start, -, other⟩ := exists_render layout (level + 1) item
  rw [text, readValue, skipSpace_lineBreak, skipSpace_render]
  rw [start, List.cons_append] at value ⊢
  rw [readItems_of_value other value more]
  rfl

theorem ReadsBack.object (first : entry.2.ReadsBack layout)
    (others : ReadsMembers layout members) :
    (Tree.object (entry :: members)).ReadsBack layout := by
  refine .of_succ fun level fuel allowed rest closes enough => ?_
  simp only [render, renderMembers_cons, List.length_cons, List.length_append] at enough
  have some := length_renderMember layout (level + 1) entry
  obtain ⟨fuel, rfl⟩ : ∃ less, fuel = less + 1 := ⟨fuel - 1, by omega⟩
  have member := readMember_render first (level + 1) fuel (allowed - 1)
    (closes_afterMember layout (level + 1) level members rest) (by omega)
  have more := others (level + 1) level fuel (allowed - 1) rest (by omega)
  have text : render layout level (Tree.object (entry :: members)) ++ rest =
      '{' :: (layout.lineBreak (level + 1) ++ (renderMember layout (level + 1) entry ++
        (moreMembers layout (level + 1) members ++ (layout.lineBreak level ++ '}' :: rest)))) := by
    simp [render, renderMembers_cons]
  obtain ⟨tail, start⟩ := exists_renderMember layout (level + 1) entry
  rw [text, readValue, skipSpace_lineBreak, skipSpace_renderMember]
  rw [start, List.cons_append] at member ⊢
  rw [readMembers_of_member (by decide) member more]
  have units : inUnits (entry.1, entry.2.readBack (allowed - 1)) ::
      (readBackMembers (allowed - 1) members).map inUnits =
      (readBackMembers (allowed - 1) (entry :: members)).map inUnits := rfl
  simp only [Option.bind_eq_bind, Option.bind_some, units, ofUnitMembers_inUnits]
  rfl

end Containers

end Written

-- Trees nest in lists of items and of members, so the law is proved of all three at once.
mutual

theorem readsBack (layout : Layout) : ∀ tree : Tree, tree.ReadsBack layout
  | null | bool true | bool false | unreadable => .of_succ fun _ _ _ _ _ _ => rfl
  | array [] | object [] => .of_succ fun
    | _, 0, _, _, _, enough => absurd enough (by simp [render])
    | _, fuel + 1, _, _, _, _ => rfl
  | integer n => .of_succ fun _ _ _ _ closes _ => readValue_integer n closes
  | float x => .of_succ fun _ _ _ _ closes _ => readValue_float x closes
  | string text => .string text
  | array (item :: items) => .array (readsBack layout item) (readsItems layout items)
  | object ((_, value) :: members) =>
    .object (readsBack layout value) (readsMembers layout members)

theorem readsItems (layout : Layout) : ∀ items : List Tree, ReadsItems layout items
  | [] => .nil
  | item :: items => .cons (readsBack layout item) (readsItems layout items)

theorem readsMembers (layout : Layout) :
    ∀ members : List (String × Tree), ReadsMembers layout members
  | [] => .nil
  | (_, value) :: members => .cons (readsBack layout value) (readsMembers layout members)

end

/-- Every tree is read back from its text in either layout. -/
theorem read?_render (layout : Layout) (tree : Tree) :
    read? (String.ofList (render layout 0 tree)) = some (tree.readBack depthLimit) := by
  have start := skipSpace_render layout 0 tree []
  have value := readsBack layout tree 0 (3 * (render layout 0 tree).length + 3) depthLimit [] nofun
    (by omega)
  rw [List.append_nil] at start value
  simp only [read?, String.toList_ofList, start, value]
  rfl

theorem read?_compact (tree : Tree) : read? tree.compact = some (tree.readBack depthLimit) :=
  read?_render .compact tree

theorem read?_indented (tree : Tree) : read? tree.indented = some (tree.readBack depthLimit) :=
  read?_render .indented tree

theorem itemsDepth_le_iff {items : List Tree} {allowed : Nat} :
    itemsDepth items ≤ allowed ↔ ∀ item ∈ items, item.depth ≤ allowed := by
  induction items with
  | nil => simp [itemsDepth]
  | cons item rest ih => rw [itemsDepth, Nat.max_le, ih, List.forall_mem_cons]

theorem membersDepth_le_iff {members : List (String × Tree)} {allowed : Nat} :
    membersDepth members ≤ allowed ↔ ∀ entry ∈ members, entry.2.depth ≤ allowed := by
  induction members with
  | nil => simp [membersDepth]
  | cons entry rest ih => rw [membersDepth, Nat.max_le, ih, List.forall_mem_cons]

/-! ## What is read back of a value -/

variable {allowed : Nat}

theorem nested_of_pos (positive : 0 < allowed) (container : Tree) :
    nested allowed container = container := if_neg (Nat.ne_of_gt positive)

mutual

/-- The tree of a value is read back as it is, unless it is nested too deep. -/
theorem Canonical.readBack_eq : ∀ {tree : Tree} {allowed : Nat}, tree.Canonical →
    tree.depth ≤ allowed → tree.readBack allowed = tree
  | null, _, _, _ | bool _, _, _, _ | string _, _, _, _ => by simp only [readBack]
  | integer n, _, canonical, _ => by rw [readBack, ofLiteral_integer canonical]
  | float x, _, canonical, _ => by
    have finite : x.IsFinite := canonical
    rw [readBack, if_pos finite]
  | array items, allowed, canonical, shallow => by
    simp only [depth] at shallow
    rw [readBack, nested_of_pos (by omega), CanonicalItems.readBack_eq canonical (by omega)]
  | object members, allowed, canonical, shallow => by
    simp only [depth] at shallow
    rw [readBack, nested_of_pos (by omega), CanonicalMembers.readBack_eq canonical.2 (by omega)]

theorem CanonicalItems.readBack_eq : ∀ {items : List Tree} {allowed : Nat}, CanonicalItems items →
    itemsDepth items ≤ allowed → readBackItems allowed items = items
  | [], _, _, _ => rfl
  | item :: rest, allowed, canonical, shallow => by
    simp only [itemsDepth] at shallow
    rw [readBackItems, canonical.1.readBack_eq (by omega),
      CanonicalItems.readBack_eq canonical.2 (by omega)]

theorem CanonicalMembers.readBack_eq : ∀ {members : List (String × Tree)} {allowed : Nat},
    CanonicalMembers members → membersDepth members ≤ allowed →
      readBackMembers allowed members = members
  | [], _, _, _ => rfl
  | (key, value) :: rest, allowed, canonical, shallow => by
    simp only [membersDepth] at shallow
    rw [readBackMembers, canonical.1.readBack_eq (by omega),
      CanonicalMembers.readBack_eq canonical.2 (by omega)]

end

mutual

/-- A tree nested too deep is not read back in full. -/
theorem isReadable_readBack : ∀ {tree : Tree} {allowed : Nat}, allowed < tree.depth →
    (tree.readBack allowed).isReadable = false
  | array items, allowed, deep => by
    simp only [depth] at deep
    cases allowed with
    | zero => rfl
    | succ allowed => exact itemsReadable_readBack (by omega)
  | object members, allowed, deep => by
    simp only [depth] at deep
    cases allowed with
    | zero => rfl
    | succ allowed => exact membersReadable_readBack (by omega)
  | null, _, deep | bool _, _, deep | string _, _, deep | integer _, _, deep | float _, _, deep
  | unreadable, _, deep => absurd deep (Nat.not_lt_zero _)

theorem itemsReadable_readBack : ∀ {items : List Tree} {allowed : Nat},
    allowed < itemsDepth items → itemsReadable (readBackItems allowed items) = false
  | [], _, deep => absurd deep (Nat.not_lt_zero _)
  | item :: rest, allowed, deep => by
    simp only [itemsDepth] at deep
    rw [readBackItems, itemsReadable, Bool.and_eq_false_iff]
    by_cases first : allowed < item.depth
    · exact Or.inl (isReadable_readBack first)
    · exact Or.inr (itemsReadable_readBack (by omega))

theorem membersReadable_readBack : ∀ {members : List (String × Tree)} {allowed : Nat},
    allowed < membersDepth members → membersReadable (readBackMembers allowed members) = false
  | [], _, deep => absurd deep (Nat.not_lt_zero _)
  | (key, value) :: rest, allowed, deep => by
    simp only [membersDepth] at deep
    rw [readBackMembers, membersReadable, Bool.and_eq_false_iff]
    by_cases first : allowed < value.depth
    · exact Or.inl (isReadable_readBack first)
    · exact Or.inr (membersReadable_readBack (by omega))

end

end SignalGraph.Tree
