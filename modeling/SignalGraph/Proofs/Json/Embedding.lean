import SignalGraph.Json.Record
import SignalGraph.Proofs.KeyMap

/-! What a tree denotes: a value without embeddings denotes itself, and an embedding never does.

The weight of a tree bounds the text it is read from, so that the value of an embedded text weighs
less than the object around the text. Nothing else that happens to a tree makes it heavier, and a
tree that denotes a value as heavy as itself has no embedding in it.
-/

set_option autoImplicit false

namespace SignalGraph

namespace Tree

/-! ## Plain trees -/

mutual

/-- No object of the tree begins with the key reserved for embedded texts. -/
def Plain : Tree → Prop
  | array items => PlainItems items
  | object members => Json.isEmbedding members = false ∧ PlainMembers members
  | _ => True

def PlainItems : List Tree → Prop
  | [] => True
  | item :: rest => item.Plain ∧ PlainItems rest

def PlainMembers : List (String × Tree) → Prop
  | [] => True
  | (_, value) :: rest => value.Plain ∧ PlainMembers rest

end

mutual

def Plain.decide : (tree : Tree) → Decidable tree.Plain
  | array items => PlainItems.decide items
  | object members =>
    have := PlainMembers.decide members
    inferInstanceAs (Decidable (_ ∧ _))
  | null | bool _ | integer _ | float _ | string _ | unreadable => .isTrue trivial

def PlainItems.decide : (items : List Tree) → Decidable (PlainItems items)
  | [] => .isTrue trivial
  | item :: rest =>
    have := Plain.decide item
    have := PlainItems.decide rest
    inferInstanceAs (Decidable (_ ∧ _))

def PlainMembers.decide : (members : List (String × Tree)) → Decidable (PlainMembers members)
  | [] => .isTrue trivial
  | (_, value) :: rest =>
    have := Plain.decide value
    have := PlainMembers.decide rest
    inferInstanceAs (Decidable (_ ∧ _))

end

instance (tree : Tree) : Decidable tree.Plain := Plain.decide tree

theorem plainItems_iff {items : List Tree} : PlainItems items ↔ ∀ item ∈ items, item.Plain := by
  induction items with
  | nil => simp [PlainItems]
  | cons item rest ih => simp [PlainItems, ih]

theorem plainMembers_iff {members : List (String × Tree)} :
    PlainMembers members ↔ ∀ entry ∈ members, entry.2.Plain := by
  induction members with
  | nil => simp [PlainMembers]
  | cons entry rest ih => simp [PlainMembers, ih]

/-! ## Weight -/

mutual

/-- No text that the tree is read from is shorter. -/
def weight : Tree → Nat
  | string text => text.length + 1
  | array items => itemsWeight items + 1
  | object members => membersWeight members + 1
  | _ => 1

def itemsWeight : List Tree → Nat
  | [] => 0
  | item :: rest => item.weight + itemsWeight rest

def membersWeight : List (String × Tree) → Nat
  | [] => 0
  | (key, value) :: rest => key.length + value.weight + membersWeight rest

end

theorem weight_pos (tree : Tree) : 0 < tree.weight := by
  cases tree <;> simp [weight]

/-- The weight of members whose keys are still in code units. -/
def unitsWeight : List (List Nat × Tree) → Nat
  | [] => 0
  | (units, value) :: rest => units.length + value.weight + unitsWeight rest

theorem length_characters? {units : List Nat} {characters : List Char}
    (denoted : characters? units = some characters) : characters.length ≤ units.length := by
  fun_induction characters? units generalizing characters with
  | case1 => simp_all
  | case2 => cases denoted
  | case3 unit high low rest _ ih | case6 unit rest _ _ ih =>
    obtain ⟨others, read, rfl⟩ := Option.map_eq_some_iff.mp denoted
    have shorter := ih read
    simp only [List.length_cons]
    omega
  | case4 => cases denoted
  | case5 => cases denoted

theorem length_readUnits {text rest : List Char} {units : List Nat}
    (read : readUnits text = some (units, rest)) :
    units.length + rest.length + 1 ≤ text.length := by
  fun_induction readUnits text generalizing units with
  | case1 => cases read
  | case2 => simp_all
  | case3 a b c d text ih | case4 mark text _ ih =>
    obtain ⟨unit, -, read⟩ := Option.bind_eq_some_iff.mp read
    obtain ⟨⟨more, after⟩, next, same⟩ := Option.bind_eq_some_iff.mp read
    cases same
    have shorter := ih next
    simp only [List.length_cons]
    omega
  | case5 => cases read
  | case6 c text _ _ _ _ ih =>
    obtain ⟨⟨more, after⟩, next, same⟩ := Option.bind_eq_some_iff.mp read
    cases same
    have shorter := ih next
    simp only [List.length_cons]
    omega

theorem length_splitDigits (text : List Char) :
    (splitDigits text).1.length + (splitDigits text).2.length = text.length := by
  rw [splitDigits, ← List.length_append, List.takeWhile_append_dropWhile]

theorem length_readPlaces {text places rest : List Char}
    (read : readPlaces text = some (places, rest)) : rest.length ≤ text.length := by
  unfold readPlaces at read
  split at read
  · rename_i digits
    have split := length_splitDigits digits
    dsimp only at read
    split at read
    · cases read
    · cases read
      simp only [List.length_cons]
      omega
  · cases read
    exact Nat.le_refl _

theorem length_splitSign (text : List Char) :
    (Numeral.splitSign text).2.length ≤ text.length := by
  unfold Numeral.splitSign
  split <;> simp

theorem length_readExponent {text rest : List Char} {exponent : Option Int}
    (read : readExponent text = some (exponent, rest)) : rest.length ≤ text.length := by
  unfold readExponent at read
  split at read
  · cases read
    exact Nat.le_refl _
  · rename_i mark digits
    have signed := length_splitSign digits
    have split := length_splitDigits (Numeral.splitSign digits).2
    split at read
    · dsimp only at read
      split at read
      · cases read
      · cases read
        simp only [List.length_cons]
        omega
    · cases read
      exact Nat.le_refl _

theorem weight_ofLiteral (negative : Bool) (whole places : List Char) (exponent : Option Int) :
    (ofLiteral negative whole places exponent).weight = 1 := by
  simp only [ofLiteral]
  generalize (if negative = true then -(digitsValue 0 whole : Int) else digitsValue 0 whole) = n
  split
  · rfl
  · split <;> rfl

theorem weight_readNumber {negative : Bool} {text rest : List Char} {tree : Tree}
    (read : readNumber negative text = some (tree, rest)) :
    tree.weight + rest.length ≤ text.length := by
  have split := length_splitDigits text
  simp only [readNumber] at read
  split at read
  · cases read
  · rename_i accepted
    obtain ⟨⟨places, afterPlaces⟩, first, read⟩ := Option.bind_eq_some_iff.mp read
    obtain ⟨⟨exponent, after⟩, second, read⟩ := Option.bind_eq_some_iff.mp read
    cases read
    have some : 0 < (splitDigits text).1.length :=
      List.length_pos_iff.mpr fun empty => accepted (Or.inl empty)
    have placesShorter := length_readPlaces first
    have exponentShorter := length_readExponent second
    rw [weight_ofLiteral]
    dsimp only at exponentShorter ⊢
    omega

/-- Characters of the text a key denotes are no more than its code units. -/
theorem weight_ofUnitMembers (members : List (List Nat × Tree)) :
    (ofUnitMembers members).weight ≤ unitsWeight members + 1 := by
  unfold ofUnitMembers
  split
  · rename_i denoted read
    rw [weight]
    refine Nat.add_le_add_right ?_ 1
    induction members generalizing denoted with
    | nil =>
      cases read
      exact Nat.le_refl 0
    | cons entry rest ih =>
      rw [List.mapM_cons] at read
      obtain ⟨first, key, read⟩ := Option.bind_eq_some_iff.mp read
      obtain ⟨others, more, same⟩ := Option.bind_eq_some_iff.mp read
      cases same
      obtain ⟨text, units, rfl⟩ := Option.map_eq_some_iff.mp key
      obtain ⟨characters, decoded, rfl⟩ := Option.map_eq_some_iff.mp units
      have shorter := length_characters? decoded
      have lighter := ih others more
      simp only [membersWeight, unitsWeight, String.length_ofList]
      omega
  · exact Nat.le_add_left 1 _

/-! ## What is read is not heavier than the text it is read from -/

theorem length_skipSpace (text : List Char) : (skipSpace text).length ≤ text.length :=
  (List.dropWhile_suffix _).length_le

/-- The reader with that much fuel takes a character for every unit of weight. -/
structure Pays (fuel : Nat) : Prop where
  value : ∀ {allowed text tree rest}, readValue fuel allowed text = some (tree, rest) →
    tree.weight + rest.length ≤ text.length
  items : ∀ {allowed text items rest}, readItems fuel allowed text = some (items, rest) →
    itemsWeight items + rest.length < text.length
  moreItems : ∀ {allowed text items rest}, readMoreItems fuel allowed text = some (items, rest) →
    itemsWeight items + rest.length < text.length
  member : ∀ {allowed text units value rest},
    readMember fuel allowed text = some ((units, value), rest) →
    units.length + value.weight + rest.length ≤ text.length
  members : ∀ {allowed text members rest}, readMembers fuel allowed text = some (members, rest) →
    unitsWeight members + rest.length < text.length
  moreMembers : ∀ {allowed text members rest},
    readMoreMembers fuel allowed text = some (members, rest) →
    unitsWeight members + rest.length < text.length

theorem pays_zero : Pays 0 where
  value := nofun
  items := nofun
  moreItems := nofun
  member := nofun
  members := nofun
  moreMembers := nofun

theorem weight_nested (allowed : Nat) (container : Tree) :
    (nested allowed container).weight ≤ container.weight := by
  unfold nested
  split
  · exact container.weight_pos
  · exact Nat.le_refl _

theorem weight_ofUnits (units : List Nat) :
    (((textOfUnits? units).map string).getD unreadable).weight ≤ units.length + 1 := by
  cases denoted : textOfUnits? units with
  | none => exact Nat.le_add_left 1 _
  | some text =>
    obtain ⟨characters, decoded, rfl⟩ := Option.map_eq_some_iff.mp denoted
    have shorter := length_characters? decoded
    simpa [weight] using shorter

theorem Pays.succ {fuel : Nat} (pays : Pays fuel) : Pays (fuel + 1) where
  value {allowed text tree rest} read := by
    unfold readValue at read
    split at read
    case h_1 | h_2 | h_3 =>
      cases read
      simp only [weight, List.length_cons]
      omega
    case h_4 =>
      obtain ⟨⟨units, after⟩, string, read⟩ := Option.bind_eq_some_iff.mp read
      cases read
      have text := weight_ofUnits units
      have shorter := length_readUnits string
      simp only [List.length_cons]
      omega
    case h_5 _ text =>
      obtain ⟨⟨items, after⟩, inside, read⟩ := Option.bind_eq_some_iff.mp read
      cases read
      have container := weight_nested allowed (array items)
      have paid := pays.items inside
      have blanks := length_skipSpace text
      simp only [weight, List.length_cons] at container ⊢
      omega
    case h_6 _ text =>
      obtain ⟨⟨members, after⟩, inside, read⟩ := Option.bind_eq_some_iff.mp read
      cases read
      have container := weight_nested allowed (ofUnitMembers members)
      have keys := weight_ofUnitMembers members
      have paid := pays.members inside
      have blanks := length_skipSpace text
      simp only [List.length_cons]
      omega
    case h_7 =>
      have paid := weight_readNumber read
      simp only [List.length_cons]
      omega
    case h_8 => exact weight_readNumber read
  items {allowed text items rest} read := by
    unfold readItems at read
    split at read
    case h_1 => cases read
    case h_2 =>
      cases read
      simp [itemsWeight]
    case h_3 _ _ _ same _ =>
      cases same
      obtain ⟨⟨item, after⟩, first, read⟩ := Option.bind_eq_some_iff.mp read
      obtain ⟨⟨others, last⟩, next, read⟩ := Option.bind_eq_some_iff.mp read
      cases read
      have paid := pays.value first
      have more := pays.moreItems next
      have blanks := length_skipSpace after
      simp only [itemsWeight]
      omega
  moreItems {allowed text items rest} read := by
    unfold readMoreItems at read
    split at read
    case h_1 _ _ _ text same =>
      cases same
      obtain ⟨⟨item, after⟩, first, read⟩ := Option.bind_eq_some_iff.mp read
      obtain ⟨⟨others, last⟩, next, read⟩ := Option.bind_eq_some_iff.mp read
      cases read
      have paid := pays.value first
      have more := pays.moreItems next
      have start := length_skipSpace text
      have blanks := length_skipSpace after
      simp only [itemsWeight, List.length_cons]
      omega
    case h_2 =>
      cases read
      simp [itemsWeight]
    case h_3 => cases read
  member {allowed text units value rest} read := by
    unfold readMember at read
    split at read
    case h_1 _ _ _ text same =>
      cases same
      obtain ⟨⟨key, after⟩, string, read⟩ := Option.bind_eq_some_iff.mp read
      dsimp only at read
      split at read
      case h_1 afterKey afterColon colon =>
        obtain ⟨⟨tree, last⟩, inside, read⟩ := Option.bind_eq_some_iff.mp read
        cases read
        have paid := pays.value inside
        have shorter := length_readUnits string
        have start := colon ▸ length_skipSpace after
        have blanks := length_skipSpace afterColon
        simp only [List.length_cons] at start ⊢
        omega
      case h_2 => cases read
    case h_2 => cases read
  members {allowed text members rest} read := by
    unfold readMembers at read
    split at read
    case h_1 => cases read
    case h_2 =>
      cases read
      simp [unitsWeight]
    case h_3 _ _ _ same _ =>
      cases same
      obtain ⟨⟨⟨units, value⟩, after⟩, first, read⟩ := Option.bind_eq_some_iff.mp read
      obtain ⟨⟨others, last⟩, next, read⟩ := Option.bind_eq_some_iff.mp read
      cases read
      have paid := pays.member first
      have more := pays.moreMembers next
      have blanks := length_skipSpace after
      simp only [unitsWeight]
      omega
  moreMembers {allowed text members rest} read := by
    unfold readMoreMembers at read
    split at read
    case h_1 _ _ _ text same =>
      cases same
      obtain ⟨⟨⟨units, value⟩, after⟩, first, read⟩ := Option.bind_eq_some_iff.mp read
      obtain ⟨⟨others, last⟩, next, read⟩ := Option.bind_eq_some_iff.mp read
      cases read
      have paid := pays.member first
      have more := pays.moreMembers next
      have start := length_skipSpace text
      have blanks := length_skipSpace after
      simp only [unitsWeight, List.length_cons]
      omega
    case h_2 =>
      cases read
      simp [unitsWeight]
    case h_3 => cases read

theorem pays (fuel : Nat) : Pays fuel := by
  induction fuel with
  | zero => exact pays_zero
  | succ fuel ih => exact ih.succ

theorem weight_read? {text : String} {tree : Tree} (read : read? text = some tree) :
    tree.weight ≤ text.length := by
  simp only [read?] at read
  split at read
  · rename_i found rest value
    split at read
    · cases read
      have paid := (pays _).value value
      have blanks := length_skipSpace text.toList
      rw [String.length_toList] at blanks
      omega
    · cases read
  · cases read

/-! ## Maps -/

theorem membersWeight_insertEntry (key : String) (value : Tree) (members : List (String × Tree)) :
    membersWeight (insertEntry key value members) ≤
      key.length + value.weight + membersWeight members := by
  induction members with
  | nil => exact Nat.le_refl _
  | cons entry rest ih =>
    unfold insertEntry
    split
    · exact Nat.le_refl _
    · split
      · simp only [membersWeight]
        omega
      · simp only [membersWeight]
        omega

/-- Of members with one key only the last stays, so a map weighs no more than its members. -/
theorem membersWeight_insertAll (map : KeyMap Tree) (members : List (String × Tree)) :
    membersWeight (map.insertAll members).entries ≤
      membersWeight map.entries + membersWeight members := by
  induction members generalizing map with
  | nil => exact Nat.le_refl _
  | cons entry rest ih =>
    have step : map.insertAll (entry :: rest) = (map.insert entry.1 entry.2).insertAll rest := rfl
    have inserted : membersWeight (map.insert entry.1 entry.2).entries ≤
        entry.1.length + entry.2.weight + membersWeight map.entries :=
      membersWeight_insertEntry _ _ _
    have later := ih (map.insert entry.1 entry.2)
    rw [step, membersWeight]
    omega

theorem membersWeight_ofList (members : List (String × Tree)) :
    membersWeight (KeyMap.ofList members).entries ≤ membersWeight members := by
  have weight := membersWeight_insertAll .empty members
  rwa [KeyMap.empty, membersWeight, Nat.zero_add] at weight

end Tree

namespace Json

/-- The members of a map of values, as trees. -/
def memberTrees (entries : List (String × Json)) : List (String × Tree) :=
  entries.map fun entry => (entry.1, entry.2.tree)

theorem memberTrees_injective {first second : List (String × Json)}
    (same : memberTrees first = memberTrees second) : first = second := by
  refine (List.map_inj_right fun left right equal => ?_).mp same
  obtain ⟨key, value⟩ := Prod.mk.inj equal
  exact Prod.ext key (Json.ext value)

theorem memberTrees_insertEntry (key : String) (value : Json) (entries : List (String × Json)) :
    memberTrees (insertEntry key value entries) =
      insertEntry key value.tree (memberTrees entries) := by
  induction entries with
  | nil => rfl
  | cons entry rest ih =>
    simp only [insertEntry, memberTrees, List.map_cons] at ih ⊢
    split
    · rfl
    · split
      · rfl
      · rw [List.map_cons, ih]

theorem memberTrees_insertAll (map : KeyMap Json) (trees : KeyMap Tree)
    (same : memberTrees map.entries = trees.entries) (entries : List (String × Json)) :
    memberTrees (map.insertAll entries).entries =
      (trees.insertAll (memberTrees entries)).entries := by
  induction entries generalizing map trees with
  | nil => exact same
  | cons entry rest ih =>
    have inserted : memberTrees (map.insert entry.1 entry.2).entries =
        (trees.insert entry.1 entry.2.tree).entries := by
      rw [KeyMap.insert, memberTrees_insertEntry, same]
      rfl
    exact ih _ _ inserted

theorem object_ofList (entries : List (String × Json)) :
    (object (.ofList entries)).tree = .object (KeyMap.ofList (memberTrees entries)).entries :=
  congrArg Tree.object (memberTrees_insertAll .empty .empty rfl entries)

/-! ## What a tree denotes -/

/-- A reader of embedded texts whose values weigh no more than their texts. -/
def Modest (embedded? : String → Option Json) : Prop :=
  ∀ (text : String) (value : Json), embedded? text = some value →
    value.tree.weight ≤ text.length

section Denoted

variable {embedded? : String → Option Json}

theorem denotedItems?_cons {item : Tree} {rest : List Tree} {values : List Json} :
    denotedItems? embedded? (item :: rest) = some values ↔
      ∃ value others, denoted? embedded? item = some value ∧
        denotedItems? embedded? rest = some others ∧ value :: others = values := by
  simp [denotedItems?, Option.bind_eq_some_iff]

theorem denotedMembers?_cons {key : String} {tree : Tree} {rest : List (String × Tree)}
    {entries : List (String × Json)} :
    denotedMembers? embedded? ((key, tree) :: rest) = some entries ↔
      ∃ value others, denoted? embedded? tree = some value ∧
        denotedMembers? embedded? rest = some others ∧ (key, value) :: others = entries := by
  simp [denotedMembers?, Option.bind_eq_some_iff]

theorem denoted?_object {members : List (String × Tree)} (other : isEmbedding members = false) :
    denoted? embedded? (.object members) =
      (denotedMembers? embedded? members).map fun entries => object (.ofList entries) := by
  simp [denoted?, other]

theorem denoted?_embedding {members : List (String × Tree)} {value : Json}
    (embedding : isEmbedding members = true)
    (denoted : denoted? embedded? (.object members) = some value) :
    ∃ key text, members = [(key, .string text)] ∧ embedded? text = some value := by
  rw [denoted?, if_pos embedding] at denoted
  obtain ⟨text, only, found⟩ := Option.bind_eq_some_iff.mp denoted
  unfold embeddedText? at only
  split at only
  · cases only
    exact ⟨_, _, rfl, found⟩
  · cases only

-- Trees nest in lists of items and of members, so each law is proved of all three at once.
mutual

theorem readable_of_denoted? : ∀ {tree : Tree} {value : Json},
    denoted? embedded? tree = some value → tree.isReadable = true
  | .array items, value, denoted => by
    obtain ⟨values, denoted, -⟩ := Option.map_eq_some_iff.mp denoted
    exact readable_of_denotedItems? denoted
  | .object members, value, denoted => by
    cases embedding : isEmbedding members with
    | true =>
      obtain ⟨key, text, rfl, -⟩ := denoted?_embedding embedding denoted
      rfl
    | false =>
      rw [denoted?_object embedding] at denoted
      obtain ⟨entries, denoted, -⟩ := Option.map_eq_some_iff.mp denoted
      exact readable_of_denotedMembers? denoted
  | .null, _, _ | .bool _, _, _ | .string _, _, _ | .integer _, _, _ | .float _, _, _ => rfl

theorem readable_of_denotedItems? : ∀ {items : List Tree} {values : List Json},
    denotedItems? embedded? items = some values → Tree.itemsReadable items = true
  | [], _, _ => rfl
  | item :: rest, values, denoted => by
    obtain ⟨value, others, first, more, -⟩ := denotedItems?_cons.mp denoted
    rw [Tree.itemsReadable, readable_of_denoted? first, readable_of_denotedItems? more]
    rfl

theorem readable_of_denotedMembers? : ∀ {members : List (String × Tree)}
    {entries : List (String × Json)},
    denotedMembers? embedded? members = some entries → Tree.membersReadable members = true
  | [], _, _ => rfl
  | (key, tree) :: rest, entries, denoted => by
    obtain ⟨value, others, first, more, -⟩ := denotedMembers?_cons.mp denoted
    rw [Tree.membersReadable, readable_of_denoted? first, readable_of_denotedMembers? more]
    rfl

end

mutual

/-- What a tree denotes weighs no more, and less if there is an embedding in the tree. -/
theorem weight_denoted? (modest : Modest embedded?) : ∀ {tree : Tree} {value : Json},
    denoted? embedded? tree = some value →
      value.tree.weight ≤ tree.weight ∧ (tree.weight ≤ value.tree.weight → tree.Plain)
  | .array items, value, denoted => by
    obtain ⟨values, inside, rfl⟩ := Option.map_eq_some_iff.mp denoted
    obtain ⟨lighter, plain⟩ := weight_denotedItems? modest inside
    simp only [array, Tree.weight, Tree.Plain]
    exact ⟨by omega, fun heavy => plain (by omega)⟩
  | .object members, value, denoted => by
    cases embedding : isEmbedding members with
    | true =>
      obtain ⟨key, text, rfl, found⟩ := denoted?_embedding embedding denoted
      have short := modest text value found
      simp only [Tree.weight, Tree.membersWeight]
      exact ⟨by omega, fun heavy => absurd heavy (by omega)⟩
    | false =>
      rw [denoted?_object embedding] at denoted
      obtain ⟨entries, inside, rfl⟩ := Option.map_eq_some_iff.mp denoted
      obtain ⟨lighter, plain⟩ := weight_denotedMembers? modest inside
      have kept := Tree.membersWeight_ofList (memberTrees entries)
      rw [object_ofList]
      simp only [Tree.weight, Tree.Plain]
      exact ⟨by omega, fun heavy => ⟨embedding, plain (by omega)⟩⟩
  | .null, value, denoted | .bool _, value, denoted | .string _, value, denoted => by
    cases denoted
    exact ⟨Nat.le_refl _, fun _ => trivial⟩
  | .integer _, value, denoted | .float _, value, denoted => by
    rw [denoted?] at denoted
    split at denoted
    · cases denoted
      exact ⟨Nat.le_refl _, fun _ => trivial⟩
    · cases denoted

theorem weight_denotedItems? (modest : Modest embedded?) : ∀ {items : List Tree}
    {values : List Json}, denotedItems? embedded? items = some values →
      Tree.itemsWeight (values.map tree) ≤ Tree.itemsWeight items ∧
      (Tree.itemsWeight items ≤ Tree.itemsWeight (values.map tree) → Tree.PlainItems items)
  | [], _, denoted => by
    cases denoted
    exact ⟨Nat.le_refl _, fun _ => trivial⟩
  | item :: rest, values, denoted => by
    obtain ⟨value, others, first, more, rfl⟩ := denotedItems?_cons.mp denoted
    obtain ⟨lighter, plain⟩ := weight_denoted? modest first
    obtain ⟨restLighter, restPlain⟩ := weight_denotedItems? modest more
    simp only [List.map_cons, Tree.itemsWeight, Tree.PlainItems]
    exact ⟨by omega, fun heavy => ⟨plain (by omega), restPlain (by omega)⟩⟩

theorem weight_denotedMembers? (modest : Modest embedded?) : ∀ {members : List (String × Tree)}
    {entries : List (String × Json)}, denotedMembers? embedded? members = some entries →
      Tree.membersWeight (memberTrees entries) ≤ Tree.membersWeight members ∧
      (Tree.membersWeight members ≤ Tree.membersWeight (memberTrees entries) →
        Tree.PlainMembers members)
  | [], _, denoted => by
    cases denoted
    exact ⟨Nat.le_refl _, fun _ => trivial⟩
  | (key, tree) :: rest, entries, denoted => by
    obtain ⟨value, others, first, more, rfl⟩ := denotedMembers?_cons.mp denoted
    obtain ⟨lighter, plain⟩ := weight_denoted? modest first
    obtain ⟨restLighter, restPlain⟩ := weight_denotedMembers? modest more
    have cons : memberTrees ((key, value) :: others) =
        (key, value.tree) :: memberTrees others := rfl
    simp only [cons, Tree.membersWeight, Tree.PlainMembers]
    exact ⟨by omega, fun heavy => ⟨plain (by omega), restPlain (by omega)⟩⟩

end

mutual

/-- A plain tree of a value denotes that value. -/
theorem denoted?_tree : ∀ {tree : Tree} (canonical : tree.Canonical), tree.Plain →
    denoted? embedded? tree = some ⟨tree, canonical⟩
  | .array items, canonical, plain => by
    obtain ⟨values, denoted, same⟩ := denotedItems?_tree canonical plain
    rw [denoted?, denoted, Option.map_some]
    exact congrArg some (Json.ext (congrArg Tree.array same))
  | .object members, canonical, plain => by
    obtain ⟨entries, denoted, same⟩ := denotedMembers?_tree canonical.2 plain.2
    have ordered : Ascending entries := by
      have keys : Ascending (memberTrees entries) := same ▸ canonical.1
      simpa only [Ascending, memberTrees, List.pairwise_map] using keys
    rw [denoted?_object plain.1, denoted, Option.map_some, KeyMap.ofList_eq ordered]
    exact congrArg some (Json.ext (congrArg Tree.object same))
  | .null, _, _ | .bool _, _, _ | .string _, _, _ => rfl
  | .integer _, canonical, _ | .float _, canonical, _ => dif_pos canonical

theorem denotedItems?_tree : ∀ {items : List Tree}, Tree.CanonicalItems items →
    Tree.PlainItems items →
    ∃ values, denotedItems? embedded? items = some values ∧ values.map tree = items
  | [], _, _ => ⟨[], rfl, rfl⟩
  | item :: rest, canonical, plain => by
    obtain ⟨values, denoted, same⟩ := denotedItems?_tree canonical.2 plain.2
    have first := denoted?_tree canonical.1 plain.1
    exact ⟨_, denotedItems?_cons.mpr ⟨_, _, first, denoted, rfl⟩, congrArg (item :: ·) same⟩

theorem denotedMembers?_tree : ∀ {members : List (String × Tree)}, Tree.CanonicalMembers members →
    Tree.PlainMembers members →
    ∃ entries, denotedMembers? embedded? members = some entries ∧ memberTrees entries = members
  | [], _, _ => ⟨[], rfl, rfl⟩
  | (key, tree) :: rest, canonical, plain => by
    obtain ⟨entries, denoted, same⟩ := denotedMembers?_tree canonical.2 plain.2
    have first := denoted?_tree canonical.1 plain.1
    exact ⟨_, denotedMembers?_cons.mpr ⟨_, _, first, denoted, rfl⟩,
      congrArg ((key, tree) :: ·) same⟩

end

end Denoted

/-! ## Embedded texts -/

theorem modest_ofNestedText? (fuel : Nat) : Modest (ofNestedText? fuel) := by
  induction fuel with
  | zero => exact nofun
  | succ fuel ih =>
    intro text value read
    obtain ⟨tree, read, denoted⟩ := Option.bind_eq_some_iff.mp read
    exact Nat.le_trans (weight_denoted? ih denoted).1 (Tree.weight_read? read)

theorem modest_ofText? : Modest ofText? :=
  fun text value read => modest_ofNestedText? (text.length + 1) text value read

end Json

end SignalGraph
