import SignalGraph.Json.Record
import SignalGraph.Json.Value
import SignalGraph.Proofs.KeyMap
import Mathlib.Tactic.SplitIfs

/-! The numbers of a text, and what a record finds of them.

A reader takes no number beyond every double and no integer beyond 64 bits for what it is. So the
numbers of a tree that was read are in range, and so are those of its fields.
-/

set_option autoImplicit false

namespace SignalGraph

theorem mem_mapM? {α β : Type} {read : α → Option β} {values : List α} {results : List β}
    {result : β} (found : values.mapM read = some results) (member : result ∈ results) :
    ∃ value ∈ values, read value = some result := by
  induction values generalizing results with
  | nil =>
    cases found
    exact absurd member List.not_mem_nil
  | cons value rest ih =>
    rw [List.mapM_cons] at found
    obtain ⟨first, here, found⟩ := Option.bind_eq_some_iff.mp found
    obtain ⟨others, later, same⟩ := Option.bind_eq_some_iff.mp found
    cases same
    rcases List.mem_cons.mp member with rfl | member
    · exact ⟨value, List.mem_cons_self, here⟩
    · obtain ⟨other, present, same⟩ := ih later member
      exact ⟨other, List.mem_cons_of_mem value present, same⟩

namespace Tree

mutual

/-- The integers of the tree fit in 64 bits, and its floats are numbers. -/
def InRange : Tree → Prop
  | integer n => InIntegerRange n
  | float x => x.IsFinite
  | array items => ItemsInRange items
  | object members => MembersInRange members
  | null | bool _ | string _ | unreadable => True

def ItemsInRange : List Tree → Prop
  | [] => True
  | item :: rest => item.InRange ∧ ItemsInRange rest

def MembersInRange : List (String × Tree) → Prop
  | [] => True
  | (_, value) :: rest => value.InRange ∧ MembersInRange rest

end

theorem inRange_array_iff (items : List Tree) :
    (array items).InRange ↔ ∀ item ∈ items, item.InRange := by
  rw [InRange]
  induction items with
  | nil => simp [ItemsInRange]
  | cons item rest ih => simp [ItemsInRange, ih]

theorem inRange_object_iff (members : List (String × Tree)) :
    (object members).InRange ↔ ∀ entry ∈ members, entry.2.InRange := by
  rw [InRange]
  induction members with
  | nil => simp [MembersInRange]
  | cons entry rest ih => simp [MembersInRange, ih]

/-! ## Trees that were read -/

/-- What holds of every leaf, and of a container around parts of which it holds with one container
less to open. -/
structure Grows (P : Nat → Tree → Prop) : Prop where
  null : ∀ allowed, P allowed null
  bool : ∀ allowed value, P allowed (bool value)
  string : ∀ allowed text, P allowed (string text)
  unreadable : ∀ allowed, P allowed unreadable
  literal : ∀ allowed negative whole places exponent,
    P allowed (ofLiteral negative whole places exponent)
  array : ∀ allowed items, (∀ item ∈ items, P allowed item) → P (allowed + 1) (array items)
  object : ∀ allowed members, (∀ entry ∈ members, P allowed entry.2) →
    P (allowed + 1) (object members)

variable {P : Nat → Tree → Prop}

namespace Grows

variable (grows : Grows P)
include grows

theorem readNumber {negative : Bool} {text rest : List Char} {tree : Tree}
    (read : Tree.readNumber negative text = some (tree, rest)) (allowed : Nat) :
    P allowed tree := by
  simp only [Tree.readNumber] at read
  split at read
  · cases read
  · obtain ⟨_, -, read⟩ := Option.bind_eq_some_iff.mp read
    obtain ⟨_, -, read⟩ := Option.bind_eq_some_iff.mp read
    cases read
    exact grows.literal _ _ _ _ _

theorem nested_array {allowed : Nat} {items : List Tree}
    (holds : ∀ item ∈ items, P (allowed - 1) item) : P allowed (nested allowed (.array items)) := by
  cases allowed with
  | zero => exact grows.unreadable 0
  | succ allowed => exact grows.array allowed items holds

theorem nested_ofUnitMembers {allowed : Nat} {members : List (List Nat × Tree)}
    (holds : ∀ entry ∈ members, P (allowed - 1) entry.2) :
    P allowed (nested allowed (ofUnitMembers members)) := by
  cases allowed with
  | zero => exact grows.unreadable 0
  | succ allowed =>
    rw [nested, if_neg (Nat.succ_ne_zero allowed), ofUnitMembers]
    split
    · rename_i denoted read
      refine grows.object allowed denoted fun entry member => ?_
      obtain ⟨written, present, found⟩ := mem_mapM? read member
      obtain ⟨key, -, rfl⟩ := Option.map_eq_some_iff.mp found
      exact holds written present
    · exact grows.unreadable _

end Grows

/-- It holds of all that is read with that much fuel. -/
structure Yields (P : Nat → Tree → Prop) (fuel : Nat) : Prop where
  value : ∀ {allowed text tree rest}, readValue fuel allowed text = some (tree, rest) →
    P allowed tree
  items : ∀ {allowed text items rest}, readItems fuel allowed text = some (items, rest) →
    ∀ item ∈ items, P allowed item
  moreItems : ∀ {allowed text items rest}, readMoreItems fuel allowed text = some (items, rest) →
    ∀ item ∈ items, P allowed item
  member : ∀ {allowed text entry rest}, readMember fuel allowed text = some (entry, rest) →
    P allowed entry.2
  members : ∀ {allowed text members rest}, readMembers fuel allowed text = some (members, rest) →
    ∀ entry ∈ members, P allowed entry.2
  moreMembers : ∀ {allowed text members rest},
    readMoreMembers fuel allowed text = some (members, rest) →
    ∀ entry ∈ members, P allowed entry.2

theorem yields_zero : Yields P 0 where
  value := nofun
  items := nofun
  moreItems := nofun
  member := nofun
  members := nofun
  moreMembers := nofun

theorem Yields.succ (grows : Grows P) {fuel : Nat} (yields : Yields P fuel) :
    Yields P (fuel + 1) where
  value {allowed text tree rest} read := by
    unfold readValue at read
    split at read
    case h_1 =>
      cases read
      exact grows.null _
    case h_2 | h_3 =>
      cases read
      exact grows.bool _ _
    case h_4 =>
      obtain ⟨⟨units, after⟩, -, read⟩ := Option.bind_eq_some_iff.mp read
      cases read
      cases textOfUnits? units with
      | none => exact grows.unreadable _
      | some text => exact grows.string _ text
    case h_5 =>
      obtain ⟨⟨items, after⟩, inside, read⟩ := Option.bind_eq_some_iff.mp read
      cases read
      exact grows.nested_array (yields.items inside)
    case h_6 =>
      obtain ⟨⟨members, after⟩, inside, read⟩ := Option.bind_eq_some_iff.mp read
      cases read
      exact grows.nested_ofUnitMembers (yields.members inside)
    case h_7 | h_8 => exact grows.readNumber read _
  items {allowed text items rest} read := by
    unfold readItems at read
    split at read
    case h_1 => cases read
    case h_2 =>
      cases read
      exact List.forall_mem_nil _
    case h_3 _ _ _ same _ =>
      cases same
      obtain ⟨⟨item, after⟩, first, read⟩ := Option.bind_eq_some_iff.mp read
      obtain ⟨⟨others, last⟩, next, read⟩ := Option.bind_eq_some_iff.mp read
      cases read
      exact List.forall_mem_cons.mpr ⟨yields.value first, yields.moreItems next⟩
  moreItems {allowed text items rest} read := by
    unfold readMoreItems at read
    split at read
    case h_1 _ _ _ text same =>
      cases same
      obtain ⟨⟨item, after⟩, first, read⟩ := Option.bind_eq_some_iff.mp read
      obtain ⟨⟨others, last⟩, next, read⟩ := Option.bind_eq_some_iff.mp read
      cases read
      exact List.forall_mem_cons.mpr ⟨yields.value first, yields.moreItems next⟩
    case h_2 =>
      cases read
      exact List.forall_mem_nil _
    case h_3 => cases read
  member {allowed text entry rest} read := by
    unfold readMember at read
    split at read
    case h_1 _ _ _ text same =>
      cases same
      obtain ⟨⟨key, after⟩, -, read⟩ := Option.bind_eq_some_iff.mp read
      dsimp only at read
      split at read
      case h_1 =>
        obtain ⟨⟨tree, last⟩, inside, read⟩ := Option.bind_eq_some_iff.mp read
        cases read
        exact yields.value inside
      case h_2 => cases read
    case h_2 => cases read
  members {allowed text members rest} read := by
    unfold readMembers at read
    split at read
    case h_1 => cases read
    case h_2 =>
      cases read
      exact List.forall_mem_nil _
    case h_3 _ _ _ same _ =>
      cases same
      obtain ⟨⟨entry, after⟩, first, read⟩ := Option.bind_eq_some_iff.mp read
      obtain ⟨⟨others, last⟩, next, read⟩ := Option.bind_eq_some_iff.mp read
      cases read
      exact List.forall_mem_cons.mpr ⟨yields.member first, yields.moreMembers next⟩
  moreMembers {allowed text members rest} read := by
    unfold readMoreMembers at read
    split at read
    case h_1 _ _ _ text same =>
      cases same
      obtain ⟨⟨entry, after⟩, first, read⟩ := Option.bind_eq_some_iff.mp read
      obtain ⟨⟨others, last⟩, next, read⟩ := Option.bind_eq_some_iff.mp read
      cases read
      exact List.forall_mem_cons.mpr ⟨yields.member first, yields.moreMembers next⟩
    case h_2 =>
      cases read
      exact List.forall_mem_nil _
    case h_3 => cases read

theorem yields (grows : Grows P) (fuel : Nat) : Yields P fuel := by
  induction fuel with
  | zero => exact yields_zero
  | succ fuel ih => exact ih.succ grows

theorem Grows.of_read? (grows : Grows P) {text : String} {tree : Tree}
    (read : read? text = some tree) : P depthLimit tree := by
  simp only [read?] at read
  split at read
  · rename_i value
    split at read
    · cases read
      exact (yields grows _).value value
    · cases read
  · cases read

theorem inRange_ofLiteral (negative : Bool) (whole places : List Char) (exponent : Option Int) :
    (ofLiteral negative whole places exponent).InRange := by
  simp only [ofLiteral]
  generalize (if negative = true then -(digitsValue 0 whole : Int) else digitsValue 0 whole) = n
  split
  · rename_i fits
    exact fits.2.2.1
  · split <;> trivial

theorem grows_inRange : Grows fun _ tree => tree.InRange where
  null _ := trivial
  bool _ _ := trivial
  string _ _ := trivial
  unreadable _ := trivial
  literal _ := inRange_ofLiteral
  array _ items := (inRange_array_iff items).mpr
  object _ members := (inRange_object_iff members).mpr

/-- The numbers of a text are in range. -/
theorem inRange_of_read? {text : String} {tree : Tree} (read : read? text = some tree) :
    tree.InRange := grows_inRange.of_read? read

end Tree

/-! ## Numbers of a field -/

theorem nearestQuanta_le (n : Nat) : nearestQuanta n 1 ≤ 2 * n := by
  by_cases zero : n = 0
  · subst zero
    decide
  have idle : power 2 (idleBits n) ≤ n := by
    refine Nat.le_trans (power_le_power (by decide) (Nat.sub_le _ 52)) ?_
    exact Nat.log2_self_le zero
  have low : n / power 2 (idleBits n) * power 2 (idleBits n) ≤ n := Nat.div_mul_le_self _ _
  simp only [nearestQuanta, Nat.div_one, Nat.one_mul]
  split
  · omega
  · rw [Nat.add_mul]
    omega

theorem inIntegerRange_of_lt {n : Int} (small : n.natAbs < power 2 63) : InIntegerRange n := by
  have power63 : power 2 63 = 9223372036854775808 := by decide
  have power64 : power 2 64 = 18446744073709551616 := by decide
  unfold InIntegerRange
  omega

namespace Json

theorem tree_integer {n : Int} (inRange : InIntegerRange n) : (integer n).tree = .integer n := by
  rw [integer, dif_pos inRange]

theorem tree_float {x : Binary64} (bounded : x.IsFinite) : (float x).tree = .float x := by
  rw [float, dif_pos bounded]

theorem integer_inj {m n : Int} (inRange : InIntegerRange m) (otherInRange : InIntegerRange n) :
    integer m = integer n ↔ m = n := by
  rw [Json.ext_iff, tree_integer inRange, tree_integer otherInRange, Tree.integer.injEq]

theorem integer_ne_float {n : Int} {x : Binary64} (inRange : InIntegerRange n)
    (bounded : x.IsFinite) : integer n ≠ float x := by
  rw [Ne, Json.ext_iff, tree_integer inRange, tree_float bounded]
  exact nofun

end Json

namespace Binary64

theorem isFinite_of_round {negative : Bool} {numerator denominator : Nat} {x : Binary64}
    (small : nearestQuanta numerator denominator < quantaBound)
    (rounded : round negative numerator denominator = x) : x.IsFinite := by
  rw [round, dif_pos small] at rounded
  subst rounded
  trivial

/-- The integers of a value are far below the bound of doubles. -/
theorem isFinite_of_ofInt {n : Int} {x : Binary64} (inRange : InIntegerRange n)
    (rounded : ofInt n = x) : x.IsFinite := by
  have size : n.natAbs ≤ power 2 64 := by
    unfold InIntegerRange at inRange
    have half : power 2 63 ≤ power 2 64 := by decide +kernel
    omega
  have most : 2 * (power 2 64 * quantaPerUnit) < quantaBound := by decide +kernel
  have less : 2 * (n.natAbs * quantaPerUnit) ≤ 2 * (power 2 64 * quantaPerUnit) :=
    Nat.mul_le_mul_left 2 (Nat.mul_le_mul_right _ size)
  have small := Nat.lt_of_le_of_lt (nearestQuanta_le _) (Nat.lt_of_le_of_lt less most)
  exact isFinite_of_round small rounded

end Binary64

namespace Tree

theorem mem_of_fieldSlot? {members : List (String × Tree)} {names : List String} {given : Tree}
    (found : fieldSlot? members names = some (.given given)) :
    ∃ key, (key, given) ∈ members := by
  unfold fieldSlot? at found
  split at found
  · cases found
  · rename_i key tree only
    cases found
    have member : (key, given) ∈ members.filter fun entry => names.contains entry.1 :=
      only ▸ List.mem_cons_self
    exact ⟨key, (List.mem_filter.mp member).1⟩
  · cases found

/-- One of the items or of the members. -/
def IsPart (part : Tree) : Tree → Prop
  | array items => part ∈ items
  | object members => ∃ key, (key, part) ∈ members
  | _ => False

/-- What a record is given for its fields is part of its tree. -/
theorem isPart_of_slots? {tree part : Tree} {fields : List (List String)} {slots : List Slot}
    (found : tree.slots? fields = some slots) (member : Slot.given part ∈ slots) :
    part.IsPart tree := by
  cases tree with
  | object members =>
    obtain ⟨names, -, field⟩ := mem_mapM? found member
    exact mem_of_fieldSlot? field
  | array items =>
    rw [slots?] at found
    split at found
    · cases found
      rcases List.mem_append.mp member with member | member
      · obtain ⟨item, present, same⟩ := List.mem_map.mp member
        cases same
        exact present
      · cases List.eq_of_mem_replicate member
    · cases found
  | _ => cases found

variable {α : Type} {read : Tree → Option α}

theorem isPart_of_list? {tree : Tree} {values : List α} (found : tree.list? read = some values)
    {value : α} (member : value ∈ values) :
    ∃ part, part.IsPart tree ∧ read part = some value := by
  cases tree with
  | array items => exact mem_mapM? found member
  | _ => cases found

theorem isPart_of_keyMap? {tree : Tree} {map : KeyMap α} (found : tree.keyMap? read = some map)
    {entry : String × α} (member : entry ∈ map.entries) :
    ∃ part, part.IsPart tree ∧ read part = some entry.2 := by
  cases tree with
  | object members =>
    obtain ⟨entries, given, rfl⟩ := Option.map_eq_some_iff.mp found
    obtain ⟨written, present, entryRead⟩ := mem_mapM? given (KeyMap.mem_of_mem_ofList member)
    obtain ⟨value, valueRead, rfl⟩ := Option.map_eq_some_iff.mp entryRead
    exact ⟨written.2, ⟨written.1, present⟩, valueRead⟩
  | _ => cases found

theorem InRange.of_isPart {tree part : Tree} (inRange : tree.InRange) (isPart : part.IsPart tree) :
    part.InRange := by
  cases tree with
  | array items => exact (inRange_array_iff items).mp inRange part isPart
  | object members =>
    obtain ⟨key, present⟩ := isPart
    exact (inRange_object_iff members).mp inRange (key, part) present
  | _ => exact isPart.elim

theorem InRange.of_slots? {tree given : Tree} {fields : List (List String)} {slots : List Slot}
    (inRange : tree.InRange) (found : tree.slots? fields = some slots)
    (member : Slot.given given ∈ slots) : given.InRange :=
  inRange.of_isPart (isPart_of_slots? found member)

theorem InRange.of_tagged? {tree arguments : Tree} {tag word : String} (inRange : tree.InRange)
    (found : tree.tagged? tag = some (word, arguments)) : arguments.InRange := by
  unfold tagged? at found
  split at found
  · rename_i members
    obtain ⟨_, -, found⟩ := Option.bind_eq_some_iff.mp found
    split at found
    · cases found
      refine (inRange_object_iff _).mpr fun entry member => ?_
      exact (inRange_object_iff members).mp inRange entry (List.mem_filter.mp member).1
    · cases found
  · rename_i first rest
    obtain ⟨_, -, found⟩ := Option.bind_eq_some_iff.mp found
    cases found
    exact inRange.2
  · cases found

theorem InRange.number?_isFinite {tree : Tree} {x : Binary64} (inRange : tree.InRange)
    (read : tree.number? = some x) : x.IsFinite := by
  cases tree with
  | integer n => exact Binary64.isFinite_of_ofInt inRange (Option.some.inj read)
  | float value => exact Option.some.inj read ▸ inRange
  | _ => cases read

mutual

/-- The numbers of a value are in range. -/
theorem Canonical.inRange : ∀ {tree : Tree}, tree.Canonical → tree.InRange
  | integer _, canonical => canonical
  | float _, canonical => canonical
  | array _, canonical => CanonicalItems.inRange canonical
  | object _, canonical => CanonicalMembers.inRange canonical.2
  | null, _ | bool _, _ | string _, _ => trivial

theorem CanonicalItems.inRange : ∀ {items : List Tree}, CanonicalItems items → ItemsInRange items
  | [], _ => trivial
  | _ :: _, canonical => ⟨Canonical.inRange canonical.1, CanonicalItems.inRange canonical.2⟩

theorem CanonicalMembers.inRange : ∀ {members : List (String × Tree)},
    CanonicalMembers members → MembersInRange members
  | [], _ => trivial
  | (_, _) :: _, canonical =>
    ⟨Canonical.inRange canonical.1, CanonicalMembers.inRange canonical.2⟩

end

end Tree

namespace Slot

variable {α : Type} {read : Tree → Option α} {slot : Slot} {value : α}

theorem given_of_required (found : slot.required read = some value) :
    ∃ tree, slot = given tree ∧ read tree = some value := by
  cases slot with
  | given tree => exact ⟨tree, rfl, found⟩
  | _ => cases found

theorem optional_of_ne_null {tree : Tree} (other : tree ≠ .null) :
    (given tree).optional read = (read tree).map some := by
  cases tree with
  | null => exact absurd rfl other
  | _ => rfl

theorem nullAsDefault_of_ne_null {tree : Tree} (other : tree ≠ .null) (default : α) :
    (given tree).nullAsDefault read default = read tree := by
  cases tree with
  | null => exact absurd rfl other
  | _ => rfl

theorem given_of_optional (found : slot.optional read = some (some value)) :
    ∃ tree, slot = given tree ∧ tree ≠ .null ∧ read tree = some value := by
  cases slot with
  | given tree =>
    have other : tree ≠ .null := by
      rintro rfl
      cases found
    rw [optional_of_ne_null other] at found
    obtain ⟨inner, inside, same⟩ := Option.map_eq_some_iff.mp found
    cases same
    exact ⟨tree, rfl, other, inside⟩
  | _ => cases found

theorem given_of_nullAsDefault {default : α}
    (found : slot.nullAsDefault read default = some value) :
    (∃ tree, slot = given tree ∧ read tree = some value) ∨ value = default := by
  cases slot with
  | given tree =>
    by_cases null : tree = .null
    · subst null
      exact .inr (Option.some.inj found).symm
    · rw [nullAsDefault_of_ne_null null] at found
      exact .inl ⟨tree, rfl, found⟩
  | absent | cut => exact .inr (Option.some.inj found).symm

theorem given_of_orDefault {default : α} (found : slot.orDefault read default = some value) :
    (∃ tree, slot = given tree ∧ read tree = some value) ∨ value = default := by
  cases slot with
  | given tree => exact .inl ⟨tree, rfl, found⟩
  | absent | cut => exact .inr (Option.some.inj found).symm

end Slot

/-! ## Numbers that a record reads -/

namespace Tree.InRange

variable {tree : Tree} {fields : List (List String)} {slots : List Slot} {slot : Slot}
  {x : Binary64}
  (inRange : tree.InRange) (found : tree.slots? fields = some slots) (member : slot ∈ slots)
include inRange found member

theorem required_isFinite (read : slot.required number? = some x) : x.IsFinite := by
  obtain ⟨given, rfl, read⟩ := Slot.given_of_required read
  exact (inRange.of_slots? found member).number?_isFinite read

theorem optional_isFinite {given : Option Binary64} (read : slot.optional number? = some given) :
    ∀ x, given = some x → x.IsFinite := by
  rintro x rfl
  obtain ⟨given, rfl, -, number⟩ := Slot.given_of_optional read
  exact (inRange.of_slots? found member).number?_isFinite number

theorem orDefault_isFinite {default : Binary64} (finite : default.IsFinite)
    (read : slot.orDefault number? default = some x) : x.IsFinite := by
  rcases Slot.given_of_orDefault read with ⟨given, rfl, number⟩ | rfl
  · exact (inRange.of_slots? found member).number?_isFinite number
  · exact finite

end Tree.InRange

end SignalGraph
