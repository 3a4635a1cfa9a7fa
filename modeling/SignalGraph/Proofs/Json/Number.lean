import SignalGraph.Json.Printer
import SignalGraph.Proofs.Number.Decimal

/-! Numbers that are written are read back.

A literal is split where it was put together, provided that what follows cannot be taken for more
of it. The literal that is written for a decimal denotes the same number, in each of the written
forms.
-/

set_option autoImplicit false

namespace SignalGraph

/-! ## Digits -/

def AllDigits (digits : List Char) : Prop := ∀ digit ∈ digits, digit.isDigit = true

namespace AllDigits

variable {first second : List Char}

theorem nil : AllDigits [] := fun _ member => absurd member List.not_mem_nil

theorem append (left : AllDigits first) (right : AllDigits second) :
    AllDigits (first ++ second) := by
  intro digit member
  rcases List.mem_append.mp member with member | member
  · exact left digit member
  · exact right digit member

theorem take (all : AllDigits first) (count : Nat) : AllDigits (first.take count) :=
  fun digit member => all digit (List.mem_of_mem_take member)

theorem drop (all : AllDigits first) (count : Nat) : AllDigits (first.drop count) :=
  fun digit member => all digit (List.mem_of_mem_drop member)

theorem exists_cons (all : AllDigits first) (some : first ≠ []) :
    ∃ digit rest, first = digit :: rest ∧ digit.isDigit = true := by
  obtain ⟨digit, rest, rfl⟩ := List.exists_cons_of_ne_nil some
  exact ⟨digit, rest, rfl, all digit List.mem_cons_self⟩

theorem toDigits (n : Nat) : AllDigits (Nat.toDigits 10 n) :=
  fun _ member => Nat.isDigit_of_mem_toDigits (by decide) (by decide) member

theorem zeros (count : Nat) : AllDigits (List.replicate count '0') :=
  fun _ member => List.eq_of_mem_replicate member ▸ rfl

end AllDigits

theorem digitsValue_eq_ofDigitChars (read : Nat) (digits : List Char) :
    digitsValue read digits = Nat.ofDigitChars 10 digits read := by
  unfold digitsValue Nat.ofDigitChars
  congr 1
  funext value digit
  rw [Nat.mul_comm]

theorem digitsValue_append (read : Nat) (first second : List Char) :
    digitsValue read (first ++ second) = digitsValue (digitsValue read first) second :=
  List.foldl_append

theorem digitsValue_toDigits (n : Nat) : digitsValue 0 (Nat.toDigits 10 n) = n := by
  rw [digitsValue_eq_ofDigitChars, Nat.ofDigitChars_ten_toDigits]

theorem digitsValue_zeros (read count : Nat) :
    digitsValue read (List.replicate count '0') = read * power 10 count := by
  rw [digitsValue_eq_ofDigitChars, Nat.ofDigitChars_replicate_zero, Nat.mul_comm]
  rfl

theorem head?_toDigits_ne_zero {n : Nat} (nonzero : n ≠ 0) :
    (Nat.toDigits 10 n).head? ≠ some '0' := by
  induction n using Nat.strongRecOn with
  | ind n ih =>
    rw [Nat.toDigits_eq_if (by decide)]
    split
    · rename_i small
      have digits : ∀ digit < 10, digit ≠ 0 → Nat.digitChar digit ≠ '0' := by decide
      simpa using digits n small nonzero
    · rename_i large
      rw [List.head?_append, Option.or_of_isSome (List.isSome_head?.mpr Nat.toDigits_ne_nil)]
      exact ih (n / 10) (by omega) (by omega)

/-! ## Literals -/

namespace Tree

/-- No character comes next with which a number could go on. -/
def Closes (rest : List Char) : Prop :=
  ∀ next ∈ rest.head?, next.isDigit = false ∧ next ≠ '.' ∧ next ≠ 'e' ∧ next ≠ 'E'

theorem splitDigits_append {digits rest : List Char} (all : AllDigits digits)
    (stops : ∀ next ∈ rest.head?, next.isDigit = false) :
    splitDigits (digits ++ rest) = (digits, rest) := by
  have none : rest.takeWhile Char.isDigit = [] ∧ rest.dropWhile Char.isDigit = rest := by
    cases rest with
    | nil => exact ⟨rfl, rfl⟩
    | cons next rest => simp [stops next rfl]
  rw [splitDigits, List.takeWhile_append_of_pos all, List.dropWhile_append_of_pos all, none.1,
    none.2, List.append_nil]

/-- The parts of a number literal after its sign. -/
structure Literal where
  whole : List Char
  places : List Char
  exponent : Option Int

namespace Literal

def placesText (literal : Literal) : List Char :=
  match literal.places with
  | [] => []
  | places => '.' :: places

def exponentText (literal : Literal) : List Char :=
  match literal.exponent with
  | none => []
  | some exponent => Decimal.exponentText exponent

def text (literal : Literal) : List Char :=
  literal.whole ++ (literal.placesText ++ literal.exponentText)

/-- Digits before the point, no zero in front of another, and only digits after it. -/
structure WellFormed (literal : Literal) : Prop where
  whole_ne_nil : literal.whole ≠ []
  whole : AllDigits literal.whole
  leading : literal.whole.head? = some '0' → literal.whole.length = 1
  places : AllDigits literal.places

def decimal (literal : Literal) : Decimal :=
  ⟨digitsValue 0 (literal.whole ++ literal.places),
    literal.exponent.getD 0 - literal.places.length⟩

/-- The literal has a point or an exponent, so that it is no integer. -/
def IsFractional (literal : Literal) : Prop := literal.places ≠ [] ∨ literal.exponent ≠ none

variable {literal : Literal} {rest : List Char}

theorem readExponent_append (closes : Closes rest) :
    readExponent (literal.exponentText ++ rest) = some (literal.exponent, rest) := by
  obtain ⟨whole, places, exponent⟩ := literal
  cases exponent with
  | none =>
    cases rest with
    | nil => rfl
    | cons next rest =>
      obtain ⟨-, -, lower, upper⟩ := closes next rfl
      simp [exponentText, readExponent, lower, upper]
  | some exponent =>
    have digits : splitDigits (Nat.toDigits 10 exponent.natAbs ++ rest) =
        (Nat.toDigits 10 exponent.natAbs, rest) :=
      splitDigits_append (.toDigits _) fun next first => (closes next first).1
    have size := digitsValue_toDigits exponent.natAbs
    simp only [exponentText, Decimal.exponentText]
    split
    · simp only [List.cons_append, List.nil_append, readExponent, true_or, if_true,
        Numeral.splitSign, digits, Nat.toDigits_ne_nil, if_false, size]
      congr 3
      omega
    · simp only [List.cons_append, List.nil_append, readExponent, true_or, if_true,
        Numeral.splitSign, digits, Nat.toDigits_ne_nil, if_false, size]
      congr 3
      simp
      omega

/-- What follows the places starts with no digit and no point. -/
theorem exponentText_stops (literal : Literal) (closes : Closes rest) :
    ∀ next ∈ (literal.exponentText ++ rest).head?, next.isDigit = false ∧ next ≠ '.' := by
  obtain ⟨whole, places, exponent⟩ := literal
  cases exponent with
  | none => exact fun next first => ⟨(closes next first).1, (closes next first).2.1⟩
  | some exponent =>
    intro next first
    have mark : next = 'e' := by
      simp only [exponentText, Decimal.exponentText, List.append_assoc] at first
      split at first <;> simpa [eq_comm] using first
    subst mark
    decide

theorem readPlaces_append (wellFormed : literal.WellFormed) (closes : Closes rest) :
    readPlaces (literal.placesText ++ (literal.exponentText ++ rest)) =
      some (literal.places, literal.exponentText ++ rest) := by
  have stops := exponentText_stops literal closes
  generalize literal.exponentText ++ rest = rest at stops
  unfold placesText
  split
  · rename_i empty
    rw [empty, List.nil_append]
    cases rest with
    | nil => rfl
    | cons next rest =>
      have point : next ≠ '.' := (stops next rfl).2
      simp [readPlaces, point]
  · rename_i places some
    have split := splitDigits_append wellFormed.places fun next first => (stops next first).1
    simp only [List.cons_append, readPlaces, split, if_neg some]

theorem readNumber_append (negative : Bool) (wellFormed : literal.WellFormed)
    (closes : Closes rest) :
    readNumber negative (literal.text ++ rest) =
      some (ofLiteral negative literal.whole literal.places literal.exponent, rest) := by
  have stops : ∀ next ∈ (literal.placesText ++ (literal.exponentText ++ rest)).head?,
      next.isDigit = false := by
    unfold placesText
    split
    · exact fun next first => (exponentText_stops literal closes next first).1
    · rintro next ⟨⟩
      rfl
  have whole := splitDigits_append wellFormed.whole stops
  have accepted : ¬(literal.whole = [] ∨
      (literal.whole.head? = some '0' ∧ literal.whole.length ≠ 1)) := by
    rintro (empty | ⟨zero, long⟩)
    · exact wellFormed.whole_ne_nil empty
    · exact long (wellFormed.leading zero)
  simp only [text, List.append_assoc, readNumber, whole, if_neg accepted,
    readPlaces_append wellFormed closes, Option.bind_eq_bind, Option.bind_some,
    readExponent_append closes]
  rfl

end Literal

/-! ## The written forms -/

/-- The literal is what is written for the decimal. -/
structure Literal.Spells (literal : Literal) (decimal : Decimal) : Prop where
  text : decimal.written = literal.text
  wellFormed : literal.WellFormed
  fractional : literal.IsFractional
  value : ∀ negative, literal.decimal.toBinary64 negative = decimal.toBinary64 negative

section Forms

variable {digits : Nat} {exponent : Int}

theorem spells_zero : Literal.Spells ⟨['0'], ['0'], none⟩ ⟨0, exponent⟩ where
  text := rfl
  wellFormed := ⟨List.cons_ne_nil _ _, .zeros 1, fun _ => rfl, .zeros 1⟩
  fractional := Or.inl (List.cons_ne_nil _ _)
  value negative := by simp [Literal.decimal, Decimal.toBinary64, digitsValue]

theorem leadingPlace_eq (digits : Nat) (exponent : Int) :
    Decimal.leadingPlace ⟨digits, exponent⟩ = (Nat.toDigits 10 digits).length + exponent := rfl

variable (nonzero : digits ≠ 0)
include nonzero

/-- The digits stand behind the point, zeros in front of them. -/
theorem spells_small (near : -5 < Decimal.leadingPlace ⟨digits, exponent⟩)
    (place : Decimal.leadingPlace ⟨digits, exponent⟩ ≤ 0) :
    Literal.Spells
      ⟨['0'], List.replicate (-Decimal.leadingPlace ⟨digits, exponent⟩).toNat '0' ++
        Nat.toDigits 10 digits, none⟩
      ⟨digits, exponent⟩ where
  text := by
    have written : -5 < Decimal.leadingPlace ⟨digits, exponent⟩ ∧
        Decimal.leadingPlace ⟨digits, exponent⟩ ≤ 16 := ⟨near, by omega⟩
    simp [Decimal.written, nonzero, written, Decimal.positional, place, Literal.text,
      Literal.placesText, Literal.exponentText]
  wellFormed := by
    refine ⟨List.cons_ne_nil _ _, .zeros 1, fun _ => rfl, ?_⟩
    exact (AllDigits.zeros _).append (.toDigits digits)
  fractional := Or.inl (by simp [Nat.toDigits_ne_nil])
  value negative := by
    have position := leadingPlace_eq digits exponent
    have none : digitsValue 0 ['0'] = 0 := rfl
    congr 1
    simp only [Literal.decimal, digitsValue_append, none, digitsValue_zeros, Nat.zero_mul,
      digitsValue_toDigits, Option.getD_none, List.length_append, List.length_replicate,
      Decimal.mk.injEq, true_and]
    omega

/-- The digits stand in front of the point, zeros behind them. -/
theorem spells_large (place : 0 < Decimal.leadingPlace ⟨digits, exponent⟩)
    (far : Decimal.leadingPlace ⟨digits, exponent⟩ ≤ 16) (whole : 0 ≤ exponent) :
    Literal.Spells ⟨Nat.toDigits 10 digits ++ List.replicate exponent.toNat '0', ['0'], none⟩
      ⟨digits, exponent⟩ where
  text := by
    have written : -5 < Decimal.leadingPlace ⟨digits, exponent⟩ ∧
        Decimal.leadingPlace ⟨digits, exponent⟩ ≤ 16 := ⟨by omega, far⟩
    have position := leadingPlace_eq digits exponent
    have long : (Nat.toDigits 10 digits).length ≤
        (Decimal.leadingPlace ⟨digits, exponent⟩).toNat := by omega
    have zeros : (Decimal.leadingPlace ⟨digits, exponent⟩).toNat -
        (Nat.toDigits 10 digits).length = exponent.toNat := by omega
    simp [Decimal.written, nonzero, written, Decimal.positional, Int.not_le.mpr place, long, zeros,
      Literal.text, Literal.placesText, Literal.exponentText]
  wellFormed := by
    refine ⟨by simp [Nat.toDigits_ne_nil], (AllDigits.toDigits digits).append (.zeros _), ?_,
      .zeros 1⟩
    rw [List.head?_append, Option.or_of_isSome (List.isSome_head?.mpr Nat.toDigits_ne_nil)]
    exact fun zero => absurd zero (head?_toDigits_ne_zero nonzero)
  fractional := Or.inl (List.cons_ne_nil _ _)
  value negative := by
    have zero : ['0'] = List.replicate 1 '0' := rfl
    have value : Literal.decimal
        ⟨Nat.toDigits 10 digits ++ List.replicate exponent.toNat '0', ['0'], none⟩ =
        ⟨digits * power 10 (exponent.toNat + 1), -1⟩ := by
      simp only [Literal.decimal, zero, digitsValue_append, digitsValue_toDigits,
        digitsValue_zeros, Nat.mul_assoc, power_add]
      rfl
    have back : (-1 : Int) + (exponent.toNat + 1 : Nat) = exponent := by omega
    rw [value, Decimal.toBinary64_shift, back]

/-- The point stands among the digits. -/
theorem spells_middle (place : 0 < Decimal.leadingPlace ⟨digits, exponent⟩)
    (far : Decimal.leadingPlace ⟨digits, exponent⟩ ≤ 16) (broken : exponent < 0) :
    Literal.Spells
      ⟨(Nat.toDigits 10 digits).take (Decimal.leadingPlace ⟨digits, exponent⟩).toNat,
        (Nat.toDigits 10 digits).drop (Decimal.leadingPlace ⟨digits, exponent⟩).toNat, none⟩
      ⟨digits, exponent⟩ where
  text := by
    have written : -5 < Decimal.leadingPlace ⟨digits, exponent⟩ ∧
        Decimal.leadingPlace ⟨digits, exponent⟩ ≤ 16 := ⟨by omega, far⟩
    have position := leadingPlace_eq digits exponent
    have short : (Decimal.leadingPlace ⟨digits, exponent⟩).toNat <
        (Nat.toDigits 10 digits).length := by omega
    simp [Decimal.written, nonzero, written, Decimal.positional, Int.not_le.mpr place,
      Nat.not_le.mpr short, Literal.text, Literal.placesText, Literal.exponentText]
  wellFormed := by
    have all := AllDigits.toDigits digits
    have some : (Decimal.leadingPlace ⟨digits, exponent⟩).toNat ≠ 0 := by omega
    refine ⟨by simp [Nat.toDigits_ne_nil, some], .take all _, ?_, .drop all _⟩
    rw [List.head?_take, if_neg some]
    exact fun zero => absurd zero (head?_toDigits_ne_zero nonzero)
  fractional := by
    have position := leadingPlace_eq digits exponent
    refine Or.inl ?_
    rw [ne_eq, List.drop_eq_nil_iff]
    omega
  value negative := by
    have position := leadingPlace_eq digits exponent
    congr 1
    simp only [Literal.decimal, List.take_append_drop, digitsValue_toDigits, Option.getD_none,
      List.length_drop, Decimal.mk.injEq, true_and]
    omega

/-- One digit stands in front of the point, and an exponent behind. -/
theorem spells_scientific (outside : ¬(-5 < Decimal.leadingPlace ⟨digits, exponent⟩ ∧
      Decimal.leadingPlace ⟨digits, exponent⟩ ≤ 16)) :
    Literal.Spells ⟨(Nat.toDigits 10 digits).take 1, (Nat.toDigits 10 digits).drop 1,
      some (Decimal.leadingPlace ⟨digits, exponent⟩ - 1)⟩ ⟨digits, exponent⟩ where
  text := by
    simp only [Decimal.written, nonzero, if_false, if_neg outside]
    match split : Nat.toDigits 10 digits with
    | [] => exact absurd split Nat.toDigits_ne_nil
    | [digit] => rfl
    | digit :: next :: rest => rfl
  wellFormed := by
    have all := AllDigits.toDigits digits
    refine ⟨by simp [Nat.toDigits_ne_nil], .take all _, ?_, .drop all _⟩
    rw [List.head?_take, if_neg (by decide)]
    exact fun zero => absurd zero (head?_toDigits_ne_zero nonzero)
  fractional := Or.inr nofun
  value negative := by
    have position := leadingPlace_eq digits exponent
    have some := Nat.length_toDigits_pos (b := 10) (n := digits)
    congr 1
    simp only [Literal.decimal, List.take_append_drop, digitsValue_toDigits, Option.getD_some,
      List.length_drop, Decimal.mk.injEq, true_and]
    omega

end Forms

theorem exists_spells (decimal : Decimal) : ∃ literal : Literal, literal.Spells decimal := by
  obtain ⟨digits, exponent⟩ := decimal
  by_cases nonzero : digits = 0
  · exact ⟨_, nonzero ▸ spells_zero⟩
  by_cases outside : -5 < Decimal.leadingPlace ⟨digits, exponent⟩ ∧
      Decimal.leadingPlace ⟨digits, exponent⟩ ≤ 16
  · by_cases small : Decimal.leadingPlace ⟨digits, exponent⟩ ≤ 0
    · exact ⟨_, spells_small nonzero outside.1 small⟩
    · by_cases whole : 0 ≤ exponent
      · exact ⟨_, spells_large nonzero (Int.not_le.mp small) outside.2 whole⟩
      · exact ⟨_, spells_middle nonzero (Int.not_le.mp small) outside.2 (Int.not_le.mp whole)⟩
  · exact ⟨_, spells_scientific nonzero outside⟩

/-! ## Integers and floats -/

theorem readNumber_integer (negative : Bool) (size : Nat) {rest : List Char}
    (closes : Closes rest) :
    readNumber negative (Nat.toDigits 10 size ++ rest) =
      some (ofLiteral negative (Nat.toDigits 10 size) [] none, rest) := by
  have wellFormed : Literal.WellFormed ⟨Nat.toDigits 10 size, [], none⟩ := by
    refine ⟨Nat.toDigits_ne_nil, .toDigits size, ?_, .nil⟩
    intro zero
    by_cases nonzero : size = 0
    · rw [nonzero]
      rfl
    · exact absurd zero (head?_toDigits_ne_zero nonzero)
  have read := Literal.readNumber_append negative wellFormed closes
  simpa [Literal.text, Literal.placesText, Literal.exponentText] using read

theorem ofLiteral_integer {n : Int} (inRange : InIntegerRange n) :
    ofLiteral (n < 0) (Nat.toDigits 10 n.natAbs) [] none = integer n := by
  have size := digitsValue_toDigits n.natAbs
  have value : (if decide (n < 0) = true then -(n.natAbs : Int) else n.natAbs) = n := by
    simp only [decide_eq_true_eq]
    split <;> omega
  have signed : ¬(decide (n < 0) = true ∧ n.natAbs = 0) := by
    simp only [decide_eq_true_eq]
    omega
  simp only [ofLiteral, size, value, inRange, signed, not_false_eq_true, and_true, if_true]

/-- A finite float comes back from its text, sign and all. -/
theorem readNumber_float (negative : Bool) (magnitude : Magnitude) {rest : List Char}
    (closes : Closes rest) :
    readNumber negative (magnitude.shortestDecimal.written ++ rest) =
      some (float (.finite negative magnitude), rest) := by
  obtain ⟨literal, spells⟩ := exists_spells magnitude.shortestDecimal
  have fractional : ¬(literal.places = [] ∧ literal.exponent = none ∧
      InIntegerRange (if negative = true then -(digitsValue 0 literal.whole : Int)
        else digitsValue 0 literal.whole) ∧
      ¬(negative = true ∧ digitsValue 0 literal.whole = 0)) := by
    rintro ⟨noPlaces, noExponent, -⟩
    exact spells.fractional.elim (· noPlaces) (· noExponent)
  have value : literal.decimal.toBinary64 negative = .finite negative magnitude := by
    rw [spells.value, Decimal.toBinary64_eq_finite_iff]
    exact magnitude.readsBack_shortestDecimal
  rw [spells.text, Literal.readNumber_append negative spells.wellFormed closes, ofLiteral,
    if_neg fractional]
  unfold Literal.decimal at value
  simp only [value]

end Tree

end SignalGraph
