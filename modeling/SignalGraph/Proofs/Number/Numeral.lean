import SignalGraph.Number.Numeral
import SignalGraph.Proofs.Json.Number
import SignalGraph.Text.Blank

/-! Integers as people write them.

The decimal text of an integer has no blanks around it. Read as a double, it is the double that the
integer is rounded to.
-/

set_option autoImplicit false

namespace SignalGraph

/-! ## Characters -/

theorem toNat_of_isDigit {c : Char} (digit : c.isDigit = true) : 48 ≤ c.toNat ∧ c.toNat ≤ 57 := by
  simp only [Char.isDigit, Bool.and_eq_true, decide_eq_true_eq, UInt32.le_iff_toNat_le] at digit
  exact digit

theorem isBlank_of_isDigit {c : Char} (digit : c.isDigit = true) : isBlank c = false := by
  obtain ⟨low, high⟩ := toNat_of_isDigit digit
  simp only [isBlank, Bool.or_eq_false_iff, Bool.and_eq_false_iff, decide_eq_false_iff_not,
    beq_eq_false_iff_ne]
  omega

theorem toLower_of_isDigit {c : Char} (digit : c.isDigit = true) : c.toLower = c := by
  obtain ⟨low, high⟩ := toNat_of_isDigit digit
  refine dif_neg fun upper => ?_
  have large : 65 ≤ c.toNat := UInt32.le_iff_toNat_le.mp upper.1
  omega

theorem trimBlanks_of_none {text : List Char} (none : ∀ c ∈ text, isBlank c = false) :
    trimBlanks text = text := by
  have kept : ∀ other : List Char, (∀ c ∈ other, isBlank c = false) →
      other.dropWhile isBlank = other := by
    intro other none
    cases other with
    | nil => rfl
    | cons first rest =>
      exact List.dropWhile_cons_of_neg (by rw [none first List.mem_cons_self]; decide)
  rw [trimBlanks, kept text none, kept _ (by simpa using none), List.reverse_reverse]

theorem toList_toString (n : Int) : (toString n).toList = Tree.integerText n := by
  cases n with
  | ofNat size => exact Nat.toList_repr
  | negSucc size =>
    have text : (toString (Int.negSucc size)).toList = '-' :: (size + 1).repr.toList :=
      String.toList_append
    rw [text, Nat.toList_repr, Tree.integerText, if_pos (Int.negSucc_lt_zero size)]
    rfl

namespace Numeral

variable {body : List Char} (all : AllDigits body)
include all

theorem splitSign_digits : splitSign body = (false, body) := by
  unfold splitSign
  split
  case h_1 => exact absurd (all '-' List.mem_cons_self) (by decide)
  case h_2 => exact absurd (all '+' List.mem_cons_self) (by decide)
  case h_3 => rfl

theorem decimal?_digits (some : body ≠ []) :
    decimal? body = .some ⟨digitsValue 0 body, 0⟩ := by
  have split : splitDigits (body ++ []) = (body, []) := Tree.splitDigits_append all nofun
  rw [List.append_nil] at split
  simp [decimal?, split, some, exponent?]

/-- Digits are no word for a double. -/
theorem ofList_ne {word : String} (letter : ∃ c ∈ word.toList, c.isDigit = false) :
    String.ofList body ≠ word := by
  rintro rfl
  obtain ⟨c, member, other⟩ := letter
  rw [String.toList_ofList] at member
  exact absurd (all c member) (Bool.eq_false_iff.mp other)

theorem double?_digits (negative : Bool) (some : body ≠ []) :
    double? (String.ofList (if negative then '-' :: body else body)) =
      .some (Decimal.toBinary64 negative ⟨digitsValue 0 body, 0⟩) := by
  have split : splitSign (if negative then '-' :: body else body) = (negative, body) := by
    cases negative
    · exact splitSign_digits all
    · rfl
  have lower : body.map Char.toLower = body :=
    (List.map_congr_left fun c member => toLower_of_isDigit (all c member)).trans body.map_id'
  have words : String.ofList body ≠ "inf" ∧ String.ofList body ≠ "infinity" ∧
      String.ofList body ≠ "nan" :=
    ⟨ofList_ne all ⟨'i', by decide⟩, ofList_ne all ⟨'i', by decide⟩, ofList_ne all ⟨'n', by decide⟩⟩
  simp [double?, split, lower, words, decimal?_digits all some]

end Numeral

theorem Decimal.toBinary64_size {n : Int} (inRange : InIntegerRange n) :
    Decimal.toBinary64 (n < 0) ⟨n.natAbs, 0⟩ = .ofInt n := by
  by_cases zero : n = 0
  · rw [zero, toBinary64, if_pos (.inl rfl), Binary64.zero, Binary64.ofInt, Int.natAbs_zero,
      Nat.zero_mul]
  have size : n.natAbs < power 10 309 := by
    have power309 : power 2 64 < power 10 309 := by decide +kernel
    have half : power 2 63 ≤ power 2 64 := by decide +kernel
    unfold InIntegerRange at inRange
    omega
  have place : leadingPlace ⟨n.natAbs, 0⟩ = digitCount n.natAbs := Int.add_zero _
  have few : digitCount n.natAbs ≤ 309 := (digitCount_le_iff (by decide)).mpr size
  have quotient : quotient ⟨n.natAbs, 0⟩ = (n.natAbs * quantaPerUnit, 1) := by
    have whole : (0 : Int) = .ofNat 0 := rfl
    rw [whole, quotient_ofNat, power_zero, Nat.mul_one]
  rw [toBinary64, if_neg, if_neg, quotient, Binary64.ofInt]
  · rw [place]
    omega
  · rw [place]
    dsimp only
    omega

/-- The double that the text of an integer stands for is the one that the integer is rounded to. -/
theorem double?_toString {n : Int} (inRange : InIntegerRange n) :
    Numeral.double? (trim (toString n)) = some (.ofInt n) := by
  have digits : AllDigits (Nat.toDigits 10 n.natAbs) := .toDigits n.natAbs
  have blanks : ∀ c ∈ Tree.integerText n, isBlank c = false := by
    intro c member
    unfold Tree.integerText at member
    split at member
    · rcases List.mem_cons.mp member with rfl | member
      · decide
      · exact isBlank_of_isDigit (digits c member)
    · exact isBlank_of_isDigit (digits c member)
  have text : Tree.integerText n =
      if decide (n < 0) then '-' :: Nat.toDigits 10 n.natAbs else Nat.toDigits 10 n.natAbs := by
    simp [Tree.integerText]
  rw [trim, toList_toString, trimBlanks_of_none blanks, text,
    Numeral.double?_digits digits _ Nat.toDigits_ne_nil, digitsValue_toDigits,
    Decimal.toBinary64_size inRange]

end SignalGraph
