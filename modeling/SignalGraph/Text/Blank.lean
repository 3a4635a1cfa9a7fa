/-! Blank characters and the two questions asked about them: what is left of a text once
its ends are trimmed, and whether anything is left at all.

A character is blank when it has the Unicode property White_Space.
-/

set_option autoImplicit false

namespace SignalGraph

/-- The twenty-five characters of White_Space. -/
def isBlank (c : Char) : Bool :=
  let code := c.toNat
  (9 ≤ code && code ≤ 13) || code == 0x20 || code == 0x85 || code == 0xA0 || code == 0x1680 ||
  (0x2000 ≤ code && code ≤ 0x200A) || code == 0x2028 || code == 0x2029 || code == 0x202F ||
  code == 0x205F || code == 0x3000

def trimBlanks (characters : List Char) : List Char :=
  ((characters.dropWhile isBlank).reverse.dropWhile isBlank).reverse

/-- The text without the blanks at its two ends. -/
def trim (text : String) : String := String.ofList (trimBlanks text.toList)

/-- Nothing is left of the text once it is trimmed. -/
def isBlankText (text : String) : Bool := text.toList.all isBlank

theorem trim_toList (text : String) : (trim text).toList = trimBlanks text.toList := by
  simp [trim]

theorem isBlank_of_isWhitespace {c : Char} (h : c.isWhitespace = true) : isBlank c = true := by
  simp only [Char.isWhitespace, Bool.or_eq_true, decide_eq_true_eq] at h
  rcases h with ((h | h) | h) | h <;> subst h <;> decide

theorem dropWhile_eq_nil_iff_all {α : Type} (p : α → Bool) (items : List α) :
    items.dropWhile p = [] ↔ items.all p = true := by
  induction items with
  | nil => simp
  | cons first rest ih => by_cases h : p first = true <;> simp [h, ih]

theorem trimBlanks_eq_nil_iff (characters : List Char) :
    trimBlanks characters = [] ↔ characters.all isBlank = true := by
  rw [trimBlanks, List.reverse_eq_nil_iff, dropWhile_eq_nil_iff_all, List.all_reverse,
    ← dropWhile_eq_nil_iff_all isBlank characters]
  constructor
  · intro h
    rw [dropWhile_eq_nil_iff_all] at *
    induction characters with
    | nil => rfl
    | cons first rest ih => by_cases hb : isBlank first = true <;> simp_all
  · intro h; simp [h]

theorem trim_eq_empty_iff (text : String) : trim text = "" ↔ isBlankText text = true := by
  rw [isBlankText, ← trimBlanks_eq_nil_iff, ← trim_toList, String.toList_eq_nil_iff]

end SignalGraph
