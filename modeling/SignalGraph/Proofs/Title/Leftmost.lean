import SignalGraph.Proofs.Title

/-! The declaration that decides the title.

`Declares` says what a declaration looks like, with nothing of how one is searched for. Of all
places of a text that begin one, the first decides. The run quoted there is the title once its ends
are trimmed. A blank run is no title, and hides every later declaration and every strategy.
-/

set_option autoImplicit false

namespace SignalGraph.Title

variable {keyword code text run : List Char} {title? : Option String}

/-- Where a run of items ends that have a property. -/
theorem takeWhile_dropWhile_iff {α : Type} {p : α → Bool} {items front rest : List α} {a : α} :
    items.takeWhile p = front ∧ items.dropWhile p = a :: rest ↔
      items = front ++ a :: rest ∧ front.all p = true ∧ p a = false := by
  constructor
  · rintro ⟨rfl, dropped⟩
    have stops := List.head?_dropWhile_not p items
    rw [dropped] at stops
    refine ⟨?_, List.all_takeWhile, stops⟩
    rw [← dropped, List.takeWhile_append_dropWhile]
  · rintro ⟨rfl, every, stops⟩
    have every := List.all_eq_true.mp every
    constructor
    · rw [List.takeWhile_append_of_pos every, List.takeWhile_cons, stops]
      exact List.append_nil front
    · rw [List.dropWhile_append_of_pos every, List.dropWhile_cons, stops]
      rfl

/-! ## One declaration -/

/-- The text begins with a nonempty run between two quotes of either sort. -/
def Quotes (text run : List Char) : Prop :=
  ∃ opening closing rest, text = opening :: (run ++ closing :: rest) ∧
    isQuote opening = true ∧ isQuote closing = true ∧ run ≠ [] ∧ ∀ c ∈ run, isQuote c = false

/-- The text begins with the keyword, an opening parenthesis and a quoted run. Blanks may stand
before and behind the parenthesis. -/
def Declares (keyword text run : List Char) : Prop :=
  ∃ before behind quoted, text = keyword ++ (before ++ '(' :: (behind ++ quoted)) ∧
    before.all isBlank = true ∧ behind.all isBlank = true ∧ Quotes quoted run

theorem quoted?_eq_some_iff : quoted? text = some run ↔ Quotes text run := by
  have unquoted : ∀ run : List Char,
      (run.all fun c => !isQuote c) = true ↔ ∀ c ∈ run, isQuote c = false := by simp
  cases text with
  | nil =>
    refine ⟨nofun, ?_⟩
    rintro ⟨opening, closing, rest, shape, -⟩
    cases shape
  | cons mark text =>
    simp only [quoted?, Option.ite_none_right_eq_some, Option.some.injEq]
    constructor
    · rintro ⟨⟨opens, nonempty, closed⟩, same⟩
      obtain ⟨closing, rest, dropped⟩ := List.exists_cons_of_ne_nil closed
      obtain ⟨split, plain, closes⟩ := takeWhile_dropWhile_iff.mp ⟨same, dropped⟩
      refine ⟨mark, closing, rest, congrArg (mark :: ·) split, opens, ?_, same ▸ nonempty,
        (unquoted run).mp plain⟩
      simpa using closes
    · rintro ⟨opening, closing, rest, shape, opens, closes, nonempty, plain⟩
      obtain ⟨rfl, rfl⟩ := List.cons.inj shape
      have stops : (!isQuote closing) = false := by rw [closes]; rfl
      obtain ⟨taken, dropped⟩ :=
        takeWhile_dropWhile_iff.mpr ⟨rfl, (unquoted run).mpr plain, stops⟩
      rw [taken, dropped]
      exact ⟨⟨opens, nonempty, List.cons_ne_nil closing rest⟩, rfl⟩

theorem not_isBlank_of_isQuote {c : Char} (quote : isQuote c = true) : isBlank c = false := by
  simp only [isQuote, Bool.or_eq_true, beq_iff_eq] at quote
  rcases quote with rfl | rfl <;> decide

/-- A scan over blanks stops at the character behind them. -/
theorem dropWhile_blanks_iff {c : Char} {rest : List Char} (solid : isBlank c = false) :
    text.dropWhile isBlank = c :: rest ↔
      ∃ blanks, text = blanks ++ c :: rest ∧ blanks.all isBlank = true := by
  constructor
  · intro dropped
    obtain ⟨split, blank, -⟩ := takeWhile_dropWhile_iff.mp ⟨rfl, dropped⟩
    exact ⟨_, split, blank⟩
  · rintro ⟨blanks, split, blank⟩
    exact (takeWhile_dropWhile_iff.mpr ⟨split, blank, solid⟩).2

theorem declaration?_eq_some_iff :
    declaration? keyword text = some run ↔ Declares keyword text run := by
  have opened : isBlank '(' = false := by decide
  have parenthesis : ∀ {text rest : List Char},
      after? ['('] text = some rest ↔ text = '(' :: rest := after?_eq_some_iff
  -- Blanks end for certain at the parenthesis and at the quote, which are none themselves.
  constructor
  · intro found
    obtain ⟨rest, named, found⟩ := Option.bind_eq_some_iff.mp found
    obtain ⟨inside, opens, found⟩ := Option.bind_eq_some_iff.mp found
    obtain ⟨before, split, blankBefore⟩ :=
      (dropWhile_blanks_iff opened).mp (parenthesis.mp opens)
    have quotes := quoted?_eq_some_iff.mp found
    obtain ⟨opening, closing, tail, shape, mark, -⟩ := id quotes
    obtain ⟨behind, inner, blankBehind⟩ :=
      (dropWhile_blanks_iff (not_isBlank_of_isQuote mark)).mp shape
    refine ⟨before, behind, inside.dropWhile isBlank, ?_, blankBefore, blankBehind, quotes⟩
    rw [after?_eq_some_iff.mp named, split, shape, ← inner]
  · rintro ⟨before, behind, quoted, rfl, blankBefore, blankBehind, quotes⟩
    obtain ⟨opening, closing, tail, shape, mark, -⟩ := id quotes
    refine Option.bind_eq_some_iff.mpr ⟨_, after?_eq_some_iff.mpr rfl, ?_⟩
    have opens := (dropWhile_blanks_iff opened).mpr
      ⟨before, (rfl : before ++ '(' :: (behind ++ quoted) = _), blankBefore⟩
    refine Option.bind_eq_some_iff.mpr ⟨_, parenthesis.mpr opens, ?_⟩
    have enters : (behind ++ quoted).dropWhile isBlank = quoted := by
      rw [shape]
      exact (dropWhile_blanks_iff (not_isBlank_of_isQuote mark)).mpr ⟨behind, rfl, blankBehind⟩
    rw [enters]
    exact quoted?_eq_some_iff.mpr quotes

theorem declaration?_eq_none_iff :
    declaration? keyword text = none ↔ ∀ run, ¬Declares keyword text run := by
  simp only [Option.eq_none_iff_forall_ne_some, ne_eq, declaration?_eq_some_iff]

/-! ## The first of them -/

/-- The run is quoted by the declaration at the first place that begins one. -/
def DeclaresFirst (keyword code run : List Char) : Prop :=
  ∃ place, Declares keyword (code.drop place) run ∧
    ∀ earlier < place, ∀ other, ¬Declares keyword (code.drop earlier) other

def DeclaresNowhere (keyword code : List Char) : Prop :=
  ∀ place run, ¬Declares keyword (code.drop place) run

theorem declares_nil (keyword run : List Char) : ¬Declares keyword [] run := by
  rintro ⟨before, behind, quoted, shape, -⟩
  simp at shape

theorem firstDeclaration?_eq_some_iff :
    firstDeclaration? keyword code = some run ↔ DeclaresFirst keyword code run := by
  induction code with
  | nil =>
    refine ⟨nofun, ?_⟩
    rintro ⟨place, declares, -⟩
    rw [List.drop_nil] at declares
    exact absurd declares (declares_nil keyword run)
  | cons c rest ih =>
    cases here : declaration? keyword (c :: rest) with
    | some quoted =>
      rw [firstDeclaration?, here]
      constructor
      · intro found
        exact ⟨0, declaration?_eq_some_iff.mp (here.trans found), fun _ below => by omega⟩
      · rintro ⟨place, declares, earlier⟩
        cases place with
        | zero => exact here.symm.trans (declaration?_eq_some_iff.mpr declares)
        | succ place =>
          exact absurd (declaration?_eq_some_iff.mp here) (earlier 0 (Nat.succ_pos place) quoted)
    | none =>
      have passed := declaration?_eq_none_iff.mp here
      rw [firstDeclaration?, here]
      simp only [ih]
      -- Places of the rest are those of the whole, one further on.
      constructor
      · rintro ⟨place, declares, earlier⟩
        refine ⟨place + 1, declares, fun before below => ?_⟩
        cases before with
        | zero => exact passed
        | succ before => exact earlier before (Nat.lt_of_succ_lt_succ below)
      · rintro ⟨place, declares, earlier⟩
        cases place with
        | zero => exact absurd declares (passed run)
        | succ place =>
          exact ⟨place, declares, fun before below => earlier (before + 1) (Nat.succ_lt_succ below)⟩

theorem firstDeclaration?_eq_none_iff :
    firstDeclaration? keyword code = none ↔ DeclaresNowhere keyword code := by
  induction code with
  | nil => simp [firstDeclaration?, DeclaresNowhere, declares_nil]
  | cons c rest ih =>
    have places : DeclaresNowhere keyword (c :: rest) ↔
        (∀ run, ¬Declares keyword (c :: rest) run) ∧ DeclaresNowhere keyword rest := by
      constructor
      · exact fun nowhere => ⟨nowhere 0, fun place => nowhere (place + 1)⟩
      · rintro ⟨here, later⟩ place
        cases place with
        | zero => exact here
        | succ place => exact later place
    rw [places, ← declaration?_eq_none_iff, ← ih, firstDeclaration?]
    cases declaration? keyword (c :: rest) <;> simp

/-! ## What is left of a run -/

/-- The text is not empty and neither begins nor ends with a blank. -/
def IsTrimmed (text : List Char) : Prop :=
  ∃ first last, text.head? = some first ∧ text.getLast? = some last ∧
    isBlank first = false ∧ isBlank last = false

/-- The title that a run gives: what stands between the blanks at its ends. -/
inductive Trims (run : List Char) : Option String → Prop where
  | blank (blank : run.all isBlank = true) : Trims run none
  | title {front title back : List Char} (split : run = front ++ title ++ back)
      (front : front.all isBlank = true) (back : back.all isBlank = true)
      (trimmed : IsTrimmed title) : Trims run (some (String.ofList title))

theorem dropWhile_of_head? {c : Char} (first : text.head? = some c) (solid : isBlank c = false) :
    text.dropWhile isBlank = text := by
  obtain ⟨rest, rfl⟩ := List.head?_eq_some_iff.mp first
  rw [List.dropWhile_cons, solid]
  rfl

theorem trimBlanks_append {front title back : List Char} (frontBlank : front.all isBlank = true)
    (backBlank : back.all isBlank = true) (trimmed : IsTrimmed title) :
    trimBlanks (front ++ title ++ back) = title := by
  obtain ⟨first, last, begins, ends, solidFirst, solidLast⟩ := trimmed
  have headed : (title ++ back).head? = some first := by rw [List.head?_append, begins]; rfl
  have reversed : title.reverse.head? = some last := by rw [List.head?_reverse, ends]
  have backward : back.reverse.all isBlank = true := by rw [List.all_reverse, backBlank]
  rw [trimBlanks, List.append_assoc, List.dropWhile_append_of_pos (List.all_eq_true.mp frontBlank),
    dropWhile_of_head? headed solidFirst, List.reverse_append,
    List.dropWhile_append_of_pos (List.all_eq_true.mp backward),
    dropWhile_of_head? reversed solidLast, List.reverse_reverse]

theorem head?_dropWhile_isBlank (solid : text.dropWhile isBlank ≠ []) :
    ∃ c, (text.dropWhile isBlank).head? = some c ∧ isBlank c = false := by
  obtain ⟨c, rest, dropped⟩ := List.exists_cons_of_ne_nil solid
  have stops := List.head?_dropWhile_not isBlank text
  rw [dropped] at stops ⊢
  exact ⟨c, rfl, stops⟩

/-- Trimming takes blanks away and leaves none at the ends. -/
theorem trims_trimBlanks (solid : trimBlanks run ≠ []) :
    Trims run (some (String.ofList (trimBlanks run))) := by
  -- Blanks go from the front first, and then from behind what is left.
  let inner := run.dropWhile isBlank
  let back := (inner.reverse.takeWhile isBlank).reverse
  have split : inner = trimBlanks run ++ back := by
    rw [trimBlanks, ← List.reverse_append, List.takeWhile_append_dropWhile, List.reverse_reverse]
  have whole : run = run.takeWhile isBlank ++ trimBlanks run ++ back := by
    rw [List.append_assoc, ← split, List.takeWhile_append_dropWhile]
  refine .title whole List.all_takeWhile ?_ ?_
  · rw [List.all_reverse]
    exact List.all_takeWhile
  · have nonempty : inner ≠ [] := by
      rw [split]
      exact List.append_ne_nil_of_left_ne_nil solid back
    obtain ⟨first, begins, solidFirst⟩ := head?_dropWhile_isBlank nonempty
    have reversed : inner.reverse.dropWhile isBlank ≠ [] := by
      rwa [trimBlanks, ne_eq, List.reverse_eq_nil_iff] at solid
    obtain ⟨last, ends, solidLast⟩ := head?_dropWhile_isBlank reversed
    refine ⟨first, last, ?_, ?_, solidFirst, solidLast⟩
    · change inner.head? = some first at begins
      rwa [split, List.head?_append_of_ne_nil _ solid] at begins
    · rw [trimBlanks, List.getLast?_reverse, ends]

theorem trims_iff :
    Trims run title? ↔
      title? = if run.all isBlank then none else some (String.ofList (trimBlanks run)) := by
  constructor
  · rintro (blank | ⟨rfl, front, back, trimmed⟩)
    · rw [if_pos blank]
    · rw [trimBlanks_append front back trimmed, if_neg]
      rw [← trimBlanks_eq_nil_iff, trimBlanks_append front back trimmed]
      obtain ⟨first, last, begins, -⟩ := trimmed
      rintro rfl
      cases begins
  · rintro rfl
    split
    case isTrue blank => exact .blank blank
    case isFalse solid =>
      exact trims_trimBlanks fun empty => solid ((trimBlanks_eq_nil_iff run).mp empty)

/-! ## The title -/

/-- The title of the code, if it has one. -/
inductive Titled (code : List Char) : Option String → Prop where
  | indicator {run : List Char} {title? : Option String}
      (first : DeclaresFirst "indicator".toList code run) (trims : Trims run title?) :
      Titled code title?
  | strategy {run : List Char} {title? : Option String}
      (nowhere : DeclaresNowhere "indicator".toList code)
      (first : DeclaresFirst "strategy".toList code run) (trims : Trims run title?) :
      Titled code title?
  | untitled (indicator : DeclaresNowhere "indicator".toList code)
      (strategy : DeclaresNowhere "strategy".toList code) : Titled code none

theorem ofCode?_eq_iff_of_declared? {code : String} (declared : declared? code.toList = some run) :
    ofCode? code = title? ↔ Trims run title? := by
  rw [trims_iff, ofCode?_of_declared? declared, eq_comm]

theorem titled_ofCode? (code : String) : Titled code.toList (ofCode? code) := by
  cases indicator : firstDeclaration? "indicator".toList code.toList with
  | some run =>
    have declared : declared? code.toList = some run := by rw [declared?, indicator]
    exact .indicator (firstDeclaration?_eq_some_iff.mp indicator)
      ((ofCode?_eq_iff_of_declared? declared).mp rfl)
  | none =>
    have nowhere := firstDeclaration?_eq_none_iff.mp indicator
    have rest : declared? code.toList = firstDeclaration? "strategy".toList code.toList := by
      rw [declared?, indicator]
    cases strategy : firstDeclaration? "strategy".toList code.toList with
    | some run =>
      exact .strategy nowhere (firstDeclaration?_eq_some_iff.mp strategy)
        ((ofCode?_eq_iff_of_declared? (rest.trans strategy)).mp rfl)
    | none =>
      have untitled : ofCode? code = none := by rw [ofCode?, rest, strategy]; rfl
      exact untitled ▸ .untitled nowhere (firstDeclaration?_eq_none_iff.mp strategy)

theorem ofCode?_of_titled {code : String} (titled : Titled code.toList title?) :
    ofCode? code = title? := by
  cases titled with
  | indicator first trims =>
    have found := firstDeclaration?_eq_some_iff.mpr first
    exact (ofCode?_eq_iff_of_declared? (by rw [declared?, found])).mpr trims
  | strategy nowhere first trims =>
    have missing := firstDeclaration?_eq_none_iff.mpr nowhere
    have found := firstDeclaration?_eq_some_iff.mpr first
    exact (ofCode?_eq_iff_of_declared? (by rw [declared?, missing, found])).mpr trims
  | untitled indicator strategy =>
    have missing := firstDeclaration?_eq_none_iff.mpr indicator
    have absent := firstDeclaration?_eq_none_iff.mpr strategy
    rw [ofCode?, declared?, missing, absent]
    rfl

/-- The characters of White_Space, one by one. -/
def whiteSpace : List Nat :=
  [0x9, 0xA, 0xB, 0xC, 0xD, 0x20, 0x85, 0xA0, 0x1680, 0x2000, 0x2001, 0x2002, 0x2003, 0x2004,
    0x2005, 0x2006, 0x2007, 0x2008, 0x2009, 0x200A, 0x2028, 0x2029, 0x202F, 0x205F, 0x3000]

theorem isBlank_iff_mem (c : Char) : isBlank c = true ↔ c.toNat ∈ whiteSpace := by
  simp only [isBlank, whiteSpace, Bool.or_eq_true, Bool.and_eq_true, decide_eq_true_eq, beq_iff_eq,
    List.mem_cons, List.not_mem_nil, or_false]
  omega

/-- What is read of a code is the run quoted by its first declaration of an indicator, or by its
first of a strategy if it has none of an indicator, without the blanks at the ends of the run. A
title holds no quote, and no blank at its ends. -/
theorem ofCode?_eq_iff_titled (code : String) :
    (∀ title?, ofCode? code = title? ↔ Titled code.toList title?) ∧
    (∀ title, ofCode? code = some title →
      IsTrimmed title.toList ∧ ∀ c ∈ title.toList, isQuote c = false) ∧
    ∀ c, isBlank c = true ↔ c.toNat ∈ whiteSpace := by
  refine ⟨fun title? => ⟨?read, ofCode?_of_titled⟩, ?title, isBlank_iff_mem⟩
  case read =>
    rintro rfl
    exact titled_ofCode? code
  case title =>
    intro title found
    obtain ⟨run, declared, -⟩ := ofCode?_eq_some_iff.mp found
    have trims := (ofCode?_eq_iff_of_declared? declared).mp found
    cases trims with
    | @title front title back split frontBlank backBlank trimmed =>
      rw [String.toList_ofList]
      refine ⟨trimmed, fun c member => (declared?_eq_some declared).2 c ?_⟩
      rw [split]
      exact List.mem_append_left back (List.mem_append_right front member)

/-- A keyword without its parenthesis is passed over, and so is an empty title. The title that is
read has the other keyword in it. -/
theorem ofCode?_eq_iff_titled_masked :
    let code := "strategy('S')\nindicator\nindicator('') indicator\n( ' a strategy(b \" )"
    ofCode? code = some "a strategy(b" ∧ Titled code.toList (some "a strategy(b") ∧
      IsTrimmed "a strategy(b".toList ∧ isBlank '\u3000' = true := by
  intro code
  obtain ⟨read, titles, blanks⟩ := ofCode?_eq_iff_titled code
  have found : ofCode? code = some "a strategy(b" := by decide +kernel
  exact ⟨found, (read _).mp found, (titles _ found).1, (blanks _).mpr (by decide)⟩

end SignalGraph.Title
