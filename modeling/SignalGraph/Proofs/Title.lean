import SignalGraph.Title
import Mathlib.Data.List.Infix
import Mathlib.Data.List.TakeWhile

/-! The title that is read off a declaration.

The first declaration is found behind any text without the keyword, since no proper ending of the
keyword begins it anew. The title ends at the next quote of either sort. So one in double quotes is
read whole just when it has no apostrophe.
-/

set_option autoImplicit false

namespace SignalGraph.Title

variable {keyword text quoted : List Char}

theorem after?_eq_some_iff {word rest : List Char} :
    after? word text = some rest ↔ text = word ++ rest := by
  fun_induction after? word text with
  | case1 text => simp
  | case2 => simp
  | case3 word _ text ih => simp [ih]
  | case4 expected word found text different => simp [Ne.symm different]

/-! ## What a title tells of its code -/

theorem not_isQuote_of_quoted? (found : quoted? text = some quoted) :
    ∀ c ∈ quoted, isQuote c = false := by
  unfold quoted? at found
  split at found
  · cases found
  · simp only at found
    split at found
    · cases found
      intro c member
      simpa using List.mem_takeWhile_imp member
    · cases found

/-- A declaration begins with its keyword, and what it quotes has no quote of either sort. -/
theorem declaration?_eq_some (found : declaration? keyword text = some quoted) :
    keyword <+: text ∧ ∀ c ∈ quoted, isQuote c = false := by
  obtain ⟨rest, opened, found⟩ := Option.bind_eq_some_iff.mp found
  obtain ⟨inside, -, found⟩ := Option.bind_eq_some_iff.mp found
  exact ⟨⟨rest, (after?_eq_some_iff.mp opened).symm⟩, not_isQuote_of_quoted? found⟩

theorem firstDeclaration?_eq_some (found : firstDeclaration? keyword text = some quoted) :
    keyword <:+: text ∧ ∀ c ∈ quoted, isQuote c = false := by
  induction text with
  | nil => cases found
  | cons c rest ih =>
    unfold firstDeclaration? at found
    split at found
    case h_1 here =>
      cases found
      obtain ⟨begins, unquoted⟩ := declaration?_eq_some here
      exact ⟨begins.isInfix, unquoted⟩
    case h_2 =>
      obtain ⟨within, unquoted⟩ := ih found
      exact ⟨List.infix_cons within, unquoted⟩

theorem declared?_eq_some (found : declared? text = some quoted) :
    (∃ keyword ∈ ["indicator".toList, "strategy".toList], keyword <:+: text) ∧
      ∀ c ∈ quoted, isQuote c = false := by
  unfold declared? at found
  split at found
  case h_1 indicator =>
    cases found
    obtain ⟨within, unquoted⟩ := firstDeclaration?_eq_some indicator
    exact ⟨⟨_, List.mem_cons_self, within⟩, unquoted⟩
  case h_2 =>
    obtain ⟨within, unquoted⟩ := firstDeclaration?_eq_some found
    exact ⟨⟨_, List.mem_cons_of_mem _ List.mem_cons_self, within⟩, unquoted⟩

theorem ofCode?_eq_some_iff {code title : String} :
    ofCode? code = some title ↔
      ∃ quoted, declared? code.toList = some quoted ∧ title = String.ofList (trimBlanks quoted) ∧
        title ≠ "" := by
  simp only [ofCode?, Option.filter_eq_some_iff, Option.map_eq_some_iff, decide_eq_true_eq]
  grind

theorem ofCode?_of_declared? {code : String} (declared : declared? code.toList = some quoted) :
    ofCode? code = if quoted.all isBlank then none else some (String.ofList (trimBlanks quoted)) := by
  rw [ofCode?, declared, Option.map_some, Option.filter_some]
  by_cases blank : quoted.all isBlank = true
  · simp [(trimBlanks_eq_nil_iff quoted).mpr blank, blank]
  · have kept : trimBlanks quoted ≠ [] := fun empty => blank ((trimBlanks_eq_nil_iff quoted).mp empty)
    simp [kept, blank]

/-- Blank code has no title. -/
theorem ofCode?_eq_none_of_blank {code : String} (blank : isBlankText code = true) :
    ofCode? code = none := by
  refine Option.eq_none_iff_forall_ne_some.mpr fun title found => ?_
  obtain ⟨quoted, declared, -⟩ := ofCode?_eq_some_iff.mp found
  obtain ⟨⟨keyword, among, within⟩, -⟩ := declared?_eq_some declared
  have solid : ∀ keyword ∈ ["indicator".toList, "strategy".toList],
      keyword.all isBlank = false := by decide
  have blanks : keyword.all isBlank = true :=
    List.all_eq_true.mpr fun c member => List.all_eq_true.mp blank c (within.subset member)
  exact absurd blanks (Bool.eq_false_iff.mp (solid keyword among))

theorem mem_of_mem_trimBlanks {characters : List Char} {c : Char}
    (member : c ∈ trimBlanks characters) : c ∈ characters := by
  have inside := (List.dropWhile_suffix _).subset (List.mem_reverse.mp member)
  exact (List.dropWhile_suffix _).subset (List.mem_reverse.mp inside)

/-- No title has an apostrophe in it. -/
theorem not_mem_of_ofCode? {code title : String} (found : ofCode? code = some title) :
    '\'' ∉ title.toList := by
  obtain ⟨quoted, declared, rfl, -⟩ := ofCode?_eq_some_iff.mp found
  intro member
  rw [String.toList_ofList] at member
  exact absurd ((declared?_eq_some declared).2 _ (mem_of_mem_trimBlanks member)) (by decide)

/-! ## The first declaration -/

/-- No proper ending of the word begins it anew, so that two of its places never overlap. -/
def Borderless (word : List Char) : Prop :=
  ∀ size < word.length, 0 < size → ¬word.drop size <+: word

instance (word : List Char) : Decidable (Borderless word) :=
  inferInstanceAs (Decidable (∀ size < word.length, 0 < size → ¬word.drop size <+: word))

theorem borderless_indicator : Borderless "indicator".toList := by decide

/-- A word that begins before its next place has to end there as well. -/
theorem prefix_of_append {word before after : List Char} (borderless : Borderless word)
    (nonempty : before ≠ []) (begins : word <+: before ++ (word ++ after)) : word <+: before := by
  rcases List.prefix_or_prefix_of_prefix begins (List.prefix_append before _) with inside | short
  · exact inside
  · obtain ⟨ending, rfl⟩ := short
    rw [List.prefix_append_right_inj] at begins
    by_cases whole : ending = []
    · simp [whole]
    · refine absurd ?_ (borderless before.length ?_ (List.length_pos_iff.mpr nonempty))
      · rw [List.drop_left]
        refine List.prefix_of_prefix_length_le begins (List.prefix_append _ _) ?_
        rw [List.length_append]
        exact Nat.le_add_left _ _
      · rw [List.length_append]
        exact Nat.lt_add_of_pos_right (List.length_pos_iff.mpr whole)

theorem firstDeclaration?_append {before after : List Char} (borderless : Borderless keyword)
    (apart : ¬keyword <:+: before) :
    firstDeclaration? keyword (before ++ (keyword ++ after)) =
      firstDeclaration? keyword (keyword ++ after) := by
  induction before with
  | nil => rfl
  | cons c before ih =>
    have passed : declaration? keyword (c :: before ++ (keyword ++ after)) = none := by
      refine Option.eq_none_iff_forall_ne_some.mpr fun quoted found => apart ?_
      exact (prefix_of_append borderless (List.cons_ne_nil c before)
        (declaration?_eq_some found).1).isInfix
    rw [List.cons_append, firstDeclaration?, ← List.cons_append, passed]
    exact ih fun within => apart (List.infix_cons within)

theorem firstDeclaration?_of_declaration? (here : declaration? keyword text = some quoted) :
    firstDeclaration? keyword text = some quoted := by
  cases text with
  | nil => cases keyword <;> cases here
  | cons c rest => rw [firstDeclaration?, here]

theorem mem_trimBlanks {characters : List Char} {c : Char} (solid : isBlank c = false)
    (member : c ∈ characters) : c ∈ trimBlanks characters := by
  have kept : ∀ {characters : List Char}, c ∈ characters → c ∈ characters.dropWhile isBlank := by
    intro characters member
    rw [← List.takeWhile_append_dropWhile (p := isBlank) (l := characters)] at member
    refine (List.mem_append.mp member).resolve_left fun inside => ?_
    exact absurd (List.mem_takeWhile_imp inside) (Bool.eq_false_iff.mp solid)
  exact List.mem_reverse.mpr (kept (List.mem_reverse.mpr (kept member)))

/-! ## A title in double quotes -/

section Quoted

variable {head tail : List Char} {mark : Char} (plain : ∀ c ∈ head, isQuote c = false)
  (closes : isQuote mark = true)
include plain closes

/-- What is quoted ends at the first quote of either sort. -/
theorem quoted?_append :
    quoted? ('"' :: (head ++ mark :: tail)) = if head = [] then none else some head := by
  have whole : ∀ c ∈ head, (!isQuote c) = true := fun c member => by rw [plain c member]; rfl
  have run : (head ++ mark :: tail).takeWhile (fun c => !isQuote c) = head := by
    rw [List.takeWhile_append_of_pos whole, List.takeWhile_cons, closes]
    exact List.append_nil head
  have rest : (head ++ mark :: tail).dropWhile (fun c => !isQuote c) = mark :: tail := by
    rw [List.dropWhile_append_of_pos whole, List.dropWhile_cons, closes]
    rfl
  have opens : isQuote '"' = true := by decide
  simp only [quoted?, run, rest, opens]
  split <;> split <;> simp_all

theorem declared?_append {before : List Char} (apart : ¬"indicator".toList <:+: before)
    (nonempty : head ≠ []) :
    declared? (before ++ ("indicator".toList ++ '(' :: '"' :: (head ++ mark :: tail))) =
      some head := by
  have here : declaration? "indicator".toList
      ("indicator".toList ++ '(' :: '"' :: (head ++ mark :: tail)) =
        quoted? ('"' :: (head ++ mark :: tail)) := rfl
  rw [quoted?_append plain closes, if_neg nonempty] at here
  rw [declared?, firstDeclaration?_append borderless_indicator apart,
    firstDeclaration?_of_declaration? here]

end Quoted

/-- Code that passes a title in double quotes to an indicator, after some other text. -/
def declaring (before title after : String) : String :=
  before ++ "indicator(\"" ++ title ++ "\"" ++ after

section Declaring

variable {before title after : String}

theorem declaring_toList :
    (declaring before title after).toList = before.toList ++
      ("indicator".toList ++ '(' :: '"' :: (title.toList ++ '"' :: after.toList)) := by
  simp [declaring]

variable (apart : ¬"indicator".toList <:+: before.toList)
include apart

theorem ofCode?_declaring {head tail : List Char} {mark : Char}
    (split : title.toList ++ '"' :: after.toList = head ++ mark :: tail)
    (plain : ∀ c ∈ head, isQuote c = false) (closes : isQuote mark = true) (nonempty : head ≠ []) :
    ofCode? (declaring before title after) =
      if head.all isBlank then none else some (String.ofList (trimBlanks head)) := by
  refine ofCode?_of_declared? ?_
  rw [declaring_toList, split, declared?_append plain closes apart nonempty]

/-- A title that begins with an apostrophe is passed over, and the search goes on inside of it. -/
theorem declared?_declaring_apostrophe {rest : List Char}
    (begins : title.toList = '\'' :: rest) :
    declared? (declaring before title after).toList =
      (firstDeclaration? "indicator".toList (rest ++ '"' :: after.toList)).or
        (firstDeclaration? "strategy".toList (declaring before title after).toList) := by
  have passed : firstDeclaration? "indicator".toList
      ("indicator".toList ++ '(' :: '"' :: '\'' :: (rest ++ '"' :: after.toList)) =
        firstDeclaration? "indicator".toList (rest ++ '"' :: after.toList) := rfl
  have found : firstDeclaration? "indicator".toList (declaring before title after).toList =
      firstDeclaration? "indicator".toList (rest ++ '"' :: after.toList) := by
    rw [declaring_toList, begins, firstDeclaration?_append borderless_indicator apart]
    exact passed
  rw [declared?, found]
  cases firstDeclaration? "indicator".toList (rest ++ '"' :: after.toList) <;> rfl

/-- A title in double quotes is read whole just when it has no apostrophe. It is cut before the
first one, and passed over if that comes first of all. -/
theorem reads_declared_iff (unquoted : '"' ∉ title.toList) (solid : isBlankText title = false) :
    (ofCode? (declaring before title after) = some (trim title) ↔ '\'' ∉ title.toList) ∧
    (∀ head tail, title = head ++ "'" ++ tail → '\'' ∉ head.toList → head ≠ "" →
      ofCode? (declaring before title after) =
        if isBlankText head then none else some (trim head)) ∧
    ∀ rest, title = "'" ++ rest → declared? (declaring before title after).toList =
      (firstDeclaration? "indicator".toList (rest.toList ++ '"' :: after.toList)).or
        (firstDeclaration? "strategy".toList (declaring before title after).toList) := by
  have plain : ∀ text : List Char, '"' ∉ text → '\'' ∉ text → ∀ c ∈ text, isQuote c = false := by
    intro text unquoted unmarked c member
    have differs : c ≠ '"' ∧ c ≠ '\'' :=
      ⟨fun same => unquoted (same ▸ member), fun same => unmarked (same ▸ member)⟩
    simp [isQuote, differs]
  refine ⟨⟨?cut, ?whole⟩, ?shortened, ?passed⟩
  case cut =>
    intro read member
    refine not_mem_of_ofCode? read ?_
    rw [trim_toList]
    exact mem_trimBlanks (by decide) member
  case whole =>
    intro unmarked
    have nonempty : title.toList ≠ [] := fun empty => by simp [isBlankText, empty] at solid
    rw [ofCode?_declaring apart rfl (plain _ unquoted unmarked) (by decide) nonempty]
    exact if_neg (Bool.eq_false_iff.mp solid)
  case shortened =>
    intro head tail same unmarked nonempty
    have split : title.toList ++ '"' :: after.toList =
        head.toList ++ '\'' :: (tail.toList ++ '"' :: after.toList) := by simp [same]
    have inside : '"' ∉ head.toList := fun member => unquoted (by simp [same, member])
    exact ofCode?_declaring apart split (plain _ inside unmarked) (by decide)
      fun empty => nonempty (String.toList_eq_nil_iff.mp empty)
  case passed =>
    intro rest same
    exact declared?_declaring_apostrophe apart (by simp [same])

end Declaring

/-- Of a title with an apostrophe only the beginning is read. -/
theorem reads_declared_shortened :
    let code := declaring "//@version=5\nindicate " "Bob's (RSI)\nindicator" ", overlay=false)"
    ofCode? code = some "Bob" ∧ ¬ofCode? code = some (trim "Bob's (RSI)\nindicator") ∧
      ¬"indicator".toList <:+: "//@version=5\nindicate ".toList ∧
      '"' ∉ "Bob's (RSI)\nindicator".toList ∧ isBlankText "Bob's (RSI)\nindicator" = false := by
  intro code
  have apart : ¬"indicator".toList <:+: "//@version=5\nindicate ".toList := by decide
  have unquoted : '"' ∉ "Bob's (RSI)\nindicator".toList := by decide
  have solid : isBlankText "Bob's (RSI)\nindicator" = false := by decide
  obtain ⟨whole, shortened, -⟩ :=
    @reads_declared_iff _ _ ", overlay=false)" apart unquoted solid
  refine ⟨?_, fun read => ?_, apart, unquoted, solid⟩
  · exact shortened "Bob" "s (RSI)\nindicator" (by decide) (by decide) (by decide)
  · exact absurd (whole.mp read) (by decide)

end SignalGraph.Title
