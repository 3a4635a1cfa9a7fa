import SignalGraph.ExportName
import Mathlib.Data.List.Basic

/-! File names that are safe to write.

Whatever a strategy is called, the stem of its file name is short, made of letters, digits,
underscores and hyphens, and more than underscores. Where the limit leaves room for the fallback,
such stems are just the names that are left as they are, so that a stem is its own stem.
-/

set_option autoImplicit false

namespace SignalGraph.ExportName

variable {name : List Char} {length : Nat} {c : Char}

/-! ## Characters -/

/-- An ASCII letter or digit, a character of the Arabic block, an underscore or a hyphen. -/
def IsSafe (c : Char) : Prop :=
  ('a' ≤ c ∧ c ≤ 'z') ∨ ('A' ≤ c ∧ c ≤ 'Z') ∨ ('0' ≤ c ∧ c ≤ '9') ∨
    (0x600 ≤ c.toNat ∧ c.toNat ≤ 0x6FF) ∨ c = '_' ∨ c = '-'

instance : DecidablePred IsSafe := fun c =>
  inferInstanceAs (Decidable (('a' ≤ c ∧ c ≤ 'z') ∨ ('A' ≤ c ∧ c ≤ 'Z') ∨ ('0' ≤ c ∧ c ≤ '9') ∨
    (0x600 ≤ c.toNat ∧ c.toNat ≤ 0x6FF) ∨ c = '_' ∨ c = '-'))

theorem isPlain_iff : isPlain c = true ↔ IsSafe c := by
  have upper : c.isUpper = decide ('A' ≤ c ∧ c ≤ 'Z') := rfl
  have lower : c.isLower = (decide ('a' ≤ c) && decide (c ≤ 'z')) := rfl
  have digit : c.isDigit = (decide ('0' ≤ c) && decide (c ≤ '9')) := rfl
  have alphanumeric : c.isAlphanum = (c.isUpper || c.isLower || c.isDigit) := rfl
  simp only [isPlain, isArabic, alphanumeric, upper, lower, digit, IsSafe, Bool.or_eq_true,
    Bool.and_eq_true, decide_eq_true_eq, beq_iff_eq]
  tauto

theorem IsSafe.solid (safe : IsSafe c) : isBlank c = false := by
  have codes : (97 ≤ c.toNat ∧ c.toNat ≤ 122) ∨ (65 ≤ c.toNat ∧ c.toNat ≤ 90) ∨
      (48 ≤ c.toNat ∧ c.toNat ≤ 57) ∨ (0x600 ≤ c.toNat ∧ c.toNat ≤ 0x6FF) ∨
      c.toNat = 95 ∨ c.toNat = 45 :=
    safe.imp id (.imp id (.imp id (.imp id (.imp (congrArg Char.toNat) (congrArg Char.toNat)))))
  simp only [isBlank, Bool.or_eq_false_iff, Bool.and_eq_false_iff, decide_eq_false_iff_not,
    beq_eq_false_iff_ne]
  omega

/-- No safe character separates folders, begins an extension or is a blank. -/
theorem IsSafe.harmless (safe : IsSafe c) :
    c ≠ '/' ∧ c ≠ '\\' ∧ c ≠ '.' ∧ isBlank c = false := by
  have differs : ∀ other, ¬IsSafe other → c ≠ other := fun other harmful same =>
    harmful (same ▸ safe)
  exact ⟨differs _ (by decide), differs _ (by decide), differs _ (by decide), safe.solid⟩

/-! ## Blanks -/

/-- Only the underscores that stand for blanks are new. -/
theorem mem_joinBlanks (member : c ∈ joinBlanks name) :
    c = '_' ∨ c ∈ name ∧ isBlank c = false := by
  fun_induction joinBlanks name with
  | case1 => cases member
  | case2 single =>
    split at member
    case isTrue => exact .inl (List.mem_singleton.mp member)
    case isFalse solid =>
      rw [List.mem_singleton.mp member]
      exact .inr ⟨List.mem_cons_self, Bool.eq_false_iff.mpr solid⟩
  | case3 first next rest blank more ih =>
    exact (ih member).imp id fun ⟨inside, solid⟩ => ⟨List.mem_cons_of_mem _ inside, solid⟩
  | case4 first next rest blank last ih =>
    rcases List.mem_cons.mp member with same | later
    · exact .inl same
    · exact (ih later).imp id fun ⟨inside, solid⟩ => ⟨List.mem_cons_of_mem _ inside, solid⟩
  | case5 first next rest solid ih =>
    rcases List.mem_cons.mp member with rfl | later
    · exact .inr ⟨List.mem_cons_self, Bool.eq_false_iff.mpr solid⟩
    · exact (ih later).imp id fun ⟨inside, solid⟩ => ⟨List.mem_cons_of_mem _ inside, solid⟩

theorem joinBlanks_of_solid (solid : ∀ c ∈ name, isBlank c = false) : joinBlanks name = name := by
  fun_induction joinBlanks name with
  | case1 => rfl
  | case2 single => rw [solid single List.mem_cons_self, if_neg Bool.false_ne_true]
  | case3 first next rest blank | case4 first next rest blank =>
    rw [solid first List.mem_cons_self] at blank
    cases blank
  | case5 first next rest solidFirst ih =>
    exact congrArg (first :: ·) (ih fun c member => solid c (List.mem_cons_of_mem _ member))

/-! ## Stems -/

/-- A stem that can stand in a file name. The fallback has eight characters. -/
structure Safe (length : Nat) (stem : List Char) : Prop where
  short : stem.length ≤ max length 8
  plain : ∀ c ∈ stem, IsSafe c
  told : ∃ c ∈ stem, c ≠ '_'

theorem safe_fallbackStem (length : Nat) : Safe length fallbackStem where
  short := Nat.le_max_right length 8
  plain c member := by
    have every : (fallbackStem.all fun c => decide (IsSafe c)) = true := by decide
    exact of_decide_eq_true (List.all_eq_true.mp every c member)
  told := ⟨'s', by decide⟩

/-- What is left of the name once it is cut. -/
theorem isSafe_of_mem_cut
    (member : c ∈ (joinBlanks (name.filter fun c => isPlain c || isBlank c)).take length) :
    IsSafe c := by
  rcases mem_joinBlanks (List.mem_of_mem_take member) with rfl | ⟨inside, solid⟩
  · decide
  · have kept := (List.mem_filter.mp inside).2
    rw [solid, Bool.or_false] at kept
    exact isPlain_iff.mp kept

theorem safe_stem (name : List Char) (length : Nat) : Safe length (stem name length) := by
  simp only [stem]
  split
  case isTrue => exact safe_fallbackStem length
  case isFalse told =>
    refine ⟨Nat.le_trans (List.length_take_le _ _) (Nat.le_max_left _ _), ?_, ?_⟩
    · exact fun c => isSafe_of_mem_cut
    · simpa using told

/-- Safe names that are short enough stay as they are. -/
theorem Safe.stem_eq_self (safe : Safe length name) (room : 8 ≤ length) :
    stem name length = name := by
  have kept : name.filter (fun c => isPlain c || isBlank c) = name := by
    refine List.filter_eq_self.mpr fun c member => ?_
    rw [isPlain_iff.mpr (safe.plain c member), Bool.true_or]
  have joined : joinBlanks name = name :=
    joinBlanks_of_solid fun c member => (safe.plain c member).solid
  have whole : name.take length = name :=
    List.take_of_length_le (Nat.max_eq_left room ▸ safe.short)
  have told : ¬(name.all fun c => c == '_') = true := by
    obtain ⟨c, member, other⟩ := safe.told
    exact fun every => other (beq_iff_eq.mp (List.all_eq_true.mp every c member))
  simp only [stem, kept, joined, whole, if_neg told]

theorem stem_eq_self_iff (room : 8 ≤ length) : stem name length = name ↔ Safe length name :=
  ⟨fun same => same ▸ safe_stem name length, fun safe => safe.stem_eq_self room⟩

/-- The file name with the stem written out. -/
def named (stem : String) (time : Instant) : String :=
  stem ++ "_" ++ toString time.milliseconds ++ ".json"

theorem named_inj {first second : String} {time : Instant} :
    named first time = named second time ↔ first = second := by
  simp [named, ← String.toList_inj]

/-- Every file name has a safe stem before the time. From eight characters on, the names that are
safe are the ones that are kept, and a stem that is given back as a name is the stem again. -/
theorem fileName_safe (name : String) (length : Nat) :
    ∃ stem : String, (∀ time, fileName name time length = named stem time) ∧
      Safe length stem.toList ∧
      (∀ c ∈ stem.toList, c ≠ '/' ∧ c ≠ '\\' ∧ c ≠ '.' ∧ isBlank c = false) ∧
      (8 ≤ length → (stem = name ↔ Safe length name.toList) ∧
        ∀ time, fileName stem time length = named stem time) := by
  let stem := String.ofList (ExportName.stem name.toList length)
  have letters : stem.toList = ExportName.stem name.toList length := String.toList_ofList
  have safe : Safe length stem.toList := letters ▸ safe_stem name.toList length
  refine ⟨stem, fun time => rfl, safe, fun c member => (safe.plain c member).harmless, ?_⟩
  refine fun room => ⟨?_, ?_⟩
  · rw [← stem_eq_self_iff room, ← letters, String.toList_inj]
  · intro time
    have again : String.ofList (ExportName.stem stem.toList length) = stem := by
      rw [safe.stem_eq_self room, String.ofList_toList]
    rw [fileName, again, named]

/-- Separators and dots are gone, blanks with nothing left between them are one underscore, and the
limit cuts the name behind the next word. -/
theorem fileName_safe_cut :
    let name := "../RSI \u00A0/ ../Dip Buy"
    fileName name ⟨-5⟩ 8 = named "RSI_Dip_" ⟨-5⟩ ∧ 8 ≤ 8 ∧ Safe 8 "RSI_Dip_".toList ∧
      "RSI_Dip_" ≠ name ∧ ¬Safe 8 name.toList ∧ fileName "RSI_Dip_" ⟨7⟩ 8 = "RSI_Dip__7.json" := by
  intro name
  have cut : fileName name ⟨-5⟩ 8 = named "RSI_Dip_" ⟨-5⟩ := by decide +kernel
  obtain ⟨stem, made, safe, -, kept⟩ := fileName_safe name 8
  obtain rfl : stem = "RSI_Dip_" := named_inj.mp ((made ⟨-5⟩).symm.trans cut)
  obtain ⟨changed, again⟩ := kept (Nat.le_refl 8)
  have other : "RSI_Dip_" ≠ name := by decide
  exact ⟨cut, Nat.le_refl 8, safe, other, mt changed.mpr other, again ⟨7⟩⟩

end SignalGraph.ExportName
