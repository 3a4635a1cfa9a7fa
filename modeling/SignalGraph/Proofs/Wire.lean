import SignalGraph.Poll.Job
import SignalGraph.Proofs.Catalog.Written
import SignalGraph.Proofs.Document.Written
import SignalGraph.Proofs.Session.Written
import SignalGraph.Settings
import SignalGraph.Store.Basic

/-! The normal form of the texts that are exchanged.

A value that was read from a text is written as one text, whatever spelling it came in. That text is
read as the same value: without condition for the records of plain fields, and for those that hold
free values just when these fit.
-/

set_option autoImplicit false

namespace SignalGraph

namespace Tree

theorem signed?_eq_some_iff {tree : Tree} {n : Int} : tree.signed? = some n ↔
    tree = .integer n ∧ -(power 2 63 : Int) ≤ n ∧ n < power 2 63 := by
  cases tree <;> grind [signed?]

theorem count?_eq_some_iff {tree : Tree} {n : Nat} : tree.count? = some n ↔
    tree = .integer n ∧ n < power 2 64 := by
  cases tree <;> grind [count?]

end Tree

namespace Slot

theorem orDefault_count_readBack {n : Nat} (small : n < power 2 64) (default allowed : Nat) :
    (ofOption ((some (.integer n)).map (Tree.readBack allowed))).orDefault Tree.count? default =
      some n := by
  have inRange : InIntegerRange n := by
    unfold InIntegerRange
    omega
  rw [Option.map_some, Tree.readBack_integer inRange, ofOption, orDefault]
  exact Tree.count?_eq_some_iff.mpr ⟨rfl, small⟩

theorem orDefault_float_readBack {x : Binary64} (finite : x.IsFinite) (default : Binary64)
    (allowed : Nat) :
    (ofOption ((some (.float x)).map (Tree.readBack allowed))).orDefault Tree.number? default =
      some x := by
  rw [Option.map_some, Tree.readBack_float finite, ofOption, orDefault]
  rfl

theorem count_lt_of_orDefault {slot : Slot} {default n : Nat} (small : default < power 2 64)
    (read : slot.orDefault Tree.count? default = some n) : n < power 2 64 := by
  rcases given_of_orDefault read with ⟨given, rfl, count⟩ | rfl
  · exact (Tree.count?_eq_some_iff.mp count).2
  · exact small

end Slot

namespace JobStatus

def IsFinite : JobStatus → Prop
  | running (some progress) => progress.IsFinite
  | _ => True

theorem isFinite_of_ofTree? {tree : Tree} {status : JobStatus} (inRange : tree.InRange)
    (read : ofTree? tree = some status) : status.IsFinite := by
  obtain ⟨⟨word, record⟩, tagged, read⟩ := Option.bind_eq_some_iff.mp read
  dsimp only at read
  split at read
  case h_2 =>
    obtain ⟨slots, found, read⟩ := Option.bind_eq_some_iff.mp read
    split at read
    · obtain ⟨progress, given, read⟩ := Option.bind_eq_some_iff.mp read
      cases read
      have finite := (inRange.of_tagged? tagged).optional_isFinite found (by simp) given
      cases progress with
      | none => trivial
      | some x => exact finite x rfl
    · cases read
  -- No other status holds a number.
  case h_1 | h_3 =>
    split at read
    · cases read
      trivial
    · cases read
  case h_4 =>
    obtain ⟨slots, -, read⟩ := Option.bind_eq_some_iff.mp read
    split at read
    · obtain ⟨_, -, read⟩ := Option.bind_eq_some_iff.mp read
      cases read
      trivial
    · cases read
  case h_5 => cases read

theorem ofTree?_readBack {status : JobStatus} (finite : status.IsFinite) (allowed : Nat) :
    ofTree? (status.toTree.readBack (allowed + 1)) = some status := by
  cases status with
  | pending => rfl
  | completed => rfl
  | failed message => rfl
  | running progress =>
    cases progress with
    | none => rfl
    | some x =>
      have number := Tree.readBack_float finite allowed
      have text : (toTree (running (some x))).readBack (allowed + 1) = .object
          [("status", .string "running"), ("progress", (Tree.float x).readBack allowed)] := rfl
      rw [text, number]
      rfl

end JobStatus

namespace Summary

/-- The id is a signed 64-bit integer. -/
def IsNumbered (summary : Summary) : Prop :=
  -(power 2 63 : Int) ≤ summary.id ∧ summary.id < power 2 63

theorem isNumbered_of_ofTree? {tree : Tree} {summary : Summary}
    (read : ofTree? tree = some summary) : summary.IsNumbered := by
  obtain ⟨slots, -, read⟩ := Option.bind_eq_some_iff.mp read
  split at read
  · simp only [Option.bind_eq_bind, Option.bind_eq_some_iff, Option.pure_def,
      Option.some.injEq] at read
    obtain ⟨id, given, _, -, _, -, _, -, _, -, _, -, _, -, rfl⟩ := read
    obtain ⟨tree, -, signed⟩ := Slot.given_of_required given
    exact (Tree.signed?_eq_some_iff.mp signed).2
  · cases read

theorem ofTree?_readBack {summary : Summary} (numbered : summary.IsNumbered) (allowed : Nat) :
    ofTree? (summary.toTree.readBack (allowed + 1)) = some summary := by
  have inRange : InIntegerRange summary.id := by
    have half : (power 2 63 : Int) ≤ power 2 64 := by decide +kernel
    exact ⟨numbered.1, Int.lt_of_lt_of_le numbered.2 half⟩
  have text : summary.toTree.readBack (allowed + 1) = .object
      [("id", (Tree.integer summary.id).readBack allowed), ("name", .string summary.name),
        ("description", .string summary.description), ("isPublic", .bool summary.isPublic),
        ("contentHash", .string summary.contentHash), ("createdAt", .string summary.createdAt),
        ("updatedAt", .string summary.updatedAt)] := rfl
  have signed : (Tree.integer summary.id).signed? = some summary.id :=
    Tree.signed?_eq_some_iff.mpr ⟨rfl, numbered⟩
  rw [text, Tree.readBack_integer inRange]
  simp [ofTree?, Tree.slots?, Tree.fieldSlot?, Slot.required, Tree.text?, Tree.bool?, signed]

end Summary

namespace Settings

/-- The counts fit in 64 bits, and the lengths are numbers. -/
structure InRange (settings : Settings) : Prop where
  historyLimit : settings.historyLimit < power 2 64
  gridColumns : settings.gridColumns < power 2 64
  gridSpacingX : settings.gridSpacingX.IsFinite
  gridSpacingY : settings.gridSpacingY.IsFinite
  gridOriginX : settings.gridOriginX.IsFinite
  gridOriginY : settings.gridOriginY.IsFinite
  duplicateOffset : settings.duplicateOffset.IsFinite
  exportNameLength : settings.exportNameLength < power 2 64
  pollMilliseconds : settings.pollMilliseconds < power 2 64

theorem inRange_standard : standard.InRange := by
  constructor <;> decide +kernel

theorem ofTree?_eq_some_iff {tree : Tree} {settings : Settings} : ofTree? tree = some settings ↔
    ∃ history columns spacingX spacingY originX originY offset nameLength poll, tree.slots?
      [["history_limit"], ["grid_columns"], ["grid_spacing_x"], ["grid_spacing_y"],
        ["grid_origin_x"], ["grid_origin_y"], ["duplicate_offset"], ["export_name_max_len"],
        ["poll_interval_ms"]] =
      some [history, columns, spacingX, spacingY, originX, originY, offset, nameLength, poll] ∧
    history.orDefault Tree.count? standard.historyLimit = some settings.historyLimit ∧
    columns.orDefault Tree.count? standard.gridColumns = some settings.gridColumns ∧
    spacingX.orDefault Tree.number? standard.gridSpacingX = some settings.gridSpacingX ∧
    spacingY.orDefault Tree.number? standard.gridSpacingY = some settings.gridSpacingY ∧
    originX.orDefault Tree.number? standard.gridOriginX = some settings.gridOriginX ∧
    originY.orDefault Tree.number? standard.gridOriginY = some settings.gridOriginY ∧
    offset.orDefault Tree.number? standard.duplicateOffset = some settings.duplicateOffset ∧
    nameLength.orDefault Tree.count? standard.exportNameLength =
      some settings.exportNameLength ∧
    poll.orDefault Tree.count? standard.pollMilliseconds = some settings.pollMilliseconds := by
  unfold ofTree?
  -- The numbers of the defaults are too large to be compared by evaluation.
  generalize standard = default
  constructor
  · intro read
    obtain ⟨slots, found, read⟩ := Option.bind_eq_some_iff.mp read
    split at read
    · simp only [Option.bind_eq_bind, Option.bind_eq_some_iff, Option.pure_def,
        Option.some.injEq] at read
      obtain ⟨_, _, _, _, _, _, _, _, _, _, _, _, _, _, _, _, _, _, rfl⟩ := read
      exact ⟨_, _, _, _, _, _, _, _, _, found, ‹_›, ‹_›, ‹_›, ‹_›, ‹_›, ‹_›, ‹_›, ‹_›, ‹_›⟩
    · cases read
  · rintro ⟨history, columns, spacingX, spacingY, originX, originY, offset, nameLength, poll,
      found, h1, h2, h3, h4, h5, h6, h7, h8, h9⟩
    simp [found, h1, h2, h3, h4, h5, h6, h7, h8, h9]

theorem inRange_of_ofTree? {tree : Tree} {settings : Settings} (inRange : tree.InRange)
    (read : ofTree? tree = some settings) : settings.InRange := by
  obtain ⟨_, _, _, _, _, _, _, _, _, found, history, columns, spacingX, spacingY, originX, originY,
    offset, nameLength, poll⟩ := ofTree?_eq_some_iff.mp read
  have usual := inRange_standard
  -- As above: which numbers the defaults are does not matter here.
  generalize standard = default at *
  exact
    { historyLimit := Slot.count_lt_of_orDefault usual.historyLimit history
      gridColumns := Slot.count_lt_of_orDefault usual.gridColumns columns
      gridSpacingX := inRange.orDefault_isFinite found (by simp) usual.gridSpacingX spacingX
      gridSpacingY := inRange.orDefault_isFinite found (by simp) usual.gridSpacingY spacingY
      gridOriginX := inRange.orDefault_isFinite found (by simp) usual.gridOriginX originX
      gridOriginY := inRange.orDefault_isFinite found (by simp) usual.gridOriginY originY
      duplicateOffset := inRange.orDefault_isFinite found (by simp) usual.duplicateOffset offset
      exportNameLength := Slot.count_lt_of_orDefault usual.exportNameLength nameLength
      pollMilliseconds := Slot.count_lt_of_orDefault usual.pollMilliseconds poll }

def fields (settings : Settings) : List (String × Option Tree) :=
  [("history_limit", some (.integer settings.historyLimit)),
    ("grid_columns", some (.integer settings.gridColumns)),
    ("grid_spacing_x", some (.float settings.gridSpacingX)),
    ("grid_spacing_y", some (.float settings.gridSpacingY)),
    ("grid_origin_x", some (.float settings.gridOriginX)),
    ("grid_origin_y", some (.float settings.gridOriginY)),
    ("duplicate_offset", some (.float settings.duplicateOffset)),
    ("export_name_max_len", some (.integer settings.exportNameLength)),
    ("poll_interval_ms", some (.integer settings.pollMilliseconds))]

theorem toTree_eq (settings : Settings) :
    settings.toTree = .object (Tree.members settings.fields) := rfl

theorem ofTree?_readBack {settings : Settings} (inRange : settings.InRange) (allowed : Nat) :
    ofTree? (settings.toTree.readBack (allowed + 1)) = some settings := by
  have distinct : (settings.fields.map Prod.fst).Nodup := by simp [fields]
  have slots := Tree.slots?_readBack distinct allowed
  rw [← toTree_eq] at slots
  exact ofTree?_eq_some_iff.mpr ⟨_, _, _, _, _, _, _, _, _, slots,
    Slot.orDefault_count_readBack inRange.historyLimit _ _,
    Slot.orDefault_count_readBack inRange.gridColumns _ _,
    Slot.orDefault_float_readBack inRange.gridSpacingX _ _,
    Slot.orDefault_float_readBack inRange.gridSpacingY _ _,
    Slot.orDefault_float_readBack inRange.gridOriginX _ _,
    Slot.orDefault_float_readBack inRange.gridOriginY _ _,
    Slot.orDefault_float_readBack inRange.duplicateOffset _ _,
    Slot.orDefault_count_readBack inRange.exportNameLength _ _,
    Slot.orDefault_count_readBack inRange.pollMilliseconds _ _⟩

end Settings

/-! ## All that is exchanged -/

namespace Tree

variable {α : Type} {read : Tree → Option α} {write : α → Tree} {Fits Sound : α → Prop}

/-- The text that is written for what a text is read as. -/
def normalText? (read : Tree → Option α) (write : α → Tree) (text : String) : Option String :=
  ((read? text).bind read).map fun value => (write value).compact

/-- If the text is read as a value, the text that is written for it is read as the same one again
just when the value fits, and then it is written as it is. The value fits if no object of the
text has the reserved key. -/
def Rereads (read : Tree → Option α) (write : α → Tree) (Fits : α → Prop) (text : String) : Prop :=
  ∀ tree value, read? text = some tree → read tree = some value →
    ((read? (write value).compact).bind read = some value ↔ Fits value) ∧
    (Fits value → normalText? read write (write value).compact = some (write value).compact) ∧
    (tree.isUnreserved = true → Fits value)

theorem rereads_of (sound : ∀ tree value, tree.InRange → read tree = some value → Sound value)
    (back : ∀ value, Sound value →
      (read ((write value).readBack depthLimit) = some value ↔ Fits value))
    (fits : ∀ tree value, tree.InRange → tree.Ordinary depthLimit → read tree = some value →
      Fits value) {text : String} : Rereads read write Fits text := by
  intro tree value parsed found
  have inRange := inRange_of_read? parsed
  have again : (read? (write value).compact).bind read = some value ↔ Fits value := by
    rw [read?_compact]
    exact back value (sound tree value inRange found)
  refine ⟨again, fun fitting => ?_, fun unreserved => ?_⟩
  · rw [normalText?, again.mpr fitting]
    rfl
  · exact fits tree value inRange (ordinary_of_read? parsed unreserved) found

theorem rereads_plain
    (sound : ∀ tree value, tree.InRange → read tree = some value → Sound value)
    (back : ∀ value, Sound value → read ((write value).readBack depthLimit) = some value)
    {text : String} : Rereads read write (fun _ => True) text :=
  rereads_of sound (fun value holds => iff_of_true (back value holds) trivial)
    fun _ _ _ _ _ => trivial

/-- Whatever spelling a value was read from, the text that is written for it is its normal form.
Only free values with the reserved key in them are an exception. -/
theorem rereads_exchanged (text : String) :
    Rereads Position.ofTree? Position.toTree (fun _ => True) text ∧
    Rereads Edge.ofTree? Edge.toTree (fun _ => True) text ∧
    Rereads JobStatus.ofTree? JobStatus.toTree (fun _ => True) text ∧
    Rereads Summary.ofTree? Summary.toTree (fun _ => True) text ∧
    Rereads Settings.ofTree? Settings.toTree (fun _ => True) text ∧
    Rereads Parameter.ofTree? Parameter.toTree (Parameter.Fits 126) text ∧
    Rereads Definition.ofTree? Definition.toTree (Definition.Fits 124) text ∧
    Rereads CatalogEntry.ofTree? CatalogEntry.toTree (CatalogEntry.Fits 124) text ∧
    Rereads Command.ofTree? Command.toTree (Command.Fits 126) text ∧
    Rereads Document.ofTree? Document.toTree (Document.Portable .straight) text := by
  refine ⟨?position, ?edge, ?job, ?summary, ?settings, ?parameter, ?definition, ?entry, ?command,
    ?document⟩
  -- The numbers are the containers that may still be opened inside those of the record itself.
  case position =>
    exact rereads_plain (fun _ _ => Position.isFinite_of_ofTree?)
      fun _ finite => Position.ofTree?_readBack finite 126
  case edge =>
    exact rereads_plain (fun _ _ _ _ => trivial) fun edge _ => edge.ofTree?_readBack 126
  case job =>
    exact rereads_plain (fun _ _ => JobStatus.isFinite_of_ofTree?)
      fun _ finite => JobStatus.ofTree?_readBack finite 126
  case summary =>
    exact rereads_plain (fun _ _ _ => Summary.isNumbered_of_ofTree?)
      fun _ numbered => Summary.ofTree?_readBack numbered 126
  case settings =>
    exact rereads_plain (fun _ _ => Settings.inRange_of_ofTree?)
      fun _ inRange => Settings.ofTree?_readBack inRange 126
  case parameter =>
    exact rereads_of (fun _ _ => Parameter.isFinite_of_ofTree?)
      (fun _ finite => Parameter.ofTree?_readBack_iff finite 125)
      fun _ _ _ => Parameter.fits_of_ofTree?
  case definition =>
    exact rereads_of (fun _ _ => Definition.isFinite_of_ofTree?)
      (fun _ finite => Definition.ofTree?_readBack_iff finite 123)
      fun _ _ _ => Definition.fits_of_ofTree?
  case entry =>
    exact rereads_of (fun _ _ => CatalogEntry.isFinite_of_ofTree?)
      (fun _ finite => CatalogEntry.ofTree?_readBack_iff finite 123)
      fun _ _ _ => CatalogEntry.fits_of_ofTree?
  case command =>
    exact rereads_of (fun _ _ => Command.isFinite_of_ofTree?)
      (fun _ finite => Command.ofTree?_readBack_iff finite 125)
      fun _ _ _ => Command.fits_of_ofTree?
  case document =>
    exact rereads_of (fun _ _ _ _ => trivial) (fun document _ => document.ofTree?_readBack_iff)
      fun _ _ => Document.portable_of_ofTree?

/-- A default with the reserved key in second place is read, and the text written for it, where the
key comes first, is not read as the same parameter. An entry that was an array comes back. -/
theorem rereads_reserved :
    let reserved : Tree := .object [("type", .string "text"),
      ("default", .object [("a", .bool true), (Json.embeddingKey, .string "2")])]
    let short : Tree := .array [.string "rsi", .string "RSI"]
    (∃ parameter, (read? reserved.compact).bind Parameter.ofTree? = some parameter ∧
      (read? parameter.toTree.compact).bind Parameter.ofTree? ≠ some parameter) ∧
    ∃ entry, (read? short.compact).bind CatalogEntry.ofTree? = some entry ∧
      (read? entry.toTree.compact).bind CatalogEntry.ofTree? = some entry := by
  intro reserved short
  obtain ⟨-, -, -, -, -, parameters, -⟩ := rereads_exchanged reserved.compact
  obtain ⟨-, -, -, -, -, -, -, entries, -⟩ := rereads_exchanged short.compact
  have parsed : read? reserved.compact = some reserved := read?_compact reserved
  have parsedShort : read? short.compact = some short := read?_compact short
  refine ⟨?_, ?_⟩
  · let parameter : Parameter :=
      { id := "", type := .text, default := some (.object (.ofList
          [("a", .bool true), (Json.embeddingKey, .string "2")]))
        min := none, max := none, step := none, options := none, description := none }
    have found : Parameter.ofTree? reserved = some parameter := rfl
    have misfit : ¬ parameter.Fits 126 := by
      intro fits
      exact absurd (fits _ rfl).2.2 (by decide +kernel)
    have again := (parameters _ _ parsed found).1
    exact ⟨parameter, by rw [parsed, Option.bind_some, found], misfit ∘ again.mp⟩
  · let entry : CatalogEntry :=
      { kind := "rsi", name := "RSI", description := none, category := none, parameters := .empty }
    have found : CatalogEntry.ofTree? short = some entry := rfl
    obtain ⟨again, -, fits⟩ := entries _ _ parsedShort found
    exact ⟨entry, by rw [parsedShort, Option.bind_some, found], again.mpr (fits rfl)⟩

end Tree

end SignalGraph
