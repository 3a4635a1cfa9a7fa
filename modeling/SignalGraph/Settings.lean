import SignalGraph.KeyMap
import SignalGraph.Number.Numeral
import SignalGraph.Json.Record

/-! Settings of the editor, as JSON and as a table of texts.

In a table, a key that is missing or does not hold what it should keeps its default.
-/

set_option autoImplicit false

namespace SignalGraph

structure Settings where
  historyLimit : Nat := 50
  gridColumns : Nat := 4
  gridSpacingX : Binary64 := 200.0
  gridSpacingY : Binary64 := 150.0
  gridOriginX : Binary64 := 100.0
  gridOriginY : Binary64 := 100.0
  duplicateOffset : Binary64 := 50.0
  /-- The most characters that an export name takes from the name of a strategy. -/
  exportNameLength : Nat := 50
  pollMilliseconds : Nat := 3000
  deriving BEq

namespace Settings

def standard : Settings := {}

/-- A poll interval read from a table is at least this long. -/
def shortestPoll : Nat := 100

def positiveCount? (text : String) : Option Nat := (Numeral.count? text).filter (0 < ·)

def ofTable (table : KeyMap String) : Settings :=
  let count (key : String) (default : Nat) := ((table.get? key).bind positiveCount?).getD default
  let double (key : String) (default : Binary64) :=
    ((table.get? key).bind Numeral.double?).getD default
  { historyLimit := count "history_limit" standard.historyLimit
    gridColumns := count "grid_columns" standard.gridColumns
    gridSpacingX := double "grid_spacing_x" standard.gridSpacingX
    gridSpacingY := double "grid_spacing_y" standard.gridSpacingY
    gridOriginX := double "grid_origin_x" standard.gridOriginX
    gridOriginY := double "grid_origin_y" standard.gridOriginY
    duplicateOffset := double "duplicate_offset" standard.duplicateOffset
    exportNameLength := count "export_name_max_len" standard.exportNameLength
    pollMilliseconds := (((table.get? "poll_interval_ms").bind Numeral.count?).map
      (max · shortestPoll)).getD standard.pollMilliseconds }

def toTree (settings : Settings) : Tree :=
  .object [("history_limit", .integer settings.historyLimit),
    ("grid_columns", .integer settings.gridColumns),
    ("grid_spacing_x", .float settings.gridSpacingX),
    ("grid_spacing_y", .float settings.gridSpacingY),
    ("grid_origin_x", .float settings.gridOriginX),
    ("grid_origin_y", .float settings.gridOriginY),
    ("duplicate_offset", .float settings.duplicateOffset),
    ("export_name_max_len", .integer settings.exportNameLength),
    ("poll_interval_ms", .integer settings.pollMilliseconds)]

def ofTree? (tree : Tree) : Option Settings := do
  let [historyLimit, gridColumns, gridSpacingX, gridSpacingY, gridOriginX, gridOriginY,
      duplicateOffset, exportNameLength, pollMilliseconds] ← tree.slots?
    [["history_limit"], ["grid_columns"], ["grid_spacing_x"], ["grid_spacing_y"],
      ["grid_origin_x"], ["grid_origin_y"], ["duplicate_offset"], ["export_name_max_len"],
      ["poll_interval_ms"]] | none
  return {
    historyLimit := ← historyLimit.orDefault Tree.count? standard.historyLimit
    gridColumns := ← gridColumns.orDefault Tree.count? standard.gridColumns
    gridSpacingX := ← gridSpacingX.orDefault Tree.number? standard.gridSpacingX
    gridSpacingY := ← gridSpacingY.orDefault Tree.number? standard.gridSpacingY
    gridOriginX := ← gridOriginX.orDefault Tree.number? standard.gridOriginX
    gridOriginY := ← gridOriginY.orDefault Tree.number? standard.gridOriginY
    duplicateOffset := ← duplicateOffset.orDefault Tree.number? standard.duplicateOffset
    exportNameLength := ← exportNameLength.orDefault Tree.count? standard.exportNameLength
    pollMilliseconds := ← pollMilliseconds.orDefault Tree.count? standard.pollMilliseconds
  }

end Settings

end SignalGraph
