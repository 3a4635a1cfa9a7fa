import SignalGraph.Instant
import SignalGraph.Text.Blank

/-! Names for downloaded strategies: what a file name can hold of the name of the strategy, and
the time of the download.

ASCII letters and digits, the Arabic block, underscores and hyphens stay; a run of blanks
becomes one underscore; all else goes.
-/

set_option autoImplicit false

namespace SignalGraph.ExportName

def isArabic (c : Char) : Bool := 0x600 ≤ c.toNat && c.toNat ≤ 0x6FF

/-- Characters that stand in a name as they are. -/
def isPlain (c : Char) : Bool := c.isAlphanum || isArabic c || c == '_' || c == '-'

/-- One underscore for each run of blanks. -/
def joinBlanks : List Char → List Char
  | [] => []
  | [c] => [if isBlank c then '_' else c]
  | c :: next :: rest =>
    if isBlank c then
      if isBlank next then joinBlanks (next :: rest) else '_' :: joinBlanks (next :: rest)
    else c :: joinBlanks (next :: rest)

/-- The stem of a name from nothing but underscores, or from nothing. -/
def fallbackStem : List Char := "strategy".toList

def stem (name : List Char) (length : Nat) : List Char :=
  let joined := joinBlanks (name.filter fun c => isPlain c || isBlank c)
  let cut := joined.take length
  if cut.all (· == '_') then fallbackStem else cut

/-- The file name for a strategy of this name, with at most so many characters of the name. -/
def fileName (name : String) (time : Instant) (length : Nat) : String :=
  String.ofList (stem name.toList length) ++ "_" ++ toString time.milliseconds ++ ".json"

end SignalGraph.ExportName
