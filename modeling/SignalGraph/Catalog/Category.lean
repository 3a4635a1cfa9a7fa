import SignalGraph.Text.Blank
import SignalGraph.Text.Case

/-! The six categories of node kinds. -/

set_option autoImplicit false

namespace SignalGraph

inductive Category where
  | indicator
  | condition
  | math
  | logic
  | risk
  | output
  deriving DecidableEq

namespace Category

def word : Category → String
  | indicator => "indicator"
  | condition => "condition"
  | math => "math"
  | logic => "logic"
  | risk => "risk"
  | output => "output"

def ofWord? : String → Option Category
  | "indicator" => some indicator
  | "condition" => some condition
  | "math" => some math
  | "logic" => some logic
  | "risk" => some risk
  | "output" => some output
  | _ => none

/-- The category a catalog names, whatever its case and the blanks around it. Groupings of
indicators such as momentum or volume are indicators, as is any other word. -/
def ofCatalog (text : String) : Category := (ofWord? (lowercase (trim text))).getD indicator

@[simp]
theorem ofWord?_word (category : Category) : ofWord? category.word = some category := by
  cases category <;> rfl

end Category

end SignalGraph
