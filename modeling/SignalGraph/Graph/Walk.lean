/-! Walks along the successors of vertices: what can be reached, in which order a depth-first
search is done with the vertices, and whether they can be sorted by where they lead.

A search holds the vertices not yet entered and a stack. Entering a vertex takes it out of the
first; every other step takes something off the second.
-/

set_option autoImplicit false

namespace SignalGraph.Walk

variable {V : Type} [DecidableEq V]

theorem length_erase_lt {vertices : List V} {vertex : V} (h : vertex ∈ vertices) :
    (vertices.erase vertex).length < vertices.length := by
  rw [List.length_erase_of_mem h]
  exact Nat.sub_one_lt (Nat.ne_of_gt (List.length_pos_of_mem h))

/-- The vertices that a search from the stack enters, in the order it enters them. -/
def reach (successors : V → List V) (unseen stack : List V) : List V :=
  match stack with
  | [] => []
  | vertex :: rest =>
    if vertex ∈ unseen then
      vertex :: reach successors (unseen.erase vertex) (successors vertex ++ rest)
    else reach successors unseen rest
termination_by (unseen.length, stack.length)
decreasing_by
  · exact Prod.Lex.left _ _ (length_erase_lt ‹_›)
  · exact Prod.Lex.right _ (Nat.lt_succ_self _)

/-- What a search has yet to do: enter a vertex, or be done with one it entered. -/
inductive Task (V : Type) where
  | enter (vertex : V)
  | leave (vertex : V)

/-- The vertices in the order in which a depth-first search is done with them. -/
def finish (successors : V → List V) (unseen : List V) (stack : List (Task V)) : List V :=
  match stack with
  | [] => []
  | .leave vertex :: rest => vertex :: finish successors unseen rest
  | .enter vertex :: rest =>
    if vertex ∈ unseen then
      finish successors (unseen.erase vertex)
        ((successors vertex).map .enter ++ .leave vertex :: rest)
    else finish successors unseen rest
termination_by (unseen.length, stack.length)
decreasing_by
  · exact Prod.Lex.right _ (Nat.lt_succ_self _)
  · exact Prod.Lex.left _ _ (length_erase_lt ‹_›)
  · exact Prod.Lex.right _ (Nat.lt_succ_self _)

/-- The vertices in the order in which a search that starts from each in turn is done with
them. -/
def finishOrder (successors : V → List V) (vertices : List V) : List V :=
  finish successors vertices (vertices.map .enter)

/-- Each vertex stands before all that it leads to. -/
def isSorted (successors : V → List V) : List V → Bool
  | [] => true
  | vertex :: later =>
    (successors vertex).all (fun next => decide (next ∈ later)) && isSorted successors later

/-- The vertices in an order in which each stands before all that it leads to, if there is one:
last comes what a search is done with first. -/
def sort? (successors : V → List V) (vertices : List V) : Option (List V) :=
  let order := (finishOrder successors vertices).reverse
  if isSorted successors order then some order else none

/-- Of the vertices that belong together, the one that comes last. -/
def roots (together : V → V → Bool) : List V → List V
  | [] => []
  | vertex :: later =>
    if later.any (together vertex) then roots together later
    else vertex :: roots together later

/-- What a walk of at least one step reaches from a vertex. -/
def descendants (successors : V → List V) (vertices : List V) (vertex : V) : List V :=
  reach successors vertices (successors vertex)

/-- A function on vertices, computed once for each of them. -/
structure Table (V W : Type) where
  rows : List (V × List W)

variable {W : Type}

def Table.of (vertices : List V) (f : V → List W) : Table V W :=
  ⟨vertices.map fun vertex => (vertex, f vertex)⟩

/-- The row of a vertex; there is nothing in the row of any other. -/
def Table.row (table : Table V W) (vertex : V) : List W := (table.rows.lookup vertex).getD []

theorem Table.row_of (vertices : List V) (f : V → List W) (vertex : V) :
    (Table.of vertices f).row vertex = if vertex ∈ vertices then f vertex else [] := by
  unfold Table.of Table.row
  induction vertices with
  | nil => rfl
  | cons first rest ih =>
    by_cases same : vertex = first
    · simp [same]
    · have different : (vertex == first) = false := by simp [same]
      simp only [List.map_cons, List.lookup_cons, different, same, List.mem_cons, false_or] at ih ⊢
      exact ih

end SignalGraph.Walk
