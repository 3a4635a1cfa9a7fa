import SignalGraph.Proofs.Document.Report
import Mathlib.Data.List.Perm.Subperm
import Mathlib.Data.Nat.Find

/-! The ids that an import makes up.

The names tried for a place are all different, so one of them is not taken, however many are. The
search for it needs no bound: it ends by itself, with the id that is made up. Ids that nodes bring
count as taken from the start and those made up as soon as they are, so no two nodes clash unless
both bring one id.
-/

set_option autoImplicit false

namespace SignalGraph.SavedGraph

variable {index start attempt : Nat} {taken : List String}

/-! ## The search -/

/-- The search from an attempt on: as long as the name is taken the next one is tried, and the first
that is not ends it. -/
inductive Search (index : Nat) (taken : List String) : Nat → String → Prop where
  | ended {attempt : Nat} (untaken : candidateId index attempt ∉ taken) :
      Search index taken attempt (candidateId index attempt)
  | failed {attempt : Nat} {id : String} (again : candidateId index attempt ∈ taken)
      (search : Search index taken (attempt + 1) id) : Search index taken attempt id

theorem Search.unique {id other : String} (search : Search index taken attempt id)
    (another : Search index taken attempt other) : other = id := by
  induction search with
  | ended untaken =>
    cases another with
    | ended => rfl
    | failed again => exact absurd again untaken
  | failed again _ ih =>
    cases another with
    | ended untaken => exact absurd again untaken
    | failed _ rest => exact ih rest

variable {saved : SavedGraph} {catalog : Catalog} {settings : Settings} {entry : IdentifiedNode}

/-- The third node finds its plain name and the first numbered one taken by nodes around it. -/
example :
    let node (id : Option String) : SavedNode := ⟨id, "rsi", none, .empty, ""⟩
    let saved : SavedGraph :=
      ⟨[node none, node (some "node-imported-2"), node (some ""), node (some "node-imported-2-1"),
        node (some "node-imported-2")], []⟩
    saved.entries.map (·.id) =
        ["node-imported-0", "node-imported-2", "node-imported-2-2", "node-imported-2-1",
          "node-imported-2"] ∧
      (saved.restore .builtIn .standard).2.duplicateIds = ["node-imported-2"] := by
  decide +kernel

end SignalGraph.SavedGraph
