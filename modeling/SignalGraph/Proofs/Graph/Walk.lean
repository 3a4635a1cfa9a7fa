import SignalGraph.Graph.Walk
import Mathlib.Data.List.Nodup
import Mathlib.Logic.Relation

/-! Searches as paths.

What a search reaches is what paths through unseen vertices lead to. A depth-first search is done
with every vertex once, and where no path leads back to its start it is done with a vertex only
after all that the vertex leads to. So the vertices can be sorted just when there is no such path.
-/

set_option autoImplicit false

namespace SignalGraph.Walk

open Relation

variable {V : Type} {successors : V → List V} {unseen vertices : List V} {start goal : V}

def Step (successors : V → List V) (first second : V) : Prop := second ∈ successors first

/-- No path of at least one step comes back to where it started. -/
def Acyclic (successors : V → List V) : Prop := ∀ vertex, ¬TransGen (Step successors) vertex vertex

/-- Edges start and end at the vertices only. -/
def Among (successors : V → List V) (vertices : List V) : Prop :=
  ∀ first second, second ∈ successors first → first ∈ vertices ∧ second ∈ vertices

/-- A path leads to the goal, and all of it is unseen. -/
def Within (successors : V → List V) (unseen : List V) (start goal : V) : Prop :=
  start ∈ unseen ∧
    ReflTransGen (fun first second => second ∈ successors first ∧ second ∈ unseen) start goal

theorem Within.mem (within : Within successors unseen start goal) : goal ∈ unseen := by
  obtain ⟨here, path⟩ := within
  induction path with
  | refl => exact here
  | tail _ last _ => exact last.2

theorem Within.mono {more : List V} (within : Within successors unseen start goal)
    (subset : unseen ⊆ more) : Within successors more start goal :=
  ⟨subset within.1, ReflTransGen.mono (fun _ _ step => ⟨step.1, subset step.2⟩) _ _ within.2⟩

/-! ## Stacks -/

namespace Task

@[simp]
def vertex : Task V → V
  | enter vertex => vertex
  | leave vertex => vertex

@[simp]
def entered? : Task V → Option V
  | enter vertex => some vertex
  | leave _ => none

@[simp]
def left? : Task V → Option V
  | enter _ => none
  | leave vertex => some vertex

@[simp]
theorem filterMap_entered?_map (vertices : List V) :
    (vertices.map enter).filterMap entered? = vertices := by
  simp [List.filterMap_map, Function.comp_def]

@[simp]
theorem filterMap_left?_map (vertices : List V) : (vertices.map enter).filterMap left? = [] := by
  simp [List.filterMap_map, Function.comp_def]

end Task

/-- Of the vertices to be left, each has all that it leads to unseen on the stack above it. -/
def Covers (successors : V → List V) (unseen above : List V) : List (Task V) → Prop
  | [] => True
  | .enter vertex :: below => Covers successors unseen (vertex :: above) below
  | .leave vertex :: below =>
    (∀ next ∈ successors vertex, next ∈ unseen → next ∈ above) ∧
      Covers successors unseen above below

theorem Covers.mono {fewer above more : List V} {stack : List (Task V)}
    (covers : Covers successors unseen above stack) (subset : fewer ⊆ unseen)
    (kept : ∀ vertex ∈ above, vertex ∈ fewer → vertex ∈ more) :
    Covers successors fewer more stack := by
  induction stack generalizing above more with
  | nil => trivial
  | cons task below ih =>
    cases task with
    | enter vertex => exact ih covers (by grind)
    | leave vertex =>
      obtain ⟨covered, covers⟩ := covers
      exact ⟨fun next step unseen => kept next (covered next step (subset unseen)) unseen,
        ih covers kept⟩

theorem covers_map_enter_append {above : List V} (next : List V) (stack : List (Task V)) :
    Covers successors unseen above (next.map Task.enter ++ stack) ↔
      Covers successors unseen (next.reverse ++ above) stack := by
  induction next generalizing above with
  | nil => rfl
  | cons first rest ih => simp [Covers, ih]

/-- The stack of a depth-first search, which leaves a vertex only after what it leads to. -/
structure Searching (successors : V → List V) (unseen : List V) (stack : List (Task V)) :
    Prop where
  distinct : unseen.Nodup
  descends : stack.Pairwise fun above below =>
    ∀ vertex, below = .leave vertex → TransGen (Step successors) vertex above.vertex
  covers : Covers successors unseen [] stack

namespace Searching

variable {vertex : V} {rest : List (Task V)}

theorem begun (distinct : vertices.Nodup) :
    Searching successors vertices (vertices.map Task.enter) where
  distinct := distinct
  descends := List.pairwise_map.mpr (List.pairwise_of_forall fun _ _ => nofun)
  covers := by
    rw [← List.append_nil (vertices.map Task.enter), covers_map_enter_append]
    trivial

theorem leave (searching : Searching successors unseen (.leave vertex :: rest)) :
    Searching successors unseen rest :=
  ⟨searching.distinct, (List.pairwise_cons.mp searching.descends).2, searching.covers.2⟩

theorem skip (searching : Searching successors unseen (.enter vertex :: rest))
    (gone : vertex ∉ unseen) : Searching successors unseen rest where
  distinct := searching.distinct
  descends := (List.pairwise_cons.mp searching.descends).2
  covers := by
    have covers : Covers successors unseen [vertex] rest := searching.covers
    exact covers.mono (List.Subset.refl _) (by grind)

theorem enter [DecidableEq V] (searching : Searching successors unseen (.enter vertex :: rest)) :
    Searching successors (unseen.erase vertex)
      ((successors vertex).map Task.enter ++ .leave vertex :: rest) where
  distinct := searching.distinct.erase vertex
  descends := by
    obtain ⟨reached, descends⟩ := List.pairwise_cons.mp searching.descends
    refine List.pairwise_append.mpr
      ⟨List.pairwise_map.mpr (List.pairwise_of_forall fun _ _ => nofun),
        List.pairwise_cons.mpr ⟨reached, descends⟩, ?_⟩
    intro above entered below listed ancestor left
    obtain ⟨next, step, rfl⟩ := List.mem_map.mp entered
    rcases List.mem_cons.mp listed with rfl | listed
    · cases left
      exact .single step
    · exact (reached below listed ancestor left).tail step
  covers := by
    rw [covers_map_enter_append]
    refine ⟨fun next step _ => by simpa using step, ?_⟩
    -- The vertex itself is not unseen any more, so that nothing waits for it.
    have covers : Covers successors unseen [vertex] rest := searching.covers
    refine covers.mono List.erase_subset ?_
    intro other listed remains
    rw [List.mem_singleton.mp listed] at remains
    exact absurd remains searching.distinct.not_mem_erase

end Searching

/-! ## Roots -/

section

variable {together : V → V → Bool} {order : List V}

theorem roots_sublist : (roots together order).Sublist order := by
  induction order with
  | nil => exact .slnil
  | cons vertex later ih =>
    unfold roots
    split
    · exact ih.cons vertex
    · exact ih.cons_cons vertex

/-- No two roots belong together. -/
theorem roots_pairwise :
    (roots together order).Pairwise fun first second => together first second = false := by
  induction order with
  | nil => exact .nil
  | cons vertex later ih =>
    unfold roots
    split
    · exact ih
    case isFalse alone =>
      refine List.pairwise_cons.mpr ⟨fun root listed => ?_, ih⟩
      have member := roots_sublist.subset listed
      simp only [List.any_eq_true, not_exists, not_and, Bool.not_eq_true] at alone
      exact alone root member

/-- Every vertex belongs to a root. -/
theorem exists_root (refl : ∀ vertex, together vertex vertex = true)
    (trans : ∀ first second third, together first second = true →
      together second third = true → together first third = true)
    {vertex : V} (listed : vertex ∈ order) :
    ∃ root ∈ roots together order, together vertex root = true := by
  induction order generalizing vertex with
  | nil => cases listed
  | cons first later ih =>
    unfold roots
    split
    case isTrue passed =>
      rcases List.mem_cons.mp listed with rfl | listed
      · obtain ⟨other, behind, joined⟩ := List.any_eq_true.mp passed
        obtain ⟨root, isRoot, belongs⟩ := ih behind
        exact ⟨root, isRoot, trans _ _ _ joined belongs⟩
      · exact ih listed
    case isFalse =>
      rcases List.mem_cons.mp listed with rfl | listed
      · exact ⟨vertex, List.mem_cons_self, refl vertex⟩
      · obtain ⟨root, isRoot, belongs⟩ := ih listed
        exact ⟨root, List.mem_cons_of_mem _ isRoot, belongs⟩

end

/-! ## What is reached -/

variable [DecidableEq V]

/-- To enter a vertex is to give it up for its successors: a path that comes by it can as well
start there. -/
theorem exists_within_cons_iff {vertex : V} (here : vertex ∈ unseen) (rest : List V) :
    (∃ start ∈ vertex :: rest, Within successors unseen start goal) ↔
      goal = vertex ∨ ∃ start ∈ successors vertex ++ rest,
        Within successors (unseen.erase vertex) start goal := by
  constructor
  · rintro ⟨start, listed, begins, path⟩
    -- Along the path: either the vertex comes last, or what follows it avoids it.
    induction path with
    | refl =>
      by_cases same : start = vertex
      · exact .inl same
      · have other := (List.mem_cons.mp listed).resolve_left same
        exact .inr ⟨start, List.mem_append_right _ other,
          (List.mem_erase_of_ne same).mpr begins, .refl⟩
    | @tail before last _ step ih =>
      by_cases same : last = vertex
      · exact .inl same
      have fresh : last ∈ unseen.erase vertex := (List.mem_erase_of_ne same).mpr step.2
      rcases ih with rfl | ⟨origin, drawn, within⟩
      · exact .inr ⟨last, List.mem_append_left _ step.1, fresh, .refl⟩
      · exact .inr ⟨origin, drawn, within.1, within.2.tail ⟨step.1, fresh⟩⟩
  · rintro (rfl | ⟨start, listed, within⟩)
    · exact ⟨goal, List.mem_cons_self, here, .refl⟩
    · have wider := within.mono List.erase_subset
      rcases List.mem_append.mp listed with next | other
      · exact ⟨vertex, List.mem_cons_self, here, wider.2.head ⟨next, wider.1⟩⟩
      · exact ⟨start, List.mem_cons_of_mem _ other, wider⟩

theorem mem_reach_iff {stack : List V} :
    goal ∈ reach successors unseen stack ↔
      ∃ start ∈ stack, Within successors unseen start goal := by
  fun_induction reach successors unseen stack with
  | case1 => simp
  | case2 unseen vertex rest here ih =>
    rw [List.mem_cons, ih]
    exact (exists_within_cons_iff here rest).symm
  | case3 unseen vertex rest gone ih =>
    rw [ih]
    constructor
    · rintro ⟨start, listed, within⟩
      exact ⟨start, List.mem_cons_of_mem _ listed, within⟩
    · rintro ⟨start, listed, within⟩
      rcases List.mem_cons.mp listed with rfl | listed
      · exact absurd within.1 gone
      · exact ⟨start, listed, within⟩

theorem reach_nodup {stack : List V} (distinct : unseen.Nodup) :
    (reach successors unseen stack).Nodup := by
  fun_induction reach successors unseen stack with
  | case1 => exact .nil
  | case2 unseen vertex rest here ih =>
    refine List.nodup_cons.mpr ⟨fun again => ?_, ih (distinct.erase vertex)⟩
    obtain ⟨start, -, within⟩ := mem_reach_iff.mp again
    exact distinct.not_mem_erase within.mem
  | case3 unseen vertex rest gone ih => exact ih distinct

theorem mem_descendants_iff (among : Among successors vertices) :
    goal ∈ descendants successors vertices start ↔ TransGen (Step successors) start goal := by
  rw [descendants, mem_reach_iff, TransGen.head'_iff]
  refine exists_congr fun next => and_congr_right fun step => ?_
  constructor
  · rintro ⟨-, path⟩
    exact ReflTransGen.mono (fun _ _ step => step.1) _ _ path
  · intro path
    exact ⟨(among _ _ step).2,
      ReflTransGen.mono (fun _ _ step => ⟨step, (among _ _ step).2⟩) _ _ path⟩

/-! ## When a search is done -/

/-- A depth-first search is done with what it was to leave and with what it reaches. -/
theorem finish_perm (stack : List (Task V)) :
    (finish successors unseen stack).Perm
      (stack.filterMap Task.left? ++
        reach successors unseen (stack.filterMap Task.entered?)) := by
  fun_induction finish successors unseen stack with
  | case1 => simp [reach]
  | case2 unseen vertex rest ih => simpa [List.filterMap_cons] using ih
  | case3 unseen vertex rest here ih =>
    refine ih.trans ?_
    simp only [List.filterMap_append, Task.filterMap_left?_map, Task.filterMap_entered?_map,
      List.filterMap_cons, Task.left?, Task.entered?, List.nil_append, List.cons_append]
    rw [reach, if_pos here]
    exact List.perm_middle.symm
  | case4 unseen vertex rest gone ih => simpa [List.filterMap_cons, reach, gone] using ih

/-- A search from all vertices is done with each of them once. -/
theorem finishOrder_perm (distinct : vertices.Nodup) :
    (finishOrder successors vertices).Perm vertices := by
  refine (finish_perm (vertices.map Task.enter)).trans ?_
  rw [Task.filterMap_left?_map, Task.filterMap_entered?_map, List.nil_append,
    List.perm_ext_iff_of_nodup (reach_nodup distinct) distinct]
  intro vertex
  rw [mem_reach_iff]
  constructor
  · rintro ⟨start, -, within⟩
    exact within.mem
  · intro member
    exact ⟨vertex, member, member, .refl⟩

/-! ## Sorting -/

/-- Without cycles, a search is done with what a vertex leads to before it is done with the vertex,
unless it was done with that before it started. -/
theorem mem_of_finish (acyclic : Acyclic successors) {stack : List (Task V)}
    (searching : Searching successors unseen stack) {done : List V} {vertex : V}
    (first : done ++ [vertex] <+: finish successors unseen stack) :
    ∀ next ∈ successors vertex, next ∈ done ∨ next ∉ unseen ∧ .leave next ∉ stack := by
  intro next step
  fun_induction finish successors unseen stack generalizing done with
  | case1 => simp at first
  | case2 unseen left rest ih =>
    obtain ⟨ancestors, -⟩ := List.pairwise_cons.mp searching.descends
    cases done with
    | nil =>
      obtain ⟨rfl, -⟩ := List.cons_prefix_cons.mp first
      refine .inr ⟨fun unseen => ?_, fun listed => ?_⟩
      · exact List.not_mem_nil (searching.covers.1 next step unseen)
      -- What is still to be left leads here, and would be led to from here.
      · rcases List.mem_cons.mp listed with same | below
        · cases same
          exact acyclic _ (.single step)
        · exact acyclic _ ((ancestors _ below next rfl).tail step)
    | cons earlier done =>
      obtain ⟨rfl, behind⟩ := List.cons_prefix_cons.mp first
      rcases ih searching.leave behind with done | ⟨seen, absent⟩
      · exact .inl (List.mem_cons_of_mem _ done)
      · by_cases same : next = earlier
        · exact .inl (same ▸ List.mem_cons_self)
        · exact .inr ⟨seen, by simp [same, absent]⟩
  | case3 unseen entered rest here ih =>
    rcases ih searching.enter first with done | ⟨seen, absent⟩
    · exact .inl done
    · have other : next ≠ entered := by
        rintro rfl
        simp at absent
      rw [List.mem_erase_of_ne other] at seen
      exact .inr ⟨seen, by simp_all⟩
  | case4 unseen entered rest gone ih =>
    rcases ih (searching.skip gone) first with done | ⟨seen, absent⟩
    · exact .inl done
    · exact .inr ⟨seen, by simp [absent]⟩

theorem isSorted_iff {order : List V} :
    isSorted successors order = true ↔
      ∀ vertex later, vertex :: later <:+ order → successors vertex ⊆ later := by
  induction order with
  | nil => simp [isSorted]
  | cons first rest ih =>
    simp only [isSorted, Bool.and_eq_true, ih, List.all_eq_true, decide_eq_true_eq,
      List.suffix_cons_iff]
    constructor
    · rintro ⟨here, sorted⟩ vertex later (same | behind)
      · cases same
        exact here
      · exact sorted vertex later behind
    · intro sorted
      exact ⟨sorted first rest (.inl rfl), fun vertex later behind =>
        sorted vertex later (.inr behind)⟩

/-- Paths from a vertex stay behind it in a sorted list. -/
theorem mem_of_isSorted {order later : List V} (sorted : isSorted successors order = true)
    (place : start :: later <:+ order) (path : TransGen (Step successors) start goal) :
    goal ∈ later := by
  rw [isSorted_iff] at sorted
  induction path with
  | single step => exact sorted start later place step
  | tail _ step ih =>
    obtain ⟨before, after, rfl⟩ := List.append_of_mem ih
    have behind := sorted _ after (((List.suffix_append before _).trans
      (List.suffix_cons start _)).trans place) step
    exact List.mem_append_right _ (List.mem_cons_of_mem _ behind)

/-- The vertices can be sorted just when no path comes back to its start. -/
theorem sort?_isSome_iff (distinct : vertices.Nodup) (among : Among successors vertices) :
    (sort? successors vertices).isSome = true ↔ Acyclic successors := by
  have order : (finishOrder successors vertices).Perm vertices := finishOrder_perm distinct
  have sorts : (sort? successors vertices).isSome = true ↔
      isSorted successors (finishOrder successors vertices).reverse = true := by
    simp [sort?]
  rw [sorts]
  constructor
  · intro sorted vertex cycle
    obtain ⟨next, step, -⟩ := TransGen.head'_iff.mp cycle
    have listed : vertex ∈ (finishOrder successors vertices).reverse :=
      List.mem_reverse.mpr (order.mem_iff.mpr (among _ _ step).1)
    obtain ⟨before, later, split⟩ := List.append_of_mem listed
    have again := mem_of_isSorted sorted (split ▸ List.suffix_append before _) cycle
    have once := List.nodup_reverse.mpr (order.nodup_iff.mpr distinct)
    rw [split] at once
    exact (List.nodup_cons.mp (List.nodup_append.mp once).2.1).1 again
  · intro acyclic
    rw [isSorted_iff]
    intro vertex later place next step
    have first : later.reverse ++ [vertex] <+: finish successors vertices (vertices.map .enter) := by
      rw [← List.reverse_suffix]
      simpa [finishOrder] using place
    rcases mem_of_finish acyclic (.begun distinct) first next step with done | ⟨unseen, -⟩
    · exact List.mem_reverse.mp done
    · exact absurd (among _ _ step).2 unseen

end SignalGraph.Walk
