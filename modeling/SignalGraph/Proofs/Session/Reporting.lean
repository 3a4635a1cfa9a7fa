import SignalGraph.Proofs.Session.Neighbours
import SignalGraph.Proofs.Session.Reentry
import SignalGraph.Proofs.Session.Refusal

/-! What the outcome of a command says about the draft.

A command that reports no change makes none. The converse fails: a node may be moved to where it
stands, renamed to the label it has or given the values it holds, the last edge may be made again,
and a name, a description, a setting or the visibility set to what it is. Such a command finds what
it is about and reports a change. Nothing else does so without one, since undo and redo lead to a
snapshot that differs from the draft.
-/

set_option autoImplicit false

namespace SignalGraph

/-! ## Maps, drafts and values -/

theorem KeyMap.beq_insert_iff {α : Type} [BEq α] [EquivBEq α] {map : KeyMap α} {key : String}
    {value : α} :
    (map == map.insert key value) = true ↔ (map.get? key == some value) = true := by
  simp only [beq_iff_get?, get?_insert]
  constructor
  · intro same
    simpa using same key
  · intro held other
    split
    case isTrue here => exact here ▸ held
    case isFalse => exact BEq.rfl

theorem Draft.beq_iff {first second : Draft} :
    (first == second) = true ↔ first.name = second.name ∧ first.description = second.description ∧
      (first.graph == second.graph) = true ∧ (first.config == second.config) = true ∧
      first.isPublic = second.isPublic := by
  have unfolded : (first == second) = (first.name == second.name &&
    (first.description == second.description && (first.graph == second.graph &&
      (first.config == second.config && first.isPublic == second.isPublic)))) := rfl
  simp only [unfolded, Bool.and_eq_true, beq_iff_eq]

theorem Tree.text?_of_same {first second : Tree} (equal : first.same second = true) :
    first.text? = second.text? := by
  cases first with
  | string text =>
    cases second with
    | string other => exact congrArg some (eq_of_beq equal)
    | _ => exact (Bool.false_ne_true equal).elim
  | _ =>
    cases second with
    | string => exact (Bool.false_ne_true equal).elim
    | _ => rfl

/-! ## Nodes -/

namespace Node

variable {node : Node} {catalog : Catalog} {values : KeyMap Json}

/-- Each of the values is there already, as its parameter takes it. -/
def Holds (node : Node) (catalog : Catalog) (values : KeyMap Json) : Prop :=
  ∀ key value, values.get? key = some value →
    (node.parameters.get? key == some (catalog.entered node.kind key value)) = true

theorem beq_enter_iff :
    (node.parameters == node.enter catalog values) = true ↔ node.Holds catalog values := by
  simp only [KeyMap.beq_iff_get?, get?_enter]
  constructor
  · intro same key value given
    have here := same key
    rwa [given, Option.map_some, Option.some_or] at here
  · intro holds key
    cases given : values.get? key with
    | none => exact BEq.rfl
    | some value => exact holds key value given

theorem code_of_beq {first second : KeyMap Json} (same : (first == second) = true) :
    code first = code second := by
  have found := KeyMap.beq_iff_get?.mp same "code"
  unfold code
  cases held : first.get? "code" with
  | none =>
    cases met : second.get? "code" with
    | none => rfl
    | some => simp [held, met] at found
  | some one =>
    cases met : second.get? "code" with
    | none => simp [held, met] at found
    | some other =>
      rw [held, met] at found
      rw [Option.bind_some, Option.bind_some, Tree.text?_of_same found]

theorem beq_withParameters_iff (numeric : node.position.IsNumeric) :
    (node == node.withParameters catalog values) = true ↔
      node.Holds catalog values ∧ node.KeepsLabel catalog values := by
  have told : (node == node.withParameters catalog values) = true ↔
      node.label = node.labelAfter catalog values (node.enter catalog values) ∧
        (node.parameters == node.enter catalog values) = true := by
    simp [beq_iff, withParameters, Position.beq_self_iff, numeric]
  rw [told, ← beq_enter_iff, and_comm]
  refine and_congr_right fun same => ?_
  -- The label follows the code that is held, which is the one that was entered.
  rw [KeepsLabel, labelAfter, labelAfter, code_of_beq same, eq_comm]

theorem beq_move_iff {position : Position} :
    (node == { node with position }) = true ↔ (node.position == position) = true := by
  simp [beq_iff]

theorem beq_withLabel_iff (numeric : node.position.IsNumeric) {label : String} :
    (node == node.withLabel catalog label) = true ↔
      node.label = (node.withLabel catalog label).label := by
  simp [beq_iff, withLabel, Position.beq_self_iff, numeric]

end Node

/-! ## Commands -/

/-- The outcome says that something was changed. -/
def Outcome.reports : Outcome → Bool
  | .nodeAdded _ | .edgeAdded _ | .applied => true
  | .unchanged | .rejected _ => false

namespace Session

variable {session : Session} {newId : String} {command : Command}

/-- The draft is already as the command would have it. -/
def Fulfils (session : Session) : Command → Prop
  | .setParameters id values => ∃ node, session.draft.graph.node? id = some node ∧
    node.Holds session.catalog values ∧ node.KeepsLabel session.catalog values
  | .moveNode id position => ∃ node, session.draft.graph.node? id = some node ∧
    (node.position == position) = true
  | .renameNode id label => ∃ node, session.draft.graph.node? id = some node ∧
    node.label = (node.withLabel session.catalog label).label
  | .connect connection => session.draft.graph.edges.getLast? = some connection.edge
  | .setName name => session.draft.name = name
  | .setDescription description => session.draft.description = description
  | .setConfig key value => (session.draft.config.get? key == some value) = true
  | .setPublic isPublic => session.draft.isPublic = isPublic
  | .addNode _ _ | .deleteNode _ | .duplicateNode _ | .deleteEdge _ | .undo | .redo
  | .removeConfig _ => False

/-- The answer reports a change although the draft equals the one before. -/
def Overstates (session : Session) (answer : Outcome × Session) : Prop :=
  answer.1.reports = true ∧ (session.draft == answer.2.draft) = true

theorem dispatch_of_not_reports
    (quiet : (session.dispatch newId command).1.reports = false) :
    (session.dispatch newId command).2 = session := by
  cases answer : (session.dispatch newId command).1 with
  | unchanged =>
    have moot := (session.dispatch_eq_unchanged_iff newId command).mp answer
    rw [dispatch_of_moot moot]
  | rejected reason =>
    obtain ⟨connection, rfl, refused⟩ := dispatch_eq_rejected_iff.mp answer
    rw [dispatch_of_rejection refused]
  | nodeAdded | edgeAdded | applied =>
    rw [answer] at quiet
    cases quiet

theorem overstates_applyEdit_iff {graph? : Option Graph} :
    session.Overstates (session.applyEdit graph?) ↔
      ∃ graph, graph? = some graph ∧ (session.draft.graph == graph) = true := by
  cases graph? with
  | none => simp [Overstates, applyEdit, Outcome.reports]
  | some graph => simp [Overstates, applyEdit, edit, withGraph, Outcome.reports, Draft.beq_iff]

/-- What tells whether a change leaves a node equal to itself tells it of the whole draft. -/
theorem overstates_change_iff {id : String} {change : Node → Node} {P : Node → Prop}
    (told : ∀ node : Node, node.position.IsNumeric → ((node == change node) = true ↔ P node)) :
    session.Overstates (session.applyEdit (session.draft.graph.change? id change)) ↔
      (∃ node, session.draft.graph.node? id = some node ∧ P node) ∧
        session.draft.graph.IsNumeric := by
  rw [overstates_applyEdit_iff]
  constructor
  -- A graph that equals another has no NaN, or it would not equal itself.
  · rintro ⟨graph, changed, same⟩
    obtain ⟨node, found⟩ : ∃ node, session.draft.graph.node? id = some node := by
      refine Option.ne_none_iff_exists'.mp fun missing => ?_
      rw [Graph.change?, missing] at changed
      cases changed
    obtain ⟨numeric, kept⟩ := (Graph.beq_change?_iff changed found).mp same
    have position := numeric node (List.mem_of_find?_eq_some found)
    exact ⟨⟨node, found, (told node position).mp kept⟩, numeric⟩
  · rintro ⟨⟨node, found, holds⟩, numeric⟩
    have position := numeric node (List.mem_of_find?_eq_some found)
    have changed : session.draft.graph.change? id change = some _ :=
      if_pos (by rw [found, Option.isSome_some])
    exact ⟨_, changed, (Graph.beq_change?_iff changed found).mpr
      ⟨numeric, (told node position).mpr holds⟩⟩

theorem not_overstates_of_graph {answer : Outcome × Session}
    (differs : (session.draft.graph == answer.2.draft.graph) = false) :
    ¬session.Overstates answer := by
  rintro ⟨-, same⟩
  rw [(Draft.beq_iff.mp same).2.2.1] at differs
  cases differs

theorem not_overstates_addNode (node : Node) : ¬session.Overstates (session.addNode node) := by
  refine not_overstates_of_graph (Bool.eq_false_iff.mpr fun same => ?_)
  have nodes := (Graph.length_of_beq same).1
  simp [addNode, edit, withGraph, Graph.addNode] at nodes

theorem overstates_dispatch_iff (newId : String) (varied : session.history.Varied)
    (tracks : session.Tracks) (settled : session.draft.graph.Settled session.catalog) :
    session.Overstates (session.dispatch newId command) ↔
      session.Fulfils command ∧ session.draft.graph.IsNumeric := by
  cases command with
  | setParameters =>
    exact overstates_change_iff fun node numeric => node.beq_withParameters_iff numeric
  | moveNode => exact overstates_change_iff fun node _ => node.beq_move_iff
  | renameNode => exact overstates_change_iff fun node numeric => node.beq_withLabel_iff numeric
  | addNode => exact iff_of_false (not_overstates_addNode _) fun fulfils => fulfils.1
  | duplicateNode =>
    refine iff_of_false ?_ fun fulfils => fulfils.1
    simp only [dispatch]
    split
    case h_1 copy _ => exact not_overstates_addNode copy
    case h_2 => exact fun overstates => Bool.noConfusion overstates.1
  | deleteNode node =>
    refine iff_of_false (overstates_applyEdit_iff.not.mpr ?_) fun fulfils => fulfils.1
    rintro ⟨graph, found, same⟩
    exact Nat.ne_of_gt (Graph.length_nodes_of_delete? found) (Graph.length_of_beq same).1
  | deleteEdge edge =>
    refine iff_of_false (overstates_applyEdit_iff.not.mpr ?_) fun fulfils => fulfils.1
    rintro ⟨graph, found, same⟩
    exact Nat.ne_of_gt (Graph.length_edges_of_disconnect? found) (Graph.length_of_beq same).2
  | connect connection =>
    simp only [dispatch, Fulfils]
    cases taken : session.draft.graph.connect session.catalog connection with
    | error reason =>
      refine iff_of_false (fun overstates => Bool.noConfusion overstates.1) ?_
      rintro ⟨last, -⟩
      -- The last edge is admitted, so its connection is taken again.
      have admitted := settled.admitted connection.edge (List.mem_of_getLast? last)
      have again := Graph.connect_eq_ok_iff.mpr ⟨admitted, rfl, rfl⟩
      rw [show connection.edge.toConnection = connection from rfl, taken] at again
      cases again
    | ok made =>
      rw [and_comm, ← settled.beq_connect_iff taken]
      simp [Overstates, Outcome.reports, edit, withGraph, Draft.beq_iff]
  | undo =>
    -- The draft is the current snapshot or equals it, and its neighbours differ from that.
    refine iff_of_false ?_ fun fulfils => fulfils.1
    cases possible : session.history.canUndo with
    | false => simp [dispatch, undo, possible, Overstates, Outcome.reports]
    | true =>
      refine not_overstates_of_graph ?_
      rw [dispatch, undo_graph possible, ← tracks.beq_left, BEq.comm]
      exact varied.undo possible
  | redo =>
    refine iff_of_false ?_ fun fulfils => fulfils.1
    cases possible : session.history.canRedo with
    | false => simp [dispatch, redo, possible, Overstates, Outcome.reports]
    | true =>
      refine not_overstates_of_graph ?_
      rw [dispatch, redo_graph possible, ← tracks.beq_left]
      exact varied.redo possible
  | removeConfig key =>
    refine iff_of_false ?_ fun fulfils => fulfils.1
    simp only [dispatch]
    split
    case isTrue held =>
      rintro ⟨-, same⟩
      have erased := KeyMap.beq_iff_get?.mp (Draft.beq_iff.mp same).2.2.2.1 key
      obtain ⟨value, found⟩ := Option.isSome_iff_exists.mp held
      rw [withConfig, found, KeyMap.get?_erase_self] at erased
      cases erased
    case isFalse => exact fun overstates => Bool.noConfusion overstates.1
  | setConfig key value =>
    simp [Overstates, dispatch, withConfig, Outcome.reports, Draft.beq_iff, Fulfils,
      KeyMap.beq_insert_iff, Graph.beq_self_iff, and_comm]
  | setName | setDescription | setPublic =>
    simp [Overstates, dispatch, Outcome.reports, Draft.beq_iff, Fulfils, Graph.beq_self_iff,
      and_comm]

end Session

/-! ## Sessions -/

namespace Editing

variable {catalog : Catalog} {settings : Settings} {state : Editing}

/-- In every state of every run, a command that reports no change leaves the session as it is. One
that reports a change leaves a draft equal to the one before exactly if the draft was already as the
command would have it, and none of its positions is a NaN. -/
theorem reaches_reports (reached : (start catalog settings).Reaches Fresh state) (newId : String)
    (command : Command) :
    ((state.session.dispatch newId command).1.reports = false →
      (state.session.dispatch newId command).2 = state.session) ∧
    ((state.session.dispatch newId command).1.reports = true ∧
        (state.session.draft == (state.session.dispatch newId command).2.draft) = true ↔
      state.session.Fulfils command ∧ state.session.draft.graph.IsNumeric) := by
  have everywhere := reached.everywhere (Graph.settled_maintained fun _ _ fresh => fresh)
  obtain ⟨rfl, -⟩ := Reaches.surroundings reached
  exact ⟨Session.dispatch_of_not_reports, Session.overstates_dispatch_iff newId reached.varied
    reached.tracked.1.tracks everywhere.draft⟩

set_option maxRecDepth 4000 in
/-- A node is moved to where it stands and given the period it has, the last edge is made again, and
the name is set to what it is: all of these are reported as changes. -/
theorem reaches_reports_fulfilled :
    let source := Graph.newNode .builtIn "s" "rsi" ⟨0.0, 0.0⟩
    let target := Graph.newNode .builtIn "x" "not" ⟨8.0, 0.0⟩
    let placed := ((start .builtIn .standard).step
      (.command "s" (.addNode "rsi" ⟨0.0, 0.0⟩))).step (.command "x" (.addNode "not" ⟨8.0, 0.0⟩))
    let state := placed.step (.command "" (.connect ⟨"s", none, "x", none⟩))
    (start .builtIn .standard).Reaches Fresh state ∧
      state.session.draft.graph.nodes = [source, target] ∧
      ∀ command ∈ [.moveNode "x" ⟨8.0, 0.0⟩,
          .setParameters "s" (.ofList [("period", .integer 14)]),
          .connect ⟨"s", none, "x", none⟩, .setName ""],
        (state.session.dispatch "" command).1.reports = true ∧
          (state.session.draft == (state.session.dispatch "" command).2.draft) = true := by
  intro source target placed state
  have reached : (start .builtIn .standard).Reaches Fresh state :=
    .step (.step (.step .refl fun _ => by decide +kernel) fun _ => by decide +kernel) nofun
  have numeric : state.session.draft.graph.IsNumeric := by decide +kernel
  have held : source.Holds .builtIn (.ofList [("period", .integer 14)]) := by
    intro key value given
    rw [KeyMap.get?_single] at given
    split at given
    case isTrue here =>
      cases here
      cases given
      decide +kernel
    case isFalse => cases given
  have fulfils : ∀ command ∈ [.moveNode "x" ⟨8.0, 0.0⟩,
      .setParameters "s" (.ofList [("period", .integer 14)]),
      .connect ⟨"s", none, "x", none⟩, .setName ""], state.session.Fulfils command := by
    refine List.forall_mem_cons.mpr ⟨⟨target, rfl, by decide +kernel⟩, ?_⟩
    refine List.forall_mem_cons.mpr ⟨⟨source, rfl, held, if_neg nofun⟩, ?_⟩
    refine List.forall_mem_cons.mpr ⟨?_, List.forall_mem_singleton.mpr rfl⟩
    exact (show state.session.draft.graph.edges.getLast? = some _ by decide +kernel)
  refine ⟨reached, rfl, fun command listed => ?_⟩
  exact (reaches_reports reached "" command).2.mpr ⟨fulfils command listed, numeric⟩

end Editing

end SignalGraph
