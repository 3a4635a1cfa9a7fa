import SignalGraph.Proofs.Catalog.Conforming
import SignalGraph.Proofs.Session.Graphs

/-! Parameters in sessions that are driven by commands alone.

A loaded or imported document brings its parameters along as they are. Commands coerce what is
entered, so without documents every value is of the type that its parameter declares.
-/

set_option autoImplicit false

namespace SignalGraph

def Operation.IsCommand : Operation → Prop
  | command _ _ => True
  | _ => False

/-- What every edit keeps of a graph, commands keep of all graphs of a session. -/
theorem Session.Everywhere.dispatched {P : Graph → Prop} {Made : String → Prop}
    {session next : Session} {command : Command}
    (edits : ∀ {graph next : Graph}, P graph →
      Graph.Edited session.catalog session.settings.duplicateOffset Made graph next → P next)
    (everywhere : session.Everywhere P) (dispatched : session.Dispatched Made command next) :
    next.Everywhere P := by
  cases dispatched with
  | kept draft graph => exact everywhere.unmoved graph rfl
  | edited edited => exact everywhere.recorded (edits everywhere.draft edited) rfl
  | undone => exact everywhere.recalled (History.undo_snapshots _) rfl
  | redone => exact everywhere.recalled (History.redo_snapshots _) rfl

namespace Editing

variable {catalog : Catalog} {settings : Settings} {state : Editing}

/-- Every operation is a command. -/
def Commands (_ : Editing) (operation : Operation) : Prop := operation.IsCommand

theorem Reaches.everywhere_of_commands {P : Graph → Prop} (empty : P .empty)
    (edits : ∀ {graph next : Graph}, P graph →
      Graph.Edited catalog settings.duplicateOffset (fun _ => True) graph next → P next)
    (reached : (start catalog settings).Reaches Commands state) : state.session.Everywhere P := by
  have kept : state.session.catalog = catalog ∧ state.session.settings = settings ∧
      state.session.Everywhere P := by
    refine reached.keeps (P := fun state => state.session.catalog = catalog ∧
      state.session.settings = settings ∧ state.session.Everywhere P) ?_ ⟨rfl, rfl, empty, ?_⟩
    · rintro state operation isCommand ⟨rfl, rfl, everywhere⟩
      cases operation with
      | command newId command =>
        have dispatched := state.session.dispatched_any newId command
        obtain ⟨sameCatalog, sameSettings⟩ := dispatched.stepped.surroundings
        exact ⟨sameCatalog, sameSettings, everywhere.dispatched edits dispatched⟩
      | _ => exact isCommand.elim
    · intro snapshot member
      rw [List.mem_singleton.mp member]
      exact empty
  exact kept.2.2

/-- Whatever commands enter, every node of a built-in kind has, for each parameter of its kind, a
value of the declared type. -/
theorem commands_conform (reached : (start .builtIn settings).Reaches Commands state) :
    (∀ node ∈ state.session.draft.graph.nodes, node.Conforms .builtIn) ∧
    ∀ snapshot ∈ state.session.history.snapshots,
      ∀ node ∈ snapshot.nodes, node.Conforms .builtIn := by
  have maintained := Catalog.builtIn_sound.maintained (fun _ => True) settings.duplicateOffset
  have everywhere := reached.everywhere_of_commands
    (P := fun graph => ∀ node ∈ graph.nodes, node.Conforms .builtIn)
    (fun _ member => absurd member List.not_mem_nil)
    fun all edited => edited.forall_nodes maintained all
  exact ⟨everywhere.draft, everywhere.snapshots⟩

/-- Values that fit no type leave the defaults in place. A text that spells a number is one. -/
theorem commands_conform_junk :
    let junk : KeyMap Json := .ofList [("period", .string " 2.5e1 "), ("source", .null),
      ("lookback", .string "nan")]
    let state := (((start .builtIn .standard).step
      (.command "node-1" (.addNode "rsi" ⟨0.0, 0.0⟩))).step
      (.command "" (.setParameters "node-1" junk))).step
      (.command "node-2" (.duplicateNode "node-1"))
    let shown (node : Node) :=
      ((node.parameters.get? "period").bind fun value => value.tree.signed?,
        (node.parameters.get? "lookback").bind fun value => value.tree.signed?,
        (node.parameters.get? "source").bind fun value => value.tree.text?)
    state.session.draft.graph.nodes.map shown =
        [(some 25, some 0, some "close"), (some 25, some 0, some "close")] ∧
      ∀ node ∈ state.session.draft.graph.nodes, node.Conforms .builtIn := by
  intro junk state shown
  have reached : (start .builtIn .standard).Reaches Commands state :=
    .step (.step (.step .refl trivial) trivial) trivial
  exact ⟨by decide +kernel, (commands_conform reached).1⟩

end Editing

end SignalGraph
