import RequestLint.Proofs.Syntax.Traversal

/-! Handlers on a walk. The loop keeps nodes to enter and nodes to leave on one
stack, and puts a node back only if some handler waits for its end. Its handlers
still run as those of a recursive traversal do: in the same order, each on the same
node and on the state that it would find there. -/
namespace RequestLint.Walk

variable {σ : Type}

/-- One run of a handler. -/
inductive Event (σ : Type) where
  | entered (node : Node) (handler : Node → σ → σ)
  | left (node : Node) (handler : Node → σ → σ)
  | exited (handler : σ → σ)

namespace Event

def perform : Event σ → σ → σ
  | entered node handler => handler node
  | left node handler => handler node
  | exited handler => handler

/-- The node that the handler runs on. -/
def node? : Event σ → Option Node
  | entered node _ => some node
  | left node _ => some node
  | exited _ => none

def performAll (state : σ) (events : List (Event σ)) : σ :=
  events.foldl (fun state event => event.perform state) state

/-- The events, each with the state that it finds. -/
def trace (state : σ) : List (Event σ) → List (Event σ × σ)
  | [] => []
  | event :: rest => (event, state) :: trace (event.perform state) rest

/-- Performs an event and notes it down. -/
def record (event : Event σ) (run : σ × List (Event σ × σ)) : σ × List (Event σ × σ) :=
  (event.perform run.1, run.2 ++ [(event, run.1)])

theorem foldl_record (events : List (Event σ)) (state : σ) (noted : List (Event σ × σ)) :
    events.foldl (fun run event => event.record run) (state, noted) =
      (performAll state events, noted ++ trace state events) := by
  induction events generalizing state noted with
  | nil => rw [performAll, trace, List.append_nil]; rfl
  | cons event rest ih =>
    rw [List.foldl_cons, record, ih, trace, List.append_assoc]
    rfl

end Event

open Event

namespace Handlers

/-- The handlers for nodes of a kind, in the order in which they were registered. -/
def ofKind (handlers : List (String × (Node → σ → σ))) (kind : String) : List (Node → σ → σ) :=
  (handlers.filter (·.1 = kind)).map Prod.snd

def onEnter (handlers : Handlers σ) (node : Node) : List (Event σ) :=
  (ofKind handlers.enter node.kind).map (.entered node)

def onLeave (handlers : Handlers σ) (node : Node) : List (Event σ) :=
  (ofKind handlers.leave node.kind).map (.left node)

/-- The recursive traversal: the handlers of a node's kind, then all its children,
then the handlers that wait for its end. -/
def traverse (handlers : Handlers σ) (node : Node) (state : σ) : σ :=
  let entered := (ofKind handlers.enter node.kind).foldl (fun state run => run node state) state
  let below := node.children.attach.foldl (fun state ⟨inner, _⟩ => handlers.traverse inner state)
    entered
  (ofKind handlers.leave node.kind).foldl (fun state run => run node state) below
termination_by node.size
decreasing_by exact Node.size_lt_of_mem_children ‹_›

/-- What a recursive traversal runs, in order. -/
def events (handlers : Handlers σ) (node : Node) : List (Event σ) :=
  handlers.onEnter node ++ (node.children.attach.flatMap fun ⟨inner, _⟩ => handlers.events inner) ++
    handlers.onLeave node
termination_by node.size
decreasing_by exact Node.size_lt_of_mem_children ‹_›

variable (handlers : Handlers σ) {root node inner : Node}

theorem events_eq (node : Node) : handlers.events node =
    handlers.onEnter node ++ node.children.flatMap handlers.events ++ handlers.onLeave node := by
  rw [events]
  simp only [List.flatMap_subtype, List.unattach_attach]

theorem traverse_eq (node : Node) (state : σ) : handlers.traverse node state =
    performAll (node.children.foldl (fun state inner => handlers.traverse inner state)
      (performAll state (handlers.onEnter node))) (handlers.onLeave node) := by
  rw [traverse, performAll, performAll, onEnter, onLeave, List.foldl_map, List.foldl_map]
  simp only [List.foldl_subtype, List.unattach_attach]
  rfl

theorem runAll_eq (registered : List (String × (Node → σ → σ))) (node : Node) (state : σ) :
    runAll registered node state =
      (ofKind registered node.kind).foldl (fun state run => run node state) state := by
  induction registered generalizing state with
  | nil => rfl
  | cons first rest ih =>
    obtain ⟨kind, handler⟩ := first
    rw [runAll, List.foldl_cons, ofKind, List.filter_cons]
    dsimp only
    by_cases same : kind = node.kind
    · rw [if_pos same, if_pos (decide_eq_true same)]
      exact ih _
    · rw [if_neg same, if_neg (by simpa using same)]
      exact ih _

theorem runAll_enter (node : Node) (state : σ) :
    runAll handlers.enter node state = performAll state (handlers.onEnter node) := by
  rw [runAll_eq, performAll, onEnter, List.foldl_map]
  rfl

theorem runAll_leave (node : Node) (state : σ) :
    runAll handlers.leave node state = performAll state (handlers.onLeave node) := by
  rw [runAll_eq, performAll, onLeave, List.foldl_map]
  rfl

/-- What runs at one visit. -/
def atVisit : Visit → List (Event σ)
  | .enter node => handlers.onEnter node
  | .leave node => handlers.onLeave node

theorem react_eq (state : σ) (visit : Visit) :
    handlers.react state visit = performAll state (handlers.atVisit visit) := by
  cases visit with
  | enter node => exact handlers.runAll_enter node state
  | leave node => exact handlers.runAll_leave node state

theorem foldl_react (visits : List Visit) (state : σ) :
    visits.foldl handlers.react state = performAll state (visits.flatMap handlers.atVisit) := by
  induction visits generalizing state with
  | nil => rfl
  | cons visit rest ih =>
    rw [List.foldl_cons, ih, react_eq, List.flatMap_cons, performAll, performAll, performAll,
      List.foldl_append]

theorem flatMap_atVisit (node : Node) :
    node.visits.flatMap handlers.atVisit = handlers.events node := by
  induction node using Node.downward with
  | step node ih =>
    have below : (node.children.flatMap Node.visits).flatMap handlers.atVisit =
        node.children.flatMap handlers.events := by
      rw [List.flatMap_assoc]
      exact List.flatMap_congr ih
    rw [Node.visits_eq, events_eq, List.flatMap_append, List.flatMap_cons, below,
      List.flatMap_singleton, atVisit, atVisit]

/-- A node that nothing waits for is left without any handler. -/
theorem react_leave_of_not_waits {node : Node} (unawaited : handlers.waits node = false)
    (state : σ) : handlers.react state (.leave node) = state := by
  have none_left : handlers.leave.filter (·.1 = node.kind) = [] := by
    rw [List.filter_eq_nil_iff]
    intro entry member same
    exact Bool.false_ne_true (unawaited.symm.trans (List.any_eq_true.2 ⟨entry, member, same⟩))
  rw [react_eq, atVisit, onLeave, ofKind, none_left]
  rfl

/-- Putting a node back only where a handler waits for its end changes nothing. -/
theorem run_waits_eq (state : σ) (root : Node) :
    run handlers.waits handlers.react state [.enter root] = fold handlers.react state root := by
  rw [run_eq_foldl fun _ unawaited => handlers.react_leave_of_not_waits unawaited, fold_eq_foldl,
    List.flatMap_singleton, Visit.expand]

/-- All that a walk runs. -/
def history (root : Node) : List (Event σ) := handlers.events root ++ handlers.exit.map .exited

theorem walk_eq (state : σ) (root : Node) :
    handlers.walk state root = performAll state (handlers.history root) := by
  rw [walk, run_waits_eq, fold_eq_foldl, foldl_react, flatMap_atVisit, history, performAll,
    performAll, List.foldl_append, List.foldl_map]
  rfl

theorem traverse_eq_performAll (node : Node) (state : σ) :
    handlers.traverse node state = performAll state (handlers.events node) := by
  induction node using Node.downward generalizing state with
  | step node ih =>
    have below (nodes : List Node) (children : ∀ inner ∈ nodes, inner ∈ node.children) (state : σ) :
        nodes.foldl (fun state inner => handlers.traverse inner state) state =
          performAll state (nodes.flatMap handlers.events) := by
      induction nodes generalizing state with
      | nil => rfl
      | cons first rest later =>
        rw [List.foldl_cons, ih first (children first List.mem_cons_self),
          later fun inner member => children inner (List.mem_cons_of_mem _ member),
          List.flatMap_cons, performAll, performAll, performAll, List.foldl_append]
    rw [traverse_eq, below _ fun _ child => child, events_eq]
    simp only [performAll, List.foldl_append]

/-- Handlers that note down what they do. -/
def recorded : Handlers (σ × List (Event σ × σ)) where
  enter := handlers.enter.map fun (kind, run) => (kind, fun node => (Event.entered node run).record)
  leave := handlers.leave.map fun (kind, run) => (kind, fun node => (Event.left node run).record)
  exit := handlers.exit.map fun run => (Event.exited run).record

/-- The event of the handler that notes `event` down. -/
def noting : Event σ → Event (σ × List (Event σ × σ))
  | .entered node run => .entered node fun node => (Event.entered node run).record
  | .left node run => .left node fun node => (Event.left node run).record
  | .exited run => .exited (Event.exited run).record

theorem perform_noting (event : Event σ) : (noting event).perform = event.record := by
  cases event with
  | entered => rfl
  | left => rfl
  | exited => rfl

theorem ofKind_map {τ : Type} (change : (Node → σ → σ) → Node → τ → τ)
    (registered : List (String × (Node → σ → σ))) (kind : String) :
    ofKind (registered.map fun (kind, run) => (kind, change run)) kind =
      (ofKind registered kind).map change := by
  rw [ofKind, ofKind, List.filter_map, List.map_map, List.map_map]
  rfl

theorem events_recorded (node : Node) :
    handlers.recorded.events node = (handlers.events node).map noting := by
  induction node using Node.downward with
  | step node ih =>
    have below : node.children.flatMap handlers.recorded.events =
        (node.children.flatMap handlers.events).map noting := by
      rw [List.map_flatMap]
      exact List.flatMap_congr ih
    have entered : handlers.recorded.onEnter node = (handlers.onEnter node).map noting := by
      rw [onEnter, recorded, ofKind_map fun run node => (Event.entered node run).record, onEnter,
        List.map_map, List.map_map]
      rfl
    have left : handlers.recorded.onLeave node = (handlers.onLeave node).map noting := by
      rw [onLeave, recorded, ofKind_map fun run node => (Event.left node run).record, onLeave,
        List.map_map, List.map_map]
      rfl
    rw [events_eq, events_eq, below, entered, left, List.map_append, List.map_append]

theorem walk_recorded (state : σ) (root : Node) :
    handlers.recorded.walk (state, []) root =
      (handlers.walk state root, trace state (handlers.history root)) := by
  have noted : handlers.recorded.history root = (handlers.history root).map noting := by
    rw [history, events_recorded, history, List.map_append, recorded, List.map_map, List.map_map]
    rfl
  rw [walk_eq, noted, performAll, List.foldl_map]
  simp only [perform_noting]
  rw [foldl_record, walk_eq, List.nil_append]

theorem node?_of_mem_events {event : Event σ} (member : event ∈ handlers.events node) :
    ∃ inner, event.node? = some inner ∧ inner ∈ node.preorder := by
  induction node using Node.downward with
  | step node ih =>
    rw [events_eq, List.mem_append, List.mem_append, List.mem_flatMap] at member
    rcases member with (entered | ⟨inner, child, member⟩) | left
    · obtain ⟨run, _, rfl⟩ := List.mem_map.1 entered
      exact ⟨node, rfl, node.self_mem_preorder⟩
    · obtain ⟨lower, about, listed⟩ := ih inner child member
      exact ⟨lower, about, Node.mem_preorder_trans listed
        (Node.mem_preorder_of_child node.self_mem_preorder child)⟩
    · obtain ⟨run, _, rfl⟩ := List.mem_map.1 left
      exact ⟨node, rfl, node.self_mem_preorder⟩

/-- All events are about nodes that do not lie in `node`. -/
def Outside (node : Node) (events : List (Event σ)) : Prop :=
  ∀ event ∈ events, ∃ other, event.node? = some other ∧ other ∉ node.preorder

theorem Outside.append {first second : List (Event σ)} (one : Outside node first)
    (other : Outside node second) : Outside node (first ++ second) := by
  intro event member
  rcases List.mem_append.1 member with member | member
  · exact one event member
  · exact other event member

theorem outside_flatMap {nodes : List Node}
    (apart : ∀ other ∈ nodes.flatMap Node.preorder, other ∉ node.preorder) :
    Outside node (nodes.flatMap handlers.events) := by
  intro event member
  obtain ⟨top, among, member⟩ := List.mem_flatMap.1 member
  obtain ⟨other, about, listed⟩ := handlers.node?_of_mem_events member
  exact ⟨other, about, apart other (List.mem_flatMap.2 ⟨top, among, listed⟩)⟩

/-- What runs in a node runs in one stretch, and only there. -/
theorem events_split (listed : node ∈ root.preorder) :
    ∃ before after, handlers.events root = before ++ (handlers.events node ++ after) ∧
      Outside node before ∧ Outside node after := by
  induction root using Node.downward with
  | step root ih =>
    have distinct := root.nodup_preorder
    rw [Node.preorder_eq, List.mem_cons, List.mem_flatMap] at listed
    rcases listed with rfl | ⟨inner, child, listed⟩
    · exact ⟨[], [], by simp, nofun, nofun⟩
    obtain ⟨before, after, split, sooner, later⟩ := ih inner child listed
    obtain ⟨first, last, children⟩ := List.append_of_mem child
    have lower {other : Node} (inside : other ∈ node.preorder) : other ∈ inner.preorder :=
      Node.mem_preorder_trans inside listed
    rw [Node.preorder_eq, children, List.flatMap_append, List.flatMap_cons, List.nodup_cons,
      List.nodup_append, List.nodup_append] at distinct
    obtain ⟨above, _, ⟨_, _, apart⟩, apart'⟩ := distinct
    have around : root ∉ node.preorder := fun inside =>
      above (List.mem_append_right _ (List.mem_append_left _ (lower inside)))
    have entering : Outside node (handlers.onEnter root) := by
      intro event member
      obtain ⟨run, _, rfl⟩ := List.mem_map.1 member
      exact ⟨root, rfl, around⟩
    have leaving : Outside node (handlers.onLeave root) := by
      intro event member
      obtain ⟨run, _, rfl⟩ := List.mem_map.1 member
      exact ⟨root, rfl, around⟩
    have earlier : Outside node (first.flatMap handlers.events) :=
      handlers.outside_flatMap fun other member inside =>
        apart' other member other (List.mem_append_left _ (lower inside)) rfl
    have following : Outside node (last.flatMap handlers.events) :=
      handlers.outside_flatMap fun other member inside =>
        apart other (lower inside) other member rfl
    refine ⟨handlers.onEnter root ++ (first.flatMap handlers.events ++ before),
      after ++ (last.flatMap handlers.events ++ handlers.onLeave root), ?_,
      entering.append (earlier.append sooner), later.append (following.append leaving)⟩
    rw [events_eq, children, List.flatMap_append, List.flatMap_cons, split]
    simp only [List.append_assoc]

/-- A walk is the recursive traversal of the tree, followed by the handlers for its
end. Recorded, it shows the events of that traversal and of the end, in their order,
each with the state that the events before it lead to. The handlers of every node
run in one stretch: those on entering it, all that lies below, and those on leaving
it; before and after that nothing runs in the node. -/
theorem walk_is_recursive (handlers : Handlers σ) (state : σ) (root : Node) :
    handlers.walk state root =
        handlers.exit.foldl (fun state run => run state) (handlers.traverse root state) ∧
      handlers.recorded.walk (state, []) root =
        (handlers.walk state root,
          trace state (handlers.events root ++ handlers.exit.map .exited)) ∧
      ∀ node ∈ root.preorder, ∃ before inside after,
        handlers.events root =
          before ++ (handlers.onEnter node ++ inside ++ handlers.onLeave node ++ after) ∧
        (∀ event ∈ inside, ∃ inner, event.node? = some inner ∧ node ∈ inner.ancestors) ∧
        Outside node before ∧ Outside node after := by
  refine ⟨?_, handlers.walk_recorded state root, ?_⟩
  · rw [walk_eq, traverse_eq_performAll, history, performAll, performAll, List.foldl_append,
      List.foldl_map]
    rfl
  · intro node listed
    obtain ⟨before, after, split, sooner, later⟩ := handlers.events_split listed
    refine ⟨before, node.children.flatMap handlers.events, after, ?_, ?_, sooner, later⟩
    · rw [split, events_eq]
    · intro event member
      obtain ⟨child, among, member⟩ := List.mem_flatMap.1 member
      obtain ⟨inner, about, inside⟩ := handlers.node?_of_mem_events member
      have parent := Node.mem_ancestors_of_parent? (Node.mem_children_iff.1 among)
      refine ⟨inner, about, ?_⟩
      rcases List.mem_cons.1 (Node.mem_preorder_iff.1 inside) with rfl | encloses
      · exact parent
      · exact Node.mem_ancestors_trans encloses parent

end Handlers
end RequestLint.Walk
