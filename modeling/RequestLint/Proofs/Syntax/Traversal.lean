import RequestLint.Scope.Tracker
import RequestLint.Proofs.Syntax.Placement

/-! The walk and what it leaves behind. The loop over a stack of visits goes
through the visits that a recursive traversal makes, in its order. A tracker
carried along observes every node on entering it, so the nodes of its history,
oldest first, are the nodes of the tree in pre-order. -/
namespace RequestLint

/-- The visits of a recursive traversal. -/
def Node.visits (node : Node) : List Visit :=
  .enter node :: (node.children.attach.flatMap fun ⟨inner, _⟩ => inner.visits) ++ [.leave node]
termination_by node.size
decreasing_by exact size_lt_of_mem_children ‹_›

theorem Node.visits_eq (node : Node) :
    node.visits = .enter node :: node.children.flatMap visits ++ [.leave node] := by
  rw [visits]
  simp only [List.flatMap_subtype, List.unattach_attach]

namespace Visit

/-- All visits that a visit on the stack stands for. -/
def expand : Visit → List Visit
  | enter node => node.visits
  | leave node => [.leave node]

def entered? : Visit → Option Node
  | enter node => some node
  | leave _ => none

end Visit

/-- A loop goes through the visits of a recursive traversal, if nothing happens on leaving
a node that it does not put back. -/
theorem Walk.run_eq_foldl {σ : Type} {waits : Node → Bool} {step : σ → Visit → σ}
    (idle : ∀ node, waits node = false → ∀ state, step state (.leave node) = state)
    (state : σ) (stack : List Visit) :
    run waits step state stack = (stack.flatMap Visit.expand).foldl step state := by
  fun_induction run waits step state stack with
  | case1 => rfl
  | case2 state node stack ih =>
    have entered : (node.children.map Visit.enter).flatMap Visit.expand =
        node.children.flatMap Node.visits := List.flatMap_map _ _ _
    have left (state : σ) : ((owed waits node).flatMap Visit.expand).foldl step state =
        step state (.leave node) := by
      rw [owed]
      split
      next => rfl
      next unawaited => exact (idle node (eq_false_of_ne_true unawaited) state).symm
    rw [ih, List.flatMap_append, List.flatMap_append, entered, List.foldl_append,
      List.foldl_append, left, List.flatMap_cons, Visit.expand, Node.visits_eq]
    simp only [List.foldl_append, List.foldl_cons, List.foldl_nil]
  | case3 state node stack ih =>
    rw [ih, List.flatMap_cons, Visit.expand]
    rfl

theorem Walk.fold_eq_foldl {σ : Type} (step : σ → Visit → σ) (state : σ) (root : Node) :
    fold step state root = root.visits.foldl step state := by
  have idle (node : Node) (unawaited : true = false) (state : σ) :
      step state (.leave node) = state := Bool.noConfusion unawaited
  rw [fold, run_eq_foldl idle, List.flatMap_singleton, Visit.expand]

theorem Node.filterMap_entered?_visits (node : Node) :
    node.visits.filterMap Visit.entered? = node.preorder := by
  induction node using downward with
  | step node ih =>
    have below : (node.children.flatMap visits).filterMap Visit.entered? =
        node.children.flatMap preorder := by
      rw [List.filterMap_flatMap]
      exact List.flatMap_congr ih
    rw [visits_eq, preorder_eq, List.filterMap_append, List.filterMap_cons, below]
    exact List.append_nil _

def Observation.entered? : Observation → Option Node
  | entered node _ => some node
  | bound _ => none

namespace Tracker

/-- The nodes entered so far, in order. -/
def entered (tracker : Tracker) : List Node :=
  tracker.history.reverse.filterMap Observation.entered?

theorem entered_bind (tracker : Tracker) (binding : Binding) :
    (tracker.bind binding).entered = tracker.entered := by
  simp [bind, entered, Observation.entered?]

theorem entered_enterFunction (tracker : Tracker) (function : Node) :
    (tracker.enterFunction function).entered = tracker.entered := by
  simp only [enterFunction]
  split
  · split
    · exact entered_bind _ _
    · rfl
  · rfl

theorem entered_leaveDeclarator (tracker : Tracker) (declarator : Node) :
    (tracker.leaveDeclarator declarator).entered = tracker.entered := by
  unfold leaveDeclarator
  split
  · rfl
  · split
    · split
      · exact entered_bind _ _
      · rfl
    · rfl

theorem entered_leaveAssignment (tracker : Tracker) (assignment : Node) :
    (tracker.leaveAssignment assignment).entered = tracker.entered := by
  unfold leaveAssignment
  split
  · rfl
  · split
    · simp [entered, Observation.entered?]
    · split
      · rfl
      · rfl

/-- A visit adds the node that it enters, and nothing else that was entered. -/
theorem entered_step (tracker : Tracker) (visit : Visit) :
    (tracker.step visit).entered = tracker.entered ++ visit.entered?.toList := by
  cases visit with
  | enter node =>
    have before : (if node.isFunctionLike then tracker.enterFunction node else tracker).entered =
        tracker.entered := by
      split
      · exact entered_enterFunction tracker node
      · rfl
    rw [← before]
    simp [step, entered, Visit.entered?, Observation.entered?]
  | leave node =>
    rw [Visit.entered?, Option.toList_none, List.append_nil, step]
    split
    · rfl
    · split
      · exact entered_leaveDeclarator tracker node
      · split
        · exact entered_leaveAssignment tracker node
        · rfl

theorem entered_foldl (visits : List Visit) (tracker : Tracker) :
    (visits.foldl step tracker).entered = tracker.entered ++ visits.filterMap Visit.entered? := by
  induction visits generalizing tracker with
  | nil => exact (List.append_nil _).symm
  | cons visit rest ih =>
    rw [List.foldl_cons, ih, entered_step, List.append_assoc, List.filterMap_cons]
    cases visit.entered? with
    | none => rfl
    | some node => rfl

theorem entered_walk (target : String) (root : Node) :
    (walk target root).entered = root.preorder := by
  rw [walk, Walk.fold_eq_foldl, entered_foldl, Node.filterMap_entered?_visits]
  rfl

end Tracker
end RequestLint
