import RequestLint.Syntax.Node

/-! The traversal of a tree. Every node is entered before its children and left
after them. The walk keeps an explicit stack of visits to come, so its use of
the call stack does not grow with the depth of the source. -/
namespace RequestLint

inductive Visit where
  | enter (node : Node)
  | leave (node : Node)

namespace Visit

def node : Visit → Node
  | enter node => node
  | leave node => node

/-- The number of visits still owed for a visit on the stack. -/
def cost : Visit → Nat
  | enter node => 2 * node.size
  | leave _ => 1

end Visit

namespace Walk

def totalCost : List Visit → Nat
  | [] => 0
  | visit :: rest => visit.cost + totalCost rest

theorem totalCost_append (first second : List Visit) :
    totalCost (first ++ second) = totalCost first + totalCost second := by
  induction first with
  | nil => exact (Nat.zero_add _).symm
  | cons visit rest ih => rw [List.cons_append, totalCost, totalCost, ih, Nat.add_assoc]

theorem totalCost_enter (nodes : List Node) :
    totalCost (nodes.map .enter) = 2 * Tree.totalSize (nodes.map Node.tree) := by
  induction nodes with
  | nil => rfl
  | cons node rest ih =>
    rw [List.map_cons, List.map_cons, totalCost, Tree.totalSize, ih, Nat.mul_add]
    rfl

/-- Entering a node leaves less to do: all its children, and then to leave it. -/
theorem totalCost_children_lt (node : Node) :
    totalCost (node.children.map .enter) + 1 < Visit.cost (.enter node) := by
  rw [totalCost_enter, Node.map_tree_children, Visit.cost, Node.size, Tree.size_eq]
  omega

/-- What a node leaves on the stack when it is entered: to leave it, if something waits
for that. -/
def owed (waits : Node → Bool) (node : Node) : List Visit :=
  if waits node then [.leave node] else []

theorem totalCost_owed_le (waits : Node → Bool) (node : Node) : totalCost (owed waits node) ≤ 1 := by
  rw [owed]
  split
  · exact Nat.le_refl _
  · exact Nat.zero_le _

variable {σ : Type}

/-- Runs through the visits on the stack, and through all that entering a node
brings. -/
def run (waits : Node → Bool) (step : σ → Visit → σ) (state : σ) : List Visit → σ
  | [] => state
  | .enter node :: stack =>
    run waits step (step state (.enter node))
      (node.children.map .enter ++ (owed waits node ++ stack))
  | .leave node :: stack => run waits step (step state (.leave node)) stack
termination_by stack => totalCost stack
decreasing_by
  · have smaller := totalCost_children_lt node
    have leaving := totalCost_owed_le waits node
    rw [totalCost_append, totalCost_append, totalCost]
    omega
  · exact Nat.lt_add_of_pos_left Nat.zero_lt_one

/-- Folds `step` over all visits of the whole tree below `root`. -/
def fold (step : σ → Visit → σ) (state : σ) (root : Node) : σ :=
  run (fun _ => true) step state [.enter root]

/-- Handlers by node kind, and those for the end of a walk. Of several for one
event, the earliest registered runs first. -/
structure Handlers (σ : Type) where
  enter : List (String × (Node → σ → σ)) := []
  leave : List (String × (Node → σ → σ)) := []
  exit : List (σ → σ) := []

def runAll (handlers : List (String × (Node → σ → σ))) (node : Node) (state : σ) : σ :=
  handlers.foldl (fun state (kind, handler) => if kind = node.kind then handler node state else state)
    state

namespace Handlers

/-- What the handlers do at a visit. -/
def react (handlers : Handlers σ) (state : σ) : Visit → σ
  | .enter node => runAll handlers.enter node state
  | .leave node => runAll handlers.leave node state

/-- A node is left again only if some handler waits for that. -/
def waits (handlers : Handlers σ) (node : Node) : Bool := handlers.leave.any (·.1 = node.kind)

/-- One walk with its exit handlers. -/
def walk (handlers : Handlers σ) (state : σ) (root : Node) : σ :=
  handlers.exit.foldl (fun state handler => handler state)
    (run handlers.waits handlers.react state [.enter root])

end Handlers

end Walk
end RequestLint
