import RequestLint.Syntax.Kind

/-! Search through named descendants, with an explicit stack. Whatever the order in
which the stack brings the nodes, a search finds what recursion would find. -/
namespace RequestLint.Node

/-- How far a search goes: a skipped node hides all below it, and a function
hides only its inside unless `crossFunctions` is set. -/
structure Reach where
  crossFunctions : Bool := true
  skip : Node → Bool := fun _ => false

/-- The nodes below the node that come on the stack after it, the last one on top. -/
def opened (reach : Reach) (node : Node) : List Node :=
  if reach.crossFunctions || !node.isFunctionLike then node.namedChildren.reverse else []

def totalSize : List Node → Nat
  | [] => 0
  | node :: rest => node.size + totalSize rest

theorem totalSize_append (first second : List Node) :
    totalSize (first ++ second) = totalSize first + totalSize second := by
  induction first with
  | nil => exact (Nat.zero_add _).symm
  | cons node rest ih => rw [List.cons_append, totalSize, totalSize, ih, Nat.add_assoc]

theorem totalSize_reverse (nodes : List Node) : totalSize nodes.reverse = totalSize nodes := by
  induction nodes with
  | nil => rfl
  | cons node rest ih =>
    rw [List.reverse_cons, totalSize_append, ih, totalSize, totalSize, totalSize, Nat.add_zero,
      Nat.add_comm]

theorem totalSize_filter_le (test : Node → Bool) (nodes : List Node) :
    totalSize (nodes.filter test) ≤ totalSize nodes := by
  induction nodes with
  | nil => exact Nat.le_refl _
  | cons node rest ih =>
    rw [List.filter_cons]
    split
    · exact Nat.add_le_add_left ih _
    · exact Nat.le_trans ih (Nat.le_add_left _ _)

theorem totalSize_eq (nodes : List Node) : totalSize nodes = Tree.totalSize (nodes.map tree) := by
  induction nodes with
  | nil => rfl
  | cons node rest ih =>
    rw [List.map_cons, Tree.totalSize, ← ih]
    rfl

theorem totalSize_opened_lt (reach : Reach) (node : Node) :
    totalSize (opened reach node) < node.size := by
  have children : totalSize node.children + 1 = node.size := by
    rw [totalSize_eq, map_tree_children, size, Tree.size_eq, Nat.add_comm]
  rw [opened]
  split
  · have named := totalSize_filter_le (·.named) node.children
    rw [totalSize_reverse, namedChildren]
    omega
  · exact Nat.lt_of_lt_of_eq (Nat.succ_pos _) children

/-- Takes the nodes from the stack until one of them passes the test. -/
def search (reach : Reach) (test : Node → Bool) : List Node → Bool
  | [] => false
  | node :: stack =>
    if reach.skip node then search reach test stack
    else test node || search reach test (opened reach node ++ stack)
termination_by stack => totalSize stack
decreasing_by
  · exact Nat.lt_add_of_pos_left (Nat.lt_of_le_of_lt (Nat.zero_le _) (totalSize_opened_lt reach node))
  · rw [totalSize_append]
    exact Nat.add_lt_add_right (totalSize_opened_lt reach node) _

/-- The node, or a named descendant within reach, passes the test. -/
def holds (reach : Reach) (test : Node → Bool) (node : Node) : Bool := search reach test [node]

theorem search_append (reach : Reach) (test : Node → Bool) (first second : List Node) :
    search reach test (first ++ second) = (search reach test first || search reach test second) := by
  induction first using search.induct reach with
  | case1 => rw [List.nil_append, search, Bool.false_or]
  | case2 node stack skipped ih =>
    rw [List.cons_append, search, search, if_pos skipped, if_pos skipped, ih]
  | case3 node stack kept ih =>
    rw [List.cons_append, search, search, if_neg kept, if_neg kept, ← List.append_assoc, ih,
      Bool.or_assoc]

/-- A search of a stack finds what is found at one of the nodes on it. -/
theorem search_eq_any (reach : Reach) (test : Node → Bool) (stack : List Node) :
    search reach test stack = stack.any (holds reach test) := by
  induction stack with
  | nil =>
    rw [search]
    rfl
  | cons node rest ih =>
    have split := search_append reach test [node] rest
    rw [List.singleton_append, ih] at split
    exact split

/-- The recursive meaning of a search. -/
theorem holds_eq (reach : Reach) (test : Node → Bool) (node : Node) :
    node.holds reach test = (!reach.skip node &&
      (test node || ((reach.crossFunctions || !node.isFunctionLike) &&
        node.namedChildren.any (holds reach test)))) := by
  have below : search reach test (opened reach node) =
      ((reach.crossFunctions || !node.isFunctionLike) &&
        node.namedChildren.any (holds reach test)) := by
    rw [search_eq_any, opened]
    split
    next enters => rw [List.any_reverse, enters, Bool.true_and]
    next closed => rw [eq_false_of_ne_true closed]; rfl
  rw [holds, search, List.append_nil, below]
  split
  next skipped =>
    rw [skipped, search]
    rfl
  next kept => rw [eq_false_of_ne_true kept]; rfl

end RequestLint.Node
