import RequestLint.Syntax.Tree

/-! Nodes in their place. A `Node` is a subtree together with the way up to the
root, so that parent, ancestors and siblings can be asked for. The way up is
kept honest by the type: every step names a parent that really has the subtree
at that index. Two nodes are the same *site* when they agree in kind and span. -/
namespace RequestLint

/-- One step up: the parent and which of its children we came from. -/
structure Frame where
  parent : Tree
  index : Nat

/-- The frames lead from `tree` to a root. -/
def Placed : Tree → List Frame → Prop
  | _, [] => True
  | tree, frame :: above => frame.parent.children[frame.index]? = some tree ∧ Placed frame.parent above

structure Node where
  tree : Tree
  above : List Frame
  placed : Placed tree above

/-- Kind and span of a node, by which it is recognised again. -/
structure Key where
  kind : String
  start : Nat
  stop : Nat
  deriving DecidableEq, Repr

namespace Node

def root (tree : Tree) : Node := ⟨tree, [], trivial⟩

def kind (node : Node) : String := node.tree.label.kind
def named (node : Node) : Bool := node.tree.label.named
def hasError (node : Node) : Bool := node.tree.label.hasError
def field (node : Node) : String := node.tree.label.field
def start (node : Node) : Nat := node.tree.label.start
def stop (node : Node) : Nat := node.tree.label.stop
def text (node : Node) : String := node.tree.label.text

def key (node : Node) : Key := ⟨node.kind, node.start, node.stop⟩

def sameSite (a b : Node) : Bool := a.key == b.key

def arity (node : Node) : Nat := node.tree.children.length

def child (node : Node) (index : Fin node.arity) : Node where
  tree := node.tree.children.get index
  above := ⟨node.tree, index⟩ :: node.above
  placed := ⟨List.getElem?_eq_some_iff.2 ⟨index.isLt, rfl⟩, node.placed⟩

def children (node : Node) : List Node := (List.finRange node.arity).map node.child

theorem length_children (node : Node) : node.children.length = node.arity := by
  rw [children, List.length_map, List.length_finRange]

theorem map_tree_children (node : Node) : node.children.map tree = node.tree.children := by
  apply List.ext_getElem
  · rw [List.length_map, length_children, arity]
  · intro index _ _
    simp only [children, child, List.getElem_map, List.getElem_finRange]
    rfl

/-- The first child that fills `field`. -/
def child? (node : Node) (field : String) : Option Node :=
  node.children.find? (·.field == field)

def namedChildren (node : Node) : List Node := node.children.filter (·.named)

/-- Comments may stand anywhere, so what a node consists of leaves them out. -/
def parts (node : Node) : List Node := node.namedChildren.filter (·.kind != "comment")

def firstPart? (node : Node) : Option Node := node.parts.head?

def size (node : Node) : Nat := node.tree.size

theorem size_lt_of_mem_children {node inner : Node} (member : inner ∈ node.children) :
    inner.size < node.size := by
  obtain ⟨index, _, rfl⟩ := List.mem_map.1 member
  exact Tree.size_lt_of_mem_children (List.getElem_mem _)

theorem size_lt_of_mem_namedChildren {node inner : Node} (member : inner ∈ node.namedChildren) :
    inner.size < node.size :=
  size_lt_of_mem_children (List.mem_filter.1 member).1

theorem size_lt_of_mem_parts {node inner : Node} (member : inner ∈ node.parts) :
    inner.size < node.size :=
  size_lt_of_mem_namedChildren (List.mem_filter.1 member).1

theorem size_lt_of_child? {node inner : Node} {field : String}
    (found : node.child? field = some inner) : inner.size < node.size :=
  size_lt_of_mem_children (List.mem_of_find?_eq_some found)

theorem size_lt_of_firstPart? {node inner : Node} (found : node.firstPart? = some inner) :
    inner.size < node.size :=
  size_lt_of_mem_parts (List.mem_of_head? found)

/-- The node and everything below it, each node before its children. -/
def preorder (node : Node) : List Node :=
  node :: node.children.attach.flatMap fun ⟨inner, _⟩ => inner.preorder
termination_by node.size
decreasing_by exact size_lt_of_mem_children ‹_›

def parent? : Node → Option Node
  | ⟨_, [], _⟩ => none
  | ⟨_, frame :: above, placed⟩ => some ⟨frame.parent, above, placed.2⟩

def depth (node : Node) : Nat := node.above.length

/-- All enclosing nodes, innermost first. -/
def ancestorsOf : (tree : Tree) → (above : List Frame) → Placed tree above → List Node
  | _, [], _ => []
  | _, frame :: above, placed =>
    ⟨frame.parent, above, placed.2⟩ :: ancestorsOf frame.parent above placed.2

def ancestors (node : Node) : List Node := ancestorsOf node.tree node.above node.placed

/-- Each enclosing node, innermost first, with its child on the way down to
`node`. -/
def lineage (node : Node) : List (Node × Node) := (node :: node.ancestors).zip node.ancestors

/-- The parts of the parent that come after the node. -/
def followingParts : Node → List Node
  | ⟨_, [], _⟩ => []
  | ⟨_, frame :: above, placed⟩ =>
    let parent : Node := ⟨frame.parent, above, placed.2⟩
    (parent.children.drop (frame.index + 1)).filter fun sibling =>
      sibling.named && sibling.kind != "comment"

theorem depth_of_parent? {node outer : Node} (found : node.parent? = some outer) :
    outer.depth + 1 = node.depth := by
  obtain ⟨_, above, _⟩ := node
  cases above with
  | nil => cases found
  | cons frame above =>
    cases found
    rfl

theorem depth_lt_of_mem_ancestors {node outer : Node} (member : outer ∈ node.ancestors) :
    outer.depth < node.depth := by
  obtain ⟨tree, above, placed⟩ := node
  induction above generalizing tree with
  | nil => cases member
  | cons frame above ih =>
    cases member with
    | head => exact Nat.lt_succ_self _
    | tail _ higher => exact Nat.lt_succ_of_lt (ih _ placed.2 higher)

end Node
end RequestLint
