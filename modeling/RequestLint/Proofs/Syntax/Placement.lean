import RequestLint.Syntax.Node
import Mathlib.Data.List.Nodup

/-! Parents, children, ancestors and pre-order of nodes in place. They are
defined apart from one another; here they are shown to speak of one order:
a node is listed below another exactly when that other encloses it, and nothing
is listed twice. Nodes can be compared, so that statements about a given tree
can be evaluated. -/
namespace RequestLint

mutual
def Tree.decEq : (first second : Tree) → Decidable (first = second)
  | .node label children, .node label' children' =>
    have := Tree.forestDecEq children children'
    decidable_of_iff (label = label' ∧ children = children') (by rw [Tree.node.injEq])

def Tree.forestDecEq : (first second : List Tree) → Decidable (first = second)
  | [], [] => isTrue rfl
  | [], _ :: _ => isFalse nofun
  | _ :: _, [] => isFalse nofun
  | tree :: rest, tree' :: rest' =>
    have := Tree.decEq tree tree'
    have := Tree.forestDecEq rest rest'
    decidable_of_iff (tree = tree' ∧ rest = rest') (by rw [List.cons.injEq])
end

instance : DecidableEq Tree := Tree.decEq

deriving instance DecidableEq for Frame

namespace Node

theorem eq_of_place {first second : Node} (tree : first.tree = second.tree)
    (above : first.above = second.above) : first = second := by
  obtain ⟨_, _, _⟩ := first
  obtain ⟨_, _, _⟩ := second
  cases tree
  cases above
  rfl

instance : DecidableEq Node := fun first second =>
  decidable_of_iff (first.tree = second.tree ∧ first.above = second.above)
    ⟨fun same => eq_of_place same.1 same.2, fun same => same ▸ ⟨rfl, rfl⟩⟩

theorem parent?_child (node : Node) (index : Fin node.arity) :
    (node.child index).parent? = some node := rfl

theorem mem_children_iff {node inner : Node} :
    inner ∈ node.children ↔ inner.parent? = some node := by
  constructor
  · intro member
    obtain ⟨index, _, rfl⟩ := List.mem_map.1 member
    exact parent?_child node index
  · intro found
    obtain ⟨tree, above, placed⟩ := inner
    cases above with
    | nil => cases found
    | cons frame above =>
      cases found
      obtain ⟨bound, same⟩ := List.getElem?_eq_some_iff.1 placed.1
      refine List.mem_map.2 ⟨⟨frame.index, bound⟩, List.mem_finRange _, ?_⟩
      exact eq_of_place same rfl

theorem nodup_children (node : Node) : node.children.Nodup := by
  apply (List.nodup_finRange _).map
  intro first second same
  have above := congrArg (fun inner : Node => inner.above.head?.map Frame.index) same
  exact Fin.ext (Option.some.inj above)

/-- Induction from the root down to a node, along its parents. -/
theorem upward {motive : Node → Prop} (root : ∀ node, node.parent? = none → motive node)
    (step : ∀ node outer, node.parent? = some outer → motive outer → motive node) (node : Node) :
    motive node := by
  obtain ⟨tree, above, placed⟩ := node
  induction above generalizing tree with
  | nil => exact root _ rfl
  | cons frame above ih => exact step _ _ rfl (ih _ placed.2)

/-- Induction from the leaves up to a node, over all its children. -/
theorem downward {motive : Node → Prop}
    (step : ∀ node, (∀ inner ∈ node.children, motive inner) → motive node) (node : Node) :
    motive node :=
  step node fun inner member =>
    have _smaller := size_lt_of_mem_children member
    downward step inner
termination_by node.size

theorem ancestors_of_parent? {node outer : Node} (found : node.parent? = some outer) :
    node.ancestors = outer :: outer.ancestors := by
  obtain ⟨_, above, _⟩ := node
  cases above with
  | nil => cases found
  | cons frame above =>
    cases found
    rfl

theorem ancestors_of_root {node : Node} (top : node.parent? = none) : node.ancestors = [] := by
  obtain ⟨_, above, _⟩ := node
  cases above with
  | nil => rfl
  | cons frame above => cases top

theorem mem_ancestors_of_parent? {node outer : Node} (found : node.parent? = some outer) :
    outer ∈ node.ancestors := by
  rw [ancestors_of_parent? found]
  exact List.mem_cons_self

theorem mem_ancestors_of_child {node inner outer : Node} (around : outer ∈ node :: node.ancestors)
    (child : inner ∈ node.children) : outer ∈ inner.ancestors := by
  rw [ancestors_of_parent? (mem_children_iff.1 child)]
  exact around

theorem mem_ancestors_trans {inner middle outer : Node} (lower : middle ∈ inner.ancestors)
    (higher : outer ∈ middle.ancestors) : outer ∈ inner.ancestors := by
  induction inner using upward with
  | root node top =>
    rw [ancestors_of_root top] at lower
    cases lower
  | step node parent found ih =>
    rw [ancestors_of_parent? found] at lower ⊢
    cases lower with
    | head => exact List.mem_cons_of_mem _ higher
    | tail _ lower => exact List.mem_cons_of_mem _ (ih lower)

/-- There is one enclosing node at each depth. -/
theorem eq_of_depth {node first second : Node} (one : first ∈ node :: node.ancestors)
    (other : second ∈ node :: node.ancestors) (level : first.depth = second.depth) :
    first = second := by
  induction node using upward with
  | root node top =>
    rw [ancestors_of_root top, List.mem_singleton] at one other
    rw [one, other]
  | step node parent found ih =>
    rw [ancestors_of_parent? found] at one other
    have step := depth_of_parent? found
    have higher {outer : Node} (member : outer ∈ parent :: parent.ancestors) :
        outer.depth < node.depth := by
      cases member with
      | head => omega
      | tail _ member =>
        have lower := depth_lt_of_mem_ancestors member
        omega
    cases one with
    | head =>
      cases other with
      | head => rfl
      | tail _ other =>
        have lower := higher other
        omega
    | tail _ one =>
      cases other with
      | head =>
        have lower := higher one
        omega
      | tail _ other => exact ih one other

theorem mem_lineage_iff {node inner outer : Node} :
    (inner, outer) ∈ node.lineage ↔
      inner ∈ node :: node.ancestors ∧ inner.parent? = some outer := by
  unfold lineage
  induction node using upward with
  | root node top =>
    rw [ancestors_of_root top, List.zip_nil_right, List.mem_singleton]
    constructor
    · intro member
      cases member
    · rintro ⟨rfl, found⟩
      cases top.symm.trans found
  | step node parent found ih =>
    rw [ancestors_of_parent? found, List.zip_cons_cons, List.mem_cons, ih, Prod.mk.injEq]
    constructor
    · rintro (⟨rfl, rfl⟩ | ⟨higher, above⟩)
      · exact ⟨List.mem_cons_self, found⟩
      · exact ⟨List.mem_cons_of_mem _ higher, above⟩
    · rintro ⟨member, above⟩
      rcases List.mem_cons.1 member with rfl | higher
      · exact Or.inl ⟨rfl, Option.some.inj (above.symm.trans found)⟩
      · exact Or.inr ⟨higher, above⟩

theorem preorder_eq (node : Node) :
    node.preorder = node :: node.children.flatMap preorder := by
  rw [preorder]
  simp only [List.flatMap_subtype, List.unattach_attach]

theorem self_mem_preorder (node : Node) : node ∈ node.preorder := by
  rw [preorder_eq]
  exact List.mem_cons_self

theorem mem_preorder_of_child {top node inner : Node} (listed : node ∈ top.preorder)
    (child : inner ∈ node.children) : inner ∈ top.preorder := by
  induction top using downward with
  | step top ih =>
    rw [preorder_eq, List.mem_cons, List.mem_flatMap] at listed ⊢
    rcases listed with rfl | ⟨middle, between, listed⟩
    · exact Or.inr ⟨inner, child, self_mem_preorder inner⟩
    · exact Or.inr ⟨middle, between, ih middle between listed⟩

/-- What is listed below `top` is `top` and all that it encloses. -/
theorem mem_preorder_iff {top node : Node} :
    node ∈ top.preorder ↔ top ∈ node :: node.ancestors := by
  constructor
  · intro listed
    induction top using downward with
    | step top ih =>
      rw [preorder_eq, List.mem_cons, List.mem_flatMap] at listed
      rcases listed with rfl | ⟨inner, child, listed⟩
      · exact List.mem_cons_self
      · have above : top ∈ inner.ancestors := mem_ancestors_of_parent? (mem_children_iff.1 child)
        rcases List.mem_cons.1 (ih inner child listed) with rfl | higher
        · exact List.mem_cons_of_mem _ above
        · exact List.mem_cons_of_mem _ (mem_ancestors_trans higher above)
  · intro encloses
    induction node using upward with
    | root node highest =>
      rw [ancestors_of_root highest, List.mem_singleton] at encloses
      exact encloses ▸ self_mem_preorder top
    | step node parent found ih =>
      rw [ancestors_of_parent? found] at encloses
      rcases List.mem_cons.1 encloses with rfl | encloses
      · exact self_mem_preorder top
      · exact mem_preorder_of_child (ih encloses) (mem_children_iff.2 found)

theorem mem_preorder_of_mem_ancestors {top node outer : Node} (encloses : outer ∈ node.ancestors)
    (listed : outer ∈ top.preorder) : node ∈ top.preorder := by
  rw [mem_preorder_iff] at listed ⊢
  rcases List.mem_cons.1 listed with rfl | higher
  · exact List.mem_cons_of_mem _ encloses
  · exact List.mem_cons_of_mem _ (mem_ancestors_trans encloses higher)

theorem mem_preorder_trans {inner node outer : Node} (lower : inner ∈ node.preorder)
    (higher : node ∈ outer.preorder) : inner ∈ outer.preorder := by
  rcases List.mem_cons.1 (mem_preorder_iff.1 lower) with rfl | encloses
  · exact higher
  · exact mem_preorder_of_mem_ancestors encloses higher

/-- All nodes around a node of a tree are nodes of that tree. -/
theorem ancestor_mem_preorder_root {tree : Tree} {node outer : Node}
    (listed : node ∈ (root tree).preorder) (encloses : outer ∈ node.ancestors) :
    outer ∈ (root tree).preorder := by
  induction node using upward with
  | root node highest =>
    rw [ancestors_of_root highest] at encloses
    cases encloses
  | step node parent found ih =>
    rw [mem_preorder_iff, ancestors_of_parent? found, List.mem_cons] at listed
    have listed : parent ∈ (root tree).preorder := by
      rcases listed with rfl | higher
      · cases found
      · exact mem_preorder_iff.2 higher
    rw [ancestors_of_parent? found] at encloses
    rcases List.mem_cons.1 encloses with rfl | encloses
    · exact listed
    · exact ih listed encloses

theorem parent_mem_preorder_root {tree : Tree} {node outer : Node}
    (listed : node ∈ (root tree).preorder) (found : node.parent? = some outer) :
    outer ∈ (root tree).preorder :=
  ancestor_mem_preorder_root listed (mem_ancestors_of_parent? found)

/-- No node lies below two children of one node, which have the same depth. -/
theorem eq_of_mem_preorders {node first second inner : Node} (one : first ∈ node.children)
    (other : second ∈ node.children) (left : inner ∈ first.preorder)
    (right : inner ∈ second.preorder) : first = second := by
  have level : first.depth = second.depth := by
    have left := depth_of_parent? (mem_children_iff.1 one)
    have right := depth_of_parent? (mem_children_iff.1 other)
    omega
  exact eq_of_depth (mem_preorder_iff.1 left) (mem_preorder_iff.1 right) level

/-- Nothing is listed twice. -/
theorem nodup_preorder (node : Node) : node.preorder.Nodup := by
  induction node using downward with
  | step node ih =>
    rw [preorder_eq, List.nodup_cons, List.nodup_flatMap]
    refine ⟨?_, ih, ?_⟩
    · intro listed
      obtain ⟨inner, child, listed⟩ := List.mem_flatMap.1 listed
      have step := depth_of_parent? (mem_children_iff.1 child)
      rcases List.mem_cons.1 (mem_preorder_iff.1 listed) with rfl | encloses
      · omega
      · have lower := depth_lt_of_mem_ancestors encloses
        omega
    · apply (nodup_children node).imp_of_mem
      intro first second one other differ inner left right
      exact differ (eq_of_mem_preorders one other left right)

/-- A node is listed after all that it lies in. -/
theorem pairwise_preorder (node : Node) :
    node.preorder.Pairwise fun earlier later => later ∉ earlier.ancestors := by
  induction node using downward with
  | step node ih =>
    rw [preorder_eq, List.pairwise_cons, List.pairwise_flatMap]
    refine ⟨?_, ih, ?_⟩
    · intro inner listed around
      have below : inner ∈ node.preorder := by
        rw [preorder_eq]
        exact List.mem_cons_of_mem _ listed
      have higher := depth_lt_of_mem_ancestors around
      rcases List.mem_cons.1 (mem_preorder_iff.1 below) with rfl | encloses
      · omega
      · have lower := depth_lt_of_mem_ancestors encloses
        omega
    · apply (nodup_children node).imp_of_mem
      intro first second one other differ inner left outer right around
      exact differ (eq_of_mem_preorders one other left (mem_preorder_of_mem_ancestors around right))

theorem mem_of_preorder_split {top node outer : Node} {before after : List Node}
    (split : top.preorder = before ++ node :: after) (encloses : outer ∈ node.ancestors)
    (listed : outer ∈ top.preorder) : outer ∈ before := by
  have order := pairwise_preorder top
  rw [split] at order listed
  rcases List.mem_append.1 listed with earlier | later
  · exact earlier
  · have rest := (List.pairwise_append.1 order).2.1
    rcases List.mem_cons.1 later with rfl | later
    · exact absurd (depth_lt_of_mem_ancestors encloses) (Nat.lt_irrefl _)
    · exact absurd encloses ((List.pairwise_cons.1 rest).1 outer later)

end Node
end RequestLint
