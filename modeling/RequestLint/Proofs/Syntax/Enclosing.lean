import RequestLint.Syntax.Enclosing
import RequestLint.Proofs.Syntax.Wrapper

/-! What a node stands in. The searches go up from a node, one parent at a time. The
one for a protected block asks at every `try` whether it came from its body; what it
finds is whether the node lies anywhere in the body of a `try` around it. The one for a
statement stops at the first block or function; what it finds is the child of the
nearest block that holds the node, if no function begins before that block. -/
namespace RequestLint.Node

variable {tree : Tree} {node outer block statement : Node}

theorem lineage_of_root (top : node.parent? = none) : node.lineage = [] := by
  rw [lineage, ancestors_of_root top, List.zip_nil_right]

theorem lineage_of_parent? (found : node.parent? = some outer) :
    node.lineage = (node, outer) :: outer.lineage := by
  rw [lineage, ancestors_of_parent? found, List.zip_cons_cons]
  rfl

theorem isProtected_of_parent? (found : node.parent? = some outer) (handlers : Bool) :
    node.isProtected handlers =
      ((outer.kind = "try_statement" && ((outer.child? "body").any (·.sameSite node) ||
        (handlers && node.kind ∈ handlerKinds))) || outer.isProtected handlers) := by
  rw [isProtected, lineage_of_parent? found, List.any_cons]
  rfl

theorem statement?_of_parent? (found : node.parent? = some outer) :
    node.statement? =
      if outer.isBlock then some node
      else if outer.isFunctionLike then none else outer.statement? := by
  rw [statement?, lineage_of_parent? found, List.find?_cons]
  by_cases block : outer.isBlock
  · simp [block]
  · by_cases function : outer.isFunctionLike
    · simp [block, function]
    · simp only [block, function]
      rfl

theorem followingParts_of_getElem? {index : Nat}
    (held : outer.children[index]? = some node) :
    node.followingParts = (outer.children.drop (index + 1)).filter fun sibling =>
      sibling.named && sibling.kind != "comment" := by
  obtain ⟨bound, rfl⟩ := List.getElem?_eq_some_iff.1 held
  simp only [children, List.getElem_map, List.getElem_finRange]
  rfl

/-- `block` is the nearest block around the node, and no function begins before it. -/
def StandsInBlock (node block : Node) : Prop :=
  ∃ within around, node.ancestors = within ++ block :: around ∧ block.isBlock = true ∧
    ∀ outer ∈ within, outer.isBlock = false ∧ outer.isFunctionLike = false

/-- A node stands in its parent, or where its parent stands. -/
theorem standsInBlock_of_parent? (found : node.parent? = some outer) :
    StandsInBlock node block ↔ (block = outer ∧ outer.isBlock = true) ∨
      (outer.isBlock = false ∧ outer.isFunctionLike = false ∧ StandsInBlock outer block) := by
  rw [StandsInBlock, ancestors_of_parent? found]
  constructor
  · rintro ⟨within, around, split, isBlock, between⟩
    cases within with
    | nil =>
      cases split
      exact Or.inl ⟨rfl, isBlock⟩
    | cons first within =>
      obtain ⟨rfl, rest⟩ := List.cons.inj split
      obtain ⟨plain, body⟩ := between outer List.mem_cons_self
      exact Or.inr ⟨plain, body, within, around, rest, isBlock, fun middle member =>
        between middle (List.mem_cons_of_mem _ member)⟩
  · rintro (⟨rfl, isBlock⟩ | ⟨plain, body, within, around, split, isBlock, between⟩)
    · exact ⟨[], block.ancestors, rfl, isBlock, fun _ member => absurd member List.not_mem_nil⟩
    · refine ⟨outer :: within, around, by rw [split, List.cons_append], isBlock, ?_⟩
      intro middle member
      rcases List.mem_cons.1 member with rfl | member
      · exact ⟨plain, body⟩
      · exact between middle member

theorem StandsInBlock.mem_ancestors (stands : StandsInBlock node block) :
    block ∈ node.ancestors := by
  obtain ⟨within, around, split, _⟩ := stands
  rw [split]
  exact List.mem_append_right _ List.mem_cons_self

/-- The statement of a node is the child of its block that holds it. -/
theorem statement?_eq_some_iff : node.statement? = some statement ↔
    ∃ block, StandsInBlock node block ∧ statement ∈ block.children ∧
      node ∈ statement.preorder := by
  induction node using upward with
  | root node top =>
    rw [statement?, lineage_of_root top]
    constructor
    · intro found
      cases found
    · rintro ⟨block, stands, _⟩
      have around := stands.mem_ancestors
      rw [ancestors_of_root top] at around
      cases around
  | step node parent found ih =>
    rw [statement?_of_parent? found]
    cases isBlock : parent.isBlock with
    | true =>
      rw [if_pos rfl, Option.some.injEq]
      constructor
      · rintro rfl
        exact ⟨parent, (standsInBlock_of_parent? found).2 (Or.inl ⟨rfl, isBlock⟩),
          mem_children_iff.2 found, self_mem_preorder node⟩
      · rintro ⟨block, stands, child, holds⟩
        rcases (standsInBlock_of_parent? found).1 stands with ⟨rfl, _⟩ | ⟨plain, _⟩
        · have level : node.depth = statement.depth := by
            have one := depth_of_parent? found
            have other := depth_of_parent? (mem_children_iff.1 child)
            omega
          exact eq_of_depth List.mem_cons_self (mem_preorder_iff.1 holds) level
        · cases plain.symm.trans isBlock
    | false =>
      rw [if_neg Bool.false_ne_true]
      cases function : parent.isFunctionLike with
      | true =>
        rw [if_pos rfl]
        constructor
        · intro none
          cases none
        · rintro ⟨block, stands, _⟩
          rcases (standsInBlock_of_parent? found).1 stands with ⟨_, block⟩ | ⟨_, body, _⟩
          · cases block.symm.trans isBlock
          · cases body.symm.trans function
      | false =>
        rw [if_neg Bool.false_ne_true, ih]
        constructor
        · rintro ⟨block, stands, child, holds⟩
          exact ⟨block, (standsInBlock_of_parent? found).2 (Or.inr ⟨isBlock, function, stands⟩),
            child, mem_preorder_of_child holds (mem_children_iff.2 found)⟩
        · rintro ⟨block, stands, child, holds⟩
          rcases (standsInBlock_of_parent? found).1 stands with ⟨rfl, block⟩ | ⟨_, _, higher⟩
          · cases block.symm.trans isBlock
          · refine ⟨block, higher, child, ?_⟩
            rw [mem_preorder_iff, ancestors_of_parent? found] at holds
            rcases List.mem_cons.1 holds with rfl | holds
            · cases found.symm.trans (mem_children_iff.1 child)
              exact absurd (depth_lt_of_mem_ancestors higher.mem_ancestors) (Nat.lt_irrefl _)
            · exact mem_preorder_iff.2 holds

def InTryBody (node : Node) : Prop :=
  ∃ outer ∈ node.ancestors, outer.kind = "try_statement" ∧
    ∃ body ∈ outer.child? "body", node ∈ body.preorder

instance (node : Node) : Decidable node.InTryBody :=
  inferInstanceAs (Decidable (∃ outer ∈ node.ancestors, outer.kind = "try_statement" ∧
    ∃ body ∈ outer.child? "body", node ∈ body.preorder))

theorem isProtected_iff_lineage : node.isProtected false = true ↔
    ∃ inner outer, (inner, outer) ∈ node.lineage ∧ outer.kind = "try_statement" ∧
      ∃ body ∈ outer.child? "body", body.sameSite inner = true := by
  simp only [isProtected, List.any_eq_true, Prod.exists, Bool.and_eq_true, decide_eq_true_eq,
    Option.any_eq_true, Bool.false_and, Bool.or_false, Option.mem_def]

theorem isProtected_iff (regular : tree.Regular) (listed : node ∈ (root tree).preorder) :
    node.isProtected false = true ↔ node.InTryBody := by
  rw [isProtected_iff_lineage]
  constructor
  · rintro ⟨inner, outer, member, kind, body, held, same⟩
    obtain ⟨between, above⟩ := mem_lineage_iff.1 member
    have encloses := (List.of_mem_zip member).2
    have outside := ancestor_mem_preorder_root listed encloses
    obtain rfl : body = inner := eq_of_sameSite regular outside (mem_children_of_child? held)
      (mem_children_iff.2 above) same
    exact ⟨outer, encloses, kind, body, held, mem_preorder_iff.2 between⟩
  · rintro ⟨outer, _, kind, body, held, inside⟩
    have above := mem_children_iff.1 (mem_children_of_child? held)
    exact ⟨body, outer, mem_lineage_iff.2 ⟨mem_preorder_iff.1 inside, above⟩, kind, body, held,
      sameSite_self body⟩

end RequestLint.Node
