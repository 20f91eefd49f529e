import RequestLint.Syntax.Expression
import RequestLint.Proofs.Syntax.Regular
import Mathlib.Logic.Relation

/-! Wrappers, from inside and from outside. Going down, an expression is found by
taking first parts; going up, by passing enclosing wrappers. What goes down
always comes back up the same way. The converse needs trees in which a wrapper
holds its expression as first part, as those of the grammar do. -/
namespace RequestLint.Node

variable {tree : Tree} {node inner outer wrapper : Node}

theorem mem_children_of_child? {field : String} (found : node.child? field = some inner) :
    inner ∈ node.children := List.mem_of_find?_eq_some found

theorem mem_children_of_firstPart? (found : node.firstPart? = some inner) :
    inner ∈ node.children := by
  have part := List.mem_of_head? found
  exact (List.mem_filter.1 (List.mem_filter.1 part).1).1

/-- One wrapper further out. -/
def WrappedBy (inner outer : Node) : Prop := inner.parent? = some outer ∧ outer.isWrapper = true

/-- `outer` is `inner`, or a wrapper around it with only wrappers between. -/
def WrappedIn : Node → Node → Prop := Relation.ReflTransGen WrappedBy

theorem outermost_of_parent? (found : node.parent? = some outer) :
    node.outermost = if outer.isWrapper then outer.outermost else node := by
  rw [outermost, ancestors_of_parent? found]
  by_cases wraps : outer.isWrapper
  · rw [List.takeWhile_cons_of_pos wraps, if_pos wraps, List.getLast?_cons, Option.getD_some]
    rfl
  · rw [List.takeWhile_cons_of_neg wraps, if_neg wraps]
    rfl

theorem context?_of_parent? (found : node.parent? = some outer) :
    node.context? = if outer.isWrapper then outer.context? else some outer := by
  rw [context?, ancestors_of_parent? found]
  by_cases wraps : outer.isWrapper
  · rw [if_pos wraps, List.find?_cons_of_neg (by simpa using wraps)]
    rfl
  · rw [if_neg wraps, List.find?_cons_of_pos (by simpa using wraps)]

theorem context?_of_root (top : node.parent? = none) : node.context? = none := by
  rw [context?, ancestors_of_root top]
  rfl

/-- Climbing passes all wrappers around a node and no others. -/
theorem climbs_iff : node.outermost = wrapper ∧ node.context? = some outer ↔
    WrappedIn node wrapper ∧ wrapper.parent? = some outer ∧ outer.isWrapper = false := by
  constructor
  · induction node using upward with
    | root node top =>
      rintro ⟨_, around⟩
      rw [context?_of_root top] at around
      cases around
    | step node parent found ih =>
      rw [outermost_of_parent? found, context?_of_parent? found]
      cases wraps : parent.isWrapper with
      | true =>
        intro climbed
        obtain ⟨wrapped, rest⟩ := ih climbed
        exact ⟨.head ⟨found, wraps⟩ wrapped, rest⟩
      | false =>
        rintro ⟨rfl, around⟩
        cases around
        exact ⟨.refl, found, wraps⟩
  · rintro ⟨wrapped, found, plain⟩
    induction wrapped using Relation.ReflTransGen.head_induction_on with
    | refl =>
      rw [outermost_of_parent? found, context?_of_parent? found, plain]
      exact ⟨rfl, rfl⟩
    | head step _ ih =>
      rw [outermost_of_parent? step.1, context?_of_parent? step.1, step.2]
      exact ih

/-- `outer` is what the node stands in, wrappers apart. -/
def StandsIn (node outer : Node) : Prop :=
  ∃ wrapper, WrappedIn node wrapper ∧ wrapper.parent? = some outer ∧ outer.isWrapper = false

theorem context?_eq_some_iff : node.context? = some outer ↔ StandsIn node outer := by
  constructor
  · intro around
    exact ⟨node.outermost, climbs_iff.1 ⟨rfl, around⟩⟩
  · rintro ⟨wrapper, climbed⟩
    exact (climbs_iff.2 climbed).2

theorem unwrap_of_not_wrapper (plain : node.isWrapper = false) : node.unwrap = some node := by
  rw [unwrap, if_neg (by simp [plain])]

theorem unwrap_of_wrapper (wraps : node.isWrapper = true) (found : node.firstPart? = some inner) :
    node.unwrap = inner.unwrap := by
  rw [unwrap, if_pos wraps]
  split
  next part same =>
    rw [found] at same
    cases same
    rfl
  next missing =>
    rw [found] at missing
    cases missing

/-- An expression found inside wrappers is wrapped by them. -/
theorem wrappedIn_of_unwrap (opened : node.unwrap = some inner) :
    WrappedIn inner node ∧ inner.isWrapper = false := by
  fun_induction unwrap node with
  | case1 node wraps part found ih =>
    obtain ⟨wrapped, plain⟩ := ih opened
    exact ⟨.tail wrapped ⟨mem_children_iff.1 (mem_children_of_firstPart? found), wraps⟩, plain⟩
  | case2 => cases opened
  | case3 node plain =>
    cases opened
    exact ⟨.refl, by simpa using plain⟩

theorem WrappedIn.listed (wrapped : WrappedIn inner outer) (listed : inner ∈ (root tree).preorder) :
    outer ∈ (root tree).preorder := by
  induction wrapped with
  | refl => exact listed
  | tail _ step ih => exact parent_mem_preorder_root ih step.1

/-- In a regular tree a call is found again inside the wrappers around it. -/
theorem unwrap_of_wrappedIn (regular : tree.Regular) (listed : inner ∈ (root tree).preorder)
    (call : inner.kind = "call_expression") (wrapped : WrappedIn inner outer) :
    outer.unwrap = some inner := by
  have plain : inner.isWrapper = false := by
    rw [isWrapper, call]
    decide
  have held : (outer.isWrapper = true ∨ outer.kind = "call_expression") ∧
      outer.unwrap = some inner := by
    induction wrapped with
    | refl => exact ⟨Or.inr call, unwrap_of_not_wrapper plain⟩
    | tail wrapped step ih =>
      have outside := parent_mem_preorder_root (WrappedIn.listed wrapped listed) step.1
      have part := regular.wrapped _ outside step.2 _ (mem_children_iff.2 step.1) ih.1
      exact ⟨Or.inl step.2, (unwrap_of_wrapper step.2 part).trans ih.2⟩
  exact held.2

end RequestLint.Node
