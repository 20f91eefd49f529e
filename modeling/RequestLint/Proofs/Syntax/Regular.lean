import RequestLint.Syntax.Kind
import RequestLint.Syntax.Outline
import RequestLint.Proofs.Syntax.Placement

/-! What the analysis takes for granted about parsed trees. It recognises nodes
by kind and span, and it looks through wrappers by first parts; both are sound
only on trees of a certain shape, which those of the grammar have. -/
namespace RequestLint

/-- Siblings differ in kind or span, and a wrapper is about its first part, so
that no other child of it is a call or a wrapper. -/
structure Tree.Regular (tree : Tree) : Prop where
  siblings : ∀ node ∈ (Node.root tree).preorder, (node.children.map Node.key).Nodup
  wrapped : ∀ node ∈ (Node.root tree).preorder, node.isWrapper → ∀ inner ∈ node.children,
    inner.isWrapper ∨ inner.kind = "call_expression" → node.firstPart? = some inner

/-- No two calls have the same span. -/
def Tree.DistinctCalls (tree : Tree) : Prop :=
  ∀ first ∈ (Node.root tree).preorder, first.kind = "call_expression" →
    ∀ second ∈ (Node.root tree).preorder, second.kind = "call_expression" →
      first.start = second.start → first.stop = second.stop → first = second

theorem Tree.distinctCalls_of_nodup {tree : Tree}
    (spans : (((Node.root tree).preorder.filter (·.kind = "call_expression")).map
      fun call => (call.start, call.stop)).Nodup) : tree.DistinctCalls := by
  intro first one call second other call' start stop
  refine List.inj_on_of_nodup_map spans (List.mem_filter.2 ⟨one, decide_eq_true call⟩)
    (List.mem_filter.2 ⟨other, decide_eq_true call'⟩) ?_
  rw [start, stop]

namespace Node

variable {tree : Tree} {node : Node}

theorem eq_of_sameSite (regular : tree.Regular) (listed : node ∈ (root tree).preorder)
    {first second : Node} (one : first ∈ node.children) (other : second ∈ node.children)
    (same : first.sameSite second = true) : first = second :=
  List.inj_on_of_nodup_map (regular.siblings node listed) one other (eq_of_beq same)

theorem sameSite_self (node : Node) : node.sameSite node = true := beq_self_eq_true _

/-- A key identifies a call. -/
theorem eq_of_key (distinct : tree.DistinctCalls) {first second : Node}
    (one : first ∈ (root tree).preorder) (other : second ∈ (root tree).preorder)
    (call : first.kind = "call_expression") (same : first.key = second.key) : first = second := by
  obtain ⟨kind, start, stop⟩ := Key.mk.injEq .. ▸ same
  exact distinct first one call second other (kind ▸ call) start stop

end Node

/-- A handled and an unhandled request, with a wrapper in the chain of the first. -/
def twoRequests.source : Bytes :=
  Utf8.encode "(fetch(u)).then(f).catch(g);await fetch(v);"

def twoRequests : Tree :=
  (Tree.ofOutline? twoRequests.source
    [⟨"program", true, false, "", 0, 43, 2⟩,
      ⟨"expression_statement", true, false, "", 0, 28, 2⟩,
      ⟨"call_expression", true, false, "", 0, 27, 2⟩,
      ⟨"member_expression", true, false, "function", 0, 24, 3⟩,
      ⟨"call_expression", true, false, "object", 0, 18, 2⟩,
      ⟨"member_expression", true, false, "function", 0, 15, 3⟩,
      ⟨"parenthesized_expression", true, false, "object", 0, 10, 3⟩,
      ⟨"(", false, false, "", 0, 1, 0⟩,
      ⟨"call_expression", true, false, "", 1, 9, 2⟩,
      ⟨"identifier", true, false, "function", 1, 6, 0⟩,
      ⟨"arguments", true, false, "arguments", 6, 9, 3⟩,
      ⟨"(", false, false, "", 6, 7, 0⟩,
      ⟨"identifier", true, false, "", 7, 8, 0⟩,
      ⟨")", false, false, "", 8, 9, 0⟩,
      ⟨")", false, false, "", 9, 10, 0⟩,
      ⟨".", false, false, "", 10, 11, 0⟩,
      ⟨"property_identifier", true, false, "property", 11, 15, 0⟩,
      ⟨"arguments", true, false, "arguments", 15, 18, 3⟩,
      ⟨"(", false, false, "", 15, 16, 0⟩,
      ⟨"identifier", true, false, "", 16, 17, 0⟩,
      ⟨")", false, false, "", 17, 18, 0⟩,
      ⟨".", false, false, "", 18, 19, 0⟩,
      ⟨"property_identifier", true, false, "property", 19, 24, 0⟩,
      ⟨"arguments", true, false, "arguments", 24, 27, 3⟩,
      ⟨"(", false, false, "", 24, 25, 0⟩,
      ⟨"identifier", true, false, "", 25, 26, 0⟩,
      ⟨")", false, false, "", 26, 27, 0⟩,
      ⟨";", false, false, "", 27, 28, 0⟩,
      ⟨"expression_statement", true, false, "", 28, 43, 2⟩,
      ⟨"await_expression", true, false, "", 28, 42, 2⟩,
      ⟨"await", false, false, "", 28, 33, 0⟩,
      ⟨"call_expression", true, false, "", 34, 42, 2⟩,
      ⟨"identifier", true, false, "function", 34, 39, 0⟩,
      ⟨"arguments", true, false, "arguments", 39, 42, 3⟩,
      ⟨"(", false, false, "", 39, 40, 0⟩,
      ⟨"identifier", true, false, "", 40, 41, 0⟩,
      ⟨")", false, false, "", 41, 42, 0⟩,
      ⟨";", false, false, "", 42, 43, 0⟩]).getD (Tree.blank twoRequests.source)

theorem twoRequests_regular : twoRequests.Regular := ⟨by decide +kernel, by decide +kernel⟩

theorem twoRequests_distinctCalls : twoRequests.DistinctCalls := by
  unfold Tree.DistinctCalls
  decide +kernel

end RequestLint
