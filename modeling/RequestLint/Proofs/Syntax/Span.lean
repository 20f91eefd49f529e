import RequestLint.Syntax.Outline
import RequestLint.Proofs.Syntax.Placement
import Mathlib.Data.List.Pairwise

/-! Spans of nodes. Parsers give every node a stretch of the source, inside that of
its parent and apart from those of its siblings. Any two nodes of such a tree are
therefore nested or lie apart, and an offset at the end of one node falls strictly
inside another only if the first lies below the second. -/
namespace RequestLint

/-- The spans of the tree nest in the source, and only named nodes other than
comments have children. -/
structure Tree.Fits (tree : Tree) (source : Bytes) : Prop where
  bound : (Node.root tree).stop ≤ source.length
  proper : ∀ node ∈ (Node.root tree).preorder, node.start ≤ node.stop
  within : ∀ node ∈ (Node.root tree).preorder, ∀ inner ∈ node.children,
    node.start ≤ inner.start ∧ inner.stop ≤ node.stop
  siblings : ∀ node ∈ (Node.root tree).preorder,
    node.children.Pairwise fun a b => a.stop ≤ b.start
  tokens : ∀ node ∈ (Node.root tree).preorder,
    node.named = false ∨ node.kind = "comment" → node.children = []

namespace Node

variable {tree : Tree} {source : Bytes} {node inner outer first second : Node}

/-- Neither span reaches into the other. -/
def Apart (first second : Node) : Prop := first.stop ≤ second.start ∨ second.stop ≤ first.start

instance : Std.Symm Apart := ⟨fun _ _ => Or.symm⟩

theorem mem_parts_iff : inner ∈ node.parts ↔
    inner ∈ node.children ∧ inner.named = true ∧ inner.kind ≠ "comment" := by
  rw [parts, namedChildren, List.mem_filter, List.mem_filter, bne_iff_ne, and_assoc]

theorem span_of_mem_preorder (fits : tree.Fits source) (listed : outer ∈ (root tree).preorder)
    (below : inner ∈ outer.preorder) : outer.start ≤ inner.start ∧ inner.stop ≤ outer.stop := by
  induction outer using downward with
  | step outer ih =>
    rw [preorder_eq, List.mem_cons, List.mem_flatMap] at below
    rcases below with rfl | ⟨child, member, below⟩
    · exact ⟨Nat.le_refl _, Nat.le_refl _⟩
    · have step := fits.within outer listed child member
      have rest := ih child member (mem_preorder_of_child listed member) below
      omega

theorem stop_le_length (fits : tree.Fits source) (listed : node ∈ (root tree).preorder) :
    node.stop ≤ source.length :=
  Nat.le_trans (span_of_mem_preorder fits (self_mem_preorder _) listed).2 fits.bound

/-- Two nodes are nested, or lie apart as the children of a common node do. -/
theorem nested_or_apart (fits : tree.Fits source) (one : first ∈ (root tree).preorder)
    (other : second ∈ (root tree).preorder) :
    first ∈ second.preorder ∨ second ∈ first.preorder ∨ Apart first second := by
  suffices below : ∀ top : Node, top ∈ (root tree).preorder → first ∈ top.preorder →
      second ∈ top.preorder → first ∈ second.preorder ∨ second ∈ first.preorder ∨
        Apart first second by
    exact below (root tree) (self_mem_preorder _) one other
  intro top listed left right
  induction top using downward with
  | step top ih =>
    have leftCases := left
    have rightCases := right
    rw [preorder_eq, List.mem_cons, List.mem_flatMap] at leftCases rightCases
    rcases leftCases with rfl | ⟨a, childA, inA⟩
    · exact Or.inr (Or.inl right)
    · rcases rightCases with rfl | ⟨b, childB, inB⟩
      · exact Or.inl left
      · by_cases same : a = b
        · subst same
          exact ih a childA (mem_preorder_of_child listed childA) inA inB
        · have spanA := span_of_mem_preorder fits (mem_preorder_of_child listed childA) inA
          have spanB := span_of_mem_preorder fits (mem_preorder_of_child listed childB) inB
          have siblings : top.children.Pairwise Apart :=
            (fits.siblings top listed).imp fun order => Or.inl order
          have apart : Apart a b := siblings.forall childA childB same
          unfold Apart at apart ⊢
          omega

/-- Below a node without parts there are only tokens and comments. -/
theorem mem_children_of_parts_nil (fits : tree.Fits source) (listed : node ∈ (root tree).preorder)
    (bare : node.parts = []) (below : inner ∈ node.preorder) :
    inner = node ∨ inner ∈ node.children ∧ inner ∉ node.parts := by
  rw [preorder_eq, List.mem_cons, List.mem_flatMap] at below
  rcases below with same | ⟨child, member, below⟩
  · exact Or.inl same
  · have token : child.named = false ∨ child.kind = "comment" := by
      by_contra plain
      rw [not_or, Bool.not_eq_false] at plain
      have part : child ∈ node.parts := mem_parts_iff.2 ⟨member, plain⟩
      rw [bare] at part
      cases part
    have leaf := fits.tokens child (mem_preorder_of_child listed member) token
    rw [preorder_eq, leaf, List.flatMap_nil, List.mem_singleton] at below
    subst below
    exact Or.inr ⟨member, by simp [bare]⟩

end Node

/-- A request in the body of another, both without a content type. The headers of
the outer one are a literal without entries. -/
def nestedRequests.source : Bytes :=
  Utf8.encode ("fetch(u,\x7bheaders:\x7b\x7d,body:JSON.stringify(" ++
    "fetch(v,\x7bbody:JSON.stringify(x)\x7d))\x7d)")

def nestedRequests : Tree :=
  (Tree.ofOutline? nestedRequests.source
    [⟨"program", true, false, "", 0, 76, 1⟩,
      ⟨"expression_statement", true, false, "", 0, 76, 1⟩,
      ⟨"call_expression", true, false, "", 0, 76, 2⟩,
      ⟨"identifier", true, false, "function", 0, 5, 0⟩,
      ⟨"arguments", true, false, "arguments", 5, 76, 5⟩,
      ⟨"(", false, false, "", 5, 6, 0⟩,
      ⟨"identifier", true, false, "", 6, 7, 0⟩,
      ⟨",", false, false, "", 7, 8, 0⟩,
      ⟨"object", true, false, "", 8, 75, 5⟩,
      ⟨"\x7b", false, false, "", 8, 9, 0⟩,
      ⟨"pair", true, false, "", 9, 19, 3⟩,
      ⟨"property_identifier", true, false, "key", 9, 16, 0⟩,
      ⟨":", false, false, "", 16, 17, 0⟩,
      ⟨"object", true, false, "value", 17, 19, 2⟩,
      ⟨"\x7b", false, false, "", 17, 18, 0⟩,
      ⟨"\x7d", false, false, "", 18, 19, 0⟩,
      ⟨",", false, false, "", 19, 20, 0⟩,
      ⟨"pair", true, false, "", 20, 74, 3⟩,
      ⟨"property_identifier", true, false, "key", 20, 24, 0⟩,
      ⟨":", false, false, "", 24, 25, 0⟩,
      ⟨"call_expression", true, false, "value", 25, 74, 2⟩,
      ⟨"member_expression", true, false, "function", 25, 39, 3⟩,
      ⟨"identifier", true, false, "object", 25, 29, 0⟩,
      ⟨".", false, false, "", 29, 30, 0⟩,
      ⟨"property_identifier", true, false, "property", 30, 39, 0⟩,
      ⟨"arguments", true, false, "arguments", 39, 74, 3⟩,
      ⟨"(", false, false, "", 39, 40, 0⟩,
      ⟨"call_expression", true, false, "", 40, 73, 2⟩,
      ⟨"identifier", true, false, "function", 40, 45, 0⟩,
      ⟨"arguments", true, false, "arguments", 45, 73, 5⟩,
      ⟨"(", false, false, "", 45, 46, 0⟩,
      ⟨"identifier", true, false, "", 46, 47, 0⟩,
      ⟨",", false, false, "", 47, 48, 0⟩,
      ⟨"object", true, false, "", 48, 72, 3⟩,
      ⟨"\x7b", false, false, "", 48, 49, 0⟩,
      ⟨"pair", true, false, "", 49, 71, 3⟩,
      ⟨"property_identifier", true, false, "key", 49, 53, 0⟩,
      ⟨":", false, false, "", 53, 54, 0⟩,
      ⟨"call_expression", true, false, "value", 54, 71, 2⟩,
      ⟨"member_expression", true, false, "function", 54, 68, 3⟩,
      ⟨"identifier", true, false, "object", 54, 58, 0⟩,
      ⟨".", false, false, "", 58, 59, 0⟩,
      ⟨"property_identifier", true, false, "property", 59, 68, 0⟩,
      ⟨"arguments", true, false, "arguments", 68, 71, 3⟩,
      ⟨"(", false, false, "", 68, 69, 0⟩,
      ⟨"identifier", true, false, "", 69, 70, 0⟩,
      ⟨")", false, false, "", 70, 71, 0⟩,
      ⟨"\x7d", false, false, "", 71, 72, 0⟩,
      ⟨")", false, false, "", 72, 73, 0⟩,
      ⟨")", false, false, "", 73, 74, 0⟩,
      ⟨"\x7d", false, false, "", 74, 75, 0⟩,
      ⟨")", false, false, "", 75, 76, 0⟩]).getD (Tree.blank nestedRequests.source)

/-- The same requests, with a content type each. -/
def repairedRequests.source : Bytes :=
  Utf8.encode ("fetch(u,\x7bheaders:\x7b \"Content-Type\": \"application/json\" \x7d," ++
    "body:JSON.stringify(fetch(v,\x7bbody:JSON.stringify(x), " ++
    "headers: \x7b \"Content-Type\": \"application/json\" \x7d\x7d))\x7d)")

def repairedRequests : Tree :=
  (Tree.ofOutline? repairedRequests.source
    [⟨"program", true, false, "", 0, 161, 1⟩,
      ⟨"expression_statement", true, false, "", 0, 161, 1⟩,
      ⟨"call_expression", true, false, "", 0, 161, 2⟩,
      ⟨"identifier", true, false, "function", 0, 5, 0⟩,
      ⟨"arguments", true, false, "arguments", 5, 161, 5⟩,
      ⟨"(", false, false, "", 5, 6, 0⟩,
      ⟨"identifier", true, false, "", 6, 7, 0⟩,
      ⟨",", false, false, "", 7, 8, 0⟩,
      ⟨"object", true, false, "", 8, 160, 5⟩,
      ⟨"\x7b", false, false, "", 8, 9, 0⟩,
      ⟨"pair", true, false, "", 9, 55, 3⟩,
      ⟨"property_identifier", true, false, "key", 9, 16, 0⟩,
      ⟨":", false, false, "", 16, 17, 0⟩,
      ⟨"object", true, false, "value", 17, 55, 3⟩,
      ⟨"\x7b", false, false, "", 17, 18, 0⟩,
      ⟨"pair", true, false, "", 19, 53, 3⟩,
      ⟨"string", true, false, "key", 19, 33, 3⟩,
      ⟨"\"", false, false, "", 19, 20, 0⟩,
      ⟨"string_fragment", true, false, "", 20, 32, 0⟩,
      ⟨"\"", false, false, "", 32, 33, 0⟩,
      ⟨":", false, false, "", 33, 34, 0⟩,
      ⟨"string", true, false, "value", 35, 53, 3⟩,
      ⟨"\"", false, false, "", 35, 36, 0⟩,
      ⟨"string_fragment", true, false, "", 36, 52, 0⟩,
      ⟨"\"", false, false, "", 52, 53, 0⟩,
      ⟨"\x7d", false, false, "", 54, 55, 0⟩,
      ⟨",", false, false, "", 55, 56, 0⟩,
      ⟨"pair", true, false, "", 56, 159, 3⟩,
      ⟨"property_identifier", true, false, "key", 56, 60, 0⟩,
      ⟨":", false, false, "", 60, 61, 0⟩,
      ⟨"call_expression", true, false, "value", 61, 159, 2⟩,
      ⟨"member_expression", true, false, "function", 61, 75, 3⟩,
      ⟨"identifier", true, false, "object", 61, 65, 0⟩,
      ⟨".", false, false, "", 65, 66, 0⟩,
      ⟨"property_identifier", true, false, "property", 66, 75, 0⟩,
      ⟨"arguments", true, false, "arguments", 75, 159, 3⟩,
      ⟨"(", false, false, "", 75, 76, 0⟩,
      ⟨"call_expression", true, false, "", 76, 158, 2⟩,
      ⟨"identifier", true, false, "function", 76, 81, 0⟩,
      ⟨"arguments", true, false, "arguments", 81, 158, 5⟩,
      ⟨"(", false, false, "", 81, 82, 0⟩,
      ⟨"identifier", true, false, "", 82, 83, 0⟩,
      ⟨",", false, false, "", 83, 84, 0⟩,
      ⟨"object", true, false, "", 84, 157, 5⟩,
      ⟨"\x7b", false, false, "", 84, 85, 0⟩,
      ⟨"pair", true, false, "", 85, 107, 3⟩,
      ⟨"property_identifier", true, false, "key", 85, 89, 0⟩,
      ⟨":", false, false, "", 89, 90, 0⟩,
      ⟨"call_expression", true, false, "value", 90, 107, 2⟩,
      ⟨"member_expression", true, false, "function", 90, 104, 3⟩,
      ⟨"identifier", true, false, "object", 90, 94, 0⟩,
      ⟨".", false, false, "", 94, 95, 0⟩,
      ⟨"property_identifier", true, false, "property", 95, 104, 0⟩,
      ⟨"arguments", true, false, "arguments", 104, 107, 3⟩,
      ⟨"(", false, false, "", 104, 105, 0⟩,
      ⟨"identifier", true, false, "", 105, 106, 0⟩,
      ⟨")", false, false, "", 106, 107, 0⟩,
      ⟨",", false, false, "", 107, 108, 0⟩,
      ⟨"pair", true, false, "", 109, 156, 3⟩,
      ⟨"property_identifier", true, false, "key", 109, 116, 0⟩,
      ⟨":", false, false, "", 116, 117, 0⟩,
      ⟨"object", true, false, "value", 118, 156, 3⟩,
      ⟨"\x7b", false, false, "", 118, 119, 0⟩,
      ⟨"pair", true, false, "", 120, 154, 3⟩,
      ⟨"string", true, false, "key", 120, 134, 3⟩,
      ⟨"\"", false, false, "", 120, 121, 0⟩,
      ⟨"string_fragment", true, false, "", 121, 133, 0⟩,
      ⟨"\"", false, false, "", 133, 134, 0⟩,
      ⟨":", false, false, "", 134, 135, 0⟩,
      ⟨"string", true, false, "value", 136, 154, 3⟩,
      ⟨"\"", false, false, "", 136, 137, 0⟩,
      ⟨"string_fragment", true, false, "", 137, 153, 0⟩,
      ⟨"\"", false, false, "", 153, 154, 0⟩,
      ⟨"\x7d", false, false, "", 155, 156, 0⟩,
      ⟨"\x7d", false, false, "", 156, 157, 0⟩,
      ⟨")", false, false, "", 157, 158, 0⟩,
      ⟨")", false, false, "", 158, 159, 0⟩,
      ⟨"\x7d", false, false, "", 159, 160, 0⟩,
      ⟨")", false, false, "", 160, 161, 0⟩]).getD (Tree.blank repairedRequests.source)

theorem nestedRequests_fits : nestedRequests.Fits nestedRequests.source :=
  ⟨by decide +kernel, by decide +kernel, by decide +kernel, by decide +kernel, by decide +kernel⟩

theorem repairedRequests_fits : repairedRequests.Fits repairedRequests.source :=
  ⟨by decide +kernel, by decide +kernel, by decide +kernel, by decide +kernel, by decide +kernel⟩

end RequestLint
