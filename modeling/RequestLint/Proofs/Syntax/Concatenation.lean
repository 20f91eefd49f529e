import RequestLint.Proofs.Syntax.Displacement

/-! The operands of a sum. A loop over the expressions that wait to be opened gives the
leaves of the sum as recursion finds them, from left to right. Whether a sum is a text
that varies is told by these leaves alone, so it makes no difference how its operands
are grouped, nor which of them stand in parentheses. -/
namespace RequestLint

namespace Node

variable {node inner leaf leaf' : Node} {first second left right : Option Node}

theorem eq_sides_of_sum? (split : node.sum? = some (left, right)) :
    node.kind = "binary_expression" ∧ left = node.child? "left" ∧
      right = node.child? "right" := by
  rw [sum?, Option.ite_none_right_eq_some] at split
  obtain ⟨⟨kind, _⟩, sides⟩ := split
  cases sides
  exact ⟨kind, rfl, rfl⟩

theorem size_lt_of_sum? {side : Node} (opened : node.unwrap = some inner)
    (split : inner.sum? = some (left, right)) (member : side ∈ left.toList ++ right.toList) :
    side.size < node.size := by
  obtain ⟨_, rfl, rfl⟩ := eq_sides_of_sum? split
  have bound := size_unwrap_le opened
  rcases List.mem_append.1 member with held | held
  · exact Nat.lt_of_lt_of_le (size_lt_of_child? (Option.mem_toList.1 held)) bound
  · exact Nat.lt_of_lt_of_le (size_lt_of_child? (Option.mem_toList.1 held)) bound

/-- The leaves of an expression, by recursion: wrappers are looked through, a sum has
the leaves of its left side and then those of its right side, a side that is missing
has none, and anything else is one leaf. -/
def leaves (node : Node) : List Node :=
  match _ : node.unwrap with
  | none => []
  | some inner =>
    match _ : inner.sum? with
    | none => [inner]
    | some (left, right) =>
      (left.toList.attach.flatMap fun ⟨side, _⟩ => side.leaves) ++
        right.toList.attach.flatMap fun ⟨side, _⟩ => side.leaves
termination_by node.size
decreasing_by
  · exact size_lt_of_sum? ‹_› ‹_› (List.mem_append_left _ ‹_›)
  · exact size_lt_of_sum? ‹_› ‹_› (List.mem_append_right _ ‹_›)

/-- The leaves of a side of a sum. -/
def leavesOf (side : Option Node) : List Node := side.toList.flatMap leaves

theorem leaves_eq (node : Node) : node.leaves =
    match node.unwrap with
    | none => []
    | some inner =>
      match inner.sum? with
      | none => [inner]
      | some (left, right) => leavesOf left ++ leavesOf right := by
  rw [leaves]
  split
  next bare => simp only [bare]
  next inner opened =>
    simp only [opened]
    split
    next single => simp only [single]
    next left right split =>
      simp only [split, leavesOf, List.flatMap_subtype, List.unattach_attach]

/-- The loop gives the leaves of all that waits, in order. -/
theorem operandsOf_eq_flatMap (waiting : List Node) :
    operandsOf waiting = waiting.flatMap leaves := by
  induction waiting using operandsOf.induct with
  | case1 =>
    rw [operandsOf]
    rfl
  | case2 node waiting bare ih => simp [operandsOf_cons, leaves_eq node, bare, ih]
  | case3 node waiting inner opened left right split ih =>
    simp only [operandsOf_cons, opened, split]
    rw [ih, List.flatMap_cons, leaves_eq node, List.flatMap_append, List.flatMap_append]
    simp only [opened, split, leavesOf]
  | case4 node waiting inner opened single ih =>
    simp [operandsOf_cons, leaves_eq node, opened, single, ih]

theorem operands_eq_leaves (node : Node) : node.operands = node.leaves := by
  rw [operands, operandsOf_eq_flatMap, List.flatMap_singleton]

/-- What the loop gives cannot be opened any further. -/
theorem closed_of_mem_operandsOf {waiting : List Node} (member : leaf ∈ operandsOf waiting) :
    leaf.isWrapper = false ∧ leaf.sum? = none := by
  induction waiting using operandsOf.induct with
  | case1 =>
    rw [operandsOf] at member
    cases member
  | case2 node waiting bare ih =>
    rw [operandsOf_cons, bare] at member
    exact ih member
  | case3 node waiting inner opened left right split ih =>
    simp only [operandsOf_cons, opened, split] at member
    exact ih member
  | case4 node waiting inner opened single ih =>
    simp only [operandsOf_cons, opened, single] at member
    rcases List.mem_cons.1 member with rfl | later
    · exact ⟨(wrappedIn_of_unwrap opened).2, single⟩
    · exact ih later

theorem unwrap_unwrap (opened : node.unwrap = some inner) : inner.unwrap = some inner :=
  unwrap_of_not_wrapper (wrappedIn_of_unwrap opened).2

theorem leaves_of_unwrap (opened : node.unwrap = some inner) : inner.leaves = node.leaves := by
  rw [leaves_eq inner, leaves_eq node, opened, unwrap_unwrap opened]

/-- The two sides of the sum that an operand is, wrappers apart. -/
def sides? (side : Option Node) : Option (Option Node × Option Node) :=
  (side.bind unwrap).bind sum?

theorem isDynamicText_of_sides? (split : sides? (some node) = some (left, right)) :
    node.isDynamicText =
      (decide (2 ≤ node.leaves.length) && node.leaves.any isVariablePart) := by
  obtain ⟨inner, opened, split⟩ := Option.bind_eq_some_iff.1 split
  have opened : node.unwrap = some inner := opened
  have kind := (eq_sides_of_sum? split).1
  rw [isDynamicText, opened, Option.any_some, operands_eq_leaves, leaves_of_unwrap opened, kind]
  rfl

/-- The same expression at another place. -/
def Relocated (node node' : Node) : Prop := ∃ distance, node.tree.Moved distance node'.tree

theorem Relocated.isWrapper (relocated : Relocated leaf leaf') :
    leaf'.isWrapper = leaf.isWrapper := by
  obtain ⟨_, moved⟩ := relocated
  rw [Node.isWrapper, Node.isWrapper, Node.kind, moved.label.kind]
  rfl

theorem Relocated.sum?_eq_none (relocated : Relocated leaf leaf') (single : leaf.sum? = none) :
    leaf'.sum? = none := by
  obtain ⟨_, moved⟩ := relocated
  have kind : leaf'.kind = leaf.kind := moved.label.kind
  have operator : (leaf'.child? "operator").any (·.kind = "+") =
      (leaf.child? "operator").any (·.kind = "+") :=
    any_of_rel (moved.child? "operator") fun _ _ moved => by rw [moved.kind]
  rw [sum?, ite_eq_right_iff] at single ⊢
  rw [kind, operator]
  intro sum
  cases single sum

theorem Relocated.isVariablePart (relocated : Relocated leaf leaf')
    (plain : leaf.isWrapper = false) : leaf'.isVariablePart = leaf.isVariablePart := by
  have opened := unwrap_of_not_wrapper plain
  have opened' := unwrap_of_not_wrapper (relocated.isWrapper.trans plain)
  obtain ⟨_, moved⟩ := relocated
  have kind : leaf'.kind = leaf.kind := moved.label.kind
  have unquoted : leaf'.unquoted = leaf.unquoted := by
    rw [Node.unquoted, Node.unquoted, Node.text, moved.label.text]
    rfl
  have substituted : leaf'.hasSubstitution = leaf.hasSubstitution :=
    any_of_forall₂ moved.parts fun _ _ moved => by rw [moved.kind]
  simp only [Node.isVariablePart, stringValue?, opened, opened', Option.bind_eq_bind,
    Option.bind_some, kind, unquoted, substituted]

/-- Sums with the same leaves vary both or neither. -/
theorem isDynamicText_of_forall₂ {node' : Node} (sum : (sides? (some node)).isSome = true)
    (sum' : (sides? (some node')).isSome = true)
    (leaves : List.Forall₂ Relocated node.leaves node'.leaves) :
    node'.isDynamicText = node.isDynamicText := by
  obtain ⟨⟨left, right⟩, split⟩ := Option.isSome_iff_exists.1 sum
  obtain ⟨⟨left', right'⟩, split'⟩ := Option.isSome_iff_exists.1 sum'
  have plain (leaf : Node) (member : leaf ∈ node.leaves) : leaf.isWrapper = false := by
    rw [← operands_eq_leaves] at member
    exact (closed_of_mem_operandsOf member).1
  have listed := (List.forall₂_and_left node.leaves node'.leaves).2 ⟨plain, leaves⟩
  rw [isDynamicText_of_sides? split, isDynamicText_of_sides? split', leaves.length_eq,
    any_of_forall₂ listed fun _ _ both => both.2.isVariablePart both.1]

/-- The second operand has the leaves of the first in the same order, its sums being
grouped otherwise. Wrappers may stand around any operand, or be missing there. -/
inductive Regrouped : Option Node → Option Node → Prop
  | nothing {first second : Option Node} (bare : first.bind unwrap = none)
    (bare' : second.bind unwrap = none) : Regrouped first second
  | leaf {first second : Option Node} {leaf leaf' : Node} (opened : first.bind unwrap = some leaf)
    (opened' : second.bind unwrap = some leaf') (single : leaf.sum? = none)
    (same : Relocated leaf leaf') : Regrouped first second
  | sum {first second left right left' right' : Option Node}
    (split : sides? first = some (left, right)) (split' : sides? second = some (left', right'))
    (lefts : Regrouped left left') (rights : Regrouped right right') : Regrouped first second
  | rotated {first second group group' a b c a' b' c' : Option Node}
    (split : sides? first = some (group, c)) (grouped : sides? group = some (a, b))
    (split' : sides? second = some (a', group')) (grouped' : sides? group' = some (b', c'))
    (firsts : Regrouped a a') (seconds : Regrouped b b') (thirds : Regrouped c c') :
    Regrouped first second

theorem leavesOf_eq (first : Option Node) : leavesOf first =
    match first.bind unwrap with
    | none => []
    | some inner =>
      match inner.sum? with
      | none => [inner]
      | some (left, right) => leavesOf left ++ leavesOf right := by
  cases first with
  | none => rfl
  | some node =>
    rw [leavesOf, Option.toList_some, List.flatMap_singleton]
    exact leaves_eq node

theorem leavesOf_of_sides? (split : sides? first = some (left, right)) :
    leavesOf first = leavesOf left ++ leavesOf right := by
  obtain ⟨inner, opened, split⟩ := Option.bind_eq_some_iff.1 split
  rw [leavesOf_eq, opened]
  simp only [split]

theorem Regrouped.leaves (regrouped : Regrouped first second) :
    List.Forall₂ Relocated (leavesOf first) (leavesOf second) := by
  induction regrouped with
  | nothing bare bare' =>
    rw [leavesOf_eq, leavesOf_eq, bare, bare']
    exact .nil
  | leaf opened opened' single same =>
    rw [leavesOf_eq, leavesOf_eq, opened, opened']
    simp only [single, same.sum?_eq_none single]
    exact .cons same .nil
  | sum split split' _ _ lefts rights =>
    rw [leavesOf_of_sides? split, leavesOf_of_sides? split']
    exact List.rel_append lefts rights
  | rotated split grouped split' grouped' _ _ _ firsts seconds thirds =>
    rw [leavesOf_of_sides? split, leavesOf_of_sides? grouped, leavesOf_of_sides? split',
      leavesOf_of_sides? grouped', List.append_assoc]
    exact List.rel_append firsts (List.rel_append seconds thirds)

theorem Regrouped.isSome_sides? (regrouped : Regrouped first second) :
    (sides? second).isSome = (sides? first).isSome := by
  cases regrouped with
  | nothing bare bare' => rw [sides?, sides?, bare, bare']
  | leaf opened opened' single same =>
    rw [sides?, sides?, opened, opened', Option.bind_some, Option.bind_some, single,
      same.sum?_eq_none single]
  | sum split split' _ _ => rw [split, split', Option.isSome_some, Option.isSome_some]
  | rotated split _ split' _ _ _ _ => rw [split, split', Option.isSome_some, Option.isSome_some]

/-- The operands of an expression are its leaves as recursion finds them, and none of
them is a wrapper or a sum. If the expression is a sum, its operands decide whether it
varies: so does every other sum with the same operands, and every expression that
comes from it by grouping operands otherwise or by adding and dropping parentheses. -/
theorem operands_are_leaves (node : Node) :
    node.operands = node.leaves ∧
    (∀ leaf ∈ node.operands, leaf.isWrapper = false ∧ leaf.sum? = none) ∧
    ((sides? (some node)).isSome = true →
      node.isDynamicText =
        (decide (2 ≤ node.operands.length) && node.operands.any isVariablePart) ∧
      (∀ other, (sides? (some other)).isSome = true →
        List.Forall₂ Relocated node.operands other.operands →
        other.isDynamicText = node.isDynamicText) ∧
      ∀ other, Regrouped (some node) (some other) →
        List.Forall₂ Relocated node.operands other.operands ∧
          other.isDynamicText = node.isDynamicText) := by
  refine ⟨operands_eq_leaves node, fun leaf member => closed_of_mem_operandsOf member, ?_⟩
  intro sum
  obtain ⟨⟨left, right⟩, split⟩ := Option.isSome_iff_exists.1 sum
  rw [operands_eq_leaves]
  refine ⟨isDynamicText_of_sides? split, ?_, ?_⟩
  · intro other sum' same
    rw [operands_eq_leaves] at same
    exact isDynamicText_of_forall₂ sum sum' same
  · intro other regrouped
    have same : List.Forall₂ Relocated node.leaves other.leaves := by
      simpa [leavesOf] using regrouped.leaves
    rw [operands_eq_leaves]
    exact ⟨same, isDynamicText_of_forall₂ sum (regrouped.isSome_sides?.trans sum) same⟩

/-- A sum whose first two operands stand in parentheses. -/
def groupedFirst.source : Bytes := Utf8.encode "(a + 'b') + c;"

def groupedFirst : Tree :=
  (Tree.ofOutline? groupedFirst.source
    [⟨"program", true, false, "", 0, 14, 1⟩,
      ⟨"expression_statement", true, false, "", 0, 14, 2⟩,
      ⟨"binary_expression", true, false, "", 0, 13, 3⟩,
      ⟨"parenthesized_expression", true, false, "left", 0, 9, 3⟩,
      ⟨"(", false, false, "", 0, 1, 0⟩,
      ⟨"binary_expression", true, false, "", 1, 8, 3⟩,
      ⟨"identifier", true, false, "left", 1, 2, 0⟩,
      ⟨"+", false, false, "operator", 3, 4, 0⟩,
      ⟨"string", true, false, "right", 5, 8, 3⟩,
      ⟨"'", false, false, "", 5, 6, 0⟩,
      ⟨"string_fragment", true, false, "", 6, 7, 0⟩,
      ⟨"'", false, false, "", 7, 8, 0⟩,
      ⟨")", false, false, "", 8, 9, 0⟩,
      ⟨"+", false, false, "operator", 10, 11, 0⟩,
      ⟨"identifier", true, false, "right", 12, 13, 0⟩,
      ⟨";", false, false, "", 13, 14, 0⟩]).getD (Tree.blank groupedFirst.source)

/-- The same sum with its last two operands in parentheses. -/
def groupedLast.source : Bytes := Utf8.encode "a + ('b' + c);"

def groupedLast : Tree :=
  (Tree.ofOutline? groupedLast.source
    [⟨"program", true, false, "", 0, 14, 1⟩,
      ⟨"expression_statement", true, false, "", 0, 14, 2⟩,
      ⟨"binary_expression", true, false, "", 0, 13, 3⟩,
      ⟨"identifier", true, false, "left", 0, 1, 0⟩,
      ⟨"+", false, false, "operator", 2, 3, 0⟩,
      ⟨"parenthesized_expression", true, false, "right", 4, 13, 3⟩,
      ⟨"(", false, false, "", 4, 5, 0⟩,
      ⟨"binary_expression", true, false, "", 5, 12, 3⟩,
      ⟨"string", true, false, "left", 5, 8, 3⟩,
      ⟨"'", false, false, "", 5, 6, 0⟩,
      ⟨"string_fragment", true, false, "", 6, 7, 0⟩,
      ⟨"'", false, false, "", 7, 8, 0⟩,
      ⟨"+", false, false, "operator", 9, 10, 0⟩,
      ⟨"identifier", true, false, "right", 11, 12, 0⟩,
      ⟨")", false, false, "", 12, 13, 0⟩,
      ⟨";", false, false, "", 13, 14, 0⟩]).getD (Tree.blank groupedLast.source)

/-- The node at a position of the listing. -/
def listedAt (tree : Tree) (index : Nat) : Node := (root tree).preorder.getD index (root tree)

theorem operands_are_leaves_grouped :
    (listedAt groupedFirst 2).operands.map text = ["a", "'b'", "c"] ∧
      Regrouped (some (listedAt groupedFirst 2)) (some (listedAt groupedLast 2)) ∧
      (listedAt groupedFirst 2).isDynamicText = true ∧
      (listedAt groupedLast 2).isDynamicText = true := by
  have split : sides? (some (listedAt groupedFirst 2)) =
      some (some (listedAt groupedFirst 3), some (listedAt groupedFirst 14)) := by
    decide +kernel
  have grouped : sides? (some (listedAt groupedFirst 3)) =
      some (some (listedAt groupedFirst 6), some (listedAt groupedFirst 8)) := by
    decide +kernel
  have split' : sides? (some (listedAt groupedLast 2)) =
      some (some (listedAt groupedLast 3), some (listedAt groupedLast 5)) := by
    decide +kernel
  have grouped' : sides? (some (listedAt groupedLast 5)) =
      some (some (listedAt groupedLast 8), some (listedAt groupedLast 13)) := by
    decide +kernel
  have leaf (index index' : Nat) (distance : Int)
      (given : (listedAt groupedFirst index).unwrap = some (listedAt groupedFirst index) ∧
        (listedAt groupedLast index').unwrap = some (listedAt groupedLast index') ∧
        (listedAt groupedFirst index).sum? = none ∧
        (listedAt groupedFirst index).tree.Moved distance (listedAt groupedLast index').tree) :
      Regrouped (some (listedAt groupedFirst index)) (some (listedAt groupedLast index')) := by
    obtain ⟨opened, opened', single, moved⟩ := given
    exact .leaf opened opened' single ⟨distance, moved⟩
  have regrouped : Regrouped (some (listedAt groupedFirst 2)) (some (listedAt groupedLast 2)) :=
    .rotated split grouped split' grouped' (leaf 6 3 (-1) (by decide +kernel))
      (leaf 8 8 0 (by decide +kernel)) (leaf 14 13 (-1) (by decide +kernel))
  have sum : (sides? (some (listedAt groupedFirst 2))).isSome = true := by
    rw [split, Option.isSome_some]
  have same := (((operands_are_leaves (listedAt groupedFirst 2)).2.2 sum).2.2 _ regrouped).2
  have dynamic : (listedAt groupedFirst 2).isDynamicText = true := by decide +kernel
  exact ⟨by decide +kernel, regrouped, dynamic, same.trans dynamic⟩

end Node
end RequestLint
