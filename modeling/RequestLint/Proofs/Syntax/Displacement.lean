import RequestLint.Syntax.Concatenation
import RequestLint.Syntax.Search
import RequestLint.Proofs.Syntax.Reparse

/-! The same expression at another offset, with anything around it. Two trees are
compared that say the same, node by node, save that all offsets of the second lie a
fixed distance further on. What is read off an expression going down moves along. -/
namespace RequestLint

/-- The same words, `distance` bytes further on. The field is left out, since it tells
what a node is to its parent. -/
@[mk_iff]
structure Label.Moved (distance : Int) (label label' : Label) : Prop where
  kind : label'.kind = label.kind
  named : label'.named = label.named
  hasError : label'.hasError = label.hasError
  text : label'.text = label.text
  start : label'.start = label.start + distance
  stop : label'.stop = label.stop + distance

instance (distance : Int) (label label' : Label) : Decidable (label.Moved distance label') :=
  decidable_of_iff _ (Label.moved_iff distance label label').symm

namespace Tree

mutual
/-- The second tree is the first, `distance` bytes further on. The field of the root
belongs to what stands around it; below the root fields are compared. -/
def Moved (distance : Int) : Tree → Tree → Prop
  | node label children, node label' children' =>
    label.Moved distance label' ∧ ForestMoved distance children children'

def ForestMoved (distance : Int) : List Tree → List Tree → Prop
  | [], [] => True
  | tree :: rest, tree' :: rest' =>
    tree'.label.field = tree.label.field ∧ Moved distance tree tree' ∧
      ForestMoved distance rest rest'
  | _, _ => False
end

mutual
def decideMoved (distance : Int) : (tree tree' : Tree) → Decidable (Moved distance tree tree')
  | node label children, node label' children' =>
    have := decideForestMoved distance children children'
    inferInstanceAs (Decidable (label.Moved distance label' ∧ _))

def decideForestMoved (distance : Int) :
    (trees trees' : List Tree) → Decidable (ForestMoved distance trees trees')
  | [], [] => isTrue trivial
  | [], _ :: _ => isFalse id
  | _ :: _, [] => isFalse id
  | tree :: rest, tree' :: rest' =>
    have := decideMoved distance tree tree'
    have := decideForestMoved distance rest rest'
    inferInstanceAs (Decidable (_ ∧ Moved distance tree tree' ∧ ForestMoved distance rest rest'))
end

instance (distance : Int) (tree tree' : Tree) : Decidable (tree.Moved distance tree') :=
  decideMoved distance tree tree'

variable {distance : Int}

theorem moved_iff {tree tree' : Tree} : tree.Moved distance tree' ↔
    tree.label.Moved distance tree'.label ∧
      ForestMoved distance tree.children tree'.children := by
  cases tree
  cases tree'
  exact Iff.rfl

theorem forall₂_of_forestMoved {trees trees' : List Tree}
    (moved : ForestMoved distance trees trees') :
    List.Forall₂ (fun tree tree' => tree'.label.field = tree.label.field ∧
      tree.Moved distance tree') trees trees' := by
  induction trees generalizing trees' with
  | nil =>
    cases trees' with
    | nil => exact .nil
    | cons => exact moved.elim
  | cons tree rest ih =>
    cases trees' with
    | nil => exact moved.elim
    | cons tree' rest' =>
      obtain ⟨field, first, others⟩ := moved
      exact .cons ⟨field, first⟩ (ih others)

end Tree

/-- The same expression, `distance` bytes further on. -/
structure Node.Moved (distance : Int) (node node' : Node) : Prop where
  field : node'.field = node.field
  tree : node.tree.Moved distance node'.tree

namespace Tree.Moved
open Node

variable {distance : Int} {node node' : Node}

theorem label {tree tree' : Tree} (moved : tree.Moved distance tree') :
    tree.label.Moved distance tree'.label :=
  (moved_iff.1 moved).1

theorem children (moved : node.tree.Moved distance node'.tree) :
    List.Forall₂ (Node.Moved distance) node.children node'.children := by
  have below := forall₂_of_forestMoved (moved_iff.1 moved).2
  rw [← map_tree_children node, ← map_tree_children node', List.forall₂_map_left_iff,
    List.forall₂_map_right_iff] at below
  exact below.imp fun _ _ both => ⟨both.1, both.2⟩

theorem child? (moved : node.tree.Moved distance node'.tree) (field : String) :
    Option.Rel (Node.Moved distance) (node.child? field) (node'.child? field) :=
  rel_find? moved.children fun inner inner' moved => by rw [moved.field]

theorem namedChildren (moved : node.tree.Moved distance node'.tree) :
    List.Forall₂ (Node.Moved distance) node.namedChildren node'.namedChildren :=
  forall₂_filter moved.children fun _ _ moved => moved.tree.label.named

theorem parts (moved : node.tree.Moved distance node'.tree) :
    List.Forall₂ (Node.Moved distance) node.parts node'.parts := by
  refine forall₂_filter moved.namedChildren fun inner inner' moved => ?_
  rw [Node.kind, moved.tree.label.kind]
  rfl

end Tree.Moved

namespace Node.Moved

variable {distance : Int} {node node' : Node}

theorem kind (moved : Moved distance node node') : node'.kind = node.kind := moved.tree.label.kind

/-- Only offsets differ, so all that is read without them is the same. -/
theorem copied (moved : Moved distance node node') : Copied node node' := by
  induction node using downward generalizing node' with
  | step node ih =>
    have label := moved.tree.label
    have listed := (List.forall₂_and_left node.children node'.children).2
      ⟨fun _ member => member, moved.tree.children⟩
    refine .kept ⟨label.kind, label.named, moved.field, label.hasError, fun _ => label.text⟩ rfl ?_
    exact listed.imp fun inner inner' both => ih inner both.1 both.2

theorem unwrap (moved : Moved distance node node') :
    Option.Rel (Moved distance) node.unwrap node'.unwrap := by
  induction node using downward generalizing node' with
  | step node ih =>
    have same := moved.copied.isWrapper
    cases wraps : node.isWrapper with
    | false =>
      rw [unwrap_of_not_wrapper wraps, unwrap_of_not_wrapper (same.trans wraps)]
      exact .some moved
    | true =>
      rw [unwrap_eq_bind wraps, unwrap_eq_bind (same.trans wraps)]
      refine rel_bind (rel_head? moved.tree.parts) fun inner found inner' moved => ?_
      exact ih inner (mem_children_of_firstPart? found) moved

theorem objectLiteral? (moved : Moved distance node node') :
    Option.Rel (Moved distance) node.objectLiteral? node'.objectLiteral? :=
  rel_filter moved.unwrap fun inner inner' moved => by rw [moved.kind]

theorem entries (moved : Moved distance node node') :
    List.Forall₂ (Moved distance) node.entries node'.entries := by
  have literal := moved.objectLiteral?
  rw [Node.entries, Node.entries]
  revert literal
  generalize node.objectLiteral? = first, node'.objectLiteral? = second
  intro literal
  cases literal with
  | none => exact .nil
  | some moved => exact moved.tree.parts

theorem lookup? (moved : Moved distance node node') (key : String) :
    Option.Rel (Moved distance) (node.lookup? key) (node'.lookup? key) :=
  rel_getLast? (forall₂_filter moved.entries fun _ _ moved => moved.copied.hasKey key)

theorem hasDynamicEntry (moved : Moved distance node node') :
    node'.hasDynamicEntry = node.hasDynamicEntry :=
  any_of_forall₂ moved.entries fun _ _ moved => moved.copied.isDynamicEntry

theorem entryValue? (moved : Moved distance node node') :
    Option.Rel (Moved distance) node.entryValue? node'.entryValue? := by
  rw [Node.entryValue?, Node.entryValue?, moved.kind]
  split
  · exact .some moved
  · exact moved.tree.child? "value"

theorem value? (moved : Moved distance node node') (key : String) :
    Option.Rel (Moved distance) (node.value? key) (node'.value? key) :=
  rel_bind (moved.lookup? key) fun _ _ _ moved => moved.entryValue?

theorem sum? (moved : Moved distance node node') :
    Option.Rel (fun sides sides' => Option.Rel (Moved distance) sides.1 sides'.1 ∧
      Option.Rel (Moved distance) sides.2 sides'.2) node.sum? node'.sum? := by
  have operator : (node'.child? "operator").any (·.kind = "+") =
      (node.child? "operator").any (·.kind = "+") :=
    any_of_rel (moved.tree.child? "operator") fun _ _ moved => by rw [moved.kind]
  rw [Node.sum?, Node.sum?, moved.kind, operator]
  split
  · exact .some ⟨moved.tree.child? "left", moved.tree.child? "right"⟩
  · exact .none

theorem operandsOf {waiting waiting' : List Node}
    (both : List.Forall₂ (Moved distance) waiting waiting') :
    List.Forall₂ (Moved distance) (Node.operandsOf waiting) (Node.operandsOf waiting') := by
  induction waiting using Node.operandsOf.induct generalizing waiting' with
  | case1 =>
    cases both
    rw [Node.operandsOf]
    exact .nil
  | case2 node waiting bare ih =>
    cases both with
    | cons moved rest =>
      have opens := moved.unwrap
      rw [bare] at opens
      rw [operandsOf_cons, operandsOf_cons, bare, eq_none_of_rel_none opens]
      exact ih rest
  | case3 node waiting inner opened left right split ih =>
    cases both with
    | cons moved rest =>
      have opens := moved.unwrap
      rw [opened] at opens
      obtain ⟨inner', opened', moved'⟩ := exists_of_rel_some opens
      have sides := moved'.sum?
      rw [split] at sides
      obtain ⟨⟨left', right'⟩, split', leftSide, rightSide⟩ := exists_of_rel_some sides
      rw [operandsOf_cons, operandsOf_cons, opened, opened']
      simp only [split, split']
      have held := List.rel_append (forall₂_toList leftSide) (forall₂_toList rightSide)
      exact ih (List.rel_append held rest)
  | case4 node waiting inner opened single ih =>
    cases both with
    | cons moved rest =>
      have opens := moved.unwrap
      rw [opened] at opens
      obtain ⟨inner', opened', moved'⟩ := exists_of_rel_some opens
      have sides := moved'.sum?
      rw [single] at sides
      rw [operandsOf_cons, operandsOf_cons, opened, opened']
      simp only [single, eq_none_of_rel_none sides]
      exact .cons moved' (ih rest)

theorem isVariablePart (moved : Moved distance node node') :
    node'.isVariablePart = node.isVariablePart := by
  rw [Node.isVariablePart, Node.isVariablePart, moved.kind, moved.copied.stringValue?]

theorem hasSubstitution (moved : Moved distance node node') :
    node'.hasSubstitution = node.hasSubstitution :=
  any_of_forall₂ moved.tree.parts fun _ _ moved => by rw [moved.kind]

theorem isDynamicText (moved : Moved distance node node') :
    node'.isDynamicText = node.isDynamicText := by
  refine any_of_rel moved.unwrap fun inner inner' moved => ?_
  have operands : List.Forall₂ (Moved distance) inner.operands inner'.operands :=
    operandsOf (.cons moved .nil)
  rw [moved.kind, moved.hasSubstitution, ← operands.length_eq,
    any_of_forall₂ operands fun _ _ moved => moved.isVariablePart]

theorem isConstruction (moved : Moved distance node node') (name : String) :
    node'.isConstruction name = node.isConstruction name := by
  rw [Node.isConstruction, Node.isConstruction, moved.kind,
    any_of_rel (moved.tree.child? "constructor") fun _ _ moved => moved.copied.isName name]

theorem methodName? (moved : Moved distance node node') :
    node'.methodName? = node.methodName? := by
  have called : Option.Rel _ node.calledMember? node'.calledMember? :=
    rel_bind (moved.tree.child? "function") fun _ _ _ moved => moved.copied.member?
  rw [Node.methodName?, Node.methodName?, moved.kind, map_of_rel called fun _ _ _ both => both.2]

/-- A search ends the same way in both, if its tests do not read offsets. -/
theorem holds {reach : Reach} {test : Node → Bool}
    (skips : ∀ node node', Moved distance node node' → reach.skip node' = reach.skip node)
    (tests : ∀ node node', Moved distance node node' → test node' = test node)
    (moved : Moved distance node node') : node'.holds reach test = node.holds reach test := by
  induction node using downward generalizing node' with
  | step node ih =>
    have listed := (List.forall₂_and_left node.namedChildren node'.namedChildren).2
      ⟨fun _ member => member, moved.tree.namedChildren⟩
    have inside : node'.namedChildren.any (Node.holds reach test) =
        node.namedChildren.any (Node.holds reach test) :=
      any_of_forall₂ listed fun inner inner' both => ih inner (List.mem_filter.1 both.1).1 both.2
    rw [holds_eq, holds_eq, skips _ _ moved, tests _ _ moved, Node.isFunctionLike,
      Node.isFunctionLike, moved.kind, inside]

end Node.Moved

namespace Tree.Moved
open Node

variable {distance : Int} {call call' : Node}

theorem isTargetCall (moved : call.tree.Moved distance call'.tree) (target : String) :
    call'.isTargetCall target = call.isTargetCall target := by
  have kind : call'.kind = call.kind := moved.label.kind
  rw [Node.isTargetCall, Node.isTargetCall, kind,
    any_of_rel (moved.child? "function") fun _ _ moved => moved.copied.isName target]

theorem arguments (moved : call.tree.Moved distance call'.tree) :
    List.Forall₂ (Node.Moved distance) call.arguments call'.arguments := by
  have held := moved.child? "arguments"
  rw [Node.arguments, Node.arguments]
  revert held
  generalize call.child? "arguments" = first, call'.child? "arguments" = second
  intro held
  cases held with
  | none => exact .nil
  | some moved =>
    simp only [moved.kind]
    split
    · exact moved.tree.parts
    · exact .nil

/-- The same spreads among the first arguments. -/
theorem spreads (moved : call.tree.Moved distance call'.tree) (number : Nat) :
    (call'.arguments.take number).any isSpread = (call.arguments.take number).any isSpread :=
  any_of_forall₂ (List.forall₂_take number moved.arguments) fun _ _ moved => moved.copied.isSpread

theorem argument? (moved : call.tree.Moved distance call'.tree) (index : Nat) :
    Option.Rel (Node.Moved distance) (call.argument? index) (call'.argument? index) := by
  rw [Node.argument?, Node.argument?, moved.spreads]
  split
  · exact .none
  · exact rel_getElem? moved.arguments index

end Tree.Moved
end RequestLint
