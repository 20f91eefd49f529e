import RequestLint.Proofs.Scope.Block
import RequestLint.Proofs.Syntax.Chain
import RequestLint.Proofs.Syntax.Enclosing
import Mathlib.Data.List.Chain

/-! Whether a declaration is followed by a read, told by the tree alone. The search
climbs to a block, goes through the statements after the declaration until one
assigns the name, and looks into each of them twice. What it answers depends only on
the block that the declaration stands in, on the order of the statements there, and
on the ways that lead down into them. -/
namespace RequestLint.Node

variable {node top inner statement block origin : Node} {name : String}
  {properties : List String}

/-- The nodes on a way down over named children. All are about the same `name`, and
what comes after a function would not run along with its surroundings. -/
structure Way (name : String) (top inner : Node) (path : List Node) : Prop where
  first : path.head? = some top
  last : path.getLast? = some inner
  steps : path.IsChain fun outer inner => inner ∈ outer.namedChildren
  sameName : ∀ node ∈ path, node.redeclares name = false
  sameRun : ∀ node ∈ path.dropLast, node.isFunctionLike = false

def Contains (name : String) (top inner : Node) : Prop := ∃ path, Way name top inner path

theorem Way.reached {path : List Node} (way : Way name top inner path) :
    Reached (sameScope name) top inner := by
  induction path generalizing top with
  | nil => cases way.first
  | cons node rest ih =>
    obtain ⟨first, last, steps, sameName, sameRun⟩ := way
    cases first
    have visible := sameName node List.mem_cons_self
    cases rest with
    | nil =>
      cases last
      exact .here visible
    | cons next rest =>
      obtain ⟨step, steps⟩ := List.isChain_cons_cons.1 steps
      have runs : node.isFunctionLike = false := sameRun node List.mem_cons_self
      refine .inside visible (Or.inr runs) step (ih ⟨rfl, ?_, steps, ?_, ?_⟩)
      · rwa [List.getLast?_cons_cons] at last
      · exact fun other member => sameName other (List.mem_cons_of_mem _ member)
      · exact fun other member => sameRun other (List.mem_cons_of_mem _ member)

theorem exists_way (reached : Reached (sameScope name) top inner) : Contains name top inner := by
  induction reached with
  | @here node visible =>
    refine ⟨[node], rfl, rfl, .singleton node, ?_, fun _ member => absurd member List.not_mem_nil⟩
    intro other member
    rw [List.mem_singleton.1 member]
    exact visible
  | @inside node child inner visible enters member _ ih =>
    obtain ⟨path, first, last, steps, sameName, sameRun⟩ := ih
    have runs : node.isFunctionLike = false := enters.resolve_left Bool.false_ne_true
    cases path with
    | nil => cases first
    | cons next rest =>
      cases first
      refine ⟨node :: child :: rest, rfl, ?_, List.isChain_cons_cons.2 ⟨member, steps⟩, ?_, ?_⟩
      · rwa [List.getLast?_cons_cons]
      · intro other member
        rcases List.mem_cons.1 member with rfl | member
        · exact visible
        · exact sameName other member
      · intro other member
        rcases List.mem_cons.1 member with rfl | member
        · exact runs
        · exact sameRun other member

/-- The search comes to what a statement contains, and to nothing else. -/
theorem reached_iff_contains : Reached (sameScope name) top inner ↔ Contains name top inner :=
  ⟨exists_way, fun ⟨_, way⟩ => way.reached⟩

/-- `name.property` with one of the properties. The object may be wrapped. -/
def IsReadOf (name : String) (properties : List String) (node : Node) : Prop :=
  node.kind = "member_expression" ∧ ∃ object ∈ node.child? "object",
    ∃ property ∈ node.child? "property", property.text ∈ properties ∧
      ∃ inner ∈ object.unwrap, inner.kind = "identifier" ∧ inner.text = name

def IsAssignmentTo (name : String) (node : Node) : Prop :=
  node.kind = "assignment_expression" ∧
    ∃ left ∈ node.child? "left", left.kind = "identifier" ∧ left.text = name

theorem readsProperty_iff :
    node.readsProperty name properties = true ↔ IsReadOf name properties node := by
  simp only [readsProperty, Option.any_eq_true, Prod.exists, member?_eq_some_iff, isName,
    Bool.and_eq_true, decide_eq_true_eq, IsReadOf, Option.mem_def]
  constructor
  · rintro ⟨object, _, ⟨access, held, property, found, rfl⟩, among, inner, opened, named⟩
    exact ⟨access, object, held, property, found, among, inner, opened, named⟩
  · rintro ⟨access, object, held, property, found, among, inner, opened, named⟩
    exact ⟨object, _, ⟨access, held, property, found, rfl⟩, among, inner, opened, named⟩

theorem assigns_iff : node.assigns name = true ↔ IsAssignmentTo name node := by
  simp only [assigns, isName, Bool.and_eq_true, decide_eq_true_eq, Option.any_eq_true,
    IsAssignmentTo, Option.mem_def]

theorem followingParts_of_split {earlier later : List Node}
    (children : block.children = earlier ++ statement :: later) :
    statement.followingParts =
      later.filter fun sibling => sibling.named && sibling.kind != "comment" := by
  have held : block.children[earlier.length]? = some statement := by
    rw [children, List.getElem?_append_right (Nat.le_refl _), Nat.sub_self]
    rfl
  rw [followingParts_of_getElem? held, children, ← List.singleton_append, ← List.append_assoc,
    List.drop_left' (by simp)]

/-- A property of `name` is read after `origin` exactly when `origin` stands in a block
that is not beyond a function, and among the siblings that come after its statement
there, comments and tokens apart, one contains a read of the property and none before
it contains an assignment to `name`. -/
theorem readAfter_iff_sibling_contains (origin : Node) (name : String)
    (properties : List String) :
    origin.readAfter name properties = true ↔
      ∃ block, StandsInBlock origin block ∧
      ∃ earlier statement later, block.children = earlier ++ statement :: later ∧
        origin ∈ statement.preorder ∧
      ∃ before sibling after,
        (later.filter fun sibling => sibling.named && sibling.kind != "comment") =
          before ++ sibling :: after ∧
        (∃ read, Contains name sibling read ∧ IsReadOf name properties read) ∧
        ∀ other ∈ before, ∀ assignment, Contains name other assignment →
          ¬ IsAssignmentTo name assignment := by
  simp only [← reached_iff_contains, ← readsProperty_iff, ← assigns_iff, Bool.not_eq_true]
  rw [readAfter_iff]
  constructor
  · rintro ⟨read, ⟨statement, before, sibling, after, found, siblings, kept, reached⟩, reads⟩
    obtain ⟨block, stands, child, holds⟩ := statement?_eq_some_iff.1 found
    obtain ⟨earlier, later, children⟩ := List.append_of_mem child
    rw [followingParts_of_split children] at siblings
    exact ⟨block, stands, earlier, statement, later, children, holds, before, sibling, after,
      siblings, ⟨read, reached, reads⟩, kept⟩
  · rintro ⟨block, stands, earlier, statement, later, children, holds, before, sibling, after,
      siblings, ⟨read, reached, reads⟩, kept⟩
    have child : statement ∈ block.children := by
      rw [children]
      exact List.mem_append_right _ List.mem_cons_self
    rw [← followingParts_of_split children] at siblings
    exact ⟨read, ⟨statement, before, sibling, after,
      statement?_eq_some_iff.2 ⟨block, stands, child, holds⟩, siblings, kept, reached⟩, reads⟩

end RequestLint.Node
