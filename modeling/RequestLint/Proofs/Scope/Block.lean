import RequestLint.Scope.Block
import RequestLint.Proofs.Syntax.Wrapper

/-! The search for reads that follow a declaration. It leaves out every node that
declares the name anew, so a read that it finds has no such node around it, up to
the block of the declaration; and whatever is around that block is around the
declaration as well. -/
namespace RequestLint.Node

variable {tree : Tree} {reach : Reach} {node inner outer part origin read : Node} {name : String}
  {properties : List String}

/-- Between a read and what it is compared with stands a node that has a `name` of
its own. -/
def Shadowed (name : String) (read origin : Node) : Prop :=
  ∃ block ∈ read.ancestors, block ∉ origin.ancestors ∧ block.redeclares name = true

instance (name : String) (read origin : Node) : Decidable (Shadowed name read origin) :=
  inferInstanceAs (Decidable (∃ block ∈ read.ancestors,
    block ∉ origin.ancestors ∧ block.redeclares name = true))

/-- A search that starts at one node comes to another. -/
inductive Reached (reach : Reach) : Node → Node → Prop
  | here {node : Node} : reach.skip node = false → Reached reach node node
  | inside {node child inner : Node} : reach.skip node = false →
      (reach.crossFunctions = true ∨ node.isFunctionLike = false) →
      child ∈ node.namedChildren → Reached reach child inner → Reached reach node inner

theorem holds_iff {test : Node → Bool} :
    node.holds reach test = true ↔ ∃ inner, Reached reach node inner ∧ test inner = true := by
  induction node using downward with
  | step node ih =>
    rw [holds_eq, Bool.and_eq_true, Bool.or_eq_true, Bool.and_eq_true, Bool.not_eq_true',
      Bool.or_eq_true, Bool.not_eq_true', List.any_eq_true]
    constructor
    · rintro ⟨visible, passes | ⟨enters, child, member, found⟩⟩
      · exact ⟨node, .here visible, passes⟩
      · obtain ⟨inner, reached, passes⟩ := (ih child (List.mem_filter.1 member).1).1 found
        exact ⟨inner, .inside visible enters member reached, passes⟩
    · rintro ⟨inner, reached, passes⟩
      cases reached with
      | here visible => exact ⟨visible, Or.inl passes⟩
      | @inside _ child _ visible enters member reached =>
        have found := (ih child (List.mem_filter.1 member).1).2 ⟨inner, reached, passes⟩
        exact ⟨visible, Or.inr ⟨enters, child, member, found⟩⟩

theorem Reached.mem_preorder (reached : Reached reach node inner) : inner ∈ node.preorder := by
  induction reached with
  | here => exact self_mem_preorder _
  | inside _ _ member _ ih =>
    rw [preorder_eq]
    exact List.mem_cons_of_mem _ (List.mem_flatMap.2 ⟨_, (List.mem_filter.1 member).1, ih⟩)

/-- Nothing on the way down is skipped. -/
theorem Reached.visible (reached : Reached reach node inner) (around : outer ∈ inner.ancestors) :
    reach.skip outer = false ∨ outer ∈ node.ancestors := by
  induction reached with
  | here => exact Or.inr around
  | inside visible _ member _ ih =>
    rcases ih around with below | higher
    · exact Or.inl below
    · rw [ancestors_of_parent? (mem_children_iff.1 (List.mem_filter.1 member).1)] at higher
      rcases List.mem_cons.1 higher with rfl | higher
      · exact Or.inl visible
      · exact Or.inr higher

/-- The node stands after a declaration of the name and is about the same name: in a
later statement of the block, no statement between assigns the name, and no node
around it has a name of its own. -/
def Follows (name : String) (origin inner : Node) : Prop :=
  ∃ statement before part after, origin.statement? = some statement ∧
    statement.followingParts = before ++ part :: after ∧
    (∀ earlier ∈ before, ∀ assigned, Reached (sameScope name) earlier assigned →
      assigned.assigns name = false) ∧
    Reached (sameScope name) part inner

theorem readBeforeAssigned_iff {statements : List Node} :
    readBeforeAssigned name properties statements = true ↔
      ∃ before part after, statements = before ++ part :: after ∧
        (∀ earlier ∈ before, ∀ assigned, Reached (sameScope name) earlier assigned →
          assigned.assigns name = false) ∧
        ∃ read, Reached (sameScope name) part read ∧
          read.readsProperty name properties = true := by
  induction statements with
  | nil =>
    constructor
    · intro found
      cases found
    · rintro ⟨before, part, after, split, _⟩
      cases before with
      | nil => cases split
      | cons _ _ => cases split
  | cons statement rest ih =>
    rw [readBeforeAssigned, Bool.or_eq_true, Bool.and_eq_true, holds_iff, ih, Bool.not_eq_true',
      ← Bool.not_eq_true, holds_iff]
    constructor
    · rintro (here | ⟨kept, before, part, after, rfl, free, there⟩)
      · exact ⟨[], statement, rest, rfl, fun _ earlier => absurd earlier List.not_mem_nil, here⟩
      · refine ⟨statement :: before, part, after, rfl, ?_, there⟩
        intro earlier member assigned reached
        rcases List.mem_cons.1 member with rfl | member
        · exact Bool.eq_false_iff.2 fun assigns => kept ⟨assigned, reached, assigns⟩
        · exact free earlier member assigned reached
    · rintro ⟨before, part, after, split, free, there⟩
      cases before with
      | nil =>
        cases split
        exact Or.inl there
      | cons first before =>
        cases split
        refine Or.inr ⟨?_, before, part, after, rfl, ?_, there⟩
        · rintro ⟨assigned, reached, assigns⟩
          rw [free statement List.mem_cons_self assigned reached] at assigns
          cases assigns
        · exact fun earlier member => free earlier (List.mem_cons_of_mem _ member)

theorem readAfter_iff : origin.readAfter name properties = true ↔
    ∃ read, Follows name origin read ∧ read.readsProperty name properties = true := by
  rw [readAfter, Option.any_eq_true]
  constructor
  · rintro ⟨statement, stands, found⟩
    obtain ⟨before, part, after, split, free, read, reached, reads⟩ :=
      readBeforeAssigned_iff.1 found
    exact ⟨read, ⟨statement, before, part, after, stands, split, free, reached⟩, reads⟩
  · rintro ⟨read, ⟨statement, before, part, after, stands, split, free, reached⟩, reads⟩
    exact ⟨statement, stands,
      readBeforeAssigned_iff.2 ⟨before, part, after, split, free, read, reached, reads⟩⟩

theorem sibling_of_followingParts (follows : part ∈ node.followingParts) :
    ∃ parent, node.parent? = some parent ∧ part ∈ parent.children := by
  obtain ⟨_, above, _⟩ := node
  cases above with
  | nil => cases follows
  | cons frame above =>
    exact ⟨_, rfl, List.mem_of_mem_drop (List.mem_filter.1 follows).1⟩

theorem mem_of_statement? (found : origin.statement? = some node) :
    node ∈ origin :: origin.ancestors := by
  obtain ⟨⟨inner, outer⟩, met, kept⟩ := Option.bind_eq_some_iff.1 found
  obtain ⟨_, same⟩ := Option.ite_none_right_eq_some.1 kept
  cases same
  exact (mem_lineage_iff.1 (List.mem_of_find?_eq_some met)).1

/-- What follows a declaration lies below a sibling of a node around it. -/
theorem Follows.sibling (follows : Follows name origin read) :
    ∃ statement parent part, statement ∈ origin :: origin.ancestors ∧
      statement.parent? = some parent ∧ part ∈ parent.children ∧
      Reached (sameScope name) part read := by
  obtain ⟨statement, before, part, after, stands, split, _, reached⟩ := follows
  have member : part ∈ statement.followingParts := by
    rw [split]
    exact List.mem_append_right _ List.mem_cons_self
  obtain ⟨parent, above, child⟩ := sibling_of_followingParts member
  exact ⟨statement, parent, part, mem_of_statement? stands, above, child, reached⟩

theorem Follows.listed (follows : Follows name origin read)
    (listed : origin ∈ (root tree).preorder) : read ∈ (root tree).preorder := by
  obtain ⟨statement, parent, part, climbed, above, child, reached⟩ := follows.sibling
  have statementListed : statement ∈ (root tree).preorder := by
    rcases List.mem_cons.1 climbed with rfl | climbed
    · exact listed
    · exact ancestor_mem_preorder_root listed climbed
  have partListed := mem_preorder_of_child (parent_mem_preorder_root statementListed above) child
  exact mem_preorder_trans reached.mem_preorder partListed

theorem Follows.not_shadowed (follows : Follows name origin read) :
    ¬ Shadowed name read origin := by
  obtain ⟨statement, parent, part, climbed, above, child, reached⟩ := follows.sibling
  have higher : ∀ outer ∈ part.ancestors, outer ∈ origin.ancestors := by
    intro outer around
    rw [ancestors_of_parent? (mem_children_iff.1 child), ← ancestors_of_parent? above] at around
    rcases List.mem_cons.1 climbed with rfl | climbed
    · exact around
    · exact mem_ancestors_trans climbed around
  rintro ⟨block, around, outside, redeclares⟩
  rcases reached.visible around with visible | above
  · cases visible.symm.trans redeclares
  · exact outside (higher block above)

end RequestLint.Node
