import RequestLint.Proofs.Scope.Block
import RequestLint.Proofs.Scope.Tracking

/-! Blocks that hide a name from what is bound outside of them. Scopes follow
functions, so a block has none of its own; but a declaration with `let` or `const`
writes its names into the scope around, and as long as the walk stays in the block
nothing that was bound outside comes back. Whatever a name is found to stand for
after such a declaration was therefore bound inside the block. -/
namespace RequestLint

namespace Node

variable {block declarator node inner outer : Node} {name : String}

/-- The first node is over before the second begins: they lie below two children of
one node, in this order. -/
def Precedes (first second : Node) : Prop :=
  ∃ parent ∈ first.ancestors, ∃ a ∈ parent.children, ∃ b ∈ parent.children,
    [a, b].Sublist parent.children ∧ first ∈ a.preorder ∧ second ∈ b.preorder

instance (first second : Node) : Decidable (first.Precedes second) :=
  inferInstanceAs (Decidable (∃ parent ∈ first.ancestors, ∃ a ∈ parent.children,
    ∃ b ∈ parent.children,
      [a, b].Sublist parent.children ∧ first ∈ a.preorder ∧ second ∈ b.preorder))

/-- Where a block or a loop may declare names of its own with `let` or `const`. -/
def lexicalStatements (block : Node) : List Node :=
  if block.isBlock then block.namedChildren
  else if block.kind = "for_statement" then (block.child? "initializer").toList
  else []

/-- The declarators of `let` and `const` that stand directly in a block or loop. -/
def lexicalDeclarators (block : Node) : List Node :=
  (block.lexicalStatements.filter (·.kind = "lexical_declaration")).flatMap fun statement =>
    statement.namedChildren.filter (·.kind = "variable_declarator")

theorem redeclares_of_lexicalDeclarators (direct : declarator ∈ block.lexicalDeclarators)
    (named : name ∈ declarator.ownNames) : block.redeclares name = true := by
  obtain ⟨statement, member, direct⟩ := List.mem_flatMap.1 direct
  obtain ⟨stands, lexical⟩ := List.mem_filter.1 member
  have declared : name ∈ statement.declaredNames := by
    rw [declaredNames, if_pos (of_decide_eq_true lexical)]
    exact List.mem_flatMap.2 ⟨declarator, direct, named⟩
  rw [lexicalStatements] at stands
  rw [redeclares]
  split at stands
  next opens =>
    rw [if_pos opens]
    exact List.any_eq_true.2 ⟨statement, stands, decide_eq_true declared⟩
  next closed =>
    split at stands
    next loop =>
      rw [if_neg closed, if_neg (by simp [loop]), if_pos loop, Option.mem_toList.1 stands]
      exact decide_eq_true declared
    next => cases stands

/-- Between a read and what it is compared with stands a block that has declared the
name, with `let` or `const`, before the read. -/
def ShadowedBefore (name : String) (read origin : Node) : Prop :=
  ∃ block ∈ read.ancestors, block ∉ origin.ancestors ∧
    ∃ declarator ∈ block.lexicalDeclarators, name ∈ declarator.ownNames ∧ declarator.Precedes read

instance (name : String) (read origin : Node) : Decidable (ShadowedBefore name read origin) :=
  inferInstanceAs (Decidable (∃ block ∈ read.ancestors, block ∉ origin.ancestors ∧
    ∃ declarator ∈ block.lexicalDeclarators,
      name ∈ declarator.ownNames ∧ declarator.Precedes read))

theorem ShadowedBefore.shadowed {read origin : Node} (before : ShadowedBefore name read origin) :
    Shadowed name read origin := by
  obtain ⟨block, around, outside, declarator, direct, named, _⟩ := before
  exact ⟨block, around, outside, redeclares_of_lexicalDeclarators direct named⟩

/-- A direct declarator stands in a declaration of the block. -/
theorem parents_of_lexicalDeclarators (direct : declarator ∈ block.lexicalDeclarators) :
    declarator.kind = "variable_declarator" ∧ ∃ statement, statement.kind = "lexical_declaration" ∧
      declarator.parent? = some statement ∧ statement.parent? = some block := by
  obtain ⟨statement, member, direct⟩ := List.mem_flatMap.1 direct
  obtain ⟨stands, lexical⟩ := List.mem_filter.1 member
  obtain ⟨child, kind⟩ := List.mem_filter.1 direct
  refine ⟨of_decide_eq_true kind, statement, of_decide_eq_true lexical,
    mem_children_iff.1 (List.mem_filter.1 child).1, mem_children_iff.1 ?_⟩
  rw [lexicalStatements] at stands
  split at stands
  · exact (List.mem_filter.1 stands).1
  · split at stands
    · exact mem_children_of_child? (Option.mem_toList.1 stands)
    · cases stands

/-- No node lies below two siblings. -/
theorem not_mem_of_siblings {first second : Node}
    (siblings : [first, second].Sublist node.children) (below : inner ∈ second.preorder) :
    first ∉ inner :: inner.ancestors := by
  intro encloses
  have one := depth_of_parent? (mem_children_iff.1 (siblings.subset List.mem_cons_self))
  have other := depth_of_parent? (mem_children_iff.1
    (siblings.subset (List.mem_cons_of_mem _ List.mem_cons_self)))
  have same := eq_of_depth encloses (mem_preorder_iff.1 below) (by omega)
  have distinct := (nodup_children node).sublist siblings
  rw [same] at distinct
  exact (List.nodup_cons.1 distinct).1 List.mem_cons_self

end Node

namespace Scopes

variable {scopes : Scopes} {block function : Node} {owners : List Node} {name other : String}
  {bound : Option Binding}

/-- If a scope has a binding of a name, it was made inside the block. -/
def MadeInside (block : Node) (known : Option (Option Binding)) : Prop :=
  ∀ binding, known = some (some binding) → block ∈ binding.origin.ancestors

/-- Some scope knows the name; further in there are only those of `owners`. Up to
that scope the name stands for nothing that was bound outside the block. -/
def Hides (name : String) (block : Node) (owners : List Node) (scopes : Scopes) : Prop :=
  ∃ base inner home rest, scopes.owners = owners ++ base ∧
    scopes.view name = inner ++ some home :: rest ∧ inner.length = owners.length ∧
    ∀ known ∈ inner ++ [some home], MadeInside block known

theorem Hides.lookup (hides : Hides name block owners scopes) {binding : Binding}
    (found : scopes.lookup name = some binding) : block ∈ binding.origin.ancestors := by
  obtain ⟨_, inner, home, rest, _, view, _, inside⟩ := hides
  rw [lookup_eq_view, view, List.findSome?_append] at found
  cases further : inner.findSome? id with
  | none =>
    rw [further] at found
    refine inside (some home) (List.mem_append_right _ List.mem_cons_self) binding ?_
    exact congrArg some found
  | some known =>
    rw [further] at found
    obtain ⟨known', member, same⟩ := List.exists_of_findSome?_eq_some further
    refine inside known' (List.mem_append_left _ member) binding ?_
    exact same.trans (congrArg some found)

theorem hides_of_set (inside : MadeInside block (some bound)) :
    Hides name block [] (scopes.set name bound) := by
  refine ⟨scopes.owners, [], bound, (scopes.view name).tail, owners_set, ?_, rfl, ?_⟩
  · rw [view_set, if_pos rfl]
    rfl
  · intro known member
    cases List.mem_singleton.1 member
    exact inside

theorem Hides.set (hides : Hides name block owners scopes)
    (inside : MadeInside block (some bound)) :
    Hides name block owners (scopes.set other bound) := by
  obtain ⟨base, inner, home, rest, owned, view, length, made⟩ := hides
  by_cases same : other = name
  · subst same
    cases inner with
    | nil =>
      refine ⟨base, [], bound, rest, owners_set.trans owned, ?_, length, ?_⟩
      · rw [view_set, if_pos rfl, view]
        rfl
      · intro known member
        cases List.mem_singleton.1 member
        exact inside
    | cons first inner =>
      refine ⟨base, some bound :: inner, home, rest, owners_set.trans owned, ?_, length, ?_⟩
      · rw [view_set, if_pos rfl, view]
        rfl
      · intro known member
        rcases List.mem_cons.1 member with rfl | member
        · exact inside
        · exact made known (List.mem_cons_of_mem _ member)
  · refine ⟨base, inner, home, rest, owners_set.trans owned, ?_, length, made⟩
    rw [view_set, if_neg same, view]

/-- An assignment writes no further out than where the name is known. -/
theorem written_split (inner : List (Option (Option Binding))) (home : Option Binding)
    (rest : List (Option (Option Binding))) :
    ∃ inner' home', written bound (inner ++ some home :: rest) = inner' ++ some home' :: rest ∧
      inner'.length = inner.length ∧
      ∀ known ∈ inner' ++ [some home'], known ∈ inner ++ [some home] ∨ known = some bound := by
  induction inner with
  | nil =>
    refine ⟨[], bound, ?_, rfl, fun known member => Or.inr (List.mem_singleton.1 member)⟩
    cases rest with
    | nil => rfl
    | cons next rest => rfl
  | cons first inner ih =>
    rw [List.cons_append, written_cons (by simp)]
    cases first with
    | none =>
      obtain ⟨inner', home', split, length, among⟩ := ih
      refine ⟨none :: inner', home', congrArg (none :: ·) split, congrArg (· + 1) length, ?_⟩
      intro known member
      rcases List.mem_cons.1 member with rfl | member
      · exact Or.inl List.mem_cons_self
      · exact (among known member).imp_left (List.mem_cons_of_mem _)
    | some old =>
      refine ⟨some bound :: inner, home, rfl, rfl, ?_⟩
      intro known member
      rcases List.mem_cons.1 member with rfl | member
      · exact Or.inr rfl
      · exact Or.inl (List.mem_cons_of_mem _ member)

theorem Hides.assign (hides : Hides name block owners scopes)
    (inside : MadeInside block (some bound)) :
    Hides name block owners (scopes.assign other bound) := by
  obtain ⟨base, inner, home, rest, owned, view, length, made⟩ := hides
  by_cases same : other = name
  · subst same
    obtain ⟨inner', home', split, length', among⟩ := @written_split bound inner home rest
    refine ⟨base, inner', home', rest, owners_assign.trans owned, ?_, length'.trans length, ?_⟩
    · rw [view_assign, if_pos rfl, view, split]
    · intro known member
      rcases among known member with old | rfl
      · exact made known old
      · exact inside
  · refine ⟨base, inner, home, rest, owners_assign.trans owned, ?_, length, made⟩
    rw [view_assign, if_neg same, view]

theorem madeInside_none : MadeInside block (some none) := fun _ same => nomatch same

theorem Hides.declareAll (hides : Hides name block owners scopes) (names : List String) :
    Hides name block owners (scopes.declareAll names) := by
  induction names generalizing scopes with
  | nil => exact hides
  | cons first names ih => exact ih (hides.set madeInside_none)

theorem hides_of_declareAll {names : List String} (declared : name ∈ names) :
    Hides name block [] (scopes.declareAll names) := by
  induction names generalizing scopes with
  | nil => cases declared
  | cons first names ih =>
    rcases List.mem_cons.1 declared with rfl | declared
    · exact (hides_of_set madeInside_none).declareAll names
    · exact ih declared

theorem Hides.enter (hides : Hides name block owners scopes) :
    Hides name block (function :: owners) (scopes.enter function) := by
  obtain ⟨base, inner, home, rest, owned, view, length, made⟩ := hides
  refine ⟨base, none :: inner, home, rest, congrArg (function :: ·) owned,
    congrArg (none :: ·) view, congrArg (· + 1) length, ?_⟩
  intro known member
  rcases List.mem_cons.1 member with rfl | member
  · exact fun _ same => nomatch same
  · exact made known member

theorem Hides.leave (hides : Hides name block (function :: owners) scopes) :
    Hides name block owners (scopes.leave function) := by
  obtain ⟨base, inner, home, rest, owned, view, length, made⟩ := hides
  obtain ⟨owned', view'⟩ := @leave_of_owners scopes name function (owners ++ base) owned
  cases inner with
  | nil => cases length
  | cons first inner =>
    refine ⟨base, inner, home, rest, owned', ?_, Nat.succ.inj length, ?_⟩
    · rw [view', view]
      rfl
    · exact fun known member => made known (List.mem_cons_of_mem _ member)

end Scopes

namespace Tracker
open Scopes Node

variable {tracker : Tracker} {block declarator node read : Node} {owners : List Node}
  {name : String}

theorem madeInside_of_ancestors {binding : Binding} (inside : block ∈ binding.origin.ancestors) :
    MadeInside block (some (some binding)) := by
  rintro _ ⟨⟩
  exact inside

/-- The scopes that are open further in once a node was entered. -/
def inward (owners : List Node) (node : Node) : List Node :=
  if node.isFunctionLike then node :: owners else owners

theorem hides_step_enter (hides : Hides name block owners tracker.scopes)
    (inside : block ∈ node.ancestors) :
    Hides name block (inward owners node) (tracker.step (.enter node)).scopes := by
  rw [step, inward]
  split
  · have opened : Hides name block (node :: owners) (tracker.opened node).scopes :=
      hides.enter.declareAll _
    rcases enterFunction_cases tracker node with same | ⟨first, member, _, _, _, same⟩
    · rw [same]
      exact opened
    · rw [same]
      have within := mem_ancestors_trans (mem_ancestors_of_parameters member) inside
      exact opened.set (madeInside_of_ancestors within)
  · exact hides

theorem hides_step_leave (hides : Hides name block (inward owners node) tracker.scopes)
    (inside : block ∈ node.ancestors) :
    Hides name block owners (tracker.step (.leave node)).scopes := by
  rw [step]
  rw [inward] at hides
  split at hides
  next function =>
    rw [if_pos function]
    exact hides.leave
  next plain =>
    rw [if_neg plain]
    split
    · rcases leaveDeclarator_cases tracker node with same | ⟨_, _, _, _, _, _, same⟩
      · rw [same]
        exact hides.declareAll _
      · rw [same]
        exact hides.set (madeInside_of_ancestors inside)
    · split
      · rcases leaveAssignment_cases tracker node with same | ⟨_, same⟩ | ⟨_, _, _, _, _, same⟩
        · rwa [same]
        · rw [same]
          exact hides.assign madeInside_none
        · rw [same]
          exact hides.assign (madeInside_of_ancestors inside)
      · exact hides

/-- A declarator that ends hides its names, whatever they stood for before. -/
theorem hides_of_declarator (kind : declarator.kind = "variable_declarator")
    (named : name ∈ declarator.ownNames) (inside : block ∈ declarator.ancestors) :
    Hides name block [] (tracker.step (.leave declarator)).scopes := by
  have plain : ¬ declarator.isFunctionLike = true := by
    rw [isFunctionLike, kind]
    decide
  rw [step, if_neg plain, if_pos kind]
  rcases leaveDeclarator_cases tracker declarator with same | ⟨_, _, _, names, _, _, same⟩
  · rw [same]
    exact hides_of_declareAll named
  · rw [names, List.mem_singleton] at named
    rw [same, named]
    exact hides_of_set (madeInside_of_ancestors inside)

theorem hides_along {nodes : List Node}
    (each : ∀ node ∈ nodes, ∀ tracker : Tracker, Hides name block owners tracker.scopes →
      Hides name block owners (node.visits.foldl step tracker).scopes)
    (hides : Hides name block owners tracker.scopes) :
    Hides name block owners ((nodes.flatMap visits).foldl step tracker).scopes := by
  induction nodes generalizing tracker with
  | nil => exact hides
  | cons first rest ih =>
    rw [List.flatMap_cons, List.foldl_append]
    exact ih (fun node member => each node (List.mem_cons_of_mem _ member))
      (each first List.mem_cons_self tracker hides)

theorem hides_foldl_visits (inside : block ∈ node.ancestors)
    (hides : Hides name block owners tracker.scopes) :
    Hides name block owners (node.visits.foldl step tracker).scopes := by
  induction node using downward generalizing tracker owners with
  | step node ih =>
    rw [visits_eq, List.cons_append, List.foldl_cons, List.foldl_append]
    refine hides_step_leave (hides_along ?_ (hides_step_enter hides inside)) inside
    intro inner child tracker kept
    exact ih inner child (mem_ancestors_of_child (List.mem_cons_of_mem _ inside) child) kept

theorem hides_foldl_children {nodes : List Node} (inside : block ∈ node :: node.ancestors)
    (children : nodes ⊆ node.children) (hides : Hides name block owners tracker.scopes) :
    Hides name block owners ((nodes.flatMap visits).foldl step tracker).scopes :=
  hides_along (fun _ member _ kept =>
    hides_foldl_visits (mem_ancestors_of_child inside (children member)) kept) hides

/-- From a node of the block down to another below it, further functions may have
been entered, but the name stays hidden. -/
theorem hides_prior_below {target : String} (inside : block ∈ node.ancestors)
    (hides : Hides name block [] (node.prior.foldl step { target := target }).scopes)
    (below : read ∈ node.preorder) :
    ∃ owners, Hides name block owners (read.prior.foldl step { target := target }).scopes := by
  induction read using upward with
  | root read top =>
    rw [mem_preorder_iff, ancestors_of_root top, List.mem_singleton] at below
    exact ⟨[], below ▸ hides⟩
  | step read parent found ih =>
    rw [mem_preorder_iff, ancestors_of_parent? found, List.mem_cons] at below
    rcases below with rfl | below
    · exact ⟨[], hides⟩
    · obtain ⟨owners, hides⟩ := ih (mem_preorder_iff.2 below)
      obtain ⟨earlier, later, children⟩ := List.append_of_mem (mem_children_iff.2 found)
      have within : block ∈ parent.ancestors := by
        rcases List.mem_cons.1 below with rfl | higher
        · exact inside
        · exact mem_ancestors_trans higher inside
      refine ⟨inward owners parent, ?_⟩
      rw [prior_of_split children, List.foldl_append, List.foldl_cons]
      refine hides_foldl_children (List.mem_cons_of_mem _ within) ?_ (hides_step_enter hides within)
      rw [children]
      exact List.subset_append_left _ _

/-- What is hidden once a child was walked through is hidden from its later
siblings. -/
theorem hides_prior_sibling {target : String} {first second : Node}
    (siblings : [first, second].Sublist node.children) (inside : block ∈ node :: node.ancestors)
    (after : ∀ tracker : Tracker, Hides name block [] (first.visits.foldl step tracker).scopes) :
    Hides name block [] (second.prior.foldl step { target := target }).scopes := by
  obtain ⟨sooner, after', children, one, other⟩ := List.cons_sublist_iff.1 siblings
  obtain ⟨earlier, between, rfl⟩ := List.append_of_mem one
  obtain ⟨between', later, rfl⟩ := List.append_of_mem (List.singleton_sublist.1 other)
  have split : node.children = (earlier ++ first :: (between ++ between')) ++ second :: later := by
    rw [children]
    simp only [List.append_assoc, List.cons_append]
  rw [prior_of_split split, List.foldl_append, List.foldl_cons, List.flatMap_append,
    List.flatMap_cons, List.foldl_append, List.foldl_append]
  refine hides_foldl_children inside ?_ (after _)
  intro sibling member
  rw [split]
  exact List.mem_append_left _ (List.mem_append_right _ (List.mem_cons_of_mem _ member))

theorem hides_foldl_declarator (kind : declarator.kind = "variable_declarator")
    (named : name ∈ declarator.ownNames) (inside : block ∈ declarator.ancestors)
    (tracker : Tracker) :
    Hides name block [] (declarator.visits.foldl step tracker).scopes := by
  rw [visits_eq, List.foldl_append]
  exact hides_of_declarator kind named inside

theorem hides_foldl_statement {statement : Node} (plain : statement.kind = "lexical_declaration")
    (found : declarator.parent? = some statement) (kind : declarator.kind = "variable_declarator")
    (named : name ∈ declarator.ownNames) (inside : block ∈ statement.ancestors)
    (tracker : Tracker) :
    Hides name block [] (statement.visits.foldl step tracker).scopes := by
  have child := mem_children_iff.2 found
  have around : block ∈ statement :: statement.ancestors := List.mem_cons_of_mem _ inside
  have within := mem_ancestors_of_child around child
  have level : inward [] statement = [] := by
    rw [inward, isFunctionLike, plain]
    rfl
  obtain ⟨earlier, later, children⟩ := List.append_of_mem child
  rw [visits_eq, children, List.cons_append, List.foldl_cons, List.foldl_append,
    List.flatMap_append, List.flatMap_cons, List.foldl_append, List.foldl_append]
  refine hides_step_leave ?_ inside
  rw [level]
  refine hides_foldl_children around ?_ (hides_foldl_declarator kind named within _)
  intro sibling member
  rw [children]
  exact List.mem_append_right _ (List.mem_cons_of_mem _ member)

/-- A declaration that stands directly in a block hides its names from whatever
comes after it in the block. -/
theorem hides_of_precedes {target : String} (direct : declarator ∈ block.lexicalDeclarators)
    (named : name ∈ declarator.ownNames) (inside : block ∈ read.ancestors)
    (precedes : declarator.Precedes read) :
    ∃ owners, Hides name block owners (read.prior.foldl step { target := target }).scopes := by
  obtain ⟨kind, statement, plain, found, above⟩ := parents_of_lexicalDeclarators direct
  obtain ⟨parent, _, first, one, second, other, siblings, before, after⟩ := precedes
  have below := mem_ancestors_of_parent? above
  rw [mem_preorder_iff, ancestors_of_parent? found, ancestors_of_parent? above] at before
  rcases List.mem_cons.1 before with rfl | before
  · cases found.symm.trans (mem_children_iff.1 one)
    have within := List.mem_cons_of_mem statement below
    exact hides_prior_below (mem_ancestors_of_child within other)
      (hides_prior_sibling siblings within
        (hides_foldl_declarator kind named (mem_ancestors_of_child within one))) after
  rcases List.mem_cons.1 before with rfl | around
  · cases above.symm.trans (mem_children_iff.1 one)
    have within : block ∈ block :: block.ancestors := List.mem_cons_self
    exact hides_prior_below (mem_ancestors_of_child within other)
      (hides_prior_sibling siblings within
        (hides_foldl_statement plain found kind named below)) after
  · have encloses : first ∈ read :: read.ancestors := by
      rcases List.mem_cons.1 around with rfl | higher
      · exact List.mem_cons_of_mem _ inside
      · exact List.mem_cons_of_mem _ (mem_ancestors_trans inside higher)
    exact absurd encloses (not_mem_of_siblings siblings after)

/-- What a name is found to stand for, where a read of it is entered, was not bound
outside of a block that has declared the name before. -/
theorem not_shadowedBefore_of_lookup {target : String} {tree : Tree} {scopes : Scopes}
    {binding : Binding} (seen : .entered read scopes ∈ (walk target (.root tree)).history)
    (found : scopes.lookup name = some binding) : ¬ ShadowedBefore name read binding.origin := by
  rintro ⟨block, inside, outside, declarator, direct, named, precedes⟩
  obtain ⟨owners, hides⟩ := @hides_of_precedes block declarator read name target direct named
    inside precedes
  rw [(observed seen).2] at found
  exact outside ((hides_step_enter hides inside).lookup found)

end Tracker
end RequestLint
