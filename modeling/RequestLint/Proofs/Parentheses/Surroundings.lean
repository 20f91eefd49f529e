import RequestLint.Scope.Block
import RequestLint.Proofs.Syntax.Enclosing
import RequestLint.Proofs.Parentheses.Expression

/-! What is found going up from a node. The parentheses are a wrapper, and neither a
function nor a block nor a `try`, so whoever climbs from the expression passes them
and goes on where it went on before. Chains, surrounding statements and the reads
that follow a declaration are the same, up to where they stand. -/
namespace RequestLint
open Node

namespace Edit

theorem near_of_parent? {first second outer : Node} (one : first.parent? = some outer)
    (other : second.parent? = some outer) : Near first second := by
  rw [Near, one, other]

theorem IsParentheses.isWrapper {place : Node} (parentheses : IsParentheses place) :
    place.isWrapper = true := by
  simp [Node.isWrapper, wrapperKinds, parentheses.kind]

/-- Around what became of the expression are its parentheses. -/
theorem Copied.parentheses {edit : Edit} {copy : Node} (copied : edit.Copied edit.expr copy) :
    ∃ place, edit.Stands edit.expr place ∧ copy.parent? = some place := by
  obtain ⟨place, stands, first⟩ := copied
  rw [opened?_expr] at first
  exact ⟨place, stands, mem_children_iff.1 (List.mem_filter.1 (List.mem_of_head? first)).1⟩

namespace Parenthesises

variable {edit : Edit} (wraps : edit.Parenthesises) {node node' copy place : Node}
include wraps

/-- Induction along the nodes around a node and around what became of it. On the way
up from the expression there is one step more. -/
theorem upward {motive : Node → Node → Prop}
    (root : ∀ node place, edit.Stands node place → node.parent? = none → place.parent? = none →
      motive node place)
    (step : ∀ node place outer outer', edit.Stands node place → node.parent? = some outer →
      place.parent? = some outer' → edit.Copied outer outer' → motive outer outer' →
      motive node place)
    (held : ∀ place copy, IsParentheses place → copy.parent? = some place →
      motive edit.expr place → motive edit.expr copy)
    (copied : edit.Copied node copy) : motive node copy := by
  have opened {node copy : Node} (copied : edit.Copied node copy)
      (stood : ∀ place, edit.Stands node place → motive node place) : motive node copy := by
    by_cases same : node = edit.expr
    · subst same
      obtain ⟨place, stands, above⟩ := copied.parentheses
      exact held place copy (wraps.parentheses place stands) above (stood place stands)
    · exact stood copy (copied.stands same)
  induction node using Node.upward generalizing copy with
  | root node top =>
    refine opened copied fun place stands => ?_
    have parents := stands.parent?
    rw [top] at parents
    exact root node place stands top (eq_none_of_rel_none parents)
  | step node outer found ih =>
    refine opened copied fun place stands => ?_
    have parents := stands.parent?
    rw [found] at parents
    obtain ⟨outer', found', around⟩ := exists_of_rel_some parents
    exact step node place outer outer' stands found found' around (ih around)

theorem context? (copied : edit.Copied node copy) :
    Option.Rel edit.Copied node.context? copy.context? := by
  refine wraps.upward (motive := fun node copy =>
    Option.Rel edit.Copied node.context? copy.context?) ?_ ?_ ?_ copied
  · intro node place _ top top'
    rw [context?_of_root top, context?_of_root top']
    exact .none
  · intro node place outer outer' _ found found' around ih
    rw [context?_of_parent? found, context?_of_parent? found', wraps.isWrapper around]
    split
    · exact ih
    · exact .some around
  · intro place copy parentheses above ih
    rw [context?_of_parent? above, if_pos parentheses.isWrapper]
    exact ih

theorem outermost (copied : edit.Copied node copy) :
    edit.Stands node.outermost copy.outermost := by
  refine wraps.upward (motive := fun node copy => edit.Stands node.outermost copy.outermost)
    ?_ ?_ ?_ copied
  · intro node place stands top top'
    rw [Node.outermost, Node.outermost, ancestors_of_root top, ancestors_of_root top']
    exact stands
  · intro node place outer outer' stands found found' around ih
    rw [outermost_of_parent? found, outermost_of_parent? found', wraps.isWrapper around]
    split
    · exact ih
    · exact stands
  · intro place copy parentheses above ih
    rw [outermost_of_parent? above, if_pos parentheses.isWrapper]
    exact ih

theorem isFunctionLike (copied : edit.Copied node copy) :
    copy.isFunctionLike = node.isFunctionLike := by
  rw [Node.isFunctionLike, Node.isFunctionLike, wraps.kind_of_copied copied]

theorem isBlock (copied : edit.Copied node copy) : copy.isBlock = node.isBlock := by
  rw [Node.isBlock, Node.isBlock, wraps.kind_of_copied copied]

theorem isProtected (copied : edit.Copied node copy) (handlers : Bool) :
    copy.isProtected handlers = node.isProtected handlers := by
  refine wraps.upward (motive := fun node copy =>
    copy.isProtected handlers = node.isProtected handlers) ?_ ?_ ?_ copied
  · intro node place _ top top'
    rw [Node.isProtected, Node.isProtected, lineage_of_root top, lineage_of_root top']
  · intro node place outer outer' stands found found' around ih
    rw [isProtected_of_parent? found, isProtected_of_parent? found', ih,
      wraps.kind_of_copied around]
    by_cases kind : outer.kind = "try_statement"
    · have other : node ≠ edit.expr := by
        rintro rfl
        exact wraps.kind_of_parent found (by decide) kind
      have listed := (List.forall₂_and_left outer.children outer'.children).2
        ⟨fun _ member => member, wraps.children around⟩
      have body : (outer'.child? "body").any (·.sameSite place) =
          (outer.child? "body").any (·.sameSite node) := by
        refine any_of_rel (rel_find? listed fun _ _ both => by rw [wraps.field _ _ both.2]) ?_
        rintro body body' ⟨member, stood⟩
        exact wraps.near _ _ _ _ stood stands (near_of_parent? (mem_children_iff.1 member) found)
      rw [body, wraps.kind_of_stands stands other]
    · simp [kind]
  · intro place copy parentheses above ih
    rw [isProtected_of_parent? above, ih, parentheses.kind]
    rfl

theorem statement? (copied : edit.Copied node copy) :
    Option.Rel edit.Stands node.statement? copy.statement? := by
  refine wraps.upward (motive := fun node copy =>
    Option.Rel edit.Stands node.statement? copy.statement?) ?_ ?_ ?_ copied
  · intro node place _ top top'
    rw [Node.statement?, Node.statement?, lineage_of_root top, lineage_of_root top']
    exact .none
  · intro node place outer outer' stands found found' around ih
    rw [statement?_of_parent? found, statement?_of_parent? found', wraps.isBlock around,
      wraps.isFunctionLike around]
    split
    · exact .some stands
    · split
      · exact .none
      · exact ih
  · intro place copy parentheses above ih
    have plain : place.isBlock = false ∧ place.isFunctionLike = false := by
      simp [Node.isBlock, Node.isFunctionLike, parentheses.kind, blockKinds, functionKinds]
    rw [statement?_of_parent? above, plain.1, plain.2]
    exact ih

theorem followingParts (stands : edit.Stands node place) :
    List.Forall₂ edit.Stands node.followingParts place.followingParts := by
  cases stands with
  | root => exact .nil
  | @inside outer place outer' _ _ index around opened held held' =>
    rw [followingParts_of_getElem? held, followingParts_of_getElem? held']
    have later := List.forall₂_drop (index + 1) (wraps.children ⟨place, around, opened⟩)
    refine forall₂_filter later fun inner inner' stands => ?_
    have comment : inner'.kind = "comment" ↔ inner.kind = "comment" :=
      wraps.kind_iff stands (by decide)
    simp only [wraps.named_of_stands stands, bne, beq_eq_decide, comment]

theorem declaredNames (copied : edit.Copied node copy) :
    copy.declaredNames = node.declaredNames := by
  rw [Node.declaredNames, Node.declaredNames, wraps.kind_of_copied copied]
  split
  next lexical =>
    have declarators := forall₂_filter (wraps.closedNamedChildren copied lexical (by decide))
      (p := (·.kind = "variable_declarator")) (q := (·.kind = "variable_declarator"))
      fun _ _ copied => by rw [wraps.kind_of_copied copied]
    refine flatMap_of_forall₂ declarators fun declarator member declarator' copied => ?_
    have kind : declarator.kind = "variable_declarator" :=
      of_decide_eq_true (List.mem_filter.1 member).2
    have name : Option.Rel edit.Copied (declarator.child? "name") (declarator'.child? "name") :=
      wraps.closedChild? copied kind (by decide)
    rw [map_of_rel name fun _ _ _ copied => wraps.boundNames copied]
  next =>
    split
    next block =>
      have each : ∀ kind ∈ blockDeclarationKinds, mayHold kind "name" = false := by decide
      have name : Option.Rel edit.Copied (node.child? "name") (copy.child? "name") :=
        wraps.closedChild? copied rfl (each _ block)
      rw [map_of_rel name]
      intro inner found inner' copied
      have parent := parent?_of_child? found
      have filled : inner.field = "name" := by simpa using List.find?_some found
      exact (wraps.akin _ _ copied).text (by simp [isSpelled, parent, filled, block])
    next => rfl

theorem redeclares (copied : edit.Copied node copy) (name : String) :
    copy.redeclares name = node.redeclares name := by
  rw [Node.redeclares, Node.redeclares, wraps.isBlock copied, wraps.kind_of_copied copied]
  split
  next block =>
    have each : ∀ kind ∈ blockKinds, isClosed kind = true := by decide
    have closed := each _ (of_decide_eq_true block)
    exact any_of_forall₂ (wraps.closedNamedChildren copied rfl closed) fun _ _ copied => by
      rw [wraps.declaredNames copied]
  · split
    next catches =>
      exact any_of_rel (wraps.closedChild? copied catches (by decide)) fun _ _ copied => by
        rw [wraps.boundNames copied]
    · split
      next loop =>
        exact any_of_rel (wraps.closedChild? copied loop (by decide)) fun _ _ copied => by
          rw [wraps.declaredNames copied]
      · split
        next loop =>
          have declares : (copy.child? "kind").any (·.kind ≠ "var") =
              (node.child? "kind").any (·.kind ≠ "var") :=
            any_of_rel (wraps.closedChild? copied loop (by decide)) fun _ _ copied => by
              rw [wraps.kind_of_copied copied]
          have names : (copy.child? "left").any (fun left => name ∈ left.boundNames) =
              (node.child? "left").any fun left => name ∈ left.boundNames :=
            any_of_rel (wraps.closedChild? copied loop (by decide)) fun _ _ copied => by
              rw [wraps.boundNames copied]
          rw [declares, names]
        · rfl

theorem readsProperty (copied : edit.Copied node copy) (name : String) (properties : List String) :
    copy.readsProperty name properties = node.readsProperty name properties := by
  refine any_of_rel (wraps.member? copied) ?_
  rintro ⟨object, property⟩ ⟨object', property'⟩ accessed
  have same : property' = property := accessed.property
  simp only [same]
  rw [any_of_rel (wraps.reads_of_stands accessed.object) fun _ _ copied => wraps.isName copied name]

theorem assigns (copied : edit.Copied node copy) (name : String) :
    copy.assigns name = node.assigns name := by
  rw [Node.assigns, Node.assigns, wraps.kind_of_copied copied]
  by_cases kind : node.kind = "assignment_expression"
  · have left : Option.Rel edit.Copied (node.child? "left") (copy.child? "left") :=
      wraps.closedChild? copied kind (by decide)
    rw [any_of_rel left fun _ _ copied => wraps.isName copied name]
  · simp [kind]

theorem holds_sameScope {test : Node → Bool} (name : String)
    (tests : ∀ node copy, edit.Copied node copy → test copy = test node)
    (passes : ∀ place, place.kind = "parenthesized_expression" → test place = false)
    (stands : edit.Stands node place) :
    place.holds (sameScope name) test = node.holds (sameScope name) test := by
  refine wraps.holds_of_stands (fun _ _ copied => wraps.redeclares copied name) tests ?_ stands
  intro place kind
  refine ⟨?_, passes place kind⟩
  simp [sameScope, Node.redeclares, Node.isBlock, blockKinds, kind]

theorem readBeforeAssigned {statements statements' : List Node} (name : String)
    (properties : List String) (both : List.Forall₂ edit.Stands statements statements') :
    Node.readBeforeAssigned name properties statements' =
      Node.readBeforeAssigned name properties statements := by
  induction both with
  | nil => rfl
  | cons stands _ ih =>
    have read := wraps.holds_sameScope name
      (fun _ _ copied => wraps.readsProperty copied name properties)
      (fun place kind => by simp [Node.readsProperty, Node.member?, kind]) stands
    have assigned := wraps.holds_sameScope name (fun _ _ copied => wraps.assigns copied name)
      (fun place kind => by simp [Node.assigns, kind]) stands
    rw [Node.readBeforeAssigned, Node.readBeforeAssigned, read, assigned, ih]

theorem readAfter (copied : edit.Copied node copy) (name : String) (properties : List String) :
    copy.readAfter name properties = node.readAfter name properties :=
  any_of_rel (wraps.statement? copied) fun _ _ stands =>
    wraps.readBeforeAssigned name properties (wraps.followingParts stands)

omit wraps in
theorem nextLink?_eq_none {access outer : Node} (around : node.context? = some access)
    (above : access.parent? = some outer) (plain : outer.kind ≠ "call_expression") :
    node.nextLink? = none := by
  refine Option.eq_none_iff_forall_not_mem.2 fun next linked => ?_
  obtain ⟨_, _, _, around', _, above', _, _, _, continues, _⟩ := nextLink?_eq_some_iff.1 linked
  cases around.symm.trans around'
  cases above.symm.trans above'
  exact plain (kind_of_isContinuation continues)

/-- The expression is no access that is called, so no chain goes on from there. -/
theorem nextLink? (copied : edit.Copied node copy) :
    Option.Rel edit.Copied node.nextLink? copy.nextLink? := by
  by_cases same : node.context? = some edit.expr
  · have around := wraps.context? copied
    rw [same] at around
    obtain ⟨access', found, copied⟩ := exists_of_rel_some around
    obtain ⟨place, stands, above⟩ := copied.parentheses
    obtain ⟨outer, found', _⟩ := wraps.held
    have plain : outer.kind ≠ "call_expression" := wraps.kind_of_parent found' (by decide)
    rw [nextLink?_eq_none same found' plain, nextLink?_eq_none found above
      (by simp [(wraps.parentheses place stands).kind])]
    exact .none
  · refine rel_bind (wraps.context? copied) fun access found access' around => ?_
    have other : access ≠ edit.expr := by
      rintro rfl
      exact same found
    have stood := around.stands other
    refine rel_bind (wraps.child? around "object") fun object held object' stands => ?_
    refine rel_bind stood.parent? fun chained above chained' linked => ?_
    refine rel_bind (wraps.child? linked "function") fun callee called callee' stands' => ?_
    have climbed := (climbs_iff.1 ⟨rfl, found⟩).2.1
    have object := wraps.near _ _ _ _ stands (wraps.outermost copied)
      (near_of_parent? (parent?_of_child? held) climbed)
    have callee := wraps.near _ _ _ _ stands' stood
      (near_of_parent? (parent?_of_child? called) above)
    rw [wraps.kind_of_copied around, object, callee, wraps.isContinuation linked]
    split
    · exact .some linked
    · exact .none

theorem links (copied : edit.Copied node copy) :
    List.Forall₂ edit.Copied node.links copy.links := by
  induction node using Node.links.induct generalizing copy with
  | case1 node next linked ih =>
    have chained := wraps.nextLink? copied
    rw [linked] at chained
    obtain ⟨next', linked', copied⟩ := exists_of_rel_some chained
    rw [links_of_nextLink? linked, links_of_nextLink? linked']
    exact .cons copied (ih copied)
  | case2 node last =>
    have chained := wraps.nextLink? copied
    rw [last] at chained
    rw [links_of_last last, links_of_last (eq_none_of_rel_none chained)]
    exact .nil

theorem handlesRejectionLast (copied : edit.Copied node copy) :
    copy.handlesRejectionLast = node.handlesRejectionLast := by
  have finals : copy.links.all (·.methodName? = some "finally") =
      node.links.all (·.methodName? = some "finally") := by
    rw [List.all_eq_not_any_not, List.all_eq_not_any_not]
    congr 1
    exact any_of_forall₂ (wraps.links copied) fun _ _ copied => by rw [wraps.methodName? copied]
  rw [Node.handlesRejectionLast, Node.handlesRejectionLast, Node.handlesRejection,
    Node.handlesRejection, wraps.methodName? copied, (wraps.arguments copied).length_eq, finals]

theorem anchorBelow? (target : String) (copied : edit.Copied node copy) :
    Option.Rel edit.Copied (node.anchorBelow? target) (copy.anchorBelow? target) := by
  induction node using Node.anchorBelow?.induct target generalizing copy with
  | case1 node targets =>
    have targets' := (wraps.isTargetCall copied target).trans targets
    rw [Node.anchorBelow?, Node.anchorBelow?, if_pos targets, if_pos targets']
    exact .some copied
  | case2 node _ continues object received ih =>
    have continues' := (wraps.isContinuation copied).trans continues
    have both := wraps.receiver? copied (kind_of_isContinuation continues)
    rw [received] at both
    obtain ⟨object', received', copied⟩ := exists_of_rel_some both
    rw [anchorBelow?_of_isContinuation continues, anchorBelow?_of_isContinuation continues',
      Node.anchor?, Node.anchor?, if_pos continues, if_pos continues', received, received']
    exact ih copied
  | case3 node _ continues missing =>
    have continues' := (wraps.isContinuation copied).trans continues
    have both := wraps.receiver? copied (kind_of_isContinuation continues)
    rw [missing] at both
    rw [anchorBelow?_of_isContinuation continues, anchorBelow?_of_isContinuation continues',
      Node.anchor?, Node.anchor?, if_pos continues, if_pos continues', missing,
      eq_none_of_rel_none both]
    exact .none
  | case4 node other plain =>
    rw [Node.anchorBelow?, Node.anchorBelow?, if_neg other, if_neg plain,
      wraps.isTargetCall copied, wraps.isContinuation copied, if_neg other, if_neg plain]
    exact .none

theorem anchor? (target : String) (copied : edit.Copied node copy) :
    Option.Rel edit.Copied (node.anchor? target) (copy.anchor? target) := by
  rw [Node.anchor?, Node.anchor?, wraps.isContinuation copied]
  split
  next continues =>
    exact rel_bind (wraps.receiver? copied (kind_of_isContinuation continues))
      fun _ _ _ copied => wraps.anchorBelow? target copied
  next => exact .none

end Parenthesises
end Edit
end RequestLint
