import RequestLint.Syntax.Chain
import RequestLint.Proofs.Syntax.Wrapper

/-! Chains of continuations read in both directions. Going down, a continuation
leads over its receiver to the call it is chained onto; going up, a call leads
to the continuation that has it as receiver. One step of either direction undoes
one step of the other, and so do whole chains, however long they are. -/
namespace RequestLint.Node

variable {tree : Tree} {target : String} {node call next object site : Node} {property : String}

theorem member?_eq_some_iff : node.member? = some (object, property) ↔
    node.kind = "member_expression" ∧ node.child? "object" = some object ∧
      ∃ name, node.child? "property" = some name ∧ name.text = property := by
  unfold member?
  split
  next access =>
    simp only [Option.bind_eq_bind, Option.bind_eq_some_iff, Option.some.injEq, Prod.mk.injEq,
      access, true_and]
    constructor
    · rintro ⟨_, found, name, named, rfl, rfl⟩
      exact ⟨found, name, named, rfl⟩
    · rintro ⟨found, name, named, rfl⟩
      exact ⟨object, found, name, named, rfl, rfl⟩
  next other => simp [other]

theorem receiver?_eq_some_iff : call.receiver? = some node ↔
    ∃ access object property, call.child? "function" = some access ∧
      access.member? = some (object, property) ∧ object.unwrap = some node := by
  simp only [receiver?, calledMember?, Option.bind_eq_some_iff, Prod.exists]
  constructor
  · rintro ⟨object, property, ⟨access, callee, accessed⟩, opened⟩
    exact ⟨access, object, property, callee, accessed, opened⟩
  · rintro ⟨access, object, property, callee, accessed, opened⟩
    exact ⟨object, property, ⟨access, callee, accessed⟩, opened⟩

theorem methodName?_eq_some_iff : call.methodName? = some property ↔
    call.kind = "call_expression" ∧ ∃ access object, call.child? "function" = some access ∧
      access.member? = some (object, property) := by
  unfold methodName?
  split
  next isCall =>
    simp only [calledMember?, Option.map_eq_some_iff, Option.bind_eq_some_iff, Prod.exists,
      exists_eq_right, isCall, true_and]
    constructor
    · rintro ⟨object, access, callee, accessed⟩
      exact ⟨access, object, callee, accessed⟩
    · rintro ⟨access, object, callee, accessed⟩
      exact ⟨object, access, callee, accessed⟩
  next other => simp [other]

theorem isContinuation_iff : call.isContinuation = true ↔
    ∃ name, call.methodName? = some name ∧ name ∈ continuationMethods := by
  simp [isContinuation, Option.any_eq_true]

theorem kind_of_isTargetCall (targets : call.isTargetCall target = true) :
    call.kind = "call_expression" := by
  simp only [isTargetCall, Bool.and_eq_true, decide_eq_true_eq] at targets
  exact targets.1

theorem kind_of_isContinuation (continues : call.isContinuation = true) :
    call.kind = "call_expression" := by
  obtain ⟨_, named, _⟩ := isContinuation_iff.1 continues
  exact (methodName?_eq_some_iff.1 named).1

/-- What is called is a bare name in the one case and a member in the other. -/
theorem isTargetCall_of_isContinuation (continues : call.isContinuation = true) :
    call.isTargetCall target = false := by
  obtain ⟨_, named, _⟩ := isContinuation_iff.1 continues
  obtain ⟨_, access, object, callee, accessed⟩ := methodName?_eq_some_iff.1 named
  have member := (member?_eq_some_iff.1 accessed).1
  simp [isTargetCall, callee, isName, member]

theorem nextLink?_eq_some_iff : call.nextLink? = some next ↔
    ∃ access object callee, call.context? = some access ∧ access.child? "object" = some object ∧
      access.parent? = some next ∧ next.child? "function" = some callee ∧
      access.kind = "member_expression" ∧ object.sameSite call.outermost = true ∧
      next.isContinuation = true ∧ callee.sameSite access = true := by
  simp only [nextLink?, Option.bind_eq_bind, Option.bind_eq_some_iff, Option.ite_none_right_eq_some,
    Option.some.injEq]
  constructor
  · rintro ⟨access, around, object, held, _, above, callee, called, ⟨kind, same, continues, again⟩,
      rfl⟩
    exact ⟨access, object, callee, around, held, above, called, kind, same, continues, again⟩
  · rintro ⟨access, object, callee, around, held, above, called, kind, same, continues, again⟩
    exact ⟨access, around, object, held, next, above, callee, called,
      ⟨kind, same, continues, again⟩, rfl⟩

/-- The receiver of a continuation leads back up to it, in every tree. -/
theorem nextLink?_of_receiver? (continues : next.isContinuation = true)
    (received : next.receiver? = some call) : call.nextLink? = some next := by
  obtain ⟨access, object, property, callee, accessed, opened⟩ := receiver?_eq_some_iff.1 received
  obtain ⟨kind, held, _⟩ := member?_eq_some_iff.1 accessed
  obtain ⟨wrapped, _⟩ := wrappedIn_of_unwrap opened
  have plain : access.isWrapper = false := by
    rw [isWrapper, kind]
    decide
  obtain ⟨top, around⟩ :=
    climbs_iff.2 ⟨wrapped, mem_children_iff.1 (mem_children_of_child? held), plain⟩
  refine nextLink?_eq_some_iff.2 ⟨access, object, access, around, held, ?_, callee, kind, ?_,
    continues, sameSite_self access⟩
  · exact mem_children_iff.1 (mem_children_of_child? callee)
  · rw [top]
    exact sameSite_self object

/-- The continuation above a call has it as receiver, in a regular tree. -/
theorem receiver?_of_nextLink? (regular : tree.Regular) (listed : call ∈ (root tree).preorder)
    (kind : call.kind = "call_expression") (linked : call.nextLink? = some next) :
    next.receiver? = some call := by
  obtain ⟨access, object, callee, around, held, above, called, _, same, continues, again⟩ :=
    nextLink?_eq_some_iff.1 linked
  obtain ⟨wrapped, outside, _⟩ := climbs_iff.1 ⟨rfl, around⟩
  have accessListed := parent_mem_preorder_root (wrapped.listed listed) outside
  have nextListed := parent_mem_preorder_root accessListed above
  obtain rfl : object = call.outermost := eq_of_sameSite regular accessListed
    (mem_children_of_child? held) (mem_children_iff.2 outside) same
  obtain rfl : callee = access := eq_of_sameSite regular nextListed
    (mem_children_of_child? called) (mem_children_iff.2 above) again
  obtain ⟨name, named, _⟩ := isContinuation_iff.1 continues
  obtain ⟨_, callee, object, calledAgain, accessed⟩ := methodName?_eq_some_iff.1 named
  cases called.symm.trans calledAgain
  cases held.symm.trans (member?_eq_some_iff.1 accessed).2.1
  exact receiver?_eq_some_iff.2 ⟨_, _, name, called, accessed,
    unwrap_of_wrappedIn regular listed kind wrapped⟩

theorem mem_ancestors_of_nextLink? (linked : call.nextLink? = some next) :
    next ∈ call.ancestors := by
  obtain ⟨access, _, _, around, _, above, _⟩ := nextLink?_eq_some_iff.1 linked
  exact mem_ancestors_trans (List.mem_of_find?_eq_some around) (mem_ancestors_of_parent? above)

theorem isContinuation_of_nextLink? (linked : call.nextLink? = some next) :
    next.isContinuation = true := by
  obtain ⟨_, _, _, _, _, _, _, _, _, continues, _⟩ := nextLink?_eq_some_iff.1 linked
  exact continues

theorem links_of_nextLink? (linked : call.nextLink? = some next) :
    call.links = next :: next.links := by
  rw [links]
  split
  next found same =>
    rw [linked] at same
    cases same
    rfl
  next missing =>
    rw [linked] at missing
    cases missing

theorem links_of_last (last : call.nextLink? = none) : call.links = [] := by
  rw [links]
  split
  next found same =>
    rw [last] at same
    cases same
  next => rfl

/-- Induction along a chain, from its outermost link inwards. -/
theorem along_links {motive : Node → Prop} (last : ∀ call, call.nextLink? = none → motive call)
    (step : ∀ call next, call.nextLink? = some next → motive next → motive call) (call : Node) :
    motive call := by
  induction call using links.induct with
  | case1 call next linked ih => exact step call next linked ih
  | case2 call missing => exact last call missing

theorem mem_ancestors_of_mem_links (member : next ∈ call.links) : next ∈ call.ancestors := by
  induction call using along_links with
  | last call missing =>
    rw [links_of_last missing] at member
    cases member
  | step call middle linked ih =>
    rw [links_of_nextLink? linked] at member
    have above := mem_ancestors_of_nextLink? linked
    cases member with
    | head => exact above
    | tail _ member => exact mem_ancestors_trans above (ih member)

/-- The links of a link are those that come after it. -/
theorem links_split (member : next ∈ call.links) :
    ∃ before, call.links = before ++ next :: next.links ∧ next ∉ before := by
  induction call using along_links with
  | last call missing =>
    rw [links_of_last missing] at member
    cases member
  | step call middle linked ih =>
    rw [links_of_nextLink? linked] at member ⊢
    cases member with
    | head => exact ⟨[], rfl, List.not_mem_nil⟩
    | tail _ member =>
      obtain ⟨before, split, absent⟩ := ih member
      refine ⟨middle :: before, by rw [split, List.cons_append], ?_⟩
      intro again
      rcases List.mem_cons.1 again with rfl | again
      · exact Nat.lt_irrefl _ (depth_lt_of_mem_ancestors (mem_ancestors_of_mem_links member))
      · exact absent again

theorem chainEnd_of_mem_links (member : next ∈ call.links) : next.chainEnd = call.chainEnd := by
  obtain ⟨before, split, _⟩ := links_split member
  rw [chainEnd, chainEnd, split, List.getLast?_append, List.getLast?_cons]
  rfl

theorem mem_links_of_nextLink? (member : call = site ∨ call ∈ site.links)
    (linked : call.nextLink? = some next) : next ∈ site.links := by
  have inside := links_of_nextLink? linked
  rcases member with rfl | member
  · rw [inside]
    exact List.mem_cons_self
  · obtain ⟨before, split, _⟩ := links_split member
    rw [split, inside]
    simp

theorem anchorBelow?_of_isContinuation (continues : node.isContinuation = true) :
    node.anchorBelow? target = node.anchor? target := by
  rw [anchorBelow?, if_neg (by simp [isTargetCall_of_isContinuation continues]), if_pos continues,
    anchor?, if_pos continues]
  split
  next object received => rw [received, Option.bind_some]
  next missing => rw [missing, Option.bind_none]

/-- Each step down over a receiver is a step of the chain above the site. -/
theorem mem_links_of_anchorBelow? (anchored : node.anchorBelow? target = some site) :
    site.isTargetCall target = true ∧ (node = site ∨ node ∈ site.links) := by
  fun_induction anchorBelow? target node with
  | case1 node targets =>
    cases anchored
    exact ⟨targets, Or.inl rfl⟩
  | case2 node _ continues object received ih =>
    obtain ⟨targets, member⟩ := ih anchored
    have linked := nextLink?_of_receiver? continues received
    exact ⟨targets, Or.inr (mem_links_of_nextLink? member linked)⟩
  | case3 => cases anchored
  | case4 => cases anchored

theorem mem_links_of_anchor? (anchored : call.anchor? target = some site) :
    site.isTargetCall target = true ∧ call ∈ site.links := by
  unfold anchor? at anchored
  split at anchored
  next continues =>
    obtain ⟨object, received, below⟩ := Option.bind_eq_some_iff.1 anchored
    obtain ⟨targets, member⟩ := mem_links_of_anchorBelow? below
    exact ⟨targets, mem_links_of_nextLink? member (nextLink?_of_receiver? continues received)⟩
  next => cases anchored

/-- Every link above a call leads down to where the call leads. -/
theorem anchor?_of_anchorBelow? (regular : tree.Regular) (listed : call ∈ (root tree).preorder)
    (kind : call.kind = "call_expression") (below : call.anchorBelow? target = some site)
    (member : next ∈ call.links) : next.anchor? target = some site := by
  induction call using along_links with
  | last call missing =>
    rw [links_of_last missing] at member
    cases member
  | step call middle linked ih =>
    have received := receiver?_of_nextLink? regular listed kind linked
    have continues := isContinuation_of_nextLink? linked
    have anchored : middle.anchor? target = some site := by
      rw [anchor?, if_pos continues, received, Option.bind_some, below]
    rw [links_of_nextLink? linked] at member
    cases member with
    | head => exact anchored
    | tail _ member =>
      apply ih _ (kind_of_isContinuation continues) _ member
      · exact ancestor_mem_preorder_root listed (mem_ancestors_of_nextLink? linked)
      · rw [anchorBelow?_of_isContinuation continues, anchored]

theorem anchor?_of_mem_links (regular : tree.Regular) (listed : site ∈ (root tree).preorder)
    (targets : site.isTargetCall target = true) (member : call ∈ site.links) :
    call.anchor? target = some site := by
  apply anchor?_of_anchorBelow? regular listed (kind_of_isTargetCall targets) _ member
  rw [anchorBelow?, if_pos targets]

/-- Chains read downwards and upwards agree. The call that a continuation is
anchored in has it among its links, in every tree; in a regular tree the links of
a call of the target are anchored in it; and all links of one call end in the
same outermost call, each followed by exactly its own links. -/
theorem anchor_inverse_to_links (tree : Tree) (target : String) :
    (∀ call site : Node, call.anchor? target = some site →
      site.isTargetCall target = true ∧ call ∈ site.links) ∧
    (tree.Regular → ∀ site ∈ (root tree).preorder, site.isTargetCall target = true →
      ∀ call ∈ site.links, call.anchor? target = some site) ∧
    (∀ site call : Node, call ∈ site.links → call.chainEnd = site.chainEnd ∧
      ∃ before, site.links = before ++ call :: call.links ∧ call ∉ before) := by
  refine ⟨?_, ?_, ?_⟩
  · intro call site anchored
    exact mem_links_of_anchor? anchored
  · intro regular site listed targets call member
    exact anchor?_of_mem_links regular listed targets member
  · intro site call member
    exact ⟨chainEnd_of_mem_links member, links_split member⟩

theorem anchor_inverse_to_links_twoRequests :
    ∃ site ∈ (root twoRequests).preorder, site.isTargetCall "fetch" = true ∧
      site.links.length = 2 ∧ (∀ call, call.anchor? "fetch" = some site ↔ call ∈ site.links) ∧
      ∀ call ∈ site.links, call.chainEnd = site.chainEnd := by
  obtain ⟨down, up, along⟩ := anchor_inverse_to_links twoRequests "fetch"
  have chained : ∃ site ∈ (root twoRequests).preorder, site.isTargetCall "fetch" = true ∧
      site.links.length = 2 := by decide +kernel
  obtain ⟨site, listed, targets, count⟩ := chained
  refine ⟨site, listed, targets, count, ?_, ?_⟩
  · intro call
    exact ⟨fun anchored => (down call site anchored).2,
      up twoRequests_regular site listed targets call⟩
  · intro call member
    exact (along site call member).1

/-- The links that a rejection does not merely pass through. -/
def decisiveLinks (call : Node) : List Node :=
  call.links.filter (·.methodName? ≠ some "finally")

/-- A rejection along the chain of the call ends up in a handler: the last link
that is not `.finally(…)` is `.catch(…)`, or `.then(…)` with a second handler. -/
def RejectionHandled (call : Node) : Prop :=
  ∃ last ∈ call.decisiveLinks.getLast?, last.methodName? = some "catch" ∨
    last.methodName? = some "then" ∧ 2 ≤ last.arguments.length

instance (call : Node) : Decidable call.RejectionHandled :=
  inferInstanceAs (Decidable (∃ last ∈ call.decisiveLinks.getLast?,
    last.methodName? = some "catch" ∨
      last.methodName? = some "then" ∧ 2 ≤ last.arguments.length))

theorem mem_decisiveLinks_iff : next ∈ call.decisiveLinks ↔
    next ∈ call.links ∧ next.methodName? ≠ some "finally" := by
  rw [decisiveLinks, List.mem_filter, decide_eq_true_eq]

theorem decisiveLinks_split (member : next ∈ call.decisiveLinks) :
    ∃ before, call.decisiveLinks = before ++ next :: next.decisiveLinks := by
  obtain ⟨linked, decisive⟩ := mem_decisiveLinks_iff.1 member
  obtain ⟨before, split, _⟩ := links_split linked
  refine ⟨before.filter (·.methodName? ≠ some "finally"), ?_⟩
  simp only [decisiveLinks, split, List.filter_append, List.filter_cons, ne_eq, decisive,
    not_false_eq_true, decide_true, if_true]

/-- The last decisive link is the one that no decisive link follows. -/
theorem getLast?_decisiveLinks_iff : call.decisiveLinks.getLast? = some next ↔
    next ∈ call.decisiveLinks ∧ next.decisiveLinks = [] := by
  constructor
  · intro final
    have member := List.mem_of_getLast? final
    refine ⟨member, ?_⟩
    obtain ⟨before, split⟩ := decisiveLinks_split member
    by_contra more
    have again : next ∈ next.decisiveLinks := by
      rw [split, List.getLast?_append_cons, List.getLast?_cons_of_ne_nil more] at final
      exact List.mem_of_getLast? final
    have above := mem_ancestors_of_mem_links (mem_decisiveLinks_iff.1 again).1
    exact Nat.lt_irrefl _ (depth_lt_of_mem_ancestors above)
  · rintro ⟨member, final⟩
    obtain ⟨before, split⟩ := decisiveLinks_split member
    rw [split, final, List.getLast?_concat]

theorem handlesRejection_iff : call.handlesRejection = true ↔
    call.methodName? = some "catch" ∨
      call.methodName? = some "then" ∧ 2 ≤ call.arguments.length := by
  simp only [handlesRejection, Bool.or_eq_true, Bool.and_eq_true, decide_eq_true_eq]

theorem handlesRejectionLast_iff : call.handlesRejectionLast = true ↔
    call.handlesRejection = true ∧ call.decisiveLinks = [] := by
  simp only [handlesRejectionLast, decisiveLinks, Bool.and_eq_true, List.all_eq_true,
    decide_eq_true_eq, List.filter_eq_nil_iff, ne_eq, not_not]

theorem methodName?_of_handlesRejection (handles : call.handlesRejection = true) :
    call.methodName? = some "catch" ∨ call.methodName? = some "then" := by
  rcases handlesRejection_iff.1 handles with named | ⟨named, _⟩
  · exact Or.inl named
  · exact Or.inr named

theorem kind_of_handlesRejection (handles : call.handlesRejection = true) :
    call.kind = "call_expression" := by
  rcases methodName?_of_handlesRejection handles with named | named
  · exact (methodName?_eq_some_iff.1 named).1
  · exact (methodName?_eq_some_iff.1 named).1

/-- A chain is handled when one of its links sees itself as the last handler. -/
theorem rejectionHandled_iff : call.RejectionHandled ↔
    ∃ handler ∈ call.links, handler.handlesRejectionLast = true := by
  simp only [RejectionHandled, Option.mem_def, getLast?_decisiveLinks_iff, handlesRejectionLast_iff,
    ← handlesRejection_iff]
  constructor
  · rintro ⟨last, ⟨member, final⟩, handles⟩
    exact ⟨last, (mem_decisiveLinks_iff.1 member).1, handles, final⟩
  · rintro ⟨handler, member, handles, final⟩
    have decisive : handler.methodName? ≠ some "finally" := by
      rcases methodName?_of_handlesRejection handles with named | named
      · simp [named]
      · simp [named]
    exact ⟨handler, ⟨mem_decisiveLinks_iff.2 ⟨member, decisive⟩, final⟩, handles⟩

theorem rejectionHandled_of_catch {before after : List Node}
    (chain : call.links = before ++ next :: after) (caught : next.methodName? = some "catch")
    (finals : ∀ later ∈ after, later.methodName? = some "finally") : call.RejectionHandled := by
  have passed : after.filter (·.methodName? ≠ some "finally") = [] := by
    simpa [List.filter_eq_nil_iff] using finals
  have decisive : call.decisiveLinks =
      before.filter (·.methodName? ≠ some "finally") ++ [next] := by
    rw [decisiveLinks, chain, List.filter_append, List.filter_cons, passed]
    simp [caught]
  refine ⟨next, ?_, Or.inl caught⟩
  rw [decisive, List.getLast?_concat, Option.mem_def]

end RequestLint.Node
