import RequestLint.Proofs.Scope.Names
import RequestLint.Proofs.Syntax.Chain
import RequestLint.Proofs.Syntax.Traversal

/-! What a tracker knows, and since when. A visit opens or closes the scope of a
function, declares names, or binds a name to a call; nothing else changes the
scopes. Every binding that a scope holds was therefore recorded when it was made,
and stands for a call of the target. What is observed on entering a node are the
scopes that the visits before it have led to. -/
namespace RequestLint

namespace Node

variable {tree : Tree} {target : String} {node inner outer top site : Node}

/-- The names that a declarator declares. -/
def ownNames (declarator : Node) : List String :=
  ((declarator.child? "name").map boundNames).getD []

theorem boundNames_of_identifier (plain : node.kind = "identifier") :
    node.boundNames = [node.text] := by
  rw [boundNames, if_pos (by simp [plain])]

/-- A parameter is a child of its function, or of the list of its parameters. -/
theorem parent?_of_parameters (member : inner ∈ node.parameters) :
    inner.parent? = some node ∨
      ∃ list, inner.parent? = some list ∧ list.parent? = some node := by
  rw [parameters] at member
  split at member
  next single found =>
    rw [List.mem_singleton.1 member]
    exact Or.inl (mem_children_iff.1 (mem_children_of_child? found))
  next =>
    cases found : node.child? "parameters" with
    | none =>
      rw [found] at member
      cases member
    | some list =>
      rw [found] at member
      have part : inner ∈ list.children :=
        (List.mem_filter.1 (List.mem_filter.1 member).1).1
      exact Or.inr ⟨list, mem_children_iff.1 part,
        mem_children_iff.1 (mem_children_of_child? found)⟩

theorem mem_ancestors_of_parameters (member : inner ∈ node.parameters) :
    node ∈ inner.ancestors := by
  rcases parent?_of_parameters member with above | ⟨list, above, higher⟩
  · exact mem_ancestors_of_parent? above
  · exact mem_ancestors_trans (mem_ancestors_of_parent? above) (mem_ancestors_of_parent? higher)

theorem mem_preorder_of_child? {field : String} (listed : node ∈ top.preorder)
    (found : node.child? field = some inner) : inner ∈ top.preorder :=
  mem_preorder_of_child listed (mem_children_of_child? found)

theorem mem_preorder_of_unwrap (listed : node ∈ top.preorder) (opened : node.unwrap = some inner) :
    inner ∈ top.preorder := by
  fun_induction unwrap node with
  | case1 node wraps part found ih =>
    exact ih (mem_preorder_of_child listed (mem_children_of_firstPart? found)) opened
  | case2 => cases opened
  | case3 =>
    cases opened
    exact listed

theorem mem_preorder_of_unwrapAwait (listed : node ∈ top.preorder)
    (opened : node.unwrapAwait = some inner) : inner ∈ top.preorder := by
  obtain ⟨outer, unwrapped, opened⟩ := Option.bind_eq_some_iff.1 opened
  have listed := mem_preorder_of_unwrap listed unwrapped
  split at opened
  · obtain ⟨part, found, opened⟩ := Option.bind_eq_some_iff.1 opened
    exact mem_preorder_of_unwrap
      (mem_preorder_of_child listed (mem_children_of_firstPart? found)) opened
  · cases opened
    exact listed

/-- A call of the target in the tree below `top`. -/
def CallBelow (target : String) (top site : Node) : Prop :=
  site.isTargetCall target = true ∧ site ∈ top.preorder

theorem callBelow_of_initialSite? (listed : node ∈ top.preorder)
    (starts : node.initialSite? target = some site) : CallBelow target top site := by
  obtain ⟨value, opened, starts⟩ := Option.bind_eq_some_iff.1 starts
  have listed := mem_preorder_of_unwrapAwait listed opened
  split at starts
  next targets =>
    cases starts
    exact ⟨targets, listed⟩
  next =>
    split at starts
    · obtain ⟨targets, linked⟩ := mem_links_of_anchor? starts
      exact ⟨targets, mem_preorder_of_mem_ancestors (mem_ancestors_of_mem_links linked) listed⟩
    · cases starts

def priorOf : (tree : Tree) → (above : List Frame) → Placed tree above → List Visit
  | _, [], _ => []
  | _, frame :: above, placed =>
    let parent : Node := ⟨frame.parent, above, placed.2⟩
    priorOf frame.parent above placed.2 ++
      .enter parent :: (parent.children.take frame.index).flatMap visits

/-- The visits that a walk makes before it enters the node. -/
def prior (node : Node) : List Visit := priorOf node.tree node.above node.placed

theorem prior_of_split {earlier later : List Node}
    (children : node.children = earlier ++ inner :: later) :
    inner.prior = node.prior ++ .enter node :: earlier.flatMap visits := by
  have bound : earlier.length < node.arity := by
    rw [← length_children, children, List.length_append, List.length_cons]
    omega
  have same : inner = node.child ⟨earlier.length, bound⟩ := by
    have found : node.children[earlier.length]? = some inner := by
      rw [children, List.getElem?_append_right (Nat.le_refl _), Nat.sub_self]
      rfl
    rw [Node.children, List.getElem?_map, List.getElem?_eq_getElem (by simpa using bound)] at found
    simpa using found.symm
  have before : node.children.take earlier.length = earlier := by
    rw [children, List.take_left]
  rw [same]
  change node.prior ++ .enter node :: (node.children.take earlier.length).flatMap visits = _
  rw [before]

theorem prior_of_root (top : node.parent? = none) : node.prior = [] := by
  obtain ⟨_, above, _⟩ := node
  cases above with
  | nil => rfl
  | cons frame above => cases top

/-- A walk comes to each node of the tree once, after the visits before it. -/
theorem visits_split {tree : Tree} (listed : node ∈ (root tree).preorder) :
    ∃ after, (root tree).visits = node.prior ++ (node.visits ++ after) := by
  induction node using upward with
  | root node top =>
    rw [mem_preorder_iff, ancestors_of_root top, List.mem_singleton] at listed
    rw [← listed, prior_of_root rfl]
    exact ⟨[], (List.append_nil _).symm⟩
  | step node parent found ih =>
    obtain ⟨after, split⟩ := ih (parent_mem_preorder_root listed found)
    obtain ⟨earlier, later, children⟩ := List.append_of_mem (mem_children_iff.2 found)
    refine ⟨later.flatMap visits ++ ([.leave parent] ++ after), ?_⟩
    rw [split, prior_of_split children, visits_eq parent, children, List.flatMap_append,
      List.flatMap_cons]
    simp only [List.append_assoc, List.cons_append, List.nil_append]

theorem node_mem_of_visits {visit : Visit} (member : visit ∈ node.visits) :
    visit.node ∈ node.preorder := by
  induction node using downward with
  | step node ih =>
    rw [visits_eq, List.mem_append, List.mem_cons, List.mem_flatMap] at member
    rw [preorder_eq, List.mem_cons, List.mem_flatMap]
    rcases member with (rfl | ⟨inner, child, member⟩) | last
    · exact Or.inl rfl
    · exact Or.inr ⟨inner, child, ih inner child member⟩
    · rw [List.mem_singleton.1 last]
      exact Or.inl rfl

/-- A walk enters a node once, so what comes before that is known. -/
theorem prior_of_visits {before after : List Visit}
    (split : (root tree).visits = before ++ .enter node :: after) :
    node ∈ (root tree).preorder ∧ node.prior = before := by
  have entered : (root tree).preorder =
      before.filterMap Visit.entered? ++ node :: after.filterMap Visit.entered? := by
    rw [← filterMap_entered?_visits, split, List.filterMap_append]
    rfl
  have listed : node ∈ (root tree).preorder := by
    rw [entered]
    exact List.mem_append_right _ List.mem_cons_self
  have distinct := nodup_preorder (root tree)
  rw [entered, List.nodup_append] at distinct
  obtain ⟨_, once, apart⟩ := distinct
  obtain ⟨rest, again⟩ := visits_split listed
  rw [split, visits_eq node, List.cons_append, List.cons_append] at again
  refine ⟨listed, Eq.symm ((List.append_cons_inj_of_notMem ?_ ?_).1 again).1⟩
  · intro earlier
    exact apart node (List.mem_filterMap.2 ⟨_, earlier, rfl⟩) node List.mem_cons_self rfl
  · intro later
    exact (List.nodup_cons.1 once).1 (List.mem_filterMap.2 ⟨_, later, rfl⟩)

end Node

namespace Scopes

variable {scopes : Scopes} {target : String} {node site : Node} {name : String} {binding : Binding}

theorem mem_view_declareAll {names : List String}
    (member : some (some binding) ∈ (scopes.declareAll names).view name) :
    some (some binding) ∈ scopes.view name := by
  induction names generalizing scopes with
  | nil => exact member
  | cons first names ih =>
    rcases mem_view_set (ih member) with old | ⟨_, new⟩
    · exact old
    · cases new

theorem mem_view_of_lookup (found : scopes.lookup name = some binding) :
    some (some binding) ∈ scopes.view name := by
  rw [lookup_eq_view, Option.join_eq_some_iff] at found
  obtain ⟨known, member, same⟩ := List.exists_of_findSome?_eq_some found
  exact same ▸ member

theorem resolve?_eq_some_iff : scopes.resolve? target node = some site ↔
    ∃ value, node.unwrapAwait = some value ∧
      (value.isTargetCall target = true ∧ value = site ∨
        value.kind = "identifier" ∧
          ∃ binding, scopes.lookup value.text = some binding ∧ binding.site = site) := by
  rw [resolve?, Option.bind_eq_bind, Option.bind_eq_some_iff]
  refine exists_congr fun value => and_congr_right fun _ => ?_
  cases targets : value.isTargetCall target with
  | true =>
    have call := Node.kind_of_isTargetCall targets
    simp [call]
  | false => simp [Option.ite_none_right_eq_some]

end Scopes

deriving instance DecidableEq for Binding

def Observation.bound? : Observation → Option Binding
  | bound binding => some binding
  | entered _ _ => none

namespace Tracker

variable {target : String} {tree : Tree} {tracker : Tracker}
  {function declarator assignment node site : Node}
  {scopes : Scopes} {binding : Binding} {visit : Visit}

def opened (tracker : Tracker) (function : Node) : Tracker :=
  { tracker with
    scopes := (tracker.scopes.enter function).declareAll
      (function.parameters.flatMap Node.boundNames) }

theorem enterFunction_cases (tracker : Tracker) (function : Node) :
    tracker.enterFunction function = tracker.opened function ∨
      ∃ first ∈ function.parameters, first.kind = "identifier" ∧
        ∃ site, tracker.callbackSite? function = some site ∧
          tracker.enterFunction function =
            (tracker.opened function).bind ⟨first.text, site, .callback, first⟩ := by
  simp only [enterFunction]
  split
  next site first rest calls parameters =>
    split
    next plain =>
      refine Or.inr ⟨first, ?_, plain, site, calls, rfl⟩
      rw [parameters]
      exact List.mem_cons_self
    · exact Or.inl rfl
  next => exact Or.inl rfl

theorem leaveDeclarator_cases (tracker : Tracker) (declarator : Node) :
    tracker.leaveDeclarator declarator =
        { tracker with scopes := tracker.scopes.declareAll declarator.ownNames } ∨
      ∃ name value site, declarator.ownNames = [name] ∧ declarator.child? "value" = some value ∧
        value.initialSite? tracker.target = some site ∧
        tracker.leaveDeclarator declarator =
          tracker.bind ⟨name, site, .declaration, declarator⟩ := by
  rw [leaveDeclarator, Node.ownNames]
  cases declarator.child? "name" with
  | none => exact Or.inl rfl
  | some name =>
    dsimp only
    split
    next plain =>
      rw [Option.map_some, Option.getD_some, Node.boundNames_of_identifier plain]
      split
      next site starts =>
        obtain ⟨value, found, starts⟩ := Option.bind_eq_some_iff.1 starts
        exact Or.inr ⟨name.text, value, site, rfl, found, starts, rfl⟩
      next => exact Or.inl rfl
    next => exact Or.inl rfl

/-- Records a binding made where the name is known. -/
def rebind (tracker : Tracker) (binding : Binding) : Tracker :=
  { tracker with
    scopes := tracker.scopes.assign binding.name (some binding)
    history := .bound binding :: tracker.history }

theorem leaveAssignment_cases (tracker : Tracker) (assignment : Node) :
    tracker.leaveAssignment assignment = tracker ∨
      (∃ name, tracker.leaveAssignment assignment =
        { tracker with scopes := tracker.scopes.assign name none }) ∨
      ∃ name value site, assignment.child? "right" = some value ∧
        value.initialSite? tracker.target = some site ∧
        tracker.leaveAssignment assignment =
          tracker.rebind ⟨name, site, .assignment, assignment⟩ := by
  rw [leaveAssignment]
  split
  · exact Or.inl rfl
  next left _ =>
    split
    next site starts =>
      obtain ⟨value, found, starts⟩ := Option.bind_eq_some_iff.1 starts
      exact Or.inr (Or.inr ⟨left.text, value, site, found, starts, rfl⟩)
    next =>
      split
      · exact Or.inr (Or.inl ⟨left.text, rfl⟩)
      · exact Or.inl rfl

theorem entered_mem_enterFunction
    (seen : .entered node scopes ∈ (tracker.enterFunction function).history) :
    .entered node scopes ∈ tracker.history := by
  rcases enterFunction_cases tracker function with same | ⟨first, _, _, site, _, same⟩
  · rwa [same] at seen
  · rw [same] at seen
    cases seen with
    | tail _ seen => exact seen

theorem entered_mem_leave (seen : .entered node scopes ∈ (tracker.step (.leave function)).history) :
    .entered node scopes ∈ tracker.history := by
  rw [step] at seen
  split at seen
  · exact seen
  · split at seen
    · rcases leaveDeclarator_cases tracker function with same | ⟨_, _, _, _, _, _, same⟩
      · rwa [same] at seen
      · rw [same] at seen
        cases seen with
        | tail _ seen => exact seen
    · split at seen
      · rcases leaveAssignment_cases tracker function with same | ⟨_, same⟩ | ⟨_, _, _, _, _, same⟩
        · rwa [same] at seen
        · rwa [same] at seen
        · rw [same] at seen
          cases seen with
          | tail _ seen => exact seen
      · exact seen

/-- A node is observed on entering it, with the scopes of that moment. -/
theorem entered_mem_step (seen : .entered node scopes ∈ (tracker.step visit).history) :
    .entered node scopes ∈ tracker.history ∨
      visit = .enter node ∧ scopes = (tracker.step visit).scopes := by
  cases visit with
  | enter inner =>
    rw [step] at seen ⊢
    rcases List.mem_cons.1 seen with new | old
    · cases new
      exact Or.inr ⟨rfl, rfl⟩
    · refine Or.inl ?_
      split at old
      · exact entered_mem_enterFunction old
      · exact old
  | leave inner => exact Or.inl (entered_mem_leave seen)

theorem entered_mem_foldl {visits : List Visit}
    (seen : .entered node scopes ∈ (visits.foldl step tracker).history) :
    .entered node scopes ∈ tracker.history ∨ ∃ before after,
      visits = before ++ .enter node :: after ∧
      scopes = ((before ++ [.enter node]).foldl step tracker).scopes := by
  induction visits generalizing tracker with
  | nil => exact Or.inl seen
  | cons visit rest ih =>
    rcases ih seen with sooner | ⟨before, after, split, same⟩
    · refine (entered_mem_step sooner).imp_right ?_
      rintro ⟨rfl, same⟩
      exact ⟨[], rest, rfl, same⟩
    · exact Or.inr ⟨visit :: before, after, congrArg (visit :: ·) split, same⟩

theorem observed (seen : .entered node scopes ∈ (walk target (.root tree)).history) :
    node ∈ (Node.root tree).preorder ∧
      scopes = ((node.prior.foldl step { target := target }).step (.enter node)).scopes := by
  rw [walk, Walk.fold_eq_foldl] at seen
  rcases entered_mem_foldl seen with none_yet | ⟨before, after, split, same⟩
  · cases none_yet
  · obtain ⟨listed, prior⟩ := Node.prior_of_visits split
    refine ⟨listed, ?_⟩
    rw [prior, same, List.foldl_append]
    rfl

theorem exists_entered {root : Node} (listed : node ∈ root.preorder) :
    ∃ scopes, .entered node scopes ∈ (walk target root).history := by
  rw [← entered_walk target root, entered, List.mem_filterMap] at listed
  obtain ⟨seen, member, same⟩ := listed
  cases seen with
  | bound binding => cases same
  | entered other scopes =>
    cases same
    exact ⟨scopes, List.mem_reverse.1 member⟩

/-- The bindings made so far, in order. -/
def bindings (tracker : Tracker) : List Binding :=
  tracker.history.reverse.filterMap Observation.bound?

theorem mem_bindings_iff : binding ∈ tracker.bindings ↔ .bound binding ∈ tracker.history := by
  rw [bindings, List.mem_filterMap]
  constructor
  · rintro ⟨seen, member, made⟩
    cases seen with
    | bound other =>
      cases made
      exact List.mem_reverse.1 member
    | entered node scopes => cases made
  · intro member
    exact ⟨.bound binding, List.mem_reverse.2 member, rfl⟩

/-- The binding was made for this name, and that is on record. -/
def Recorded (history : List Observation) (name : String) (binding : Binding) : Prop :=
  binding.name = name ∧ .bound binding ∈ history

/-- Whatever a name stands for, now or when a node was entered, is on record, and
what is on record binds names of the tree to calls of the tree. -/
structure Traced (target : String) (tree : Tree) (tracker : Tracker) : Prop where
  aim : tracker.target = target
  known : ∀ name binding, some (some binding) ∈ tracker.scopes.view name →
    Recorded tracker.history name binding
  observed : ∀ node scopes, .entered node scopes ∈ tracker.history →
    ∀ name binding, some (some binding) ∈ scopes.view name →
      Recorded tracker.history name binding
  made : ∀ binding, .bound binding ∈ tracker.history →
    Node.CallBelow target (.root tree) binding.site ∧
      binding.origin ∈ (Node.root tree).preorder

theorem Traced.ofView (traced : Traced target tree tracker)
    (fewer : ∀ name binding, some (some binding) ∈ scopes.view name →
      some (some binding) ∈ tracker.scopes.view name) :
    Traced target tree { tracker with scopes := scopes } :=
  { traced with known := fun name binding member => traced.known name binding (fewer _ _ member) }

theorem Recorded.later {history : List Observation} {name : String} {seen : Observation}
    (recorded : Recorded history name binding) : Recorded (seen :: history) name binding :=
  ⟨recorded.1, List.mem_cons_of_mem _ recorded.2⟩

theorem Traced.record (traced : Traced target tree tracker)
    (calls : Node.CallBelow target (.root tree) binding.site)
    (origin : binding.origin ∈ (Node.root tree).preorder)
    (only : ∀ name other, some (some other) ∈ scopes.view name →
      some (some other) ∈ tracker.scopes.view name ∨ binding.name = name ∧ other = binding) :
    Traced target tree
      { tracker with scopes := scopes, history := .bound binding :: tracker.history } := by
  refine ⟨traced.aim, ?_, ?_, ?_⟩
  · intro name other member
    rcases only name other member with old | ⟨named, rfl⟩
    · exact (traced.known name other old).later
    · exact ⟨named, List.mem_cons_self⟩
  · intro node observed seen name other member
    cases seen with
    | tail _ seen => exact (traced.observed node observed seen name other member).later
  · intro other member
    rcases List.mem_cons.1 member with same | member
    · cases same
      exact ⟨calls, origin⟩
    · exact traced.made other member

theorem Traced.observe (traced : Traced target tree tracker) (node : Node) :
    Traced target tree
      { tracker with history := .entered node tracker.scopes :: tracker.history } := by
  refine ⟨traced.aim, fun name binding member => (traced.known name binding member).later, ?_, ?_⟩
  · intro inner scopes seen name binding member
    rcases List.mem_cons.1 seen with same | seen
    · cases same
      exact (traced.known name binding member).later
    · exact (traced.observed inner scopes seen name binding member).later
  · intro binding member
    cases member with
    | tail _ member => exact traced.made binding member

theorem Traced.bind (traced : Traced target tree tracker)
    (calls : Node.CallBelow target (.root tree) binding.site)
    (origin : binding.origin ∈ (Node.root tree).preorder) :
    Traced target tree (tracker.bind binding) := by
  refine traced.record calls origin fun name other member => ?_
  refine (Scopes.mem_view_set member).imp_right fun new => ⟨new.1, ?_⟩
  exact Option.some.inj (Option.some.inj new.2)

theorem Traced.rebind (traced : Traced target tree tracker)
    (calls : Node.CallBelow target (.root tree) binding.site)
    (origin : binding.origin ∈ (Node.root tree).preorder) :
    Traced target tree (tracker.rebind binding) := by
  refine traced.record calls origin fun name other member => ?_
  refine (Scopes.mem_view_assign member).imp_right fun new => ⟨new.1, ?_⟩
  exact Option.some.inj (Option.some.inj new.2)

theorem Traced.callBelow_of_resolve? (traced : Traced target tree tracker)
    (listed : node ∈ (Node.root tree).preorder)
    (resolved : tracker.scopes.resolve? target node = some site) :
    Node.CallBelow target (.root tree) site := by
  obtain ⟨value, opened, ⟨targets, rfl⟩ | ⟨_, binding, found, rfl⟩⟩ :=
    Scopes.resolve?_eq_some_iff.1 resolved
  · exact ⟨targets, Node.mem_preorder_of_unwrapAwait listed opened⟩
  · exact (traced.made binding (traced.known _ _ (Scopes.mem_view_of_lookup found)).2).1

theorem Traced.callBelow_of_callbackSite? (traced : Traced target tree tracker)
    (listed : function ∈ (Node.root tree).preorder)
    (calls : tracker.callbackSite? function = some site) :
    Node.CallBelow target (.root tree) site := by
  obtain ⟨list, around, calls⟩ := Option.bind_eq_some_iff.1 calls
  obtain ⟨call, above, calls⟩ := Option.bind_eq_some_iff.1 calls
  obtain ⟨_, _, calls⟩ := Option.bind_eq_some_iff.1 calls
  split at calls
  · rw [traced.aim] at calls
    obtain ⟨object, received, resolved⟩ := Option.bind_eq_some_iff.1 calls
    obtain ⟨access, held, property, callee, accessed, opened⟩ :=
      Node.receiver?_eq_some_iff.1 received
    have callListed := Node.parent_mem_preorder_root
      (Node.ancestor_mem_preorder_root listed (List.mem_of_find?_eq_some around)) above
    have accessListed := Node.mem_preorder_of_child? callListed callee
    have heldListed :=
      Node.mem_preorder_of_child? accessListed (Node.member?_eq_some_iff.1 accessed).2.1
    exact traced.callBelow_of_resolve? (Node.mem_preorder_of_unwrap heldListed opened) resolved
  · cases calls

theorem Traced.enterFunction (traced : Traced target tree tracker)
    (listed : function ∈ (Node.root tree).preorder) :
    Traced target tree (tracker.enterFunction function) := by
  have opened : Traced target tree (tracker.opened function) := by
    refine traced.ofView fun name binding member => ?_
    have member := Scopes.mem_view_declareAll member
    rw [Scopes.view_enter] at member
    cases member with
    | tail _ member => exact member
  rcases enterFunction_cases tracker function with same | ⟨first, member, _, site, calls, same⟩
  · rw [same]
    exact opened
  · rw [same]
    exact opened.bind (traced.callBelow_of_callbackSite? listed calls)
      (Node.mem_preorder_of_mem_ancestors (Node.mem_ancestors_of_parameters member) listed)

theorem Traced.leave (traced : Traced target tree tracker)
    (listed : node ∈ (Node.root tree).preorder) :
    Traced target tree (tracker.step (.leave node)) := by
  rw [step]
  split
  · exact traced.ofView fun name binding member => Scopes.mem_view_leave member
  · split
    · rcases leaveDeclarator_cases tracker node with same | ⟨_, _, _, _, found, starts, same⟩
      · rw [same]
        exact traced.ofView fun name binding member => Scopes.mem_view_declareAll member
      · rw [same]
        rw [traced.aim] at starts
        have inside := Node.mem_preorder_of_child? listed found
        exact traced.bind (Node.callBelow_of_initialSite? inside starts) listed
    · split
      · rcases leaveAssignment_cases tracker node with
          same | ⟨name, same⟩ | ⟨_, _, _, found, starts, same⟩
        · rwa [same]
        · rw [same]
          refine traced.ofView fun other binding member => ?_
          rcases Scopes.mem_view_assign member with old | ⟨_, new⟩
          · exact old
          · cases new
        · rw [same]
          rw [traced.aim] at starts
          have inside := Node.mem_preorder_of_child? listed found
          exact traced.rebind (Node.callBelow_of_initialSite? inside starts) listed
      · exact traced

theorem Traced.step (traced : Traced target tree tracker)
    (listed : visit.node ∈ (Node.root tree).preorder) :
    Traced target tree (tracker.step visit) := by
  cases visit with
  | enter node =>
    rw [Tracker.step]
    split
    · exact (traced.enterFunction listed).observe node
    · exact traced.observe node
  | leave node => exact traced.leave listed

theorem Traced.foldl {visits : List Visit} (traced : Traced target tree tracker)
    (listed : ∀ visit ∈ visits, visit.node ∈ (Node.root tree).preorder) :
    Traced target tree (visits.foldl Tracker.step tracker) := by
  induction visits generalizing tracker with
  | nil => exact traced
  | cons visit rest ih =>
    rw [List.foldl_cons]
    exact ih (traced.step (listed visit List.mem_cons_self)) fun later member =>
      listed later (List.mem_cons_of_mem _ member)

theorem traced_walk (target : String) (tree : Tree) :
    Traced target tree (walk target (.root tree)) := by
  rw [walk, Walk.fold_eq_foldl]
  refine Traced.foldl ⟨rfl, ?_, ?_, ?_⟩ fun visit member => Node.node_mem_of_visits member
  · intro name binding member
    cases List.mem_singleton.1 member
  · intro node scopes seen
    cases seen
  · intro binding member
    cases member

end Tracker
end RequestLint
