import RequestLint.Proofs.Scope.Parameters
import RequestLint.Proofs.Parentheses.Surroundings

/-! Two walks side by side, without and with the parentheses. Both come by the same
nodes in the same order. The second also enters the parentheses and their tokens,
where there is nothing to do. So names stand for the same requests at the same
moments. -/
namespace RequestLint
open Node

namespace Edit

variable (edit : Edit)

/-- The same request. -/
structure Request (site site' : Node) : Prop where
  copied : edit.Copied site site'
  call : site.kind = "call_expression"

structure Bound (binding binding' : Binding) : Prop where
  name : binding'.name = binding.name
  kind : binding'.kind = binding.kind
  site : edit.Request binding.site binding'.site
  origin : edit.Copied binding.origin binding'.origin

/-- All scopes know the same of every name. -/
def Agree (scopes scopes' : Scopes) : Prop :=
  ∀ name, List.Forall₂ (Option.Rel (Option.Rel edit.Bound)) (scopes.view name) (scopes'.view name)

inductive Seen : Observation → Observation → Prop
  | bound {binding binding' : Binding} : edit.Bound binding binding' →
      Seen (.bound binding) (.bound binding')
  | entered {node node' : Node} {scopes scopes' : Scopes} : edit.Copied node node' →
      edit.Agree scopes scopes' → Seen (.entered node scopes) (.entered node' scopes')

/-- The parentheses and their tokens. -/
def isAside (node : Node) : Bool := node.kind ∈ ["parenthesized_expression", "(", ")"]

/-- The second history has the observations of the first, and some that were made
aside. -/
inductive Told : List Observation → List Observation → Prop
  | nil : Told [] []
  | both {seen seen' : Observation} {past past' : List Observation} : edit.Seen seen seen' →
      Told past past' → Told (seen :: past) (seen' :: past')
  | aside {node : Node} {scopes : Scopes} {past past' : List Observation} : isAside node = true →
      Told past past' → Told past (.entered node scopes :: past')

structure Tracked (tracker tracker' : Tracker) : Prop where
  target : tracker'.target = tracker.target
  scopes : edit.Agree tracker.scopes tracker'.scopes
  history : edit.Told tracker.history tracker'.history

variable {edit} {scopes scopes' : Scopes} {name : String} {bound bound' : Option Binding}

namespace Agree

theorem tail (agree : edit.Agree scopes scopes') (name : String) :
    List.Forall₂ (Option.Rel (Option.Rel edit.Bound)) (scopes.view name).tail
      (scopes'.view name).tail := by
  rw [← List.drop_one, ← List.drop_one]
  exact List.forall₂_drop 1 (agree name)

theorem set (agree : edit.Agree scopes scopes') (same : Option.Rel edit.Bound bound bound') :
    edit.Agree (scopes.set name bound) (scopes'.set name bound') := by
  intro other
  rw [Scopes.view_set, Scopes.view_set]
  split
  · exact .cons (.some same) (agree.tail other)
  · exact agree other

theorem written {view view' : List (Option (Option Binding))}
    (both : List.Forall₂ (Option.Rel (Option.Rel edit.Bound)) view view')
    (same : Option.Rel edit.Bound bound bound') :
    List.Forall₂ (Option.Rel (Option.Rel edit.Bound)) (Scopes.written bound view)
      (Scopes.written bound' view') := by
  induction both with
  | nil => exact .nil
  | @cons first first' rest rest' known others ih =>
    cases others with
    | nil => exact .cons (.some same) .nil
    | @cons next next' rest rest' known' others =>
      rw [Scopes.written_cons (List.cons_ne_nil _ _), Scopes.written_cons (List.cons_ne_nil _ _)]
      cases known with
      | none => exact .cons .none ih
      | some old => exact .cons (.some same) (.cons known' others)

theorem assign (agree : edit.Agree scopes scopes') (same : Option.Rel edit.Bound bound bound') :
    edit.Agree (scopes.assign name bound) (scopes'.assign name bound') := by
  intro other
  rw [Scopes.view_assign, Scopes.view_assign]
  split
  · exact written (agree other) same
  · exact agree other

theorem declareAll (agree : edit.Agree scopes scopes') (names : List String) :
    edit.Agree (scopes.declareAll names) (scopes'.declareAll names) := by
  induction names generalizing scopes scopes' with
  | nil => exact agree
  | cons name names ih => exact ih (agree.set .none)

theorem enter (agree : edit.Agree scopes scopes') (function function' : Node) :
    edit.Agree (scopes.enter function) (scopes'.enter function') := by
  intro other
  exact .cons .none (agree other)

theorem leave (agree : edit.Agree scopes scopes') {function function' : Node}
    {base base' : List Node} (owned : scopes.owners = function :: base)
    (owned' : scopes'.owners = function' :: base') :
    edit.Agree (scopes.leave function) (scopes'.leave function') := by
  intro other
  rw [(Scopes.leave_of_owners owned).2, (Scopes.leave_of_owners owned').2]
  exact agree.tail other

theorem lookup (agree : edit.Agree scopes scopes') (name : String) :
    Option.Rel edit.Bound (scopes.lookup name) (scopes'.lookup name) := by
  rw [Scopes.lookup_eq_view, Scopes.lookup_eq_view]
  have both := agree name
  revert both
  generalize scopes.view name = view, scopes'.view name = view'
  intro both
  induction both with
  | nil => exact .none
  | cons known _ ih =>
    cases known with
    | none => exact ih
    | some same =>
      cases same with
      | none => exact .none
      | some same => exact .some same

theorem declares (agree : edit.Agree scopes scopes') (name : String) :
    scopes'.declares name = scopes.declares name := by
  have known (scopes : Scopes) : scopes.declares name = (scopes.view name).any Option.isSome := by
    rw [Scopes.declares, Scopes.view, List.any_map]
    rfl
  rw [known, known]
  refine any_of_forall₂ (agree name) fun one other same => ?_
  cases same with
  | none => rfl
  | some => rfl

end Agree

namespace Parenthesises

variable (wraps : edit.Parenthesises) {node node' copy place : Node} {target : String}
include wraps

theorem resolve? (agree : edit.Agree scopes scopes') (reads : edit.Reads node node') :
    Option.Rel edit.Request (scopes.resolve? target node) (scopes'.resolve? target node') := by
  refine rel_bind (wraps.unwrapAwait reads) fun value _ value' copied => ?_
  rw [wraps.isTargetCall copied, wraps.kind_of_copied copied]
  split
  next targets => exact .some ⟨copied, kind_of_isTargetCall targets⟩
  next =>
    split
    next plain =>
      rw [wraps.text_of_kind copied (by simp [plain, wordKinds]), Option.map_eq_bind,
        Option.map_eq_bind]
      exact rel_bind (agree.lookup value.text) fun _ _ _ same => .some same.site
    next => exact .none

theorem request_of_anchor? (copied : edit.Copied node copy) :
    Option.Rel edit.Request (node.anchor? target) (copy.anchor? target) := by
  refine rel_imp (wraps.anchor? target copied) fun anchor anchored anchor' copied => ?_
  exact ⟨copied, kind_of_isTargetCall (mem_links_of_anchor? anchored).1⟩

theorem initialSite? (reads : edit.Reads node node') :
    Option.Rel edit.Request (node.initialSite? target) (node'.initialSite? target) := by
  refine rel_bind (wraps.unwrapAwait reads) fun value _ value' copied => ?_
  rw [wraps.isTargetCall copied, wraps.isContinuation copied]
  split
  next targets => exact .some ⟨copied, kind_of_isTargetCall targets⟩
  next =>
    split
    · exact wraps.request_of_anchor? copied
    · exact .none

variable {tracker tracker' : Tracker}

theorem callbackSite? (tracked : edit.Tracked tracker tracker') (copied : edit.Copied node copy) :
    Option.Rel edit.Request (tracker.callbackSite? node) (tracker'.callbackSite? copy) := by
  refine rel_bind (wraps.context? copied) fun list around list' copiedList => ?_
  rw [wraps.kind_of_copied copiedList, tracked.target]
  by_cases kind : list.kind = "arguments"
  · have other : list ≠ edit.expr := by
      rintro rfl
      exact wraps.expression (by simp [otherKinds, kind])
    refine rel_bind (copiedList.stands other).parent? fun call above call' copiedCall => ?_
    refine rel_bind (wraps.argument? copiedCall 0) fun handler given handler' stands => ?_
    have near : Near handler node.outermost := by
      obtain ⟨held, found, _, part⟩ := mem_parts_of_argument? given
      have climbed := (climbs_iff.1 ⟨rfl, around⟩).2.1
      rw [Near, parent?_of_mem_parts part, climbed, Option.bind_some, Option.bind_some,
        parent?_of_child? found, above]
    rw [wraps.methodName? copiedCall, wraps.near _ _ _ _ stands (wraps.outermost copied) near]
    split
    next fits =>
      have kind := (methodName?_eq_some_iff.1 fits.2.1).1
      exact rel_bind (wraps.receiver? copiedCall kind) fun _ _ _ copied =>
        wraps.resolve? tracked.scopes (wraps.reads_of_copied copied)
    next => exact .none
  · simp only [kind, false_and, if_false, Option.bind_eq_bind, Option.bind_fun_none]
    exact .none

omit wraps in
theorem bind {binding binding' : Binding} (tracked : edit.Tracked tracker tracker')
    (same : edit.Bound binding binding') :
    edit.Tracked (tracker.bind binding) (tracker'.bind binding') := by
  refine ⟨tracked.target, ?_, .both (.bound same) tracked.history⟩
  rw [Tracker.bind, Tracker.bind, same.name]
  exact tracked.scopes.set (.some same)

omit wraps in
theorem rebind {binding binding' : Binding} (tracked : edit.Tracked tracker tracker')
    (same : edit.Bound binding binding') :
    edit.Tracked (tracker.rebind binding) (tracker'.rebind binding') := by
  refine ⟨tracked.target, ?_, .both (.bound same) tracked.history⟩
  rw [Tracker.rebind, Tracker.rebind, same.name]
  exact tracked.scopes.assign (.some same)

omit wraps in
theorem rescope (tracked : edit.Tracked tracker tracker') (agree : edit.Agree scopes scopes') :
    edit.Tracked { tracker with scopes := scopes } { tracker' with scopes := scopes' } :=
  ⟨tracked.target, agree, tracked.history⟩

theorem opened (tracked : edit.Tracked tracker tracker') (copied : edit.Copied node copy)
    (function : node.isFunctionLike = true) :
    edit.Tracked (tracker.opened node) (tracker'.opened copy) := by
  have names : copy.parameters.flatMap Node.boundNames = node.parameters.flatMap Node.boundNames :=
    flatMap_of_forall₂ (wraps.parameters copied function) fun _ _ _ copied =>
      wraps.boundNames copied
  rw [Tracker.opened, Tracker.opened, names]
  exact rescope tracked ((tracked.scopes.enter node copy).declareAll _)

theorem enterFunction (tracked : edit.Tracked tracker tracker') (copied : edit.Copied node copy)
    (function : node.isFunctionLike = true) :
    edit.Tracked (tracker.enterFunction node) (tracker'.enterFunction copy) := by
  have site := wraps.callbackSite? tracked copied
  have parameters := wraps.parameters copied function
  have opened := wraps.opened tracked copied function
  cases calls : tracker.callbackSite? node with
  | none =>
    rw [calls] at site
    rw [Tracker.enterFunction_eq_opened (Or.inl calls),
      Tracker.enterFunction_eq_opened (Or.inl (eq_none_of_rel_none site))]
    exact opened
  | some call =>
    rw [calls] at site
    obtain ⟨call', calls', request⟩ := exists_of_rel_some site
    cases listed : node.parameters with
    | nil =>
      rw [listed] at parameters
      have bare := List.forall₂_nil_left_iff.1 parameters
      rw [Tracker.enterFunction_eq_opened (Or.inr listed),
        Tracker.enterFunction_eq_opened (Or.inr bare)]
      exact opened
    | cons first rest =>
      rw [listed] at parameters
      obtain ⟨first', rest', copied, _, listed'⟩ := List.forall₂_cons_left_iff.1 parameters
      rw [Tracker.enterFunction_eq_bind calls listed, Tracker.enterFunction_eq_bind calls' listed',
        wraps.kind_of_copied copied]
      split
      next plain =>
        have text := wraps.text_of_kind copied (by simp [plain, wordKinds])
        exact bind opened ⟨text, rfl, request, copied⟩
      next => exact opened

/-- The field holds what comes from the same request. -/
theorem initialChild? (tracked : edit.Tracked tracker tracker') (copied : edit.Copied node copy)
    (field : String) :
    Option.Rel edit.Request ((node.child? field).bind (Node.initialSite? tracker.target))
      ((copy.child? field).bind (Node.initialSite? tracker'.target)) := by
  rw [tracked.target]
  exact rel_bind (wraps.child? copied field) fun _ _ _ stands =>
    wraps.initialSite? (wraps.reads_of_stands stands)

theorem leaveDeclarator (tracked : edit.Tracked tracker tracker') (copied : edit.Copied node copy)
    (kind : node.kind = "variable_declarator") :
    edit.Tracked (tracker.leaveDeclarator node) (tracker'.leaveDeclarator copy) := by
  have name : Option.Rel edit.Copied (node.child? "name") (copy.child? "name") :=
    wraps.closedChild? copied kind (by decide)
  have site := wraps.initialChild? tracked copied "value"
  rw [Tracker.leaveDeclarator, Tracker.leaveDeclarator]
  revert name site
  generalize node.child? "name" = name, copy.child? "name" = name',
    (node.child? "value").bind (Node.initialSite? tracker.target) = site,
    (copy.child? "value").bind (Node.initialSite? tracker'.target) = site'
  intro name site
  cases name with
  | none => exact tracked
  | @some name name' named =>
    simp only [wraps.kind_of_copied named, wraps.boundNames named]
    split
    next plain =>
      have text := wraps.text_of_kind named (by simp [plain, wordKinds])
      cases site with
      | none =>
        simp only [text]
        exact rescope tracked (tracked.scopes.set .none)
      | some request => exact bind tracked ⟨text, rfl, request, copied⟩
    next => exact rescope tracked (tracked.scopes.declareAll _)

theorem leaveAssignment (tracked : edit.Tracked tracker tracker') (copied : edit.Copied node copy)
    (kind : node.kind = "assignment_expression") :
    edit.Tracked (tracker.leaveAssignment node) (tracker'.leaveAssignment copy) := by
  have left : Option.Rel edit.Copied (node.child? "left") (copy.child? "left") :=
    wraps.closedChild? copied kind (by decide)
  have plain := rel_filter left (p := (·.kind = "identifier")) (q := (·.kind = "identifier"))
    fun _ _ copied => by rw [wraps.kind_of_copied copied]
  have site := wraps.initialChild? tracked copied "right"
  rw [Tracker.leaveAssignment, Tracker.leaveAssignment]
  revert plain site
  cases found : (node.child? "left").filter (·.kind = "identifier") with
  | none =>
    intro plain _
    rw [eq_none_of_rel_none plain]
    exact tracked
  | some name =>
    intro plain site
    obtain ⟨name', found', named⟩ := exists_of_rel_some plain
    have kind : name.kind = "identifier" := of_decide_eq_true (Option.filter_eq_some_iff.1 found).2
    have text := wraps.text_of_kind named (by simp [kind, wordKinds])
    rw [found']
    revert site
    generalize (node.child? "right").bind (Node.initialSite? tracker.target) = site,
      (copy.child? "right").bind (Node.initialSite? tracker'.target) = site'
    intro site
    cases site with
    | @some site site' request =>
      have same : edit.Bound ⟨name.text, site, .assignment, node⟩
          ⟨name'.text, site', .assignment, copy⟩ := ⟨text, rfl, request, copied⟩
      exact rebind tracked same
    | none =>
      simp only [text, tracked.scopes.declares name.text]
      split
      · exact rescope tracked (tracked.scopes.assign .none)
      · exact tracked

theorem step_enter (tracked : edit.Tracked tracker tracker') (copied : edit.Copied node copy) :
    edit.Tracked (tracker.step (.enter node)) (tracker'.step (.enter copy)) := by
  have acted : edit.Tracked (if node.isFunctionLike then tracker.enterFunction node else tracker)
      (if copy.isFunctionLike then tracker'.enterFunction copy else tracker') := by
    rw [wraps.isFunctionLike copied]
    split
    next function => exact wraps.enterFunction tracked copied function
    next => exact tracked
  exact ⟨acted.target, acted.scopes, .both (.entered copied acted.scopes) acted.history⟩

theorem step_leave (tracked : edit.Tracked tracker tracker') (copied : edit.Copied node copy)
    (owned : node.isFunctionLike = true → ∃ base base',
      tracker.scopes.owners = node :: base ∧ tracker'.scopes.owners = copy :: base') :
    edit.Tracked (tracker.step (.leave node)) (tracker'.step (.leave copy)) := by
  rw [Tracker.step, Tracker.step, wraps.isFunctionLike copied, wraps.kind_of_copied copied]
  split
  next function =>
    obtain ⟨base, base', owned, owned'⟩ := owned function
    exact rescope tracked (tracked.scopes.leave owned owned')
  next =>
    split
    next kind => exact wraps.leaveDeclarator tracked copied kind
    next =>
      split
      next kind => exact wraps.leaveAssignment tracked copied kind
      next => exact tracked

omit wraps in
theorem step_enter_aside (tracked : edit.Tracked tracker tracker') (aside : isAside node = true) :
    edit.Tracked tracker (tracker'.step (.enter node)) := by
  have plain : node.isFunctionLike = false := by
    have each : ∀ kind ∈ ["parenthesized_expression", "(", ")"], kind ∉ functionKinds := by decide
    exact decide_eq_false (each _ (of_decide_eq_true aside))
  rw [Tracker.step, plain]
  exact ⟨tracked.target, tracked.scopes, .aside aside tracked.history⟩

omit wraps in
theorem step_leave_aside (tracked : edit.Tracked tracker tracker') (aside : isAside node = true) :
    edit.Tracked tracker (tracker'.step (.leave node)) := by
  have each : ∀ kind ∈ ["parenthesized_expression", "(", ")"], kind ∉ functionKinds ∧
      kind ≠ "variable_declarator" ∧ kind ≠ "assignment_expression" := by decide
  obtain ⟨plain, declarator, assignment⟩ := each _ (of_decide_eq_true aside)
  rw [Tracker.step, if_neg declarator, if_neg assignment, Node.isFunctionLike,
    decide_eq_false plain]
  exact tracked

omit wraps in
/-- Nothing is done about tokens. -/
theorem foldl_aside {tokens : List Node} (tracked : edit.Tracked tracker tracker')
    (bare : ∀ token ∈ tokens, isAside token = true ∧ token.children = []) :
    edit.Tracked tracker ((tokens.flatMap visits).foldl Tracker.step tracker') := by
  induction tokens generalizing tracker' with
  | nil => exact tracked
  | cons token rest ih =>
    obtain ⟨aside, childless⟩ := bare token List.mem_cons_self
    rw [List.flatMap_cons, List.foldl_append, visits_eq, childless]
    refine ih ?_ fun token member => bare token (List.mem_cons_of_mem _ member)
    exact step_leave_aside (step_enter_aside tracked aside) aside

omit wraps in
theorem foldl_children {nodes places : List Node} (both : List.Forall₂ edit.Stands nodes places)
    (each : ∀ node ∈ nodes, ∀ place, edit.Stands node place → ∀ tracker tracker',
      edit.Tracked tracker tracker' → edit.Tracked (node.visits.foldl Tracker.step tracker)
        (place.visits.foldl Tracker.step tracker'))
    (tracked : edit.Tracked tracker tracker') :
    edit.Tracked ((nodes.flatMap visits).foldl Tracker.step tracker)
      ((places.flatMap visits).foldl Tracker.step tracker') := by
  induction both generalizing tracker tracker' with
  | nil => exact tracked
  | cons stands _ ih =>
    rw [List.flatMap_cons, List.flatMap_cons, List.foldl_append, List.foldl_append]
    refine ih (fun node member => each node (List.mem_cons_of_mem _ member)) ?_
    exact each _ List.mem_cons_self _ stands _ _ tracked

omit wraps in
/-- When a function ends, its own scope is in front. -/
theorem owners_inside (tracker : Tracker) (function : node.isFunctionLike = true) :
    ((node.children.flatMap visits).foldl Tracker.step
      (tracker.step (.enter node))).scopes.owners = node :: tracker.scopes.owners := by
  rw [Tracker.owners_foldl_flatMap fun inner _ tracker => Tracker.owners_foldl_visits tracker inner,
    Tracker.owners_step_enter, if_pos function]

/-- A walk through what became of a node does what a walk through the node does, if that
holds of its children. -/
theorem foldl_copied (copied : edit.Copied node copy)
    (each : ∀ inner ∈ node.children, ∀ place, edit.Stands inner place → ∀ tracker tracker',
      edit.Tracked tracker tracker' → edit.Tracked (inner.visits.foldl Tracker.step tracker)
        (place.visits.foldl Tracker.step tracker'))
    (tracked : edit.Tracked tracker tracker') :
    edit.Tracked (node.visits.foldl Tracker.step tracker)
      (copy.visits.foldl Tracker.step tracker') := by
  rw [visits_eq, visits_eq, List.cons_append, List.cons_append, List.foldl_cons, List.foldl_cons,
    List.foldl_append, List.foldl_append]
  have inside := foldl_children (wraps.children copied) each (wraps.step_enter tracked copied)
  refine wraps.step_leave inside copied fun function => ?_
  have function' := (wraps.isFunctionLike copied).trans function
  exact ⟨_, _, owners_inside tracker function, owners_inside tracker' function'⟩

theorem foldl_visits (stands : edit.Stands node place) (tracked : edit.Tracked tracker tracker') :
    edit.Tracked (node.visits.foldl Tracker.step tracker)
      (place.visits.foldl Tracker.step tracker') := by
  induction node using downward generalizing place tracker tracker' with
  | step node ih =>
    have each : ∀ inner ∈ node.children, ∀ place, edit.Stands inner place → ∀ tracker tracker',
        edit.Tracked tracker tracker' → edit.Tracked (inner.visits.foldl Tracker.step tracker)
          (place.visits.foldl Tracker.step tracker') :=
      fun inner member place stands tracker tracker' tracked => ih inner member stands tracked
    by_cases same : node = edit.expr
    · subst same
      obtain ⟨inner, copied, only, _⟩ := wraps.exists_inner stands
      have parentheses := wraps.parentheses place stands
      have aside : isAside place = true := by simp [isAside, parentheses.kind]
      obtain ⟨before, after, children, first, _, last⟩ := List.filter_eq_cons_iff.1 only
      have token {token : Node} (member : token ∈ place.children) (bare : ¬ token.named = true) :
          isAside token = true ∧ token.children = [] := by
        obtain ⟨kind, childless⟩ := parentheses.tokens token member (by simpa using bare)
        exact ⟨decide_eq_true (List.mem_cons_of_mem _ kind), childless⟩
      rw [visits_eq place, List.cons_append, List.foldl_cons, List.foldl_append, children,
        List.flatMap_append, List.flatMap_cons, List.foldl_append, List.foldl_append]
      refine step_leave_aside (foldl_aside ?_ fun other member => ?_) aside
      · refine wraps.foldl_copied copied each (foldl_aside (step_enter_aside tracked aside) ?_)
        intro other member
        exact token (by simp [children, member]) (first other member)
      · exact token (by simp [children, member]) (List.filter_eq_nil_iff.1 last other member)
    · exact wraps.foldl_copied (stands.copied same) each tracked

theorem walk (target : String) :
    edit.Tracked (Tracker.walk target (root edit.old)) (Tracker.walk target (root edit.new)) := by
  rw [Tracker.walk_eq_reached, Tracker.walk_eq_reached]
  refine wraps.foldl_visits .root ⟨rfl, ?_, .nil⟩
  intro name
  exact .cons .none .nil

end Parenthesises
end Edit
end RequestLint
