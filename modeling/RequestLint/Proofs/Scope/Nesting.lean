import RequestLint.Proofs.Scope.Tracking

/-! The scopes that are open while a tree is walked. Entering a function opens one,
and leaving it closes one; between the two, everything below the function is walked
through, which leaves the scopes around it where they are. So whenever a node is
entered, the open scopes are those of the functions around it, and the scope in
front is that of the function which ends next. -/
namespace RequestLint

namespace Node

variable {tree : Tree} {node : Node}

/-- The functions that a node lies in, itself included, innermost first. -/
def functionsAround (node : Node) : List Node := (node :: node.ancestors).filter isFunctionLike

/-- A walk makes no visit twice. -/
theorem nodup_visits (node : Node) : node.visits.Nodup := by
  induction node using downward with
  | step node ih =>
    have distinct := nodup_preorder node
    rw [preorder_eq, List.nodup_cons, List.nodup_flatMap] at distinct
    obtain ⟨below, _, apart⟩ := distinct
    have lower {visit : Visit} (member : visit ∈ node.children.flatMap visits) :
        visit.node ≠ node := by
      obtain ⟨inner, child, member⟩ := List.mem_flatMap.1 member
      intro same
      exact below (List.mem_flatMap.2 ⟨inner, child, same ▸ node_mem_of_visits member⟩)
    have inside : (node.children.flatMap visits).Nodup := by
      refine List.nodup_flatMap.2 ⟨ih, apart.imp ?_⟩
      intro first second disjoint visit one other
      exact disjoint (node_mem_of_visits one) (node_mem_of_visits other)
    rw [visits_eq, List.cons_append, List.nodup_cons, List.nodup_append]
    refine ⟨?_, inside, List.nodup_singleton _, ?_⟩
    · intro again
      rcases List.mem_append.1 again with member | last
      · exact lower member rfl
      · cases List.mem_singleton.1 last
    · intro visit member other last same
      rw [List.mem_singleton] at last
      subst last same
      exact lower member rfl

/-- A walk leaves a node once, after it went through all that is below. -/
theorem before_leave {before after : List Visit}
    (split : (root tree).visits = before ++ .leave node :: after) :
    node ∈ (root tree).preorder ∧
      before = node.prior ++ .enter node :: node.children.flatMap visits := by
  have listed : node ∈ (root tree).preorder := by
    have member : Visit.leave node ∈ (root tree).visits := by simp [split]
    exact node_mem_of_visits member
  obtain ⟨rest, again⟩ := visits_split listed
  have distinct := nodup_visits (root tree)
  rw [split, List.nodup_append] at distinct
  obtain ⟨_, once, apart⟩ := distinct
  have same : before ++ .leave node :: after =
      (node.prior ++ .enter node :: node.children.flatMap visits) ++ .leave node :: rest := by
    rw [← split, again, visits_eq]
    simp
  refine ⟨listed, ((List.append_cons_inj_of_notMem ?_ ?_).1 same).1⟩
  · intro earlier
    exact apart _ earlier _ List.mem_cons_self rfl
  · exact (List.nodup_cons.1 once).1

end Node

namespace Scopes

variable {scopes : Scopes}

theorem owners_declareAll (names : List String) :
    (scopes.declareAll names).owners = scopes.owners := by
  induction names generalizing scopes with
  | nil => rfl
  | cons name names ih => exact ih.trans owners_set

end Scopes

namespace Tracker
open Node

variable {tree : Tree} {tracker : Tracker} {node : Node} {owners : List Node}

/-- The tracker once a walk has made some visits. -/
def reached (target : String) (visits : List Visit) : Tracker :=
  visits.foldl step { target := target }

theorem reached_append (target : String) (before after : List Visit) :
    reached target (before ++ after) = after.foldl step (reached target before) :=
  List.foldl_append

theorem walk_eq_reached (target : String) (root : Node) :
    walk target root = reached target root.visits := Walk.fold_eq_foldl _ _ _

theorem traced_reached (target : String) {before after : List Visit}
    (split : (root tree).visits = before ++ after) :
    Traced target tree (reached target before) := by
  refine Traced.foldl ⟨rfl, ?_, ?_, ?_⟩ ?_
  · intro name binding member
    cases List.mem_singleton.1 member
  · intro node scopes seen
    cases seen
  · intro binding member
    cases member
  · intro visit member
    exact node_mem_of_visits (split ▸ List.mem_append_left after member)

theorem owners_enterFunction (tracker : Tracker) (function : Node) :
    (tracker.enterFunction function).scopes.owners = function :: tracker.scopes.owners := by
  have opened : (tracker.opened function).scopes.owners = function :: tracker.scopes.owners :=
    Scopes.owners_declareAll _
  rcases enterFunction_cases tracker function with same | ⟨_, _, _, _, _, same⟩
  · rw [same, opened]
  · rw [same, ← opened]
    exact Scopes.owners_set

theorem owners_step_enter (tracker : Tracker) (node : Node) :
    (tracker.step (.enter node)).scopes.owners =
      if node.isFunctionLike then node :: tracker.scopes.owners else tracker.scopes.owners := by
  rw [step]
  split
  · exact owners_enterFunction tracker node
  · rfl

/-- Only the end of a function closes a scope. -/
theorem owners_step_leave (plain : node.isFunctionLike = false) :
    (tracker.step (.leave node)).scopes.owners = tracker.scopes.owners := by
  rw [step, if_neg (by simp [plain])]
  split
  · rcases leaveDeclarator_cases tracker node with same | ⟨_, _, _, _, _, _, same⟩
    · rw [same]
      exact Scopes.owners_declareAll _
    · rw [same]
      exact Scopes.owners_set
  · split
    · rcases leaveAssignment_cases tracker node with same | ⟨_, same⟩ | ⟨_, _, _, _, _, same⟩
      · rw [same]
      · rw [same]
        exact Scopes.owners_assign
      · rw [same]
        exact Scopes.owners_assign
    · rfl

/-- A function that ends closes the scope in front, if that is its own. -/
theorem step_leave_function {entries : Entries} {outer : List FunctionScope}
    (function : node.isFunctionLike = true)
    (front : tracker.scopes.functions = ⟨node, entries⟩ :: outer) :
    (tracker.step (.leave node)).scopes.functions = outer := by
  simp [step, function, Scopes.leave, front, sameSite_self]

theorem exists_front (owned : tracker.scopes.owners = node :: owners) :
    ∃ entries outer, tracker.scopes.functions = ⟨node, entries⟩ :: outer ∧
      outer.map FunctionScope.owner = owners := by
  rw [Scopes.owners] at owned
  obtain ⟨⟨owner, entries⟩, outer, front, rfl, rest⟩ := List.map_eq_cons_iff.1 owned
  exact ⟨entries, outer, front, rest⟩

/-- What a walk through each of some nodes keeps, a walk through all of them keeps. -/
theorem keeps_foldl_flatMap {β : Type} (quantity : Tracker → β) {nodes : List Node}
    (each : ∀ node ∈ nodes, ∀ tracker : Tracker,
      quantity (node.visits.foldl step tracker) = quantity tracker) :
    quantity ((nodes.flatMap visits).foldl step tracker) = quantity tracker := by
  induction nodes generalizing tracker with
  | nil => rfl
  | cons first rest ih =>
    rw [List.flatMap_cons, List.foldl_append, ih fun node member =>
      each node (List.mem_cons_of_mem _ member)]
    exact each first List.mem_cons_self tracker

/-- What is open after a walk through nodes is what was open before. -/
theorem owners_foldl_flatMap {nodes : List Node}
    (each : ∀ node ∈ nodes, ∀ tracker : Tracker,
      (node.visits.foldl step tracker).scopes.owners = tracker.scopes.owners) :
    ((nodes.flatMap visits).foldl step tracker).scopes.owners = tracker.scopes.owners :=
  keeps_foldl_flatMap (fun tracker => tracker.scopes.owners) each

theorem owners_foldl_visits (tracker : Tracker) (node : Node) :
    (node.visits.foldl step tracker).scopes.owners = tracker.scopes.owners := by
  induction node using downward generalizing tracker with
  | step node ih =>
    rw [visits_eq, List.cons_append, List.foldl_cons, List.foldl_append]
    have inside : ((node.children.flatMap visits).foldl step
        (tracker.step (.enter node))).scopes.owners = (tracker.step (.enter node)).scopes.owners :=
      owners_foldl_flatMap fun inner child tracker => ih inner child tracker
    rw [owners_step_enter tracker] at inside
    cases kind : node.isFunctionLike with
    | true =>
      rw [if_pos kind] at inside
      obtain ⟨entries, outer, front, rest⟩ := exists_front inside
      exact (congrArg _ (step_leave_function kind front)).trans rest
    | false =>
      rw [if_neg (by simp [kind])] at inside
      exact (owners_step_leave kind).trans inside

/-- Up to a node, a walk has opened the scopes of the functions around it, and closed
all others. -/
theorem owners_prior (target : String) (node : Node) :
    (reached target node.prior).scopes.owners = node.ancestors.filter isFunctionLike := by
  induction node using upward with
  | root node top =>
    rw [prior_of_root top, ancestors_of_root top]
    rfl
  | step node parent found ih =>
    obtain ⟨earlier, later, children⟩ := List.append_of_mem (mem_children_iff.2 found)
    rw [prior_of_split children, reached_append, List.foldl_cons,
      owners_foldl_flatMap fun inner _ tracker => owners_foldl_visits tracker inner,
      owners_step_enter, ih, ancestors_of_parent? found, List.filter_cons]

theorem owners_entered (target : String) (node : Node) :
    ((reached target node.prior).step (.enter node)).scopes.owners = node.functionsAround := by
  rw [owners_step_enter, owners_prior, functionsAround, List.filter_cons]

/-- When a function ends, its scope is in front. -/
theorem front_of_leave (target : String) {before after : List Visit}
    (split : (root tree).visits = before ++ .leave node :: after)
    (function : node.isFunctionLike = true) :
    ∃ entries outer, (reached target before).scopes.functions = ⟨node, entries⟩ :: outer := by
  have owned : (reached target before).scopes.owners = node.functionsAround := by
    rw [(before_leave split).2, reached_append, List.foldl_cons,
      owners_foldl_flatMap fun inner _ tracker => owners_foldl_visits tracker inner,
      owners_entered]
  rw [functionsAround, List.filter_cons, if_pos function] at owned
  obtain ⟨entries, outer, front, _⟩ := exists_front owned
  exact ⟨entries, outer, front⟩

/-- Every node of a tree is observed on entering it, and each time the open scopes
are those of the functions it lies in, one for each, innermost first, in front of
that of the unit. A function that ends finds its own scope in front and takes it
away, so that after the walk only the scope of the unit is left. -/
theorem scopes_follow_functions (target : String) (tree : Tree) :
    walk target (root tree) = reached target (root tree).visits ∧
      (∀ node ∈ (root tree).preorder,
        ∃ scopes, .entered node scopes ∈ (walk target (root tree)).history) ∧
      (∀ node scopes, .entered node scopes ∈ (walk target (root tree)).history →
        scopes.owners = node.functionsAround) ∧
      (∀ before function after, (root tree).visits = before ++ .leave function :: after →
        function.isFunctionLike = true →
        ∃ entries outer,
          (reached target before).scopes.functions = ⟨function, entries⟩ :: outer ∧
          (reached target (before ++ [.leave function])).scopes.functions = outer) ∧
      (walk target (root tree)).scopes.functions = [] := by
  have walked := walk_eq_reached target (root tree)
  refine ⟨walked, fun node listed => exists_entered listed, ?_, ?_, ?_⟩
  · intro node scopes seen
    rw [(observed seen).2]
    exact owners_entered target node
  · intro before function after split kind
    obtain ⟨entries, outer, front⟩ := front_of_leave target split kind
    refine ⟨entries, outer, front, ?_⟩
    rw [reached_append]
    exact step_leave_function kind front
  · have balanced : (walk target (root tree)).scopes.owners = [] := by
      rw [walked]
      exact owners_foldl_visits { target := target } (root tree)
    exact List.map_eq_nil_iff.1 balanced

end Tracker
end RequestLint
