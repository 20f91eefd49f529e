import RequestLint.Proofs.Scope.Nesting

/-! When a declarator or an assignment takes effect. It binds its name on being left,
and a node is left after everything in it was entered and left. So whatever is read
on the way, also in a function further in, stands for what was bound by something
that is over already, and never for what is just being bound. -/
namespace RequestLint

/-- The kind of node that such a binding is made by. -/
def BindingKind.originKind : BindingKind → String
  | declaration => "variable_declarator"
  | assignment => "assignment_expression"
  | callback => "identifier"

namespace Node

variable {tree : Tree} {node outer : Node}

theorem enter_mem_visits (below : node ∈ outer.preorder) : .enter node ∈ outer.visits := by
  rw [← filterMap_entered?_visits, List.mem_filterMap] at below
  obtain ⟨visit, member, same⟩ := below
  cases visit with
  | enter other =>
    cases same
    exact member
  | leave other => cases same

/-- When a node is entered, neither it nor anything around it was left before: all that lies
in a node is entered before that node is left. -/
theorem leave_not_mem_before {before after : List Visit}
    (split : (root tree).visits = before ++ .enter node :: after)
    (around : outer ∈ node :: node.ancestors) : .leave outer ∉ before := by
  intro ended
  obtain ⟨first, second, rfl⟩ := List.append_of_mem ended
  have once := nodup_visits (root tree)
  rw [List.append_assoc, List.cons_append] at split
  obtain ⟨_, walked⟩ := before_leave split
  have sooner : .enter node ∈ first := by
    have entered := enter_mem_visits (mem_preorder_iff.2 around)
    rw [visits_eq, List.mem_append, List.mem_singleton] at entered
    rw [walked]
    exact List.mem_append_right _ (entered.resolve_right nofun)
  rw [split, List.nodup_append] at once
  exact once.2.2 _ sooner _ (by simp) rfl

end Node

namespace Tracker
open Node

variable {target : String} {tree : Tree} {tracker : Tracker} {node : Node} {scopes : Scopes}
  {binding : Binding} {visit : Visit}

/-- The visit can have made the binding. All but those of parameters are made on leaving
what they originate from. -/
structure MadeBy (binding : Binding) (visit : Visit) : Prop where
  kind : binding.origin.kind = binding.kind.originKind
  ended : binding.kind ≠ .callback → visit = .leave binding.origin

theorem bound_mem_enterFunction {function : Node}
    (made : .bound binding ∈ (tracker.enterFunction function).history) :
    .bound binding ∈ tracker.history ∨ MadeBy binding (.enter function) := by
  rcases enterFunction_cases tracker function with same | ⟨first, _, plain, site, _, same⟩
  · rw [same] at made
    exact Or.inl made
  · rw [same] at made
    cases made with
    | head => exact Or.inr ⟨plain, fun other => absurd rfl other⟩
    | tail _ sooner => exact Or.inl sooner

theorem bound_mem_leave (made : .bound binding ∈ (tracker.step (.leave node)).history) :
    .bound binding ∈ tracker.history ∨ MadeBy binding (.leave node) := by
  rw [step] at made
  split at made
  · exact Or.inl made
  split at made
  next declarator =>
    rcases leaveDeclarator_cases tracker node with same | ⟨_, _, _, _, _, _, same⟩
    · rw [same] at made
      exact Or.inl made
    · rw [same] at made
      cases made with
      | head => exact Or.inr ⟨declarator, fun _ => rfl⟩
      | tail _ sooner => exact Or.inl sooner
  split at made
  next assignment =>
    rcases leaveAssignment_cases tracker node with same | ⟨_, same⟩ | ⟨_, _, _, _, _, same⟩
    · rw [same] at made
      exact Or.inl made
    · rw [same] at made
      exact Or.inl made
    · rw [same] at made
      cases made with
      | head => exact Or.inr ⟨assignment, fun _ => rfl⟩
      | tail _ sooner => exact Or.inl sooner
  · exact Or.inl made

theorem bound_mem_step (made : .bound binding ∈ (tracker.step visit).history) :
    .bound binding ∈ tracker.history ∨ MadeBy binding visit := by
  cases visit with
  | enter node =>
    rw [step] at made
    cases made with
    | tail _ made =>
      split at made
      · exact bound_mem_enterFunction made
      · exact Or.inl made
  | leave node => exact bound_mem_leave made

theorem bound_mem_foldl {visits : List Visit}
    (made : .bound binding ∈ (visits.foldl step tracker).history) :
    .bound binding ∈ tracker.history ∨ ∃ visit ∈ visits, MadeBy binding visit := by
  induction visits generalizing tracker with
  | nil => exact Or.inl made
  | cons visit rest ih =>
    rcases ih made with sooner | ⟨later, member, by_later⟩
    · refine (bound_mem_step sooner).imp_right fun by_first => ?_
      exact ⟨visit, List.mem_cons_self, by_first⟩
    · exact Or.inr ⟨later, List.mem_cons_of_mem _ member, by_later⟩

/-- What the scopes hold after some visits was made by one of them. -/
theorem madeBy_of_view {visits rest : List Visit} {name : String}
    (split : (root tree).visits = visits ++ rest)
    (held : some (some binding) ∈ (reached target visits).scopes.view name) :
    ∃ visit ∈ visits, MadeBy binding visit := by
  have recorded := ((traced_reached target split).known name binding held).2
  exact (bound_mem_foldl recorded).resolve_left nofun

/-- The scopes that can be read while a node is entered, after the visits `before`: those
that the tracker finds, and those that it leaves to be observed. -/
def ReadOnEntering (target : String) (tree : Tree) (before : List Visit) (node : Node)
    (scopes : Scopes) : Prop :=
  scopes = (reached target before).scopes ∨
    .entered node scopes ∈ (walk target (root tree)).history

variable {before after : List Visit}

theorem madeBy_of_readOnEntering {name : String}
    (split : (root tree).visits = before ++ .enter node :: after)
    (read : ReadOnEntering target tree before node scopes)
    (held : some (some binding) ∈ scopes.view name) :
    ∃ visit ∈ before ++ [.enter node], MadeBy binding visit := by
  rcases read with rfl | seen
  · obtain ⟨visit, member, made⟩ := madeBy_of_view split held
    exact ⟨visit, List.mem_append_left _ member, made⟩
  · have reads : scopes = (reached target (before ++ [.enter node])).scopes := by
      rw [(observed seen).2, (prior_of_visits split).2, reached_append]
      rfl
    rw [List.append_cons] at split
    rw [reads] at held
    exact madeBy_of_view split held

/-- Whatever made a binding that can be read on entering a node is over, apart from a
function that hands a response to its parameter. -/
theorem ended_of_readOnEntering {name : String}
    (split : (root tree).visits = before ++ .enter node :: after)
    (read : ReadOnEntering target tree before node scopes)
    (held : some (some binding) ∈ scopes.view name) :
    binding.origin.kind = binding.kind.originKind ∧
      (binding.kind ≠ .callback → .leave binding.origin ∈ before) := by
  obtain ⟨visit, member, made⟩ := madeBy_of_readOnEntering split read held
  refine ⟨made.kind, fun other => ?_⟩
  rw [made.ended other, List.mem_append, List.mem_singleton] at member
  exact member.resolve_right nofun

theorem origin_ne_of_readOnEntering {name : String} {owner : Node}
    (split : (root tree).visits = before ++ .enter node :: after)
    (read : ReadOnEntering target tree before node scopes)
    (around : owner ∈ node :: node.ancestors)
    (binds : owner.kind ∈ ["variable_declarator", "assignment_expression"])
    (held : some (some binding) ∈ scopes.view name) : binding.origin ≠ owner := by
  rintro rfl
  obtain ⟨kind, ended⟩ := ended_of_readOnEntering split read held
  refine leave_not_mem_before split around (ended fun callback => ?_)
  rw [kind, callback] at binds
  exact absurd binds (by decide)

/-- Reads see what was bound before. Whenever a node is entered, each binding that some
scope holds, those of parameters apart, was made by a declarator or an assignment that
the walk has left, which is therefore not around the node. So inside a declarator or
an assignment, however deep and in whatever function, no name stands for what this
declarator or assignment binds: an expression there is a request itself, or it stands
for one through a binding of another origin. -/
theorem initial_values_see_earlier_bindings
    (split : (root tree).visits = before ++ .enter node :: after)
    (read : ReadOnEntering target tree before node scopes) :
    (∀ layer ∈ scopes.layers, ∀ name binding, layer.get? name = some (some binding) →
      binding.kind ≠ .callback →
      binding.origin.kind = binding.kind.originKind ∧ .leave binding.origin ∈ before ∧
        binding.origin ∉ node :: node.ancestors) ∧
    ∀ owner ∈ node :: node.ancestors,
      owner.kind ∈ ["variable_declarator", "assignment_expression"] →
      (∀ name binding, scopes.lookup name = some binding → binding.origin ≠ owner) ∧
      ∀ expression site, scopes.resolve? target expression = some site →
        ∃ value, expression.unwrapAwait = some value ∧
          (value.isTargetCall target = true ∧ value = site ∨
            value.kind = "identifier" ∧ ∃ binding,
              scopes.lookup value.text = some binding ∧ binding.site = site ∧
                binding.origin ≠ owner) := by
  constructor
  · intro layer open_now name binding known other
    have held : some (some binding) ∈ scopes.view name :=
      List.mem_map.2 ⟨layer, open_now, known⟩
    obtain ⟨kind, ended⟩ := ended_of_readOnEntering split read held
    exact ⟨kind, ended other, fun around => leave_not_mem_before split around (ended other)⟩
  · intro owner around binds
    have elsewhere (name : String) (binding : Binding)
        (found : scopes.lookup name = some binding) : binding.origin ≠ owner :=
      origin_ne_of_readOnEntering split read around binds (Scopes.mem_view_of_lookup found)
    refine ⟨elsewhere, fun expression site resolved => ?_⟩
    obtain ⟨value, opened, itself | ⟨named, binding, found, same⟩⟩ :=
      Scopes.resolve?_eq_some_iff.1 resolved
    · exact ⟨value, opened, Or.inl itself⟩
    · exact ⟨value, opened, Or.inr ⟨named, binding, found, same, elsewhere _ _ found⟩⟩

/-- An assignment to a name whose new value reads the name in a function. -/
def selfReading.source : Bytes := Utf8.encode "let r = fetch(); r = fetch().then(() => r);"

def selfReading : Tree :=
  (Tree.ofOutline? selfReading.source
    [⟨"program", true, false, "", 0, 43, 2⟩,
      ⟨"lexical_declaration", true, false, "", 0, 16, 3⟩,
      ⟨"let", false, false, "kind", 0, 3, 0⟩,
      ⟨"variable_declarator", true, false, "", 4, 15, 3⟩,
      ⟨"identifier", true, false, "name", 4, 5, 0⟩,
      ⟨"=", false, false, "", 6, 7, 0⟩,
      ⟨"call_expression", true, false, "value", 8, 15, 2⟩,
      ⟨"identifier", true, false, "function", 8, 13, 0⟩,
      ⟨"arguments", true, false, "arguments", 13, 15, 2⟩,
      ⟨"(", false, false, "", 13, 14, 0⟩,
      ⟨")", false, false, "", 14, 15, 0⟩,
      ⟨";", false, false, "", 15, 16, 0⟩,
      ⟨"expression_statement", true, false, "", 17, 43, 2⟩,
      ⟨"assignment_expression", true, false, "", 17, 42, 3⟩,
      ⟨"identifier", true, false, "left", 17, 18, 0⟩,
      ⟨"=", false, false, "", 19, 20, 0⟩,
      ⟨"call_expression", true, false, "right", 21, 42, 2⟩,
      ⟨"member_expression", true, false, "function", 21, 33, 3⟩,
      ⟨"call_expression", true, false, "object", 21, 28, 2⟩,
      ⟨"identifier", true, false, "function", 21, 26, 0⟩,
      ⟨"arguments", true, false, "arguments", 26, 28, 2⟩,
      ⟨"(", false, false, "", 26, 27, 0⟩,
      ⟨")", false, false, "", 27, 28, 0⟩,
      ⟨".", false, false, "", 28, 29, 0⟩,
      ⟨"property_identifier", true, false, "property", 29, 33, 0⟩,
      ⟨"arguments", true, false, "arguments", 33, 42, 3⟩,
      ⟨"(", false, false, "", 33, 34, 0⟩,
      ⟨"arrow_function", true, false, "", 34, 41, 3⟩,
      ⟨"formal_parameters", true, false, "parameters", 34, 36, 2⟩,
      ⟨"(", false, false, "", 34, 35, 0⟩,
      ⟨")", false, false, "", 35, 36, 0⟩,
      ⟨"=>", false, false, "", 37, 39, 0⟩,
      ⟨"identifier", true, false, "body", 40, 41, 0⟩,
      ⟨")", false, false, "", 41, 42, 0⟩,
      ⟨";", false, false, "", 42, 43, 0⟩]).getD (Tree.blank selfReading.source)

/-- In the function, the name still stands for the response that it was declared with,
though the assignment around binds it to another. -/
theorem initial_values_see_earlier_bindings_selfReading :
    ∃ node ∈ (root selfReading).preorder, ∃ scopes,
      .entered node scopes ∈ (walk "fetch" (root selfReading)).history ∧
      ∃ function ∈ node.ancestors, function.isFunctionLike = true ∧
        ∃ owner ∈ function.ancestors, owner.kind = "assignment_expression" ∧
          ((walk "fetch" (root selfReading)).bindings.map fun binding =>
            (binding.name, binding.origin == owner, binding.site.start)) =
              [("r", false, 8), ("r", true, 21)] ∧
          ∃ binding, scopes.lookup "r" = some binding ∧ binding.site.start = 8 ∧
            binding.origin ≠ owner := by
  have given : ∃ node ∈ (root selfReading).preorder,
      ∃ function ∈ node.ancestors, function.isFunctionLike = true ∧
        ∃ owner ∈ function.ancestors, owner.kind = "assignment_expression" ∧
          ((walk "fetch" (root selfReading)).bindings.map fun binding =>
            (binding.name, binding.origin == owner, binding.site.start)) =
              [("r", false, 8), ("r", true, 21)] ∧
          ((reached "fetch" (node.prior ++ [.enter node])).scopes.lookup "r").any
            (·.site.start = 8) = true := by
    decide +kernel
  obtain ⟨node, listed, function, inside, kind, owner, around, assigns, made, found⟩ := given
  obtain ⟨binding, found, start⟩ := (Option.any_eq_true _ _).1 found
  obtain ⟨after, split⟩ := visits_split listed
  rw [visits_eq node, List.cons_append, List.cons_append] at split
  obtain ⟨scopes, seen⟩ := @exists_entered "fetch" node (root selfReading) listed
  have reads : scopes = (reached "fetch" (node.prior ++ [.enter node])).scopes := by
    rw [(observed seen).2, reached_append]
    rfl
  rw [← reads] at found
  have other := ((initial_values_see_earlier_bindings split (Or.inr seen)).2 owner
    (List.mem_cons_of_mem _ (mem_ancestors_trans inside around)) (by simp [assigns])).1
      "r" binding found
  exact ⟨node, listed, scopes, seen, function, inside, kind, owner, around, assigns, made,
    binding, found, of_decide_eq_true start, other⟩

end Tracker
end RequestLint
