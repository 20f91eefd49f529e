import RequestLint.Scope.Block
import RequestLint.Proofs.Scope.Nesting

/-! What a function leaves alone. Inside a function, names are declared and bound in
the scope in front, which is that of the function or of one further in; only an
assignment writes further out, and it writes the name that it assigns. So what the
scopes around a function know of any other name is the same before and after it. -/
namespace RequestLint

namespace Scopes

variable {scopes : Scopes} {name other : String} {bound : Option Binding}

theorem tail_view_set :
    ((scopes.set name bound).view other).tail = (scopes.view other).tail := by
  rw [view_set]
  split
  · rfl
  · rfl

theorem tail_view_declareAll (names : List String) :
    ((scopes.declareAll names).view other).tail = (scopes.view other).tail := by
  induction names generalizing scopes with
  | nil => rfl
  | cons first names ih => exact ih.trans tail_view_set

end Scopes

namespace Tracker
open Node

variable {tree : Tree} {tracker : Tracker} {node function : Node} {name : String}

/-- A function adds a scope of its own, and declares and binds its parameters there. -/
theorem tail_view_enterFunction (tracker : Tracker) (function : Node) (name : String) :
    ((tracker.enterFunction function).scopes.view name).tail = tracker.scopes.view name := by
  have opened : ((tracker.opened function).scopes.view name).tail = tracker.scopes.view name :=
    Scopes.tail_view_declareAll _
  rcases enterFunction_cases tracker function with same | ⟨_, _, _, _, _, same⟩
  · rw [same, opened]
  · rw [same, ← opened]
    exact Scopes.tail_view_set

theorem tail_view_leaveDeclarator (tracker : Tracker) (declarator : Node) (name : String) :
    ((tracker.leaveDeclarator declarator).scopes.view name).tail =
      (tracker.scopes.view name).tail := by
  rcases leaveDeclarator_cases tracker declarator with same | ⟨_, _, _, _, _, _, same⟩
  · rw [same]
    exact Scopes.tail_view_declareAll _
  · rw [same]
    exact Scopes.tail_view_set

/-- An assignment is of no concern to other names. -/
theorem view_leaveAssignment (kind : node.kind = "assignment_expression")
    (unassigned : node.assigns name = false) :
    (tracker.leaveAssignment node).scopes.view name = tracker.scopes.view name := by
  rw [leaveAssignment]
  split
  · rfl
  next left found =>
    rw [Option.filter_eq_some_iff, decide_eq_true_eq] at found
    obtain ⟨held, plain⟩ := found
    have differ : left.text ≠ name := by
      intro same
      simp [assigns, kind, held, isName, plain, same] at unassigned
    have kept (bound : Option Binding) :
        (tracker.scopes.assign left.text bound).view name = tracker.scopes.view name := by
      rw [Scopes.view_assign, if_neg differ]
    split
    · exact kept _
    · split
      · exact kept none
      · rfl

theorem tail_view_step_leave (plain : node.isFunctionLike = false)
    (unassigned : node.assigns name = false) :
    ((tracker.step (.leave node)).scopes.view name).tail = (tracker.scopes.view name).tail := by
  rw [step, if_neg (by simp [plain])]
  split
  · exact tail_view_leaveDeclarator tracker node name
  · split
    next kind => rw [view_leaveAssignment kind unassigned]
    · rfl

/-- A function that ends takes the scope in front away. -/
theorem view_step_leave_function {outer : List Node} (kind : node.isFunctionLike = true)
    (owned : tracker.scopes.owners = node :: outer) :
    (tracker.step (.leave node)).scopes.view name = (tracker.scopes.view name).tail := by
  rw [step, if_pos kind]
  exact (Scopes.leave_of_owners owned).2

/-- Walking through a function and all that is below leaves each scope around it as
it was; walking through any other node may write in the scope in front. -/
theorem view_foldl_visits (tracker : Tracker) (node : Node)
    (unassigned : ∀ inner ∈ node.preorder, inner.assigns name = false) :
    ((node.visits.foldl step tracker).scopes.view name).tail = (tracker.scopes.view name).tail ∧
      (node.isFunctionLike = true →
        (node.visits.foldl step tracker).scopes.view name = tracker.scopes.view name) := by
  induction node using downward generalizing tracker with
  | step node ih =>
    rw [visits_eq, List.cons_append, List.foldl_cons, List.foldl_append]
    have inside : (((node.children.flatMap visits).foldl step
        (tracker.step (.enter node))).scopes.view name).tail =
          ((tracker.step (.enter node)).scopes.view name).tail := by
      refine keeps_foldl_flatMap (fun tracker => (tracker.scopes.view name).tail) ?_
      intro inner child tracker
      refine (ih inner child tracker fun lower listed => unassigned lower ?_).1
      rw [preorder_eq]
      exact List.mem_cons_of_mem _ (List.mem_flatMap.2 ⟨inner, child, listed⟩)
    cases kind : node.isFunctionLike with
    | true =>
      have entered : ((tracker.step (.enter node)).scopes.view name).tail =
          tracker.scopes.view name := by
        rw [step, if_pos kind]
        exact tail_view_enterFunction tracker node name
      have owned : ((node.children.flatMap visits).foldl step
          (tracker.step (.enter node))).scopes.owners = node :: tracker.scopes.owners := by
        rw [owners_foldl_flatMap fun inner _ tracker => owners_foldl_visits tracker inner,
          owners_step_enter, if_pos kind]
      have restored := (view_step_leave_function kind owned).trans (inside.trans entered)
      exact ⟨congrArg List.tail restored, fun _ => restored⟩
    | false =>
      have entered : (tracker.step (.enter node)).scopes = tracker.scopes := by
        rw [step, if_neg (by simp [kind])]
      rw [entered] at inside
      refine ⟨?_, fun function => absurd function Bool.false_ne_true⟩
      exact (tail_view_step_leave kind (unassigned node (self_mem_preorder node))).trans inside

/-- Every function of a tree is entered and left once in a walk. The scopes that are
open before are open afterwards, and each of them knows of a name what it knew
before, be it nothing, a declaration or a binding, unless the name is assigned
somewhere in the function. -/
theorem functions_keep_outer_entries (target : String) (tree : Tree) (function : Node)
    (listed : function ∈ (root tree).preorder) (kind : function.isFunctionLike = true) :
    (∃ before inside after,
      (root tree).visits = before ++ .enter function :: (inside ++ .leave function :: after)) ∧
    ∀ before inside after,
      (root tree).visits = before ++ .enter function :: (inside ++ .leave function :: after) →
      ∀ entering left, entering = reached target before →
        left = reached target (before ++ .enter function :: (inside ++ [.leave function])) →
        left.scopes.owners = entering.scopes.owners ∧
          ∀ name, (∀ node ∈ function.preorder, node.assigns name = false) →
            left.scopes.view name = entering.scopes.view name := by
  constructor
  · obtain ⟨after, split⟩ := visits_split listed
    refine ⟨function.prior, function.children.flatMap visits, after, ?_⟩
    rw [split, visits_eq]
    simp
  · rintro before inside after split _ _ rfl rfl
    have again : (root tree).visits = (before ++ .enter function :: inside) ++
        .leave function :: after := by
      rw [split]
      simp
    have prior := (prior_of_visits split).2
    have below := (before_leave again).2
    rw [prior, List.append_cancel_left_eq, List.cons.injEq] at below
    have whole : .enter function :: (inside ++ [.leave function]) = function.visits := by
      rw [visits_eq, below.2]
      rfl
    rw [reached_append, whole]
    refine ⟨owners_foldl_visits _ function, fun name unassigned => ?_⟩
    exact (view_foldl_visits _ function unassigned).2 kind

/-- A response, and a second one that is handed to a callback under the same name. -/
def shadowingCallback.source : Bytes :=
  Utf8.encode "const r = fetch();\nfetch().then(r => \x7b const s = r; \x7d);"

def shadowingCallback : Tree :=
  (Tree.ofOutline? shadowingCallback.source
    [⟨"program", true, false, "", 0, 55, 2⟩,
      ⟨"lexical_declaration", true, false, "", 0, 18, 3⟩,
      ⟨"const", false, false, "kind", 0, 5, 0⟩,
      ⟨"variable_declarator", true, false, "", 6, 17, 3⟩,
      ⟨"identifier", true, false, "name", 6, 7, 0⟩,
      ⟨"=", false, false, "", 8, 9, 0⟩,
      ⟨"call_expression", true, false, "value", 10, 17, 2⟩,
      ⟨"identifier", true, false, "function", 10, 15, 0⟩,
      ⟨"arguments", true, false, "arguments", 15, 17, 2⟩,
      ⟨"(", false, false, "", 15, 16, 0⟩,
      ⟨")", false, false, "", 16, 17, 0⟩,
      ⟨";", false, false, "", 17, 18, 0⟩,
      ⟨"expression_statement", true, false, "", 19, 55, 2⟩,
      ⟨"call_expression", true, false, "", 19, 54, 2⟩,
      ⟨"member_expression", true, false, "function", 19, 31, 3⟩,
      ⟨"call_expression", true, false, "object", 19, 26, 2⟩,
      ⟨"identifier", true, false, "function", 19, 24, 0⟩,
      ⟨"arguments", true, false, "arguments", 24, 26, 2⟩,
      ⟨"(", false, false, "", 24, 25, 0⟩,
      ⟨")", false, false, "", 25, 26, 0⟩,
      ⟨".", false, false, "", 26, 27, 0⟩,
      ⟨"property_identifier", true, false, "property", 27, 31, 0⟩,
      ⟨"arguments", true, false, "arguments", 31, 54, 3⟩,
      ⟨"(", false, false, "", 31, 32, 0⟩,
      ⟨"arrow_function", true, false, "", 32, 53, 3⟩,
      ⟨"identifier", true, false, "parameter", 32, 33, 0⟩,
      ⟨"=>", false, false, "", 34, 36, 0⟩,
      ⟨"statement_block", true, false, "body", 37, 53, 3⟩,
      ⟨"\x7b", false, false, "", 37, 38, 0⟩,
      ⟨"lexical_declaration", true, false, "", 39, 51, 3⟩,
      ⟨"const", false, false, "kind", 39, 44, 0⟩,
      ⟨"variable_declarator", true, false, "", 45, 50, 3⟩,
      ⟨"identifier", true, false, "name", 45, 46, 0⟩,
      ⟨"=", false, false, "", 47, 48, 0⟩,
      ⟨"identifier", true, false, "value", 49, 50, 0⟩,
      ⟨";", false, false, "", 50, 51, 0⟩,
      ⟨"\x7d", false, false, "", 52, 53, 0⟩,
      ⟨")", false, false, "", 53, 54, 0⟩,
      ⟨";", false, false, "", 54, 55, 0⟩]).getD (Tree.blank shadowingCallback.source)

theorem functions_keep_outer_entries_shadowingCallback :
    ∃ function ∈ (root shadowingCallback).preorder, function.isFunctionLike = true ∧
      (∀ node ∈ function.preorder, node.assigns "r" = false) ∧
      ∃ before inside after,
        (root shadowingCallback).visits =
          before ++ .enter function :: (inside ++ .leave function :: after) ∧
        ((reached "fetch" (before ++ [.enter function])).scopes.view "r").map
          (·.map (·.map (·.site.start))) = [some (some 19), some (some 10)] ∧
        ((reached "fetch" (before ++ .enter function :: (inside ++ [.leave function]))).scopes.view
          "r").map (·.map (·.map (·.site.start))) = [some (some 10)] := by
  have given : ∃ function ∈ (root shadowingCallback).preorder, function.isFunctionLike = true ∧
      (∀ node ∈ function.preorder, node.assigns "r" = false) ∧
      ((reached "fetch" function.prior).scopes.view "r").map (·.map (·.map (·.site.start))) =
        [some (some 10)] ∧
      ((reached "fetch" (function.prior ++ [.enter function])).scopes.view "r").map
        (·.map (·.map (·.site.start))) = [some (some 19), some (some 10)] := by
    decide +kernel
  obtain ⟨function, listed, kind, unassigned, outside, within⟩ := given
  obtain ⟨⟨before, inside, after, split⟩, keeps⟩ :=
    functions_keep_outer_entries "fetch" shadowingCallback function listed kind
  obtain ⟨_, kept⟩ := keeps before inside after split _ _ rfl rfl
  rw [(prior_of_visits split).2] at outside within
  refine ⟨function, listed, kind, unassigned, before, inside, after, split, within, ?_⟩
  rw [kept "r" unassigned, outside]

end Tracker
end RequestLint
