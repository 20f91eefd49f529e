import RequestLint.Proofs.Scope.Outer
import RequestLint.Proofs.Syntax.Object
import RequestLint.Proofs.Syntax.Pattern

/-! What a function knows of its parameters. When it is entered, its scope knows the
names that are listed for its parameters and no others. Such a name stands for no
call, or for the response that the function is handed as a callback; every other
name still stands for what it stood for outside. -/
namespace RequestLint

namespace Node

/-- The names that are listed for the parameters of a function. -/
def parameterNames (function : Node) : List Node := function.parameters.flatMap listedNames

theorem flatMap_boundNames_parameters (function : Node) :
    function.parameters.flatMap boundNames = function.parameterNames.map text := by
  rw [parameterNames, List.map_flatMap]
  exact List.flatMap_congr fun parameter _ => boundNames_eq_map parameter

end Node

namespace Scopes

variable {scopes outside : Scopes} {name : String} {bound : Option Binding}

/-- Declared names are known in front, and stand for no call there. -/
theorem view_declareAll (names : List String) :
    (scopes.declareAll names).view name =
      if name ∈ names then some none :: (scopes.view name).tail else scopes.view name := by
  induction names generalizing scopes with
  | nil => rfl
  | cons first names ih =>
    have next : (scopes.declareAll (first :: names)).view name =
        ((scopes.set first none).declareAll names).view name := rfl
    rw [next, ih, tail_view_set, view_set]
    by_cases later : name ∈ names
    · rw [if_pos later, if_pos (List.mem_cons_of_mem _ later)]
    · rw [if_neg later]
      by_cases same : first = name
      · rw [if_pos same, if_pos (same ▸ List.mem_cons_self)]
      · rw [if_neg same, if_neg]
        simpa using ⟨Ne.symm same, later⟩

theorem lookup_of_known {outer : List (Option (Option Binding))}
    (front : scopes.view name = some bound :: outer) : scopes.lookup name = bound := by
  rw [lookup_eq_view, front]
  rfl

theorem lookup_of_unknown (front : scopes.view name = none :: outside.view name) :
    scopes.lookup name = outside.lookup name := by
  rw [lookup_eq_view, lookup_eq_view, front]
  rfl

end Scopes

namespace Tracker
open Node

variable {tree : Tree} {tracker : Tracker} {function : Node} {name : String}

/-- Without a response that is handed over, or without a parameter, nothing is bound. -/
theorem enterFunction_eq_opened
    (nothing : tracker.callbackSite? function = none ∨ function.parameters = []) :
    tracker.enterFunction function = tracker.opened function := by
  rcases enterFunction_cases tracker function with same | ⟨first, member, _, site, calls, _⟩
  · exact same
  · rcases nothing with missing | bare
    · cases missing.symm.trans calls
    · rw [bare] at member
      cases member

theorem enterFunction_eq_bind {site first : Node} {rest : List Node}
    (calls : tracker.callbackSite? function = some site)
    (listed : function.parameters = first :: rest) :
    tracker.enterFunction function =
      if first.kind = "identifier" then
        (tracker.opened function).bind ⟨first.text, site, .callback, first⟩
      else tracker.opened function := by
  simp only [enterFunction, calls, listed, opened]

theorem view_opened : (tracker.opened function).scopes.view name =
    (if name ∈ function.parameterNames.map text then some none else none) ::
      tracker.scopes.view name := by
  have declared : (tracker.opened function).scopes =
      (tracker.scopes.enter function).declareAll (function.parameterNames.map text) := by
    rw [← flatMap_boundNames_parameters]
    rfl
  rw [declared, Scopes.view_declareAll, Scopes.view_enter]
  split
  · rfl
  · rfl

/-- A function adds what it knows of a name to what is known outside. -/
theorem view_enterFunction (tracker : Tracker) (function : Node) (name : String) :
    ∃ entry : Option (Option Binding),
      (tracker.enterFunction function).scopes.view name = entry :: tracker.scopes.view name ∧
      (entry.isSome = true ↔ name ∈ function.parameterNames.map text) ∧
      ∀ binding, entry = some (some binding) → binding.origin ∈ function.parameters := by
  have opened : ∃ entry : Option (Option Binding),
      (tracker.opened function).scopes.view name = entry :: tracker.scopes.view name ∧
      (entry.isSome = true ↔ name ∈ function.parameterNames.map text) ∧
      ∀ binding, entry ≠ some (some binding) := by
    refine ⟨_, view_opened, ?_, ?_⟩
    · split
      next listed => simp [listed]
      next unlisted => simp [unlisted]
    · split
      · nofun
      · nofun
  obtain ⟨entry, view, known, unbound⟩ := opened
  rcases enterFunction_cases tracker function with same | ⟨first, member, plain, site, _, same⟩
  · exact ⟨entry, same ▸ view, known, fun binding held => absurd held (unbound binding)⟩
  · have bound : (tracker.enterFunction function).scopes.view name =
        if first.text = name then
          some (some ⟨first.text, site, .callback, first⟩) :: tracker.scopes.view name
        else entry :: tracker.scopes.view name := by
      rw [same]
      exact Scopes.view_set.trans (by rw [view, List.tail_cons])
    rw [bound]
    split
    next named =>
      refine ⟨_, rfl, iff_of_true rfl ?_, ?_⟩
      · rw [← flatMap_boundNames_parameters, List.mem_flatMap]
        exact ⟨first, member, by simp [boundNames_of_identifier plain, named]⟩
      · rintro binding held
        cases held
        exact member
    next => exact ⟨entry, rfl, known, fun binding held => absurd held (unbound binding)⟩

theorem scopes_step_enter (kind : function.isFunctionLike = true) :
    (tracker.step (.enter function)).scopes = (tracker.enterFunction function).scopes := by
  rw [step, if_pos kind]

/-- The names listed for a pattern are those that it binds, in the order of the source
and as often as it binds them, apart from the names of shorthands with a default. No
key, default value or type is among them. On entering a function its scope is added
in front. It knows the names that are listed for the parameters, so these no longer
stand for what they stood for outside; any other name still does, also one that a
parameter binds as a shorthand with a default. -/
theorem listed_names_hide_outer (tracker : Tracker) (function : Node)
    (kind : function.isFunctionLike = true) :
    (∀ pattern : Node,
      pattern.boundNames = (pattern.preorder.filter fun name =>
        pattern.Binds name ∧ ¬ pattern.InShorthandDefault name).map text ∧
      (pattern.boundNames = (pattern.preorder.filter fun name => pattern.Binds name).map text ↔
        ∀ name ∈ pattern.preorder, pattern.Binds name → ¬ pattern.InShorthandDefault name) ∧
      ∀ outer ∈ pattern.preorder, ∀ field, (outer.kind, field) ∈ bindingFields →
        ∀ inner ∈ outer.children, inner.field ≠ field →
          ∀ name ∈ inner.preorder, ¬ pattern.Binds name) ∧
    ∀ inside, inside = tracker.step (.enter function) → ∀ name,
      (name ∈ function.parameterNames.map text →
        ∃ bound, inside.scopes.view name = some bound :: tracker.scopes.view name ∧
          inside.scopes.lookup name = bound ∧
          ∀ binding ∈ bound, binding.origin ∈ function.parameters) ∧
      (name ∉ function.parameterNames.map text →
        inside.scopes.view name = none :: tracker.scopes.view name ∧
        inside.scopes.lookup name = tracker.scopes.lookup name) := by
  refine ⟨fun pattern => ⟨boundNames_eq_map pattern, boundNames_eq_iff pattern, ?_⟩, ?_⟩
  · intro outer part field single inner child other name below
    exact not_binds_of_field part single child other below
  · rintro inside rfl name
    rw [scopes_step_enter kind]
    obtain ⟨entry, view, known, origin⟩ := view_enterFunction tracker function name
    cases entry with
    | some bound =>
      refine ⟨fun _ => ⟨bound, view, Scopes.lookup_of_known view, ?_⟩, fun unlisted => ?_⟩
      · rintro binding rfl
        exact origin binding rfl
      · exact absurd (known.1 rfl) unlisted
    | none =>
      refine ⟨fun listed => ?_, fun _ => ⟨view, Scopes.lookup_of_unknown view⟩⟩
      exact absurd (known.2 listed) Bool.false_ne_true

/-- Two responses, and a function with patterns for parameters of the same names. -/
def shorthandDefault.source : Bytes :=
  Utf8.encode "const a = fetch(), b = fetch();\nfunction f(\x7b a = 1, k: [b] \x7d) \x7b a.ok; b.ok; \x7d"

def shorthandDefault : Tree :=
  (Tree.ofOutline? shorthandDefault.source
    [⟨"program", true, false, "", 0, 77, 2⟩,
      ⟨"lexical_declaration", true, false, "", 0, 31, 5⟩,
      ⟨"const", false, false, "kind", 0, 5, 0⟩,
      ⟨"variable_declarator", true, false, "", 6, 17, 3⟩,
      ⟨"identifier", true, false, "name", 6, 7, 0⟩,
      ⟨"=", false, false, "", 8, 9, 0⟩,
      ⟨"call_expression", true, false, "value", 10, 17, 2⟩,
      ⟨"identifier", true, false, "function", 10, 15, 0⟩,
      ⟨"arguments", true, false, "arguments", 15, 17, 2⟩,
      ⟨"(", false, false, "", 15, 16, 0⟩,
      ⟨")", false, false, "", 16, 17, 0⟩,
      ⟨",", false, false, "", 17, 18, 0⟩,
      ⟨"variable_declarator", true, false, "", 19, 30, 3⟩,
      ⟨"identifier", true, false, "name", 19, 20, 0⟩,
      ⟨"=", false, false, "", 21, 22, 0⟩,
      ⟨"call_expression", true, false, "value", 23, 30, 2⟩,
      ⟨"identifier", true, false, "function", 23, 28, 0⟩,
      ⟨"arguments", true, false, "arguments", 28, 30, 2⟩,
      ⟨"(", false, false, "", 28, 29, 0⟩,
      ⟨")", false, false, "", 29, 30, 0⟩,
      ⟨";", false, false, "", 30, 31, 0⟩,
      ⟨"function_declaration", true, false, "", 32, 77, 4⟩,
      ⟨"function", false, false, "", 32, 40, 0⟩,
      ⟨"identifier", true, false, "name", 41, 42, 0⟩,
      ⟨"formal_parameters", true, false, "parameters", 42, 61, 3⟩,
      ⟨"(", false, false, "", 42, 43, 0⟩,
      ⟨"object_pattern", true, false, "", 43, 60, 5⟩,
      ⟨"\x7b", false, false, "", 43, 44, 0⟩,
      ⟨"object_assignment_pattern", true, false, "", 45, 50, 3⟩,
      ⟨"shorthand_property_identifier_pattern", true, false, "left", 45, 46, 0⟩,
      ⟨"=", false, false, "", 47, 48, 0⟩,
      ⟨"number", true, false, "right", 49, 50, 0⟩,
      ⟨",", false, false, "", 50, 51, 0⟩,
      ⟨"pair_pattern", true, false, "", 52, 58, 3⟩,
      ⟨"property_identifier", true, false, "key", 52, 53, 0⟩,
      ⟨":", false, false, "", 53, 54, 0⟩,
      ⟨"array_pattern", true, false, "value", 55, 58, 3⟩,
      ⟨"[", false, false, "", 55, 56, 0⟩,
      ⟨"identifier", true, false, "", 56, 57, 0⟩,
      ⟨"]", false, false, "", 57, 58, 0⟩,
      ⟨"\x7d", false, false, "", 59, 60, 0⟩,
      ⟨")", false, false, "", 60, 61, 0⟩,
      ⟨"statement_block", true, false, "body", 62, 77, 4⟩,
      ⟨"\x7b", false, false, "", 62, 63, 0⟩,
      ⟨"expression_statement", true, false, "", 64, 69, 2⟩,
      ⟨"member_expression", true, false, "", 64, 68, 3⟩,
      ⟨"identifier", true, false, "object", 64, 65, 0⟩,
      ⟨".", false, false, "", 65, 66, 0⟩,
      ⟨"property_identifier", true, false, "property", 66, 68, 0⟩,
      ⟨";", false, false, "", 68, 69, 0⟩,
      ⟨"expression_statement", true, false, "", 70, 75, 2⟩,
      ⟨"member_expression", true, false, "", 70, 74, 3⟩,
      ⟨"identifier", true, false, "object", 70, 71, 0⟩,
      ⟨".", false, false, "", 71, 72, 0⟩,
      ⟨"property_identifier", true, false, "property", 72, 74, 0⟩,
      ⟨";", false, false, "", 74, 75, 0⟩,
      ⟨"\x7d", false, false, "", 76, 77, 0⟩]).getD (Tree.blank shorthandDefault.source)

theorem listed_names_hide_outer_shorthandDefault :
    ∃ function ∈ (root shorthandDefault).preorder, function.isFunctionLike = true ∧
      ∃ outside inside, outside = reached "fetch" function.prior ∧
        inside = outside.step (.enter function) ∧
        (outside.scopes.lookup "b").map (·.site.start) = some 23 ∧
        (∀ binding ∈ inside.scopes.lookup "b", binding.origin ∈ function.parameters) ∧
        inside.scopes.lookup "a" = outside.scopes.lookup "a" := by
  have given : ∃ function ∈ (root shorthandDefault).preorder, function.isFunctionLike = true ∧
      function.parameterNames.map text = ["b"] ∧
      ((reached "fetch" function.prior).scopes.lookup "b").map (·.site.start) = some 23 := by
    decide +kernel
  obtain ⟨function, listed, kind, names, second⟩ := given
  obtain ⟨_, hides⟩ := listed_names_hide_outer (reached "fetch" function.prior) function kind
  refine ⟨function, listed, kind, _, _, rfl, rfl, second, ?_, ?_⟩
  · obtain ⟨bound, _, found, origin⟩ := (hides _ rfl "b").1 (by simp [names])
    rw [found]
    exact origin
  · exact ((hides _ rfl "a").2 (by simp [names])).2

/-- A name with a default as a shorthand is bound and not listed, so that inside the
function it still stands for the response outside. -/
theorem shorthandDefault_not_hidden :
    ∃ function ∈ (root shorthandDefault).preorder, function.isFunctionLike = true ∧
      (∃ pattern ∈ function.parameters, pattern.boundNames = ["b"] ∧
        (pattern.preorder.filter fun name => pattern.Binds name).map text = ["a", "b"]) ∧
      ((reached "fetch" (function.prior ++ [.enter function])).scopes.lookup "a").map
        (·.site.start) = some 10 := by
  decide +kernel

end Tracker
end RequestLint
