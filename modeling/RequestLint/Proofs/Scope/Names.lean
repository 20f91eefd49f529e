import RequestLint.Scope.Binding

/-! One name through all scopes. Whatever is done to scopes is read off a name by
what each of them knows of it, innermost first: a declaration writes at the front,
an assignment where the name is first known, and a function adds and takes away a
scope in front. -/
namespace RequestLint

namespace Entries

theorem get?_cons (key name : String) (bound : Option Binding) (rest : Entries) :
    get? ((key, bound) :: rest) name = if key = name then some bound else rest.get? name := by
  by_cases same : key = name
  · subst same
    simp [get?]
  · have differ : (name == key) = false := by simpa using fun other => same other.symm
    rw [get?, List.lookup_cons, differ, if_neg same]
    rfl

theorem get?_insert (entries : Entries) (name other : String) (bound : Option Binding) :
    (entries.insert name bound).get? other =
      if name = other then some bound else entries.get? other := by
  induction entries with
  | nil => exact get?_cons name other bound []
  | cons entry rest ih =>
    obtain ⟨key, old⟩ := entry
    rw [insert]
    split
    next same =>
      subst same
      rw [get?_cons, get?_cons]
      split
      · rfl
      · rfl
    next differ =>
      rw [get?_cons, get?_cons, ih]
      split
      next same =>
        subst same
        rw [if_neg (Ne.symm differ)]
      next => rfl

end Entries

namespace Scopes

variable {scopes : Scopes} {name other : String} {bound : Option Binding} {function : Node}

/-- What each scope knows of a name, innermost first. -/
def view (scopes : Scopes) (name : String) : List (Option (Option Binding)) :=
  scopes.layers.map (·.get? name)

/-- The functions around, innermost first. -/
def owners (scopes : Scopes) : List Node := scopes.functions.map FunctionScope.owner

theorem lookup_eq_view : scopes.lookup name = ((scopes.view name).findSome? id).join := by
  rw [lookup, view, List.findSome?_map]
  rfl

theorem view_eq : scopes.view name =
    scopes.functions.map (·.entries.get? name) ++ [scopes.unit.get? name] := by
  rw [view, layers, List.map_append, List.map_map]
  rfl

theorem owners_set : (scopes.set name bound).owners = scopes.owners := by
  rw [set]
  split
  · rfl
  next inner outer functions => rw [owners, owners, functions, List.map_cons, List.map_cons]

theorem view_set : (scopes.set name bound).view other =
    if name = other then some bound :: (scopes.view other).tail else scopes.view other := by
  rw [view_eq, view_eq, set]
  split
  next functions =>
    rw [functions, Entries.get?_insert]
    split
    · rfl
    · rfl
  next inner outer functions =>
    rw [functions, List.map_cons, List.map_cons, Entries.get?_insert]
    split
    · rfl
    · rfl

/-- The first place that knows a name is written, or the last place if none does. -/
def written (bound : Option Binding) : List (Option (Option Binding)) →
    List (Option (Option Binding))
  | [] => []
  | [_] => [some bound]
  | some _ :: rest => some bound :: rest
  | none :: rest => none :: written bound rest

theorem written_cons {first : Option (Option Binding)} {rest : List (Option (Option Binding))}
    (more : rest ≠ []) : written bound (first :: rest) =
      if first.isSome then some bound :: rest else none :: written bound rest := by
  cases rest with
  | nil => exact absurd rfl more
  | cons next rest =>
    cases first with
    | none => rfl
    | some old => rfl

theorem owners_assign : (scopes.assign name bound).owners = scopes.owners := by
  have kept (functions : List FunctionScope) :
      (assignIn name bound functions).map FunctionScope.owner =
        functions.map FunctionScope.owner := by
    induction functions with
    | nil => rfl
    | cons inner outer ih =>
      rw [assignIn]
      split
      · rfl
      · rw [List.map_cons, List.map_cons, ih]
  rw [assign]
  split
  · exact kept scopes.functions
  · rfl

theorem view_assignIn (functions : List FunctionScope) (unknown : Option (Option Binding))
    (known : functions.any (·.entries.declares name) = true) :
    (assignIn name bound functions).map (·.entries.get? name) ++ [unknown] =
      written bound (functions.map (·.entries.get? name) ++ [unknown]) := by
  induction functions with
  | nil => cases known
  | cons inner outer ih =>
    rw [List.map_cons, List.cons_append, written_cons (by simp), assignIn]
    split
    next declared =>
      have some_known : (inner.entries.get? name).isSome = true := declared
      rw [if_pos some_known, List.map_cons, Entries.get?_insert, if_pos rfl]
      rfl
    next undeclared =>
      rw [List.any_cons, Bool.or_eq_true] at known
      have absent : inner.entries.get? name = none := by
        simpa [Entries.declares] using undeclared
      rw [if_neg (by simpa [Entries.declares] using undeclared), List.map_cons, absent,
        List.cons_append, ih (known.resolve_left undeclared)]

theorem written_of_unknown (functions : List FunctionScope) (last : Option (Option Binding))
    (unknown : ¬ functions.any (·.entries.declares name) = true) :
    written bound (functions.map (·.entries.get? name) ++ [last]) =
      functions.map (·.entries.get? name) ++ [some bound] := by
  induction functions with
  | nil => rfl
  | cons inner outer ih =>
    rw [List.any_cons, Bool.or_eq_true, not_or] at unknown
    have absent : inner.entries.get? name = none := by simpa [Entries.declares] using unknown.1
    rw [List.map_cons, List.cons_append, written_cons (by simp), absent, ih unknown.2]
    rfl

theorem map_get?_assignIn (differ : name ≠ other) (functions : List FunctionScope) :
    (assignIn name bound functions).map (·.entries.get? other) =
      functions.map (·.entries.get? other) := by
  induction functions with
  | nil => rfl
  | cons inner outer ih =>
    rw [assignIn]
    split
    · rw [List.map_cons, List.map_cons, Entries.get?_insert, if_neg differ]
    · rw [List.map_cons, List.map_cons, ih]

theorem view_assign : (scopes.assign name bound).view other =
    if name = other then written bound (scopes.view other) else scopes.view other := by
  rw [view_eq, view_eq, assign]
  by_cases same : name = other
  · subst same
    rw [if_pos rfl]
    split
    next known => exact view_assignIn scopes.functions _ known
    next unknown =>
      rw [written_of_unknown scopes.functions _ unknown, Entries.get?_insert, if_pos rfl]
  · rw [if_neg same]
    split
    · rw [map_get?_assignIn same]
    · rw [Entries.get?_insert, if_neg same]

theorem view_enter : (scopes.enter function).view name = none :: scopes.view name := rfl

/-- Leaving the function whose scope is in front takes that scope away. -/
theorem leave_of_owners {base : List Node} (owned : scopes.owners = function :: base) :
    (scopes.leave function).owners = base ∧
      (scopes.leave function).view name = (scopes.view name).tail := by
  rw [leave]
  split
  next inner outer functions =>
    rw [owners, functions, List.map_cons, List.cons.injEq] at owned
    have same : inner.owner.sameSite function = true := by
      rw [owned.1]
      exact beq_self_eq_true _
    rw [if_pos same]
    refine ⟨owned.2, ?_⟩
    rw [view_eq, view_eq, functions]
    rfl
  next functions =>
    rw [owners, functions] at owned
    cases owned

variable {known : Option (Option Binding)}

theorem mem_view_set (member : known ∈ (scopes.set name bound).view other) :
    known ∈ scopes.view other ∨ name = other ∧ known = some bound := by
  rw [view_set] at member
  split at member
  next same =>
    rcases List.mem_cons.1 member with rfl | member
    · exact Or.inr ⟨same, rfl⟩
    · exact Or.inl (List.mem_of_mem_tail member)
  next => exact Or.inl member

theorem mem_written {view : List (Option (Option Binding))} (member : known ∈ written bound view) :
    known ∈ view ∨ known = some bound := by
  induction view with
  | nil => exact Or.inl member
  | cons first rest ih =>
    by_cases more : rest = []
    · subst more
      exact Or.inr (List.mem_singleton.1 member)
    · rw [written_cons more] at member
      split at member
      · rcases List.mem_cons.1 member with rfl | member
        · exact Or.inr rfl
        · exact Or.inl (List.mem_cons_of_mem _ member)
      next unknown =>
        have absent : first = none := by simpa using unknown
        rcases List.mem_cons.1 member with rfl | member
        · exact Or.inl (absent ▸ List.mem_cons_self)
        · exact (ih member).imp (List.mem_cons_of_mem _) id

theorem mem_view_assign (member : known ∈ (scopes.assign name bound).view other) :
    known ∈ scopes.view other ∨ name = other ∧ known = some bound := by
  rw [view_assign] at member
  split at member
  next same => exact (mem_written member).imp_right fun written => ⟨same, written⟩
  next => exact Or.inl member

theorem mem_view_leave (member : known ∈ (scopes.leave function).view name) :
    known ∈ scopes.view name := by
  rw [leave] at member
  split at member
  next inner outer functions =>
    split at member
    · rw [view_eq] at member
      rw [view_eq, functions]
      exact List.mem_cons_of_mem _ member
    · exact member
  next => exact member

end Scopes
end RequestLint
