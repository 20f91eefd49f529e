import RequestLint.Syntax.Pattern
import RequestLint.Proofs.Syntax.Wrapper

/-! The names that a pattern binds. A pattern binds names through some of its parts
and not through others: never through the key of a pair, a default value or a type.
A name is bound where every step down to it leads to such a part. The names that are
listed are these, in the order of the source, except those of a shorthand with a
default value, as in `{ a = 1 }`. -/
namespace RequestLint.Node

variable {pattern inner outer name : Node}

/-- Nodes that are a name. -/
def nameKinds : List String := ["identifier", "shorthand_property_identifier_pattern"]

/-- Patterns that bind names through one of their fields only. -/
def bindingFields : List (String × String) :=
  [("assignment_pattern", "left"), ("object_assignment_pattern", "left"),
    ("pair_pattern", "value"), ("required_parameter", "pattern"),
    ("optional_parameter", "pattern")]

/-- Patterns that bind names through all their parts. -/
def groupKinds : List String := ["object_pattern", "array_pattern", "rest_pattern"]

/-- The parts through which a pattern binds names. -/
def bindingParts (pattern : Node) : List Node :=
  if pattern.kind ∈ groupKinds then pattern.parts
  else ((bindingFields.lookup pattern.kind).bind pattern.child?).toList

/-- The pattern binds the name: each step down to it leads to a part through which
names are bound. -/
def Binds (pattern name : Node) : Prop :=
  name.kind ∈ nameKinds ∧
    ∀ step ∈ name.lineage, step.2 ∈ pattern.preorder → step.1 ∈ step.2.bindingParts

/-- Between the pattern and the name there is a shorthand with a default value. -/
def InShorthandDefault (pattern name : Node) : Prop :=
  ∃ step ∈ name.lineage, step.2 ∈ pattern.preorder ∧ step.2.kind = "object_assignment_pattern"

instance (pattern name : Node) : Decidable (Binds pattern name) :=
  inferInstanceAs (Decidable (_ ∧ _))

instance (pattern name : Node) : Decidable (InShorthandDefault pattern name) :=
  inferInstanceAs (Decidable (∃ step ∈ name.lineage, _))

theorem boundNames_eq (node : Node) : node.boundNames =
    if node.kind ∈ nameKinds then [node.text]
    else if node.kind = "assignment_pattern" then
      ((node.child? "left").map boundNames).getD []
    else if node.kind ∈ ["required_parameter", "optional_parameter"] then
      ((node.child? "pattern").map boundNames).getD []
    else if node.kind = "pair_pattern" then ((node.child? "value").map boundNames).getD []
    else if node.kind ∈ groupKinds then node.parts.flatMap boundNames
    else [] := by
  rw [boundNames]
  simp only [List.flatMap_subtype, List.unattach_attach]
  cases node.child? "left" <;> cases node.child? "pattern" <;> cases node.child? "value" <;> rfl

theorem bindingParts_of_field {field : String} (single : pattern.kind ∉ groupKinds)
    (bound : bindingFields.lookup pattern.kind = some field) :
    pattern.bindingParts = (pattern.child? field).toList := by
  rw [bindingParts, if_neg single, bound, Option.bind_some]

theorem flatMap_toList {α : Type} (found : Option Node) (f : Node → List α) :
    found.toList.flatMap f = (found.map f).getD [] := by
  cases found with
  | none => rfl
  | some inner => exact List.flatMap_singleton f inner

/-- What is listed comes from the parts through which names are bound, unless the
pattern is a shorthand with a default value. -/
theorem boundNames_eq_flatMap (pattern : Node) : pattern.boundNames =
    if pattern.kind ∈ nameKinds then [pattern.text]
    else if pattern.kind = "object_assignment_pattern" then []
    else pattern.bindingParts.flatMap boundNames := by
  have ofField {kind field : String} (is : pattern.kind = kind) (single : kind ∉ groupKinds)
      (bound : bindingFields.lookup kind = some field) :
      pattern.bindingParts.flatMap boundNames =
        ((pattern.child? field).map boundNames).getD [] := by
    rw [bindingParts_of_field (is ▸ single) (is ▸ bound), flatMap_toList]
  rw [boundNames_eq]
  by_cases plain : pattern.kind ∈ nameKinds
  · rw [if_pos plain, if_pos plain]
  rw [if_neg plain, if_neg plain]
  by_cases short : pattern.kind = "object_assignment_pattern"
  · simp [short, groupKinds]
  rw [if_neg short]
  split
  next assigned => rw [ofField assigned (by decide) rfl]
  split
  next parameter =>
    rcases List.mem_pair.1 parameter with kind | kind
    · rw [ofField kind (by decide) rfl]
    · rw [ofField kind (by decide) rfl]
  split
  next pair => rw [ofField pair (by decide) rfl]
  split
  next several => rw [bindingParts, if_pos several]
  next assigned parameter pair several =>
    have unbound : bindingFields.lookup pattern.kind = none := by
      rw [List.lookup_eq_none_iff]
      simp only [bindingFields, List.mem_cons, List.not_mem_nil, or_false] at parameter ⊢
      grind
    rw [bindingParts, if_neg several, unbound]
    rfl

theorem sublist_bindingParts (pattern : Node) :
    pattern.bindingParts.Sublist pattern.children := by
  rw [bindingParts]
  split
  · exact List.filter_sublist.trans List.filter_sublist
  · cases found : (bindingFields.lookup pattern.kind).bind pattern.child? with
    | none => exact List.nil_sublist _
    | some part =>
      obtain ⟨field, _, found⟩ := Option.bind_eq_some_iff.1 found
      exact List.singleton_sublist.2 (mem_children_of_child? found)

theorem mem_ancestors_of_lineage (member : (inner, outer) ∈ name.lineage) :
    outer ∈ name.ancestors := by
  obtain ⟨around, above⟩ := mem_lineage_iff.1 member
  have parent := mem_ancestors_of_parent? above
  rcases List.mem_cons.1 around with rfl | higher
  · exact parent
  · exact mem_ancestors_trans higher parent

/-- The nodes of one child of a pattern are those of no other. -/
theorem eq_of_below {first second : Node} (one : first ∈ pattern.children)
    (other : second ∈ pattern.children) (below : name ∈ first.preorder)
    (below' : name ∈ second.preorder) : first = second := by
  have level := depth_of_parent? (mem_children_iff.1 one)
  have level' := depth_of_parent? (mem_children_iff.1 other)
  exact eq_of_depth (mem_preorder_iff.1 below) (mem_preorder_iff.1 below')
    (level.symm.trans level')

/-- A step on the way down from a pattern is the first one, to one of its children,
or a step on the way down from there. -/
theorem mem_preorder_of_step (child : inner ∈ pattern.children) (below : name ∈ inner.preorder)
    {step : Node × Node} (member : step ∈ name.lineage) :
    step.2 ∈ pattern.preorder ↔ step = (inner, pattern) ∨ step.2 ∈ inner.preorder := by
  obtain ⟨lower, upper⟩ := step
  constructor
  · intro listed
    rw [preorder_eq, List.mem_cons, List.mem_flatMap] at listed
    rcases listed with top | ⟨other, child', listed⟩
    · obtain ⟨around, above⟩ := mem_lineage_iff.1 member
      obtain rfl : upper = pattern := top
      exact Or.inl (by rw [eq_of_below (mem_children_iff.2 above) child
        (mem_preorder_iff.2 around) below])
    · have lower : name ∈ upper.preorder :=
        mem_preorder_iff.2 (List.mem_cons_of_mem _ (mem_ancestors_of_lineage member))
      rw [eq_of_below child child' below (mem_preorder_trans lower listed)]
      exact Or.inr listed
  · rintro (first | later)
    · rw [first]
      exact self_mem_preorder pattern
    · exact mem_preorder_trans later (mem_preorder_of_child (self_mem_preorder pattern) child)

theorem first_step (child : inner ∈ pattern.children) (below : name ∈ inner.preorder) :
    (inner, pattern) ∈ name.lineage :=
  mem_lineage_iff.2 ⟨mem_preorder_iff.1 below, mem_children_iff.1 child⟩

theorem binds_iff_of_child (child : inner ∈ pattern.children) (below : name ∈ inner.preorder) :
    pattern.Binds name ↔ inner ∈ pattern.bindingParts ∧ inner.Binds name := by
  constructor
  · rintro ⟨plain, steps⟩
    refine ⟨steps _ (first_step child below) (self_mem_preorder pattern), plain, ?_⟩
    intro step member later
    exact steps step member ((mem_preorder_of_step child below member).2 (Or.inr later))
  · rintro ⟨part, plain, steps⟩
    refine ⟨plain, fun step member listed => ?_⟩
    rcases (mem_preorder_of_step child below member).1 listed with rfl | later
    · exact part
    · exact steps step member later

theorem inShorthandDefault_iff_of_child (child : inner ∈ pattern.children)
    (below : name ∈ inner.preorder) :
    pattern.InShorthandDefault name ↔
      pattern.kind = "object_assignment_pattern" ∨ inner.InShorthandDefault name := by
  constructor
  · rintro ⟨step, member, listed, short⟩
    rcases (mem_preorder_of_step child below member).1 listed with rfl | later
    · exact Or.inl short
    · exact Or.inr ⟨step, member, later, short⟩
  · rintro (short | ⟨step, member, later, short⟩)
    · exact ⟨_, first_step child below, self_mem_preorder pattern, short⟩
    · exact ⟨step, member, (mem_preorder_of_step child below member).2 (Or.inr later), short⟩

/-- No step leads down from a node to itself. -/
theorem not_listed_of_lineage {step : Node × Node} (member : step ∈ pattern.lineage) :
    step.2 ∉ pattern.preorder := by
  intro listed
  have deeper := depth_lt_of_mem_ancestors (mem_ancestors_of_lineage member)
  rcases List.mem_cons.1 (mem_preorder_iff.1 listed) with same | higher
  · rw [← same] at deeper
    exact Nat.lt_irrefl _ deeper
  · exact Nat.lt_asymm deeper (depth_lt_of_mem_ancestors higher)

theorem binds_self_iff : pattern.Binds pattern ↔ pattern.kind ∈ nameKinds :=
  ⟨And.left, fun plain => ⟨plain, fun _ member listed =>
    absurd listed (not_listed_of_lineage member)⟩⟩

theorem not_inShorthandDefault_self : ¬ pattern.InShorthandDefault pattern := by
  rintro ⟨step, member, listed, _⟩
  exact not_listed_of_lineage member listed

theorem filter_mem_of_sublist {part whole : List Node} (sublist : part.Sublist whole)
    (distinct : whole.Nodup) : whole.filter (· ∈ part) = part := by
  induction sublist with
  | slnil => rfl
  | cons first sublist ih =>
    rw [List.nodup_cons] at distinct
    rw [List.filter_cons_of_neg, ih distinct.2]
    simpa using fun member => distinct.1 (sublist.subset member)
  | @cons_cons part whole first sublist ih =>
    rw [List.nodup_cons] at distinct
    rw [List.filter_cons_of_pos (by simp)]
    refine congrArg (first :: ·) (Eq.trans (List.filter_congr fun inner member => ?_) (ih distinct.2))
    have other : inner ≠ first := fun same => distinct.1 (same ▸ member)
    simp [other]

/-- The nodes whose names are listed. -/
def listedNames (pattern : Node) : List Node :=
  pattern.preorder.filter fun name => pattern.Binds name ∧ ¬ pattern.InShorthandDefault name

theorem bindingParts_of_name (plain : pattern.kind ∈ nameKinds) : pattern.bindingParts = [] := by
  rw [bindingParts]
  rcases List.mem_pair.1 plain with kind | kind
  · rw [kind]
    rfl
  · rw [kind]
    rfl

theorem flatMap_filter_mem {α : Type} {whole part : List Node} (f : Node → List α) :
    (whole.flatMap fun inner => if inner ∈ part then f inner else []) =
      (whole.filter (· ∈ part)).flatMap f := by
  induction whole with
  | nil => rfl
  | cons first rest ih =>
    rw [List.flatMap_cons, ih]
    by_cases member : first ∈ part
    · rw [if_pos member, List.filter_cons_of_pos (by simpa using member), List.flatMap_cons]
    · rw [if_neg member, List.filter_cons_of_neg (by simpa using member), List.nil_append]

theorem listedNames_eq (pattern : Node) : pattern.listedNames =
    if pattern.kind ∈ nameKinds then [pattern]
    else if pattern.kind = "object_assignment_pattern" then []
    else pattern.bindingParts.flatMap listedNames := by
  have below (inner : Node) (child : inner ∈ pattern.children) :
      (inner.preorder.filter fun name =>
        decide (pattern.Binds name ∧ ¬ pattern.InShorthandDefault name)) =
        if inner ∈ pattern.bindingParts then
          if pattern.kind = "object_assignment_pattern" then [] else inner.listedNames
        else [] := by
    have each (name : Node) (listed : name ∈ inner.preorder) :
        (pattern.Binds name ∧ ¬ pattern.InShorthandDefault name) ↔
          inner ∈ pattern.bindingParts ∧ pattern.kind ≠ "object_assignment_pattern" ∧
            inner.Binds name ∧ ¬ inner.InShorthandDefault name := by
      rw [binds_iff_of_child child listed, inShorthandDefault_iff_of_child child listed]
      tauto
    split
    next part =>
      split
      next short =>
        refine List.filter_eq_nil_iff.2 fun name listed bound => ?_
        exact ((each name listed).1 (of_decide_eq_true bound)).2.1 short
      next long =>
        refine List.filter_congr fun name listed => decide_eq_decide.2 ((each name listed).trans ?_)
        exact ⟨fun bound => bound.2.2, fun bound => ⟨part, long, bound⟩⟩
    next idle =>
      refine List.filter_eq_nil_iff.2 fun name listed bound => ?_
      exact idle ((each name listed).1 (of_decide_eq_true bound)).1
  rw [listedNames, preorder_eq, ← List.singleton_append, List.filter_append, List.filter_flatMap,
    List.flatMap_congr below, flatMap_filter_mem,
    filter_mem_of_sublist (sublist_bindingParts pattern) (nodup_children pattern)]
  by_cases plain : pattern.kind ∈ nameKinds
  · rw [if_pos plain, bindingParts_of_name plain, List.flatMap_nil, List.append_nil]
    have self : pattern.Binds pattern ∧ ¬ pattern.InShorthandDefault pattern :=
      ⟨binds_self_iff.2 plain, not_inShorthandDefault_self⟩
    exact List.filter_cons_of_pos (decide_eq_true self)
  · have self : ¬ (pattern.Binds pattern ∧ ¬ pattern.InShorthandDefault pattern) :=
      fun bound => plain (binds_self_iff.1 bound.1)
    rw [if_neg plain, List.filter_cons_of_neg (by simpa using self)]
    split
    · exact List.flatMap_eq_nil_iff.2 fun _ _ => rfl
    · rfl

/-- The names that are listed, in the order of the source and as often as they are
bound, are those that the pattern binds, apart from shorthands with a default. -/
theorem boundNames_eq_map (pattern : Node) : pattern.boundNames = pattern.listedNames.map text := by
  induction pattern using downward with
  | step pattern ih =>
    rw [boundNames_eq_flatMap, listedNames_eq]
    split
    · rfl
    split
    · rfl
    rw [List.map_flatMap]
    exact List.flatMap_congr fun part member =>
      ih part ((sublist_bindingParts pattern).subset member)

/-- All bound names are listed exactly if none has a default as a shorthand. -/
theorem boundNames_eq_iff (pattern : Node) :
    pattern.boundNames = (pattern.preorder.filter fun name => pattern.Binds name).map text ↔
      ∀ name ∈ pattern.preorder, pattern.Binds name → ¬ pattern.InShorthandDefault name := by
  have chosen : pattern.listedNames = (pattern.preorder.filter fun name => pattern.Binds name).filter
      fun name => ¬ pattern.InShorthandDefault name := by
    rw [listedNames, List.filter_filter]
    exact List.filter_congr fun name _ => by simp [Bool.and_comm]
  rw [boundNames_eq_map, chosen]
  constructor
  · intro same name listed bound
    have length := congrArg List.length same
    rw [List.length_map, List.length_map, List.length_filter_eq_length_iff] at length
    exact of_decide_eq_true (length name (List.mem_filter.2 ⟨listed, decide_eq_true bound⟩))
  · intro long
    refine congrArg (List.map text) (List.filter_eq_self.2 fun name member => ?_)
    obtain ⟨listed, bound⟩ := List.mem_filter.1 member
    exact decide_eq_true (long name listed (of_decide_eq_true bound))

theorem lookup_of_mem_bindingFields {kind field : String} (single : (kind, field) ∈ bindingFields) :
    kind ∉ groupKinds ∧ bindingFields.lookup kind = some field := by
  have each : ∀ entry ∈ bindingFields,
      entry.1 ∉ groupKinds ∧ bindingFields.lookup entry.1 = some entry.2 := by decide
  exact each _ single

/-- Nothing is bound through a child that fills another field than the one through
which the pattern around it binds names: a key, a default value or a type. -/
theorem not_binds_of_field {field : String} (part : outer ∈ pattern.preorder)
    (single : (outer.kind, field) ∈ bindingFields) (child : inner ∈ outer.children)
    (other : inner.field ≠ field) (below : name ∈ inner.preorder) : ¬ pattern.Binds name := by
  rintro ⟨_, steps⟩
  have member : inner ∈ outer.bindingParts := steps _ (first_step child below) part
  obtain ⟨alone, found⟩ := lookup_of_mem_bindingFields single
  rw [bindingParts_of_field alone found, Option.mem_toList] at member
  exact other (by simpa using List.find?_some member)

end RequestLint.Node
