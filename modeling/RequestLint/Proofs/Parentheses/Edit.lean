import RequestLint.Syntax.Concatenation
import RequestLint.Syntax.Pattern
import RequestLint.Proofs.Syntax.Chain
import RequestLint.Proofs.Syntax.Reparse

/-! A tree before and after one of its expressions was put in parentheses. Offsets
may differ everywhere. In place of the expression stands a node that holds it and
two tokens; every other node stands where it stood, and says the same about
itself. The expression itself is one step further down. -/
namespace RequestLint

/-- `expr` is the expression of `old` that is in parentheses in `new`. -/
structure Edit where
  old : Tree
  new : Tree
  expr : Node

namespace Edit
open Node

variable (edit : Edit)

/-- What became of a node, given what stands in its place. -/
def opened? (node place : Node) : Option Node :=
  if node = edit.expr then place.namedChildren.head? else some place

/-- `place` stands in the new tree where `node` stood in the old one. -/
inductive Stands : Node → Node → Prop
  | root : Stands (.root edit.old) (.root edit.new)
  | inside {outer place outer' node node' : Node} {index : Nat} (around : Stands outer place)
    (opened : edit.opened? outer place = some outer')
    (held : outer.children[index]? = some node) (held' : outer'.children[index]? = some node') :
    Stands node node'

/-- `copy` is what became of `node`. -/
def Copied (node copy : Node) : Prop :=
  ∃ place, edit.Stands node place ∧ edit.opened? node place = some copy

/-- A node whose text is read as it stands. -/
def isSpelled (node : Node) : Bool :=
  node.isWord || node.kind = "shorthand_property_identifier_pattern" ||
    (node.field = "name" && node.parent?.any (·.kind ∈ blockDeclarationKinds))

/-- Two nodes say the same about themselves, up to offsets and the field they fill. -/
structure Akin (node node' : Node) : Prop where
  kind : node'.kind = node.kind
  named : node'.named = node.named
  arity : node'.children.length = node.children.length
  text : isSpelled node = true → node'.text = node.text

/-- A pair of parentheses with one expression in it. -/
structure IsParentheses (node : Node) : Prop where
  kind : node.kind = "parenthesized_expression"
  named : node.named = true
  inner : ∃ inner, node.namedChildren = [inner]
  tokens : ∀ token ∈ node.children, token.named = false →
    token.kind ∈ ["(", ")"] ∧ token.children = []

/-- Fields that hold an initial value or the right-hand side of an assignment. -/
def valueFields : List (String × String) :=
  [("variable_declarator", "value"), ("assignment_expression", "right"),
    ("augmented_assignment_expression", "right"), ("assignment_pattern", "right"),
    ("object_assignment_pattern", "right"), ("required_parameter", "value"),
    ("optional_parameter", "value"), ("field_definition", "value"),
    ("public_field_definition", "value")]

/-- Properties that a response, or a chain of promises, is asked for. -/
def responseProperties : List String :=
  continuationMethods ++ ["json", "ok", "status", "headers"]

/-- The places in which an expression may be put in parentheses. -/
inductive Holds (expr outer : Node) : Prop
  | argument {call : Node} : outer.kind = "arguments" → outer.parent? = some call →
      call.kind ∈ ["call_expression", "new_expression"] → Holds expr outer
  | entry {object : Node} : outer.kind = "pair" → expr.field = "value" →
      outer.parent? = some object → object.kind = "object" → Holds expr outer
  | response {property : String} : outer.member? = some (expr, property) →
      property ∈ responseProperties → Holds expr outer
  | headers {owner : Node} : outer.member? = some (expr, "get") →
      expr.member? = some (owner, "headers") → Holds expr outer
  | value : (outer.kind, expr.field) ∈ valueFields → Holds expr outer
  | awaited : outer.kind = "await_expression" → Holds expr outer
  | operand : outer.sum?.isSome = true → expr.field ∈ ["left", "right"] → Holds expr outer
  | statement : outer.kind = "expression_statement" → Holds expr outer

/-- Named nodes that are no expressions. -/
def otherKinds : List String := ["comment", "spread_element", "arguments"]

/-- Nodes that an analysis may compare: they are at most cousins. -/
def Near (first second : Node) : Prop :=
  first.parent?.bind parent? = second.parent?.bind parent?

/-- The new tree is the old one with the expression in parentheses. Spans may have
moved, but they tell the same nodes apart. -/
structure Parenthesises : Prop where
  listed : edit.expr ∈ (root edit.old).preorder
  named : edit.expr.named = true
  expression : edit.expr.kind ∉ otherKinds
  noParameter : ∀ function : Node, function.isFunctionLike = true → edit.expr ∉ function.parameters
  held : ∃ outer, edit.expr.parent? = some outer ∧ Holds edit.expr outer
  parentheses : ∀ place, edit.Stands edit.expr place → IsParentheses place
  field : ∀ node place, edit.Stands node place → place.field = node.field
  akin : ∀ node copy, edit.Copied node copy → Akin node copy
  near : ∀ first first' second second', edit.Stands first first' → edit.Stands second second' →
    Near first second → first'.sameSite second' = first.sameSite second
  calls : ∀ first first' second second', edit.Copied first first' → edit.Copied second second' →
    first.kind = "call_expression" → second.kind = "call_expression" →
    (first'.key = second'.key ↔ first.key = second.key)

variable {edit} {node place copy outer : Node}

theorem opened?_of_ne (other : node ≠ edit.expr) : edit.opened? node place = some place :=
  if_neg other

theorem opened?_expr : edit.opened? edit.expr place = place.namedChildren.head? := if_pos rfl

theorem Stands.copied (stands : edit.Stands node place) (other : node ≠ edit.expr) :
    edit.Copied node place := ⟨place, stands, opened?_of_ne other⟩

theorem Copied.stands (copied : edit.Copied node copy) (other : node ≠ edit.expr) :
    edit.Stands node copy := by
  obtain ⟨place, stands, opened⟩ := copied
  rw [opened?_of_ne other] at opened
  cases opened
  exact stands

theorem forall₂_copied {nodes nodes' : List Node} (both : List.Forall₂ edit.Stands nodes nodes')
    (other : edit.expr ∉ nodes) : List.Forall₂ edit.Copied nodes nodes' := by
  induction both with
  | nil => exact .nil
  | cons stands _ ih =>
    rw [List.mem_cons, not_or] at other
    exact .cons (stands.copied (Ne.symm other.1)) (ih other.2)

/-- The node around what stands in a place is what became of the node around it. -/
theorem Stands.parent? (stands : edit.Stands node place) :
    Option.Rel edit.Copied node.parent? place.parent? := by
  cases stands with
  | root => exact .none
  | inside around opened held held' =>
    rw [mem_children_iff.1 (List.mem_of_getElem? held),
      mem_children_iff.1 (List.mem_of_getElem? held')]
    exact .some ⟨_, around, opened⟩

theorem Copied.child (copied : edit.Copied outer copy) {index : Nat}
    (held : outer.children[index]? = some node) (held' : copy.children[index]? = some place) :
    edit.Stands node place := by
  obtain ⟨_, around, opened⟩ := copied
  exact .inside around opened held held'

/-- Fields that may hold an expression in parentheses. -/
def holdingFields : List (String × String) :=
  valueFields ++ [("pair", "value"), ("member_expression", "object"),
    ("binary_expression", "left"), ("binary_expression", "right")]

/-- Nodes of which every child may be an expression in parentheses. -/
def holdingKinds : List String := ["arguments", "await_expression", "expression_statement"]

def mayHold (kind field : String) : Bool :=
  kind ∈ holdingKinds || (kind, field) ∈ holdingFields

/-- No child of such a node is put in parentheses. -/
def isClosed (kind : String) : Bool :=
  kind ∉ holdingKinds && kind ∉ holdingFields.map Prod.fst

theorem mayHold_of_isClosed {kind : String} (closed : isClosed kind = true) (field : String) :
    mayHold kind field = false := by
  rw [isClosed, Bool.and_eq_true, decide_eq_true_eq, decide_eq_true_eq] at closed
  have held : (kind, field) ∉ holdingFields := fun member => closed.2 (List.mem_map_of_mem member)
  simp [mayHold, closed.1, held]

theorem Holds.mayHold {expr : Node} (holds : Holds expr outer) :
    mayHold outer.kind expr.field = true := by
  have accessed {property : String} (found : outer.member? = some (expr, property)) :
      Edit.mayHold outer.kind expr.field = true := by
    obtain ⟨kind, object, _⟩ := member?_eq_some_iff.1 found
    have field : expr.field = "object" := by simpa using List.find?_some object
    rw [kind, field]
    decide
  cases holds with
  | argument kind => simp [Edit.mayHold, holdingKinds, kind]
  | entry kind field =>
    rw [kind, field]
    decide
  | response found => exact accessed found
  | headers found => exact accessed found
  | value listed => simp [Edit.mayHold, holdingFields, listed]
  | awaited kind => simp [Edit.mayHold, holdingKinds, kind]
  | operand sum side =>
    have kind : outer.kind = "binary_expression" := by
      by_contra other
      simp [sum?, other] at sum
    rcases List.mem_pair.1 side with field | field
    · rw [kind, field]
      decide
    · rw [kind, field]
      decide
  | statement kind => simp [Edit.mayHold, holdingKinds, kind]

namespace Parenthesises

variable (wraps : edit.Parenthesises)
include wraps

/-- A child that may not be the expression is what it was. -/
theorem ne_expr {inner : Node} (member : inner ∈ node.children)
    (closed : mayHold node.kind inner.field = false) : inner ≠ edit.expr := by
  rintro rfl
  obtain ⟨outer, found, holds⟩ := wraps.held
  cases (mem_children_iff.1 member).symm.trans found
  rw [holds.mayHold] at closed
  cases closed

theorem kind_of_parent {kind : String} (found : edit.expr.parent? = some outer)
    (closed : isClosed kind = true) : outer.kind ≠ kind := by
  rintro rfl
  exact wraps.ne_expr (mem_children_iff.2 found) (mayHold_of_isClosed closed _) rfl

theorem kind_of_copied (copied : edit.Copied node copy) : copy.kind = node.kind :=
  (wraps.akin _ _ copied).kind

theorem kind_of_stands (stands : edit.Stands node place) (other : node ≠ edit.expr) :
    place.kind = node.kind := wraps.kind_of_copied (stands.copied other)

/-- What the parentheses hold. -/
theorem exists_inner (stands : edit.Stands edit.expr place) :
    ∃ inner, edit.Copied edit.expr inner ∧ place.namedChildren = [inner] ∧
      place.firstPart? = some inner := by
  obtain ⟨inner, only⟩ := (wraps.parentheses place stands).inner
  have copied : edit.Copied edit.expr inner := ⟨place, stands, by rw [opened?_expr, only]; rfl⟩
  refine ⟨inner, copied, only, ?_⟩
  have other : inner.kind ≠ "comment" := by
    rw [wraps.kind_of_copied copied]
    intro comment
    exact wraps.expression (by simp [otherKinds, comment])
  simp [firstPart?, parts, only, other]

/-- Whether something is of a kind other than expressions is known from its place. -/
theorem kind_iff {kind : String} (stands : edit.Stands node place) (other : kind ∈ otherKinds) :
    place.kind = kind ↔ node.kind = kind := by
  by_cases same : node = edit.expr
  · subst same
    rw [(wraps.parentheses place stands).kind]
    constructor
    · rintro rfl
      exact absurd other (by decide)
    · rintro rfl
      exact absurd other wraps.expression
  · rw [wraps.kind_of_stands stands same]

theorem named_of_stands (stands : edit.Stands node place) : place.named = node.named := by
  by_cases same : node = edit.expr
  · subst same
    rw [(wraps.parentheses place stands).named, wraps.named]
  · exact (wraps.akin _ _ (stands.copied same)).named

theorem isSpread (stands : edit.Stands node place) : place.isSpread = node.isSpread := by
  have spread : place.kind = "spread_element" ↔ node.kind = "spread_element" :=
    wraps.kind_iff stands (by decide)
  simp only [Node.isSpread, spread]

theorem children (copied : edit.Copied node copy) :
    List.Forall₂ edit.Stands node.children copy.children := by
  refine List.forall₂_iff_zip.2 ⟨(wraps.akin _ _ copied).arity.symm, ?_⟩
  intro inner inner' paired
  obtain ⟨index, found⟩ := List.mem_iff_getElem?.1 paired
  rw [List.getElem?_zip_eq_some] at found
  exact copied.child found.1 found.2

theorem child? (copied : edit.Copied node copy) (field : String) :
    Option.Rel edit.Stands (node.child? field) (copy.child? field) :=
  rel_find? (wraps.children copied) fun inner inner' stands => by rw [wraps.field _ _ stands]

theorem namedChildren (copied : edit.Copied node copy) :
    List.Forall₂ edit.Stands node.namedChildren copy.namedChildren :=
  forall₂_filter (wraps.children copied) fun _ _ stands => wraps.named_of_stands stands

theorem parts (copied : edit.Copied node copy) :
    List.Forall₂ edit.Stands node.parts copy.parts := by
  refine forall₂_filter (wraps.namedChildren copied) fun inner inner' stands => ?_
  have comment : inner'.kind = "comment" ↔ inner.kind = "comment" :=
    wraps.kind_iff stands (by decide)
  simp only [bne, beq_eq_decide, comment]

theorem closedChild? {kind field : String} (copied : edit.Copied node copy)
    (is : node.kind = kind) (closed : mayHold kind field = false) :
    Option.Rel edit.Copied (node.child? field) (copy.child? field) := by
  refine rel_imp (wraps.child? copied field) fun inner found inner' stands => stands.copied ?_
  have filled : inner.field = field := by simpa using List.find?_some found
  exact wraps.ne_expr (mem_children_of_child? found) (by rw [is, filled, closed])

theorem closedChildren {kind : String} {nodes nodes' : List Node}
    (both : List.Forall₂ edit.Stands nodes nodes') (inside : ∀ inner ∈ nodes, inner ∈ node.children)
    (is : node.kind = kind) (closed : isClosed kind = true) :
    List.Forall₂ edit.Copied nodes nodes' := by
  refine forall₂_copied both fun member => ?_
  exact wraps.ne_expr (inside _ member) (mayHold_of_isClosed (is ▸ closed) _) rfl

theorem closedParts {kind : String} (copied : edit.Copied node copy) (is : node.kind = kind)
    (closed : isClosed kind = true) : List.Forall₂ edit.Copied node.parts copy.parts :=
  wraps.closedChildren (wraps.parts copied) (fun _ member => (mem_parts_iff.1 member).1) is closed

theorem closedNamedChildren {kind : String} (copied : edit.Copied node copy)
    (is : node.kind = kind) (closed : isClosed kind = true) :
    List.Forall₂ edit.Copied node.namedChildren copy.namedChildren :=
  wraps.closedChildren (wraps.namedChildren copied)
    (fun _ member => (List.mem_filter.1 member).1) is closed

end Parenthesises

variable (edit) in
/-- What stands where a node stood, found along the way down to it. -/
def placeBelow? : (tree : Tree) → (above : List Frame) → Placed tree above → Option Node
  | _, [], _ => some (.root edit.new)
  | _, frame :: above, placed => do
    let place ← placeBelow? frame.parent above placed.2
    let outer ← edit.opened? ⟨frame.parent, above, placed.2⟩ place
    outer.children[frame.index]?

variable (edit) in
def place? (node : Node) : Option Node := edit.placeBelow? node.tree node.above node.placed

variable (edit) in
def copy? (node : Node) : Option Node := (edit.place? node).bind (edit.opened? node)

theorem place?_of_stands (stands : edit.Stands node place) : edit.place? node = some place := by
  induction stands with
  | root => rfl
  | @inside outer place outer' node node' index _ opened held held' ih =>
    obtain ⟨bound, rfl⟩ := List.getElem?_eq_some_iff.1 held
    have unfolded : edit.place? outer.children[index] =
        (edit.place? outer).bind fun place =>
          (edit.opened? outer place).bind fun outer' => outer'.children[index]? := by
      simp only [children, List.getElem_map, List.getElem_finRange]
      rfl
    rw [unfolded, ih, Option.bind_some, opened, Option.bind_some, held']

theorem listed_of_stands (stands : edit.Stands node place) : node ∈ (root edit.old).preorder := by
  induction stands with
  | root => exact self_mem_preorder _
  | inside _ _ held _ ih => exact mem_preorder_of_child ih (List.mem_of_getElem? held)

theorem copy?_of_copied (copied : edit.Copied node copy) :
    node ∈ (root edit.old).preorder ∧ edit.copy? node = some copy := by
  obtain ⟨place, stands, opened⟩ := copied
  refine ⟨listed_of_stands stands, ?_⟩
  rw [copy?, place?_of_stands stands, Option.bind_some, opened]

instance (node node' : Node) : Decidable (Akin node node') :=
  decidable_of_iff (node'.kind = node.kind ∧ node'.named = node.named ∧
      node'.children.length = node.children.length ∧
      (isSpelled node = true → node'.text = node.text))
    ⟨fun ⟨kind, named, arity, text⟩ => ⟨kind, named, arity, text⟩,
      fun ⟨kind, named, arity, text⟩ => ⟨kind, named, arity, text⟩⟩

instance (node : Node) : Decidable (IsParentheses node) :=
  decidable_of_iff (node.kind = "parenthesized_expression" ∧ node.named = true ∧
      (∃ inner ∈ node.namedChildren, node.namedChildren = [inner]) ∧
      ∀ token ∈ node.children, token.named = false →
        token.kind ∈ ["(", ")"] ∧ token.children = [])
    ⟨fun ⟨kind, named, ⟨inner, _, only⟩, tokens⟩ => ⟨kind, named, ⟨inner, only⟩, tokens⟩,
      fun ⟨kind, named, ⟨inner, only⟩, tokens⟩ =>
        ⟨kind, named, ⟨inner, by simp [only], only⟩, tokens⟩⟩

instance (first second : Node) : Decidable (Near first second) :=
  inferInstanceAs (Decidable (_ = _))

end Edit
end RequestLint
