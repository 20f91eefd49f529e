import RequestLint.Syntax.Expression

/-! Texts put together from parts: `a + b + c` and templates. -/
namespace RequestLint.Node

/-- Left and right side of a `+`; either may be missing in erroneous sources. -/
def sum? (node : Node) : Option (Option Node × Option Node) :=
  if node.kind = "binary_expression" ∧ (node.child? "operator").any (·.kind = "+") then
    some (node.child? "left", node.child? "right")
  else
    none

/-- An upper bound on the work that a node causes: three times what each side of
a sum weighs. -/
def weight (node : Node) : Nat := Nat.pow 3 node.size

def totalWeight : List Node → Nat
  | [] => 0
  | node :: rest => node.weight + totalWeight rest

theorem weight_pos (node : Node) : 0 < node.weight := Nat.pow_pos (by decide)

theorem totalWeight_append (first second : List Node) :
    totalWeight (first ++ second) = totalWeight first + totalWeight second := by
  induction first with
  | nil => exact (Nat.zero_add _).symm
  | cons node rest ih => rw [List.cons_append, totalWeight, totalWeight, ih, Nat.add_assoc]

theorem weight_bound {node inner side : Node} {field : String} (opened : node.unwrap = some inner)
    (found : inner.child? field = some side) : 3 * side.weight ≤ node.weight := by
  have smaller := size_lt_of_child? found
  have bound := size_unwrap_le opened
  have grown : Nat.pow 3 (side.size + 1) ≤ Nat.pow 3 node.size :=
    Nat.pow_le_pow_right (by decide) (by omega)
  rw [weight, weight, Nat.mul_comm]
  exact grown

theorem totalWeight_side_le {node inner : Node} (opened : node.unwrap = some inner)
    (field : String) :
    3 * totalWeight (inner.child? field).toList ≤ node.weight := by
  cases found : inner.child? field with
  | none => exact Nat.zero_le _
  | some side => exact weight_bound opened found

theorem totalWeight_sides_lt {node inner : Node} {left right : Option Node}
    (opened : node.unwrap = some inner) (split : inner.sum? = some (left, right)) :
    totalWeight (left.toList ++ right.toList) < node.weight := by
  unfold sum? at split
  split at split
  · cases split
    have leftBound := totalWeight_side_le opened "left"
    have rightBound := totalWeight_side_le opened "right"
    have positive := weight_pos node
    rw [totalWeight_append]
    omega
  · cases split

/-- The operands of the waiting expressions, left to right, with every `+` and
every wrapper opened. -/
def operandsOf : List Node → List Node
  | [] => []
  | node :: waiting =>
    match _ : node.unwrap with
    | none => operandsOf waiting
    | some inner =>
      match _ : inner.sum? with
      | some (left, right) => operandsOf (left.toList ++ right.toList ++ waiting)
      | none => inner :: operandsOf waiting
termination_by waiting => totalWeight waiting
decreasing_by
  · exact Nat.lt_add_of_pos_left (weight_pos node)
  · rw [totalWeight_append]
    exact Nat.add_lt_add_right (totalWeight_sides_lt ‹_› ‹_›) _
  · exact Nat.lt_add_of_pos_left (weight_pos node)

theorem operandsOf_cons (node : Node) (waiting : List Node) :
    operandsOf (node :: waiting) =
      match node.unwrap with
      | none => operandsOf waiting
      | some inner =>
        match inner.sum? with
        | some (left, right) => operandsOf (left.toList ++ right.toList ++ waiting)
        | none => inner :: operandsOf waiting := by
  rw [operandsOf]
  split
  next bare => simp only [bare]
  next inner opened =>
    simp only [opened]
    split
    next left right split => simp only [split]
    next single => simp only [single]

def operands (node : Node) : List Node := operandsOf [node]

/-- A part of a sum that is not known as it stands. -/
def isVariablePart (node : Node) : Bool := node.stringValue?.isNone && node.kind ≠ "number"

/-- A template with a substitution, or a sum with a part that is no literal. -/
def isDynamicText (node : Node) : Bool :=
  node.unwrap.any fun inner =>
    (inner.kind = "template_string" && inner.hasSubstitution) ||
      (inner.kind = "binary_expression" &&
        2 ≤ inner.operands.length && inner.operands.any isVariablePart)

end RequestLint.Node
