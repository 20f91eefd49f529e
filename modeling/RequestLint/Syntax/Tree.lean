import RequestLint.Text.Utf8

/-! Concrete syntax trees. A node carries the name of its grammar rule, the
field it fills in its parent, its byte span and its source text; tokens and
comments are nodes like any other. Trees are read from outlines: the nodes in
pre-order, each with its number of children. -/
namespace RequestLint

/-- Everything a node says about itself. Anonymous tokens have their own text
as `kind`. `hasError` marks a syntax error somewhere below. -/
structure Label where
  kind : String
  named : Bool
  hasError : Bool
  field : String
  start : Nat
  stop : Nat
  text : String
  deriving DecidableEq, Repr

inductive Tree where
  | node (label : Label) (children : List Tree)

namespace Tree

def label : Tree → Label
  | node label _ => label

def children : Tree → List Tree
  | node _ children => children

mutual
/-- The number of nodes. -/
def size : Tree → Nat
  | node _ children => 1 + totalSize children

def totalSize : List Tree → Nat
  | [] => 0
  | tree :: rest => tree.size + totalSize rest
end

theorem size_le_totalSize {tree : Tree} {trees : List Tree} (present : tree ∈ trees) :
    tree.size ≤ totalSize trees := by
  induction trees with
  | nil => cases present
  | cons head rest ih =>
    rw [totalSize]
    cases present with
    | head => exact Nat.le_add_right _ _
    | tail _ later => exact Nat.le_trans (ih later) (Nat.le_add_left _ _)

theorem size_eq (tree : Tree) : tree.size = 1 + totalSize tree.children := by
  cases tree
  rw [size, children]

theorem size_lt_of_mem_children {tree parent : Tree} (child : tree ∈ parent.children) :
    tree.size < parent.size := by
  rw [size_eq parent, Nat.add_comm]
  exact Nat.lt_succ_of_le (size_le_totalSize child)

/-- One line of an outline: a label without its text, and a number of children. -/
structure Row where
  kind : String
  named : Bool
  hasError : Bool
  field : String
  start : Nat
  stop : Nat
  arity : Nat
  deriving DecidableEq, Repr

/-- The text of a node is its span of the source, decoded. -/
def Row.label (row : Row) (source : Bytes) : Label where
  kind := row.kind
  named := row.named
  hasError := row.hasError
  field := row.field
  start := row.start
  stop := row.stop
  text := Utf8.decodeLossy (source.slice row.start row.stop)

/-- Reads an outline from its end: the trees that still lack a parent stand
leftmost first, and a row takes as many of them as it has children. -/
def forest (source : Bytes) : List Row → List Tree
  | [] => []
  | row :: rest =>
    let orphans := forest source rest
    node (row.label source) (orphans.take row.arity) :: orphans.drop row.arity

def ofOutline? (source : Bytes) (rows : List Row) : Option Tree :=
  match forest source rows with
  | [tree] => some tree
  | _ => none

end Tree
end RequestLint
