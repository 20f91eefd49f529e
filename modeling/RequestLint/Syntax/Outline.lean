import RequestLint.Syntax.Tree

/-! Outlines as text: one node per line, in pre-order, with its kind, flags,
field, span and number of children separated by tabs. The flags are 1 for a
named node and 2 for one that holds a syntax error. -/
namespace RequestLint.Tree

def Row.ofFields? : List String → Option Row
  | [kind, flags, field, start, stop, arity] => do
    let flags ← flags.toNat?
    let start ← start.toNat?
    let stop ← stop.toNat?
    let arity ← arity.toNat?
    some ⟨kind, flags % 2 = 1, flags / 2 % 2 = 1, field, start, stop, arity⟩
  | _ => none

def Row.ofLine? (line : String) : Option Row := Row.ofFields? (line.splitOn "\t")

/-- The tree that an outline gives a source. -/
def ofOutlineText? (source : Bytes) (outline : String) : Option Tree := do
  let rows ← ((outline.splitOn "\n").filter (· ≠ "")).mapM Row.ofLine?
  ofOutline? source rows

/-- The tree of a source that nothing is known about. -/
def blank (source : Bytes) : Tree :=
  node ⟨"program", true, false, "", 0, source.length, Utf8.decodeLossy source⟩ []

end RequestLint.Tree
