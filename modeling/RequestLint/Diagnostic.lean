import RequestLint.Fix

/-! Diagnostics: what is wrong, and where a reader finds it. -/
namespace RequestLint

/-- Lines and columns count from one. -/
structure Position where
  line : Nat
  column : Nat
  deriving DecidableEq, Repr

/-- What a column counts. -/
inductive ColumnUnit where
  | characters
  | bytes
  deriving DecidableEq, Repr

def ColumnUnit.measure : ColumnUnit → Bytes → Nat
  | characters => Utf8.count
  | bytes => List.length

namespace Position

def newline : UInt8 := 0x0A

/-- The bytes between the last newline before an offset and the offset. -/
def lineBefore (source : Bytes) (offset : Nat) : Bytes :=
  ((source.take offset).reverse.takeWhile (· != newline)).reverse

def ofOffset (source : Bytes) (unit : ColumnUnit) (offset : Nat) : Position where
  line := 1 + (source.take offset).count newline
  column := 1 + unit.measure (lineBefore source offset)

end Position

structure Diagnostic where
  rule : String
  messageId : String
  message : String
  position : Position
  start : Nat
  stop : Nat
  fix? : Option Fix
  file? : Option String
  deriving DecidableEq, Repr

end RequestLint
