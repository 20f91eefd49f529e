import RequestLint.Syntax.Object

/-! Fixes: byte ranges of a source with the text to put there. Several fixes are
applied from the end of the source to its start, so that those still to come
keep their offsets; one that would reach into a range already replaced is left
for another run. -/
namespace RequestLint

/-- Replaces the bytes from `start` up to `stop`. Offsets of fixes that come from
elsewhere may be negative, which counts from the end of the source. -/
structure Fix where
  start : Int
  stop : Int
  text : String
  deriving DecidableEq, Repr

/-- Why no entry can be added to a node. -/
inductive InsertError where
  | notAnObject (kind? : Option String)
  | syntaxErrors
  deriving DecidableEq, Repr

def InsertError.message : InsertError → String
  | notAnObject kind? => "cannot insert into " ++ kind?.getD "nothing"
  | syntaxErrors => "object literal contains syntax errors"

namespace Fix

/-- Adds an entry at the end of an object literal: after its last entry, where a
trailing comma stays valid, or in place of a literal that has none. -/
def insertEntry (target : Option Node) (entry : String) : Except InsertError Fix :=
  match target.bind Node.unwrap with
  | none => .error (.notAnObject none)
  | some object =>
    if object.kind ≠ "object" then .error (.notAnObject object.kind)
    else if object.hasError then .error .syntaxErrors
    else
      match object.entries.getLast? with
      | none => .ok ⟨object.start, object.stop, "\x7b " ++ entry ++ " \x7d"⟩
      | some last => .ok ⟨last.stop, last.stop, ", " ++ entry⟩

/-- The position that an offset denotes in a source of the given length: from
the end if negative, and never outside. -/
def position (length : Nat) (offset : Int) : Nat :=
  min length (if offset < 0 then offset + length else offset).toNat

/-- The source with one range replaced. -/
def splice (source : Bytes) (fix : Fix) : Bytes :=
  source.take (position source.length fix.start) ++ Utf8.encode fix.text ++
    source.drop (position source.length fix.stop)

/-- `a` is applied before `b`: it starts later, or there and ends later. Fixes
of one range keep their order. -/
def precedes (a b : Fix) : Bool :=
  b.start < a.start || (a.start = b.start && b.stop ≤ a.stop)

/-- Fixes in the order in which they are applied. -/
def ordered (fixes : List Fix) : List Fix := fixes.mergeSort precedes

/-- Applies, in order, each fix that ends before the start of the previous one. -/
def applyBelow (boundary : Int) (source : Bytes) : List Fix → Bytes
  | [] => source
  | fix :: rest =>
    if boundary < fix.stop then applyBelow boundary source rest
    else applyBelow fix.start (splice source fix) rest

/-- Applies every fix that does not overlap one applied before it. -/
def applyAll (source : Bytes) (fixes : List Fix) : Bytes :=
  applyBelow (source.length + 1) source (ordered fixes)

/-- Applies fixes to a text through its encoding; none when a fix cuts through a
character. -/
def applyAllToText (source : String) (fixes : List Fix) : Option String :=
  Utf8.decode? (applyAll (Utf8.encode source) fixes)

end Fix
end RequestLint
