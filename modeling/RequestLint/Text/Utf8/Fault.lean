import RequestLint.Text.Quoted
import RequestLint.Text.Utf8

/-! Strict decoding that says where it fails. The first broken stretch is the
fault; without one, lossy decoding replaces nothing and is exact. -/
namespace RequestLint.Utf8

/-- Why a stretch spells no character: no character begins so, the next byte
does not continue it, or the input ends inside it. -/
inductive Cause where
  | start
  | continuation
  | ending
  deriving DecidableEq, Repr

def Cause.message : Cause → String
  | start => "invalid start byte"
  | continuation => "invalid continuation byte"
  | ending => "unexpected end of data"

structure Fault where
  offset : Nat
  stretch : Bytes
  cause : Cause
  deriving DecidableEq, Repr

/-- One byte is shown, several are located by the first and the last. -/
def Fault.message (fault : Fault) : String :=
  let place :=
    match fault.stretch with
    | [byte] =>
      "byte 0x" ++ String.ofList (Text.hex 2 byte.toNat) ++ " in position " ++ toString fault.offset
    | stretch =>
      "bytes in position " ++ toString fault.offset ++ "-" ++
        toString (fault.offset + stretch.length - 1)
  "'utf-8' codec can't decode " ++ place ++ ": " ++ fault.cause.message

/-- The first fault, where `begun` are the bytes since `offset` of a character
that is not complete. -/
def faultFrom (offset : Nat) (begun : Bytes) (state : State) : Bytes → Option Fault
  | [] => if begun = [] then none else some ⟨offset, begun, .ending⟩
  | byte :: rest =>
    let (pieces, next) := step state byte
    if .broken ∈ pieces then
      some (if begun = [] then ⟨offset, [byte], .start⟩ else ⟨offset, begun, .continuation⟩)
    else if pieces = [] then faultFrom offset (begun ++ [byte]) next rest
    else faultFrom (offset + begun.length + 1) [] next rest

def fault? (bytes : Bytes) : Option Fault := faultFrom 0 [] .ready bytes

def decode (bytes : Bytes) : Except Fault String :=
  match fault? bytes with
  | some fault => .error fault
  | none => .ok (decodeLossy bytes)

end RequestLint.Utf8
