/-! UTF-8 as a machine that reads one byte at a time. The machine says which
characters the bytes spell and where they spell none; strict and lossy decoding
are two readings of that one answer. A broken stretch ends at the first byte
that cannot continue it, and that byte is then read afresh, so each maximal
broken stretch counts as one. -/
namespace RequestLint

/-- Raw source content. -/
abbrev Bytes := List UInt8

namespace Utf8

/-- What a stretch of bytes spells. -/
inductive Piece where
  | scalar (char : Char)
  | broken
  deriving DecidableEq, Repr

/-- Where the machine stands between two bytes. Inside a character, `value`
holds the bits read so far, the next byte has to lie between `low` and `high`,
and `more` ordinary continuation bytes have to follow it. -/
inductive State where
  | ready
  | inside (value more : Nat) (low high : UInt8)
  deriving DecidableEq, Repr

/-- The first byte of a character. The bounds on the second byte keep out
overlong forms, surrogates and values beyond the last code point. -/
def first (byte : UInt8) : List Piece × State :=
  if byte < 0x80 then ([.scalar (Char.ofNat byte.toNat)], .ready)
  else if byte < 0xC2 then ([.broken], .ready)
  else if byte < 0xE0 then ([], .inside (byte.toNat - 0xC0) 0 0x80 0xBF)
  else if byte = 0xE0 then ([], .inside 0 1 0xA0 0xBF)
  else if byte = 0xED then ([], .inside 0xD 1 0x80 0x9F)
  else if byte < 0xF0 then ([], .inside (byte.toNat - 0xE0) 1 0x80 0xBF)
  else if byte = 0xF0 then ([], .inside 0 2 0x90 0xBF)
  else if byte < 0xF4 then ([], .inside (byte.toNat - 0xF0) 2 0x80 0xBF)
  else if byte = 0xF4 then ([], .inside 4 2 0x80 0x8F)
  else ([.broken], .ready)

/-- One byte: the pieces it completes and the next state. -/
def step : State → UInt8 → List Piece × State
  | .ready, byte => first byte
  | .inside value more low high, byte =>
    if low ≤ byte ∧ byte ≤ high then
      let value := value * 64 + (byte.toNat - 0x80)
      match more with
      | 0 => ([.scalar (Char.ofNat value)], .ready)
      | more + 1 => ([], .inside value more 0x80 0xBF)
    else
      let (pieces, next) := first byte
      (.broken :: pieces, next)

/-- The pieces of the rest of the input. A character cut off by the end of the
input is broken. -/
def piecesFrom : State → Bytes → List Piece
  | .ready, [] => []
  | .inside .., [] => [.broken]
  | state, byte :: rest => (step state byte).1 ++ piecesFrom (step state byte).2 rest

def pieces (bytes : Bytes) : List Piece := piecesFrom .ready bytes

/-- The character shown for a piece; U+FFFD stands for a broken one. -/
def Piece.shown : Piece → Char
  | .scalar char => char
  | .broken => '\uFFFD'

def Piece.scalar? : Piece → Option Char
  | .scalar char => some char
  | .broken => none

/-- Decodes any bytes, with one replacement character per broken stretch. -/
def decodeLossy (bytes : Bytes) : String :=
  String.ofList ((pieces bytes).map Piece.shown)

/-- Decodes bytes that spell characters throughout. -/
def decode? (bytes : Bytes) : Option String :=
  ((pieces bytes).mapM Piece.scalar?).map String.ofList

/-- The number of characters that lossy decoding shows. -/
def count (bytes : Bytes) : Nat := (pieces bytes).length

def encode (text : String) : Bytes := text.toList.flatMap String.utf8EncodeChar

end Utf8

/-- The bytes from `start` up to, not including, `stop`. -/
def Bytes.slice (bytes : Bytes) (start stop : Nat) : Bytes :=
  (bytes.drop start).take (stop - start)

end RequestLint
