import RequestLint.Text.CaseTable

/-! Lower and upper case of whole texts, by the full Unicode mappings: a letter
may map to several, and a capital sigma is lowered to its final form where it
ends a word. -/
namespace RequestLint.Text

def inRanges (ranges : List (Nat × Nat)) (char : Char) : Bool :=
  ranges.any fun (first, last) => first ≤ char.toNat && char.toNat ≤ last

def CaseRun.covers (run : CaseRun) (code : Nat) : Bool :=
  run.first ≤ code && code ≤ run.last && (code - run.first) % run.stride = 0

/-- The image of a character under a case mapping. -/
def mapCase (runs : List CaseRun) (expansions : List (Nat × List Nat)) (char : Char) : List Char :=
  match expansions.lookup char.toNat with
  | some codes => codes.map Char.ofNat
  | none =>
    match runs.find? (·.covers char.toNat) with
    | some run => [Char.ofNat (char.toNat + run.delta).toNat]
    | none => [char]

def lowerChar (char : Char) : List Char :=
  if char.toNat < 0x80 then [char.toLower] else mapCase lowerRuns lowerExpansions char

def upperChar (char : Char) : List Char :=
  if char.toNat < 0x80 then [char.toUpper] else mapCase upperRuns upperExpansions char

/-- The nearest character that counts has letter case. -/
def meetsCased (chars : List Char) : Bool :=
  (chars.find? (!inRanges caseIgnorableRanges ·)).any (inRanges casedRanges)

/-- Lowers `chars`; `before` is what precedes them, nearest first. -/
def lowerFrom (before : List Char) : List Char → List Char
  | [] => []
  | char :: rest =>
    let lowered :=
      if char = 'Σ' then [if meetsCased before && !meetsCased rest then 'ς' else 'σ']
      else lowerChar char
    lowered ++ lowerFrom (char :: before) rest

def lower (text : String) : String := String.ofList (lowerFrom [] text.toList)

def upper (text : String) : String := String.ofList (text.toList.flatMap upperChar)

end RequestLint.Text
