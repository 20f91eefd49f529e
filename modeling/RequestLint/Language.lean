import RequestLint.Analysis

/-! Source languages. How a source becomes a tree is not decided here: a parser
is a function of language and content that whoever runs the analysis supplies. -/
namespace RequestLint

inductive Language where
  | javascript
  | typescript
  | tsx
  deriving DecidableEq, Repr

namespace Language

def name : Language → String
  | javascript => "javascript"
  | typescript => "typescript"
  | tsx => "tsx"

def ofName (name : String) : Except AnalysisError Language :=
  match [javascript, typescript, tsx].find? (·.name = name) with
  | some language => .ok language
  | none => .error (.unsupportedLanguage name)

/-- The language of files with the given suffix, whatever its letter case. -/
def ofSuffix? (suffix : String) : Option Language :=
  let suffix := Text.lower suffix
  if suffix ∈ [".js", ".jsx", ".mjs", ".cjs"] then some javascript
  else if suffix ∈ [".ts", ".mts", ".cts"] then some typescript
  else if suffix = ".tsx" then some tsx
  else none

end Language

abbrev Parser := Language → Bytes → Tree

namespace Analysis

def diagnoseSource (analysis : Analysis) (parser : Parser) (language : Language) (source : Bytes)
    (file? : Option String) : List Diagnostic :=
  analysis.diagnose (.root (parser language source)) source file?

/-- Diagnoses and applies all fixes offered, again and again, for a number of
passes or until none is offered. Each pass gives its diagnostics and the source
it leaves. -/
def repair (analysis : Analysis) (parser : Parser) (language : Language) :
    Nat → Bytes → List (List Diagnostic × Bytes)
  | 0, _ => []
  | passes + 1, source =>
    let diagnostics := analysis.diagnoseSource parser language source none
    match diagnostics.filterMap Diagnostic.fix? with
    | [] => [(diagnostics, source)]
    | fixes =>
      let repaired := Fix.applyAll source fixes
      (diagnostics, repaired) :: analysis.repair parser language passes repaired

end Analysis
end RequestLint
