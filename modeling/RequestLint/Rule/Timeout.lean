import RequestLint.Rule

/-! Every request needs a signal that can abort it. Options that the source does
not spell out are not judged. -/
namespace RequestLint.Timeout

/-- `AbortSignal.timeout(…)`, or any `….signal`, which is trusted to be aborted
by someone. -/
def isTimeoutSignal (value : Node) : Bool :=
  value.unwrap.any fun inner =>
    inner.isMemberCall "AbortSignal" "timeout" || inner.member?.any (·.2 = "signal")

def verdict? (call : Node) : Option Verdict :=
  if (call.arguments.take 2).any Node.isSpread then none
  else
    match call.arguments[1]? with
    | none => some ⟨.missingTimeout, call, none⟩
    | some argument => do
      let options ← argument.objectLiteral?
      match options.value? "signal" with
      | some signal => if isTimeoutSignal signal then none else some ⟨.missingTimeout, call, none⟩
      | none => if options.hasDynamicEntry then none else some ⟨.missingTimeout, call, none⟩

end RequestLint.Timeout
