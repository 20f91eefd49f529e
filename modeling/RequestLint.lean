import RequestLint.Main
import RequestLint.Proofs.Rule.ErrorHandling
import RequestLint.Proofs.Fix.Insertion
import RequestLint.Proofs.Fix.Offered
import RequestLint.Proofs.Command.Repair
import RequestLint.Proofs.Syntax.Reparse
import RequestLint.Proofs.Fix.Settled
import RequestLint.Proofs.Scope.Names
import RequestLint.Proofs.Scope.Shadowing
import RequestLint.Proofs.Scope.Block
import RequestLint.Proofs.Rule.StatusCheck
import RequestLint.Proofs.Scope.Nesting
import RequestLint.Proofs.Rule.Sites
import RequestLint.Proofs.Rule.UncheckedResponse
import RequestLint.Proofs.Parentheses.Edit
import RequestLint.Proofs.Parentheses.Expression
import RequestLint.Proofs.Parentheses.Surroundings
import RequestLint.Proofs.Parentheses.Scopes
import RequestLint.Proofs.Parentheses.Findings
import RequestLint.Proofs.Scope.Outer
import RequestLint.Proofs.Command.Outcome
import RequestLint.Proofs.Rule.UncheckedParse
import RequestLint.Proofs.Settings.Validity
import RequestLint.Proofs.Syntax.Handlers
import RequestLint.Proofs.Scope.Callback
import RequestLint.Proofs.Rule.DynamicEntries
import RequestLint.Proofs.Rule.Registration
import RequestLint.Proofs.Fix.Maximum
import RequestLint.Proofs.Scope.Following
import RequestLint.Proofs.Rule.AsyncAwait
import RequestLint.Proofs.Rule.Context
import RequestLint.Proofs.Diagnostic.Position
import RequestLint.Proofs.Fix.Characters
import RequestLint.Proofs.Sink.Flushing
import RequestLint.Proofs.Scope.Completion
import RequestLint.Proofs.Syntax.Concatenation
import RequestLint.Proofs.Text.LetterCase
import RequestLint.Proofs.Files.Discovery
import RequestLint.Proofs.Command.Spelling
import RequestLint.Proofs.Terminal.Icon
