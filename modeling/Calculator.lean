import Calculator.Main
import Calculator.Proofs.Parse.Complete
import Calculator.Proofs.Number.Sign
import Calculator.Proofs.Parse.Sound
import Calculator.Proofs.Parse.Unambiguous
import Calculator.Proofs.Parse.Language
import Calculator.Proofs.Parse.Limits
import Calculator.Proofs.Parse.Lookahead
import Calculator.Proofs.Parse.Faults
import Calculator.Proofs.Parse.Viable
import Calculator.Proofs.Number.ReadBack
import Calculator.Proofs.Expr.Words
import Calculator.Proofs.Expr.Reread
import Calculator.Proofs.Expr.RoundTrip
import Calculator.Proofs.Expr.Denotes
import Calculator.Proofs.Expr.Evaluator
import Calculator.Proofs.Parse.Followers
import Calculator.Proofs.Parse.SplitSigns
import Calculator.Proofs.Parse.Substitution
import Calculator.Proofs.Token.Tokenization
import Calculator.Proofs.Token.Wording
import Calculator.Proofs.Expr.Compose
import Calculator.Proofs.Token.Enabling
import Calculator.Proofs.Expr.Widening
import Calculator.Proofs.Parse.Relabel
import Calculator.Proofs.Parse.Places
import Calculator.Proofs.Token.Spacing
import Calculator.Proofs.Expr.Spacing
import Calculator.Proofs.Expr.Polish
import Calculator.Proofs.Answer.Query
import Calculator.Proofs.Answer.Json
import Calculator.Proofs.Answer.JsonRules
import Calculator.Proofs.Answer.JsonNumber
import Calculator.Proofs.Answer.JsonString
import Calculator.Proofs.CommandLine.Arguments
import Calculator.Proofs.CommandLine.Modes
import Calculator.Proofs.Answer.Body
import Calculator.Proofs.Parse.Sessions
import Calculator.Proofs.Parse.Reuse
import Calculator.Proofs.Token.Progress
import Calculator.Proofs.Parse.Brackets
import Calculator.Proofs.Expr.Height
import Calculator.Proofs.Token.Runs
import Calculator.Proofs.Token.Quotes
import Calculator.Proofs.Expr.Positions
import Calculator.Proofs.Expr.Injective
import Calculator.Proofs.Expr.Printed
import Calculator.Proofs.Parse.Recursion
import Calculator.Proofs.Parse.Built
import Calculator.Proofs.Token.Case
import Calculator.Proofs.Expr.Case
