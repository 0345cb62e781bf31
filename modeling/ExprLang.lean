import ExprLang.Text.Blank
import ExprLang.Text.NameChar
import ExprLang.Text.Case
import ExprLang.Text.Property
import ExprLang.Text.Quoted
import ExprLang.Number.Decimal.Reading
import ExprLang.Number.Decimal.Double
import ExprLang.Number.Shortest
import ExprLang.Token.Scan
import ExprLang.Expr.Parser
import ExprLang.Value.Equality
import ExprLang.Value.Inspect
import ExprLang.Pattern.Cache
import ExprLang.Evaluation
import ExprLang.Value.Coercion
import ExprLang.Value.Json
import ExprLang.Json.Parser
import ExprLang.Cache.Run
import ExprLang.Session
import ExprLang.Main
import ExprLang.Proofs.Parser.Language
import ExprLang.Proofs.Cache.Transparency
import ExprLang.Proofs.Cache.Recency
import ExprLang.Proofs.Parser.Height
import ExprLang.Proofs.Parser.Names
import ExprLang.Proofs.Evaluation.References
import ExprLang.Proofs.Token.Lossless
import ExprLang.Proofs.Session.Answer
import ExprLang.Proofs.Evaluation.Monotone
import ExprLang.Proofs.Evaluation.Substitution
import ExprLang.Session.Run
import ExprLang.Proofs.Session.EntryPoints
import ExprLang.Proofs.Session.Installation
import ExprLang.Proofs.Number.Rational
import ExprLang.Proofs.Value.Parts
import ExprLang.Proofs.Value.Equality
import ExprLang.Proofs.Value.Order
import ExprLang.Proofs.Evaluation.WellFormed
import ExprLang.Proofs.Literal.Escape
import ExprLang.Proofs.Literal.Written
import ExprLang.Proofs.Parser.Mistake
import ExprLang.Proofs.Pattern.Anchored
import ExprLang.Proofs.Evaluation.NullSafe
import ExprLang.Proofs.Parser.Invariant
import ExprLang.Proofs.Literal.Undefined
import ExprLang.Proofs.Parser.Depth
import ExprLang.Proofs.Value.Promotion
import ExprLang.Proofs.Literal.Number
import ExprLang.Proofs.Cache.Bounded
import ExprLang.Proofs.ParameterNames.Table
import ExprLang.Proofs.Cache.Refusal
import ExprLang.Proofs.Parser.Refusal
import ExprLang.Proofs.Session.Gate
import ExprLang.Proofs.ParameterNames.Binding
import ExprLang.Proofs.Value.Whole
import ExprLang.Proofs.Json.Parsed
import ExprLang.Proofs.Json.RoundTrip
import ExprLang.Proofs.Json.Shape
import ExprLang.Proofs.Value.Text
import ExprLang.Proofs.Value.Sequence
import ExprLang.Proofs.Token.Respelling
import ExprLang.Proofs.Parser.Located
import ExprLang.Proofs.Parser.MemberName
import ExprLang.Proofs.CommandLine.Outcome
import ExprLang.Proofs.Parser.Levels
import ExprLang.Proofs.Literal.Boundaries
import ExprLang.Evaluation.Remembering
import ExprLang.Proofs.Pattern.Memory
import ExprLang.Proofs.Parser.Consumption
