import JsxTidy.Text.Blank
import JsxTidy.Text.Lowercase
import JsxTidy.Text.Identifier
import JsxTidy.Text.Find
import JsxTidy.Text.Offset
import JsxTidy.Attribute.Class
import JsxTidy.Attribute.Order
import JsxTidy.Attribute.Permute
import JsxTidy.Attribute.Tag
import JsxTidy.Complaint
import JsxTidy.Decimal.Float
import JsxTidy.Decimal.Literal
import JsxTidy.Diagnostics
import JsxTidy.Failure
import JsxTidy.Http.Client
import JsxTidy.Import.Prune
import JsxTidy.Import.Verbatim
import JsxTidy.Json.Decode
import JsxTidy.Parser.Basic
import JsxTidy.Parser.Class
import JsxTidy.Parser.Expression
import JsxTidy.Parser.ModuleItem
import JsxTidy.Parser.Program
import JsxTidy.Pipeline
import JsxTidy.Prompt
import JsxTidy.Proofs.Import.Layout
import JsxTidy.Proofs.Scope.Parameters
import JsxTidy.Proofs.Scope.Space
import JsxTidy.Provider.Registry
import JsxTidy.Provider.Remote
import JsxTidy.Provider.Setup
import JsxTidy.Proofs.Syntax.WellFormed
import JsxTidy.Proofs.Attribute.Normalizing
import JsxTidy.Proofs.Import.Pruned
import JsxTidy.Proofs.Tidy.Passes
import JsxTidy.Proofs.Attribute.InOrder
import JsxTidy.Proofs.Attribute.Quotable
import JsxTidy.Proofs.Import.Remaining
import JsxTidy.Proofs.Parser.Expressions
import JsxTidy.Proofs.Parser.Modules
import JsxTidy.Proofs.Parser.Programs
import JsxTidy.Proofs.Tidy.Idempotent
import JsxTidy.Proofs.Attribute.Segments
import JsxTidy.Proofs.Attribute.Props
import JsxTidy.Proofs.Attribute.Normal
import JsxTidy.Proofs.Tidy.Markup
import JsxTidy.Proofs.Tidy.Counts
import JsxTidy.Proofs.Scope.Declaration
import JsxTidy.Proofs.Provider.Accounts
import JsxTidy.Proofs.Service.Outcomes
import JsxTidy.Proofs.Scope.OwnName
import JsxTidy.Proofs.Settings.Credentials
import JsxTidy.Proofs.Attribute.InPlace
import JsxTidy.Proofs.Attribute.Canonical
import JsxTidy.Proofs.Tidy.Leftover
import JsxTidy.Proofs.Provider.Replies
import JsxTidy.Proofs.Request.Bodies
import JsxTidy.Proofs.Diagnostics.Sums
import JsxTidy.Proofs.Prompt.Reading
import JsxTidy.Proofs.Provider.RefactorReplies
import JsxTidy.Proofs.Provider.Answers
import JsxTidy.Proofs.Text.Words
import JsxTidy.Proofs.Text.Place
import JsxTidy.Proofs.Scope.Walker
import JsxTidy.Proofs.Import.Fresh
import JsxTidy.Proofs.Import.Substitution
import JsxTidy.Proofs.Scope.SourceOrder
