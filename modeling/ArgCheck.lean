import ArgCheck.Inspect.Engine
import ArgCheck.Settings.Loader
import ArgCheck.Value.Equality
import ArgCheck.Proofs.Filter.Building
import ArgCheck.Proofs.Sequence
import ArgCheck.Proofs.Filter.Processing
import ArgCheck.Proofs.Filter.Canonical
import ArgCheck.Proofs.FilterTable.Chain
import ArgCheck.Proofs.Filter.Places
import ArgCheck.Proofs.Validation.Defaults
import ArgCheck.Proofs.Validation.Run
import ArgCheck.Proofs.Validation.Pointwise
import ArgCheck.Proofs.Validation.Refusal
import ArgCheck.Proofs.Validation.Required
import ArgCheck.Proofs.TypeTable.Coercion
import ArgCheck.Proofs.Validation.Idempotence
import ArgCheck.Proofs.Text.Separators
import ArgCheck.Proofs.TypeTable.Builtins
import ArgCheck.Proofs.Validation.Handlers
import ArgCheck.Proofs.Validator.Registration
import ArgCheck.Proofs.Binary64.Finite
import ArgCheck.Proofs.Numeral.Digits
import ArgCheck.Proofs.Numeral.Grammar
import ArgCheck.Proofs.Json.Native
import ArgCheck.Proofs.Definition.Writing
import ArgCheck.Proofs.Definition.NormalForm
import ArgCheck.Proofs.Definition.Filters
import ArgCheck.Proofs.Validation.Congruence
import ArgCheck.Proofs.Definition.Behaviour
import ArgCheck.Proofs.TypeTable.History
import ArgCheck.Proofs.Validator.Calls
import ArgCheck.Proofs.QueryTable.Sharing
import ArgCheck.Proofs.Decimal.Rereading
import ArgCheck.Proofs.Calendar.Scanning
import ArgCheck.Proofs.Calendar.Rereading
import ArgCheck.Proofs.Filter.Stringification
import ArgCheck.Proofs.Filter.Integers
import ArgCheck.Proofs.Entity.Memory
import ArgCheck.Proofs.Calendar.Truncation
import ArgCheck.Proofs.Validation.Independence
import ArgCheck.Proofs.Engine.Assembly
import ArgCheck.Proofs.Entity.Hierarchy
import ArgCheck.Proofs.Filter.Records
import ArgCheck.Proofs.Filter.Subtyping
import ArgCheck.Proofs.Filter.Identifiers
import ArgCheck.Proofs.Value.Induction
import ArgCheck.Proofs.Value.Equality
import ArgCheck.Proofs.Json.NormalForm
import ArgCheck.Proofs.Value.Equivalence
import ArgCheck.Proofs.Validation.Extension
import ArgCheck.Proofs.Numeral.Padding
import ArgCheck.Proofs.Definition.Grammar
import ArgCheck.Proofs.Settings.Sections
import ArgCheck.Proofs.Settings.Overriding
import ArgCheck.Proofs.Settings.Spelling
import ArgCheck.Proofs.Settings.Loading
import ArgCheck.Proofs.FilterTable.Quiet
import ArgCheck.Proofs.Validator.Holdings
import ArgCheck.Proofs.Validator.Accounts
import ArgCheck.Proofs.Validator.Warnings
