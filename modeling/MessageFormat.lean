import MessageFormat.Locale.Cldr
import MessageFormat.Locale.Table
import MessageFormat.Pattern.Cursor
import MessageFormat.Proofs.Diagnostic.Length
import MessageFormat.Proofs.Evaluation.Nothing
import MessageFormat.Proofs.Evaluation.Reordering
import MessageFormat.Proofs.Evaluation.Strictness
import MessageFormat.Proofs.Evaluation.Within
import MessageFormat.Proofs.Formatter.Injection
import MessageFormat.Proofs.Formatter.Requests
import MessageFormat.Proofs.Formatter.SharedCache
import MessageFormat.Proofs.Locale.Chain
import MessageFormat.Proofs.Locale.Fallback
import MessageFormat.Proofs.Locale.History
import MessageFormat.Proofs.Locale.Usable
import MessageFormat.Proofs.Number.Share
import MessageFormat.Proofs.Number.Sign
import MessageFormat.Proofs.Pattern.Agreement
import MessageFormat.Proofs.Pattern.Concatenation
import MessageFormat.Proofs.Pattern.Limit
import MessageFormat.Proofs.Pattern.Race
import MessageFormat.Proofs.Pattern.Tagless
import MessageFormat.Proofs.Provider
import MessageFormat.Provider
import MessageFormat.Proofs.Number.Literal
import MessageFormat.Proofs.Decimal.Nearest
import MessageFormat.Proofs.Number.Significant
import MessageFormat.Proofs.Number.Exponent
import MessageFormat.Proofs.Decimal.Whole
import MessageFormat.Proofs.Format.Duration
import MessageFormat.Proofs.Format.Dates
import MessageFormat.Proofs.Format.DurationLimits
import MessageFormat.Proofs.Value.Flatten
import MessageFormat.Proofs.Text.Entity
import MessageFormat.Proofs.Formatter.Harmless
import MessageFormat.Proofs.Formatter.Tags
import MessageFormat.Proofs.Number.Range
import MessageFormat.Proofs.Plural.Notation
