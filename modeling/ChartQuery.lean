import ChartQuery.Calendar.Reading
import ChartQuery.Main
import ChartQuery.Numeric.General
import ChartQuery.Numeric.Shortest
import ChartQuery.Pattern.Kind
import ChartQuery.Source.PostgresType
import ChartQuery.Proofs.ExprRecognition
import ChartQuery.Proofs.Attaching
import ChartQuery.Proofs.Collecting
import ChartQuery.Proofs.Meaning
import ChartQuery.Proofs.TableAccess
import ChartQuery.Proofs.Deciding
import ChartQuery.Proofs.Containment
import ChartQuery.Proofs.Uniformity
import ChartQuery.Proofs.Checking
import ChartQuery.Proofs.CrossTable
import ChartQuery.Proofs.Layout
import ChartQuery.Proofs.Cellwise
import ChartQuery.Proofs.Placement
import ChartQuery.Proofs.Typing
import ChartQuery.Proofs.Options
import ChartQuery.Proofs.Suppression
import ChartQuery.Proofs.Reconversion
import ChartQuery.Proofs.SourceTexts
import ChartQuery.Proofs.KeptTexts
import ChartQuery.Proofs.Labelling
import ChartQuery.Proofs.Amounts
import ChartQuery.Proofs.PatternLetters
import ChartQuery.Proofs.DisplayTypes
import ChartQuery.Proofs.GroupedDigits
import ChartQuery.Proofs.ExactIntegers
import ChartQuery.Proofs.DecimalTexts
import ChartQuery.Proofs.VerbatimText
import ChartQuery.Proofs.Tiling
import ChartQuery.Proofs.Lookahead
import ChartQuery.Proofs.ExprLookahead
import ChartQuery.Proofs.SyntaxErrors
import ChartQuery.Proofs.Relayout
import ChartQuery.Proofs.StringLiterals
import ChartQuery.Proofs.StringOperators
import ChartQuery.Proofs.CommaSeparated
import ChartQuery.Proofs.Encodings
import ChartQuery.Proofs.TabSeparated
import ChartQuery.Proofs.Markup
import ChartQuery.Proofs.Headers
import ChartQuery.Proofs.SentRequests
import ChartQuery.Proofs.ConnectionParameters
import ChartQuery.Proofs.Quoting
