import DocOptions.Main
import DocOptions.Proofs.Directive.Marks
import DocOptions.Proofs.Directive.RoundTrip
import DocOptions.Proofs.Schema.LeafValues
import DocOptions.Proofs.Schema.Relevance
import DocOptions.Proofs.Schema.Consumed
import DocOptions.Proofs.Schema.Origins
import DocOptions.Proofs.Schema.Split
import DocOptions.Schema.Outline
import DocOptions.Proofs.Schema.Faults
import DocOptions.Proofs.Schema.Groups
import DocOptions.Proofs.Schema.Idempotence
import DocOptions.Proofs.Schema.InlineComposites
import DocOptions.Proofs.Directive.Lines
import DocOptions.Proofs.Numeral.Decimal
import DocOptions.Proofs.Schema.WrittenRecords
import DocOptions.Proofs.Directive.Comments
import DocOptions.Proofs.Plugin.Loading
import DocOptions.Proofs.Plugin.Visits
import DocOptions.Proofs.Schema.RuleNames
import DocOptions.Proofs.Plugin.Http.Visits
import DocOptions.Proofs.Plugin.Strays
import DocOptions.Proofs.Plugin.Http.Groups
import DocOptions.Proofs.Plugin.Http.Partition
import DocOptions.Proofs.Plugin.Http.Signatures
import DocOptions.Proofs.Plugin.MetricsVisits
import DocOptions.Proofs.Plugin.UnusedDirectives
import DocOptions.Proofs.Plugin.Concatenation
import DocOptions.Proofs.Plugin.Failures
import DocOptions.Proofs.Schema.Findings
import DocOptions.Proofs.Schema.Unruled
import DocOptions.Proofs.Schema.TracedPlaces
import DocOptions.Proofs.Plugin.Traces
import DocOptions.Proofs.Plugin.Http.Traces
import DocOptions.Proofs.Schema.DistinctKeys
import DocOptions.Proofs.Source.RoundTrip
import DocOptions.Proofs.Naming.Delimited
import DocOptions.Proofs.Naming.Kebab
import DocOptions.Proofs.Numeral.Conversion
import DocOptions.Proofs.Text.Pieces
import DocOptions.Proofs.Naming.Words
import DocOptions.Proofs.Schema.Literals
import DocOptions.Proofs.Schema.Containment
import DocOptions.Proofs.Directive.Queries
import DocOptions.Proofs.Directive.Boundary
import DocOptions.Proofs.Directive.Continued
import DocOptions.Proofs.Directive.Trimmed
import DocOptions.Proofs.Plugin.MarkedComments
import DocOptions.Proofs.Directive.Titles
import DocOptions.Proofs.Report.Summary
import DocOptions.Proofs.Plugin.Http.Completion
import DocOptions.Proofs.Plugin.Http.NameLines
import DocOptions.Proofs.Plugin.Registrations
import DocOptions.Proofs.Directive.Separators
import DocOptions.Proofs.Schema.Omissions
