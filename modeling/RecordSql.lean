import RecordSql.Config
import RecordSql.Declare
import RecordSql.Declare.Implementation
import RecordSql.Declare.Outline
import RecordSql.Expr.Equality
import RecordSql.Expr.Text
import RecordSql.Middleware.Metrics
import RecordSql.Middleware.Span
import RecordSql.Middleware.Steps
import RecordSql.Middleware.Text
import RecordSql.Postgres.Transaction
import RecordSql.Proofs.Bindings.Basic
import RecordSql.Proofs.Quoting
import RecordSql.Render.Builder
import RecordSql.Session.Replicas
import RecordSql.Proofs.Bindings.Statement
import RecordSql.Proofs.Placeholders
import RecordSql.Proofs.Numbering
import RecordSql.Proofs.Reading
import RecordSql.Proofs.Guard
import RecordSql.Proofs.Materializers
import RecordSql.Proofs.Conversion
import RecordSql.Proofs.Insertion
import RecordSql.Proofs.Composition
import RecordSql.Proofs.Repetition
import RecordSql.Proofs.Registrations
import RecordSql.Proofs.Dialects
import RecordSql.Proofs.Transparency
import RecordSql.Proofs.Nesting
import RecordSql.Proofs.Situations
import RecordSql.Proofs.Courses
import RecordSql.Proofs.Replicas
import RecordSql.Proofs.Statistics
import RecordSql.Proofs.TagGrammar
import RecordSql.Proofs.Tags
import RecordSql.Proofs.Columns
import RecordSql.Proofs.Derivations
import RecordSql.Proofs.Decoding
import RecordSql.Proofs.Fetching
import RecordSql.Proofs.SourceReading
import RecordSql.Proofs.Joins
import RecordSql.Proofs.References
import RecordSql.Proofs.Checks
import RecordSql.Proofs.Refusals
import RecordSql.Proofs.Segments
import RecordSql.Proofs.Conditions
import RecordSql.Proofs.AssignmentLists
import RecordSql.Proofs.Identifiers
import RecordSql.Proofs.ModelDerivation
import RecordSql.Proofs.FieldLists
import RecordSql.Proofs.Conducts
import RecordSql.Proofs.EffectiveQuery
import RecordSql.Proofs.NumberedText
import RecordSql.Proofs.Congruence
import RecordSql.Proofs.SnakeCase
import RecordSql.Proofs.Shortening
import RecordSql.Proofs.WireFormat
import RecordSql.Render.InPlace
import RecordSql.Proofs.Frame
import RecordSql.Proofs.Construction
import RecordSql.Proofs.SourceSpelling
