import RecordSchema.Extraction
import RecordSchema.Source.Snapshot
import RecordSchema.Relation.Builder
import RecordSchema.Extraction.FetchStage
import RecordSchema.Proofs.SortedMap
import RecordSchema.Proofs.Field.Contributions
import RecordSchema.Proofs.ItemType.Tally
import RecordSchema.Proofs.Document.Assembly
import RecordSchema.Proofs.Source.Expression
import RecordSchema.Proofs.Source.Store
import RecordSchema.Proofs.Extraction.Retrieval
import RecordSchema.Proofs.Extraction.TypeMap
import RecordSchema.Proofs.Extraction.Vocabulary
import RecordSchema.Proofs.Distinct
import RecordSchema.Proofs.Relation.Catalogue
import RecordSchema.Proofs.Extraction.Relations
import RecordSchema.Proofs.Extraction.Isolation
import RecordSchema.Proofs.Field.DataType
import RecordSchema.Proofs.Field.Reordering
import RecordSchema.Proofs.ItemType.RecordOrder
import RecordSchema.Proofs.Binary64.Rounding
import RecordSchema.Proofs.Field.FillRate
import RecordSchema.Proofs.ItemType.FillRate
import RecordSchema.Proofs.ItemType.Absence
import RecordSchema.Proofs.Field.Domain
import RecordSchema.Proofs.ItemType.Statuses
import RecordSchema.Proofs.ItemType.Sample
import RecordSchema.Proofs.ItemType.Description
import RecordSchema.Proofs.ItemType.Origin
import RecordSchema.Proofs.Relation.Builder
import RecordSchema.Proofs.Relation.Batches
import RecordSchema.Proofs.Extraction.FetchStage
import RecordSchema.Proofs.Extraction.Scheduling
import RecordSchema.Proofs.Search
import RecordSchema.Proofs.Extraction.Versions
import RecordSchema.Proofs.Text.Truncate
import RecordSchema.Proofs.ItemType.SampleTitle
import RecordSchema.Proofs.ItemType.SampleProjection
import RecordSchema.Proofs.Field.Access
import RecordSchema.Proofs.ItemType.Addressing
import RecordSchema.Proofs.Relation.Ranking
import RecordSchema.Proofs.Record.Malformed
import RecordSchema.Proofs.ItemType.ShortName
import RecordSchema.Proofs.Source.Grammar
import RecordSchema.Proofs.Source.Paging
import RecordSchema.ItemType.Intake
import RecordSchema.Proofs.ItemType.Intake
import RecordSchema.Proofs.Field.Temporal
import RecordSchema.Proofs.Json.Members
import RecordSchema.Proofs.Record.TaggedForm
import RecordSchema.Proofs.Config.Overlay
import RecordSchema.Text.LowerCase
import RecordSchema.Proofs.Text.LowerCase
import RecordSchema.Proofs.Field.Label
import RecordSchema.Proofs.Field.Markup
