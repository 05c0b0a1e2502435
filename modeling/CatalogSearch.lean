import CatalogSearch.Text.CodeRange
import CatalogSearch.Text.Blank
import CatalogSearch.Text.Alphanumeric
import CatalogSearch.Text.Cased
import CatalogSearch.Text.Lowercase
import CatalogSearch.Text.Token
import CatalogSearch.Number.Binary64
import CatalogSearch.Number.Decimal
import CatalogSearch.Number.Literal
import CatalogSearch.Time.Rfc3339
import CatalogSearch.Json.Reader
import CatalogSearch.Json.Printer
import CatalogSearch.Catalog.Document
import CatalogSearch.Catalog.PartitionKey
import CatalogSearch.Catalog.Data
import CatalogSearch.Access.View
import CatalogSearch.Error
import CatalogSearch.Settings.Data
import CatalogSearch.Query.Plan
import CatalogSearch.Index.Store
import CatalogSearch.Query.Facets
import CatalogSearch.Feed.Replay
import CatalogSearch.CommandLine.Arguments
import CatalogSearch.CommandLine.Run
import CatalogSearch.CommandLine.Usage
import CatalogSearch.Main
import CatalogSearch.Proofs.Feed.Convergence
import CatalogSearch.Proofs.Engine.NonInterference
import CatalogSearch.Proofs.Engine.HiddenValues
import CatalogSearch.Proofs.Engine.Pages
import CatalogSearch.Proofs.Engine.Recall
import CatalogSearch.Proofs.Engine.OwnText
import CatalogSearch.Proofs.Index.Retention
import CatalogSearch.Proofs.Access.Privilege
import CatalogSearch.Proofs.Engine.Identity
import CatalogSearch.Proofs.Engine.Privilege
import CatalogSearch.Proofs.Engine.Offline
import CatalogSearch.Proofs.Query.ResultOrder
import CatalogSearch.Proofs.Query.Facets
import CatalogSearch.Proofs.Engine.BestTerms
import CatalogSearch.Proofs.Engine.DrillDown
import CatalogSearch.Proofs.Access.Redaction
import CatalogSearch.Proofs.Feed.Building
import CatalogSearch.Proofs.Feed.Confidential
import CatalogSearch.Proofs.Feed.WellFormed
import CatalogSearch.Proofs.Feed.Approval
import CatalogSearch.Proofs.Feed.Discretion
import CatalogSearch.Proofs.Feed.JsonLines
import CatalogSearch.Proofs.Feed.Replay
import CatalogSearch.Proofs.Index.Generations
import CatalogSearch.Proofs.Index.Figures
import CatalogSearch.Proofs.Access.Roles
import CatalogSearch.Proofs.Catalog.Buckets
import CatalogSearch.Proofs.Catalog.FieldValue
import CatalogSearch.Proofs.Index.TermBalance
import CatalogSearch.Proofs.Feed.BulkLoad
import CatalogSearch.Proofs.Query.FacetDomains
