import Athena.Persistence.Migrations
import Athena.Persistence.CatalogRefinement
import Athena.Persistence.ListingOrder
import Athena.Profiling.ColumnAttribution
import Athena.Profiling.RowCounts
import Athena.Profiling.Classification
import Athena.Profiling.RecommendationLists
import Athena.Profiling.Counts
import Athena.Profiling.IdentifierNames
import Athena.Profiling.Growth
import Athena.Profiling.Equivariance
import Athena.Evidence.Recommendations
import Athena.Evidence.TemporalEvidence
import Athena.Evidence.InMemoryEvidenceStore
import Athena.Storage.Local
import Athena.Storage.Digests
import Athena.Query.Outcomes
import Athena.Query.Interrupts
import Athena.Dataset.Extensions
import Athena.Api.Registration
import Athena.Query.Policy
import Athena.Services.RetainedReference
import Athena.Persistence.Linearizability
import Athena.Query.Termination
import Athena.Api.Server
import Athena.Api.Handlers
import Athena.Api.Overlap
import Athena.Api.Queue
import Athena.Api.RegisteredBytes
import Athena.Api.Analyses
import Athena.Storage.Outside
import Athena.Profiling.Doubles
import Athena.Evidence.Confidence
import Athena.Storage.Changes
import Athena.Storage.Uris
