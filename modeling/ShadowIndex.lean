import ShadowIndex.Failure.Kind
import ShadowIndex.Observe.Metrics
import ShadowIndex.Proofs.Index.Rebuild
import ShadowIndex.Proofs.Query.RoundTrip
import ShadowIndex.Startup
import ShadowIndex.Store.Connection
import ShadowIndex.Store.Place
import ShadowIndex.Value.Collection
import ShadowIndex.Proofs.Index.Batch
import ShadowIndex.Proofs.Index.Quiet
import ShadowIndex.Proofs.Index.Search
import ShadowIndex.Proofs.Index.Upkeep
import ShadowIndex.Proofs.Index.Notification
import ShadowIndex.Proofs.Host.Changes
import ShadowIndex.Proofs.Host.Commits
import ShadowIndex.Proofs.Index.Departure
import ShadowIndex.Proofs.Schema.Declared
import ShadowIndex.Proofs.Application.Effect
import ShadowIndex.Proofs.Application.Freshness
import ShadowIndex.Proofs.Application.Reparenting
import ShadowIndex.Proofs.Application.Tidiness
import ShadowIndex.Proofs.Index.Reach
import ShadowIndex.Proofs.Store.Ledger
import ShadowIndex.Proofs.Index.Composition
import ShadowIndex.Proofs.Text.Words
import ShadowIndex.Proofs.Schema.Extraction
import ShadowIndex.Proofs.Schema.Naming
import ShadowIndex.Proofs.Index.Matching
import ShadowIndex.Proofs.Index.Agreement
import ShadowIndex.Proofs.Query.Rounds
import ShadowIndex.Proofs.Index.Interruption
import ShadowIndex.Proofs.Index.Relating
import ShadowIndex.Proofs.Index.Mending
import ShadowIndex.Proofs.Index.OwnFields
import ShadowIndex.Proofs.Index.Isolation
import ShadowIndex.Proofs.Application.Alteration
import ShadowIndex.Proofs.Application.Resilience
import ShadowIndex.Proofs.Application.Exclusion
import ShadowIndex.Proofs.Schema.OnePass
import ShadowIndex.Proofs.Schema.Merging
import ShadowIndex.Proofs.Schema.Aliases
import ShadowIndex.Proofs.Index.Reindexing
import ShadowIndex.Proofs.Index.Rederiving
import ShadowIndex.Proofs.Service.Definition
import ShadowIndex.Proofs.Host.Opposite
import ShadowIndex.Proofs.Application.Announcing
import ShadowIndex.Proofs.Text.Delimited
import ShadowIndex.Proofs.Index.Spelling
import ShadowIndex.Proofs.Application.Numbering
import ShadowIndex.Proofs.Index.Accounting
import ShadowIndex.Proofs.Schema.Dependencies
import ShadowIndex.Proofs.Index.Nesting
