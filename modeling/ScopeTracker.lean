import ScopeTracker.Server.Json.Reader
import ScopeTracker.Server.Session
import ScopeTracker.Proofs.Cache.Accounts
import ScopeTracker.Proofs.Cache.Queries
import ScopeTracker.Proofs.Document.SlippedChanges
import ScopeTracker.Proofs.Document.Mending
import ScopeTracker.Proofs.Store.Texts
import ScopeTracker.Proofs.Store.Openings
import ScopeTracker.Proofs.Server.Requests
import ScopeTracker.Proofs.Store.Reopening
import ScopeTracker.Proofs.Cache.Consistent
import ScopeTracker.Proofs.Cache.Refusing
import ScopeTracker.Proofs.Document.PastEnd
import ScopeTracker.Proofs.Document.Batches
import ScopeTracker.Proofs.Cache.Widening
import ScopeTracker.Proofs.Document.Above
import ScopeTracker.Proofs.Cache.Calls
import ScopeTracker.Proofs.Text.FlatText
import ScopeTracker.Proofs.Document.BatchOrder
import ScopeTracker.Proofs.Grammar.Tiling
import ScopeTracker.Proofs.Cache.Covering
import ScopeTracker.Proofs.Text.Conversions
import ScopeTracker.Proofs.Cache.LineCounts
import ScopeTracker.Proofs.Registry.Additions
import ScopeTracker.Proofs.Settings.Discovery
import ScopeTracker.Proofs.Settings.Folders
