import CacheWiring.Directory.Refusals
import CacheWiring.Main
import CacheWiring.Proofs.AllOrNothing
import CacheWiring.Proofs.Startup
import CacheWiring.Proofs.Quantities
import CacheWiring.Proofs.Shapes
import CacheWiring.Proofs.Grammar
import CacheWiring.Proofs.Construction
import CacheWiring.Proofs.Writes
import CacheWiring.Proofs.Counts
import CacheWiring.Proofs.Loading
import CacheWiring.Proofs.Lookups
import CacheWiring.Proofs.RoundTrips
import CacheWiring.Proofs.Accounts
import CacheWiring.Proofs.HealthCheck
import CacheWiring.Proofs.Phases
import CacheWiring.Proofs.Lifecycle
import CacheWiring.Proofs.StackContents
import CacheWiring.Proofs.StackBackends
import CacheWiring.Proofs.ClusterDirectories
import CacheWiring.Proofs.KeptListings
import CacheWiring.Proofs.Elections
import CacheWiring.Proofs.Entries
import CacheWiring.Proofs.DryRun
import CacheWiring.Proofs.FactoryCalls
import CacheWiring.Proofs.DeclaredClusters
import CacheWiring.Proofs.StackSections
import CacheWiring.Proofs.Replacements
import CacheWiring.Proofs.Ranges
import CacheWiring.Proofs.Servers
import CacheWiring.Proofs.EntryOrder
import CacheWiring.Proofs.Leftovers
import CacheWiring.Proofs.RegistryLookups
import CacheWiring.Proofs.ResourceNames
import CacheWiring.Proofs.EngineHistories
