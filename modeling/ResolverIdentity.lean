import ResolverIdentity.Adapter.Delivery
import ResolverIdentity.Adapter.Preparation
import ResolverIdentity.Agent.Anchors
import ResolverIdentity.Agent.CacheChains
import ResolverIdentity.Agent.CacheSources
import ResolverIdentity.Agent.Generations
import ResolverIdentity.Agent.Heights
import ResolverIdentity.Agent.Requirements
import ResolverIdentity.Chain.Publication
import ResolverIdentity.Chain.Revocation
import ResolverIdentity.Chain.NornCycles
import ResolverIdentity.Contract.Administration
import ResolverIdentity.Contract.Lifecycle
import ResolverIdentity.Pipeline.Hooks
import ResolverIdentity.Producer.Closure
import ResolverIdentity.Producer.Delivery
import ResolverIdentity.Producer.Isolation
import ResolverIdentity.Producer.TtlWalk
import ResolverIdentity.Publisher.Normalization
import ResolverIdentity.Publisher.Plans
import ResolverIdentity.Publisher.Republication
import ResolverIdentity.Publisher.SignedBytes
import ResolverIdentity.Store.GraphRetention
import ResolverIdentity.Store.Interleavings
import ResolverIdentity.Store.Migration
import ResolverIdentity.Store.QueryContexts
import ResolverIdentity.Store.TraceShape
import ResolverIdentity.Sync.EndpointKeys
import ResolverIdentity.Sync.Finality
import ResolverIdentity.Sync.NornInclusion
import ResolverIdentity.V1.ChainSemantics
import ResolverIdentity.V1.ChainVersions
import ResolverIdentity.V1.EventWatcher
import ResolverIdentity.V1.MerkleProofs
import ResolverIdentity.V1.Revocations
import ResolverIdentity.Verifier.Acceptance
import ResolverIdentity.Verifier.Authenticity
import ResolverIdentity.Verifier.Terminals
import ResolverIdentity.Verifier.Windows
import ResolverIdentity.Wrapper.Query
import ResolverIdentity.Wrapper.Servfail
import ResolverIdentity.Wrapper.TransactionIds
