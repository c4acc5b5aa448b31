/-
  ResolverIdentity.Verifier.Authenticity: who signed what is in an accepted graph.

  Signatures are symbolic: `Signed key content` says that the holder of a key has
  signed a JSON value.  A signature that verifies is one that the holder made, over
  some value with these canonical bytes; and the serializer is injective, so the value
  is this one, up to its `signature` members.

  Main results:
    * `content_of_verify`: a verified object was signed, and nothing else of another
      schema has its bytes;
    * `authentic_of_validate`: all of an accepted graph was signed by the key it is
      bound to, the attached cache graphs included.
-/
import ResolverIdentity.Core.JsonText
import ResolverIdentity.Verifier.Accepted

namespace ResolverIdentity.Verifier

open Library Agent Json

/-! ## §1. Schemas of signed values. -/

/-- An object whose only `schema_version` is this one. -/
def HasSchema (content : Json) (schema : String) : Prop :=
  ∃ fields, content = .object fields ∧
    ∀ v, ("schema_version", v) ∈ fields ↔ v = .string schema

/-- Only a text has the canonical form of a text. -/
theorem strip_eq_string {value : Json} {s : String} :
    value.strip_signatures = .string s ↔ value = .string s := by
  constructor
  · intro h
    cases value with
    | string t =>
      rw [strip_signatures] at h
      exact h
    | object fields => rw [strip_signatures] at h; cases h
    | array items => rw [strip_signatures] at h; cases h
    | null => rw [strip_signatures] at h; cases h
    | bool b => rw [strip_signatures] at h; cases h
    | number n => rw [strip_signatures] at h; cases h
  · intro h
    rw [h, strip_signatures]

/-- Only an object has the canonical form of an object. -/
theorem object_of_strip_eq {value : Json} {fields : List (String × Json)}
    (h : value.strip_signatures = (Json.object fields).strip_signatures) :
    ∃ fields', value = .object fields' := by
  rw [strip_signatures] at h
  cases value with
  | object fields' => exact ⟨fields', rfl⟩
  | array items => rw [strip_signatures] at h; cases h
  | string s => rw [strip_signatures] at h; cases h
  | null => rw [strip_signatures] at h; cases h
  | bool b => rw [strip_signatures] at h; cases h
  | number n => rw [strip_signatures] at h; cases h

/-- Values with one canonical form are of one schema. -/
theorem HasSchema.of_strip_eq {content content' : Json} {schema : String}
    (h : HasSchema content schema)
    (hstrip : content'.strip_signatures = content.strip_signatures) :
    HasSchema content' schema := by
  obtain ⟨fields, hcontent, hschema⟩ := h
  rw [hcontent] at hstrip
  obtain ⟨fields', hcontent'⟩ := object_of_strip_eq hstrip
  rw [hcontent'] at hstrip
  refine ⟨fields', hcontent', ?_⟩
  have hne : "schema_version" ≠ "signature" := by decide
  have hform : (Json.object fields).strip_signatures =
      .object ((stripFields fields).insertionSort keyLe) := by
    rw [strip_signatures]
  have hfields : ∀ value, ("schema_version", value) ∈ (stripFields fields).insertionSort keyLe ↔ _ :=
    fun value => mem_strip_signatures hform
  have hfields' : ∀ value, ("schema_version", value) ∈ (stripFields fields).insertionSort keyLe ↔ _ :=
    fun value => mem_strip_signatures (hstrip.trans hform)
  intro v
  constructor
  · intro hmem
    -- the field stands in the canonical form, and so in the other object
    have hcanonical := (hfields' v.strip_signatures).mpr ⟨hne, v, hmem, rfl⟩
    obtain ⟨_, w, hw, hsame⟩ := (hfields v.strip_signatures).mp hcanonical
    rw [(hschema w).mp hw] at hsame
    exact strip_eq_string.mp (hsame.trans (strip_eq_string.mpr rfl))
  · intro heq
    have hcanonical := (hfields (.string schema)).mpr
      ⟨hne, .string schema, (hschema _).mpr rfl, (strip_eq_string.mpr rfl).symm⟩
    obtain ⟨_, w, hw, hsame⟩ := (hfields' (.string schema)).mp hcanonical
    rw [heq, ← strip_eq_string.mp hsame.symm]
    exact hw

section Members

variable {key key' : String} {value v : Json} {items : List Json} {found : Option Json}

@[simp] theorem mem_field : (key, v) ∈ field key' value ↔ key = key' ∧ v = value := by
  unfold field
  rw [List.mem_singleton, Prod.mk.injEq]

@[simp] theorem mem_optional : (key, v) ∈ optional key' found ↔ key = key' ∧ found = some v := by
  cases found with
  | none => exact ⟨fun h => (nomatch h), fun h => (nomatch h.2)⟩
  | some w =>
    show (key, v) ∈ [(key', w)] ↔ _
    rw [List.mem_singleton, Prod.mk.injEq, Option.some.injEq, eq_comm (a := w)]

theorem key_of_mem_nonempty (h : (key, v) ∈ nonempty key' items) : key = key' := by
  unfold nonempty at h
  split at h
  · cases h
  · exact (Prod.mk.inj (List.mem_singleton.mp h)).1

end Members

theorem identity_schema (identity : DnsServerIdentityV2) :
    HasSchema identity.to_value identity.schema_version :=
  ⟨_, rfl, fun v => by simp⟩

theorem attestation_schema (attestation : TargetResponseAttestationV2) :
    HasSchema attestation.to_value attestation.schema_version :=
  ⟨_, rfl, fun v => by simp⟩

theorem edge_schema (edge : ServerHopEvidenceV2) :
    HasSchema edge.to_value edge.schema_version :=
  ⟨_, rfl, fun v => by simp⟩

theorem graph_schema (graph : QueryEvidenceGraphV2) :
    HasSchema graph.to_value graph.schema_version := by
  cases graph
  rw [QueryEvidenceGraphV2.to_value]
  refine ⟨_, rfl, fun v => ?_⟩
  have hattached : ∀ items, ("schema_version", v) ∉ nonempty "terminal_cache_graphs" items :=
    fun items hmem => absurd (key_of_mem_nonempty hmem) (by decide)
  simp [hattached]

/-! ## §2. Symbolic signatures. -/

/-- The object was signed by the holder of the key, and nothing of another schema has
its bytes. -/
structure Authentic (P : Platform) (Signed : List UInt8 → Json → Prop) (schema : String)
    (public_key_b64 : String) (object : Json) : Prop where
  signed : ∃ public_raw content, P.base64_decode (as_bytes public_key_b64) = some public_raw ∧
    Signed public_raw content ∧ content.strip_signatures = object.strip_signatures
  separated : ∀ content, P.canonical_json_bytes content = P.canonical_json_bytes object →
    HasSchema content schema

/-- A signature that verifies was made by the holder of the key, over a value with these
canonical bytes. -/
def Unforgeable (P : Platform) (Signed : List UInt8 → Json → Prop) : Prop :=
  ∀ key bytes signature, P.ed25519_verify key bytes signature = true →
    ∃ content, Signed key content ∧ P.canonical_json_bytes content = bytes

section Signatures

variable {P : Platform} {Signed : List UInt8 → Json → Prop}

theorem content_of_verify (hto_vec : Function.Injective P.to_vec)
    (hsigned : Unforgeable P Signed) {object : Json} {schema public_key_b64 : String}
    (hschema : HasSchema object schema) (h : P.verify_ed25519 object public_key_b64 = .ok ()) :
    Authentic P Signed schema public_key_b64 object := by
  obtain ⟨public_raw, signature_raw, hkey, hverified⟩ := verified_of_verify_ed25519 h
  obtain ⟨content, hcontent, hbytes⟩ := hsigned _ _ _ hverified
  constructor
  · exact ⟨public_raw, content, hkey, hcontent, hto_vec hbytes⟩
  · intro other hother
    exact hschema.of_strip_eq (hto_vec hother)

/-- Every object of a graph was signed by the key it is bound to, for one trace and one
challenge. -/
inductive AuthenticGraph (P : Platform) (Signed : List UInt8 → Json → Prop)
    (issuer_keys : IssuerKeyRegistry) (trace_id challenge : String) :
    QueryEvidenceGraphV2 → Prop
  | intro (graph : QueryEvidenceGraphV2)
      (trace : graph.trace_id = trace_id ∧ graph.challenge = challenge)
      (nodes : ∀ node ∈ graph.nodes, ∃ issuer_key,
        issuer_keys.get node.identity.issuer node.identity.key_id = some issuer_key ∧
          Authentic P Signed DNS_SERVER_IDENTITY_V2 issuer_key node.identity.to_value)
      (entry : ∃ public_key, BoundKey graph.nodes graph.entry_server_id public_key ∧
        Authentic P Signed QUERY_EVIDENCE_GRAPH_V2 public_key graph.to_value)
      (edges : ∀ edge ∈ graph.edges, edge.trace_id = trace_id ∧ edge.challenge = challenge ∧
        ∃ public_key, BoundKey graph.nodes edge.from_server_id public_key ∧
          Authentic P Signed SERVER_HOP_EVIDENCE_V2 public_key edge.to_value)
      (attestations : ∀ edge ∈ graph.edges, ∀ attestation,
        edge.target_attestation = some attestation →
          attestation.trace_id = trace_id ∧ attestation.challenge = challenge ∧
            ∃ public_key, BoundKey graph.nodes edge.to_server_id public_key ∧
              Authentic P Signed TARGET_RESPONSE_ATTESTATION_V2 public_key attestation.to_value)
      (attached : ∀ child ∈ graph.terminal_cache_graphs,
        AuthenticGraph P Signed issuer_keys trace_id challenge child) :
      AuthenticGraph P Signed issuer_keys trace_id challenge graph

variable {policy : EvidencePolicy} {issuer_keys : IssuerKeyRegistry}
variable {expected_challenge : String} {now : Int}

/-- The signatures of an accepted graph, given those of its attached graphs. -/
theorem authentic_of_accepted (hto_vec : Function.Injective P.to_vec)
    (hsigned : Unforgeable P Signed) {graph : QueryEvidenceGraphV2}
    (h : validate_graph P policy issuer_keys graph expected_challenge now = .ok ())
    (hattached : ∀ child ∈ graph.terminal_cache_graphs,
      AuthenticGraph P Signed issuer_keys graph.trace_id expected_challenge child) :
    AuthenticGraph P Signed issuer_keys graph.trace_id expected_challenge graph := by
  have hheader := header_checked_of_validate h
  refine .intro graph ⟨rfl, hheader.challenge⟩ ?_ ?_ ?_ ?_ hattached
  · intro node hnode
    have hchecked := node_checked_of_validate h hnode
    obtain ⟨issuer_key, hkey, hverified⟩ := hchecked.signed
    have hschema := identity_schema node.identity
    rw [hchecked.schema] at hschema
    exact ⟨issuer_key, hkey, content_of_verify hto_vec hsigned hschema hverified⟩
  · obtain ⟨public_key, hbound, hverified⟩ := entry_signed_of_validate h
    have hschema := graph_schema graph
    rw [hheader.schema] at hschema
    exact ⟨public_key, hbound, content_of_verify hto_vec hsigned hschema hverified⟩
  · intro edge hedge
    have hchecked := edge_checked_of_validate h hedge
    obtain ⟨public_key, hbound, hverified⟩ := hchecked.signed
    have hschema := edge_schema edge
    rw [hchecked.schema] at hschema
    exact ⟨hchecked.trace_id, hchecked.challenge.trans hheader.challenge, public_key, hbound,
      content_of_verify hto_vec hsigned hschema hverified⟩
  · intro edge hedge attestation hattestation
    have hedge_checked := edge_checked_of_validate h hedge
    have hchecked := hedge_checked.attestation attestation hattestation
    obtain ⟨public_key, hbound, hverified⟩ := hchecked.signed
    have hschema := attestation_schema attestation
    rw [hchecked.schema] at hschema
    have htrace := hchecked.trace_id.trans hedge_checked.trace_id
    have hchallenge := hchecked.challenge.trans (hedge_checked.challenge.trans hheader.challenge)
    exact ⟨htrace, hchallenge, public_key, hbound,
      content_of_verify hto_vec hsigned hschema hverified⟩

/-- All of an accepted graph was signed by the right keys. -/
theorem authentic_of_validate (hto_vec : Function.Injective P.to_vec)
    (hsigned : Unforgeable P Signed) {graph : QueryEvidenceGraphV2}
    (h : validate_graph P policy issuer_keys graph expected_challenge now = .ok ()) :
    AuthenticGraph P Signed issuer_keys graph.trace_id expected_challenge graph := by
  refine authentic_of_accepted hto_vec hsigned h ?_
  intro child hchild
  have hchecked := attached_checked_of_validate h hchild
  -- an attached graph has nothing attached, so the recursion ends here
  have hchild_authentic := authentic_of_accepted hto_vec hsigned hchecked.accepted (by
    rw [hchecked.attached]
    intro grandchild hgrandchild
    cases hgrandchild)
  rw [hchecked.trace_id, (header_checked_of_validate h).challenge] at hchild_authentic
  exact hchild_authentic

end Signatures

/-! ## §3. The recorded answer from a cache. -/

/-- What the keys of the recording have signed. -/
def relay_contents : List (String × Json) :=
  [(operator_key, resolver_a.1.to_value),
    (operator_key, resolver_b.1.to_value),
    (agent_key_b, (cache_graph 1750000000 cache_signature).to_value),
    (agent_key_b, relay_attestation.to_value),
    (agent_key_a, relay_edge.to_value),
    (agent_key_a, relay_graph.to_value)]

/-- The recording, with no signature on anything else. -/
def relay_platform : Platform :=
  { relay_recording.platform with
    ed25519_verify := fun key bytes signature =>
      relay_recording.platform.ed25519_verify key bytes signature &&
        relay_contents.any (fun entry => base64_text entry.1 = key &&
          relay_recording.platform.canonical_json_bytes entry.2 == bytes) }

theorem relay_unforgeable : Unforgeable relay_platform
    (fun key content => ∃ entry ∈ relay_contents, base64_text entry.1 = key ∧ entry.2 = content) := by
  intro key bytes signature hverified
  have hany := (Bool.and_eq_true_iff.mp hverified).2
  obtain ⟨entry, hentry, hmatch⟩ := List.any_eq_true.mp hany
  obtain ⟨hkey, hbytes⟩ := Bool.and_eq_true_iff.mp hmatch
  exact ⟨entry.2, ⟨entry, hentry, of_decide_eq_true hkey, rfl⟩, eq_of_beq hbytes⟩

theorem relay_graph_authentic : AuthenticGraph relay_platform
    (fun key content => ∃ entry ∈ relay_contents, base64_text entry.1 = key ∧ entry.2 = content)
    lab_issuer_keys "request-0" challenge_0 relay_graph := by
  have haccepted : validate_graph relay_platform .public_hybrid lab_issuer_keys relay_graph
      challenge_0 1750000001 = .ok () := by
    decide +kernel
  exact authentic_of_validate to_vec_injective relay_unforgeable haccepted

end ResolverIdentity.Verifier
