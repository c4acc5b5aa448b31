/-
  ResolverIdentity.Core.Signatures: what was signed is verified.

  A signature is a member of the object it is over, so it is left out of the bytes
  that are signed.  Here this is said of graphs: putting the signature in changes
  nothing that was signed, and the verifier finds it there.

  Main results:
    * `key_pair_of_seed`: what the crates owe a private key and its public one;
    * `KeyPair.verifies_graph`: a graph signed with one key of a pair is verified with
      the other.
-/
import ResolverIdentity.Core.Crypto

namespace ResolverIdentity

open Library Json

/-- What is signed with the private key is verified with the public one. -/
structure KeyPair (P : Platform) (private_key_b64 public_key_b64 : String) : Prop where
  signs : ∀ value, ∃ signature, P.sign_ed25519 value private_key_b64 = .ok signature
  verifies : ∀ value signed signature, P.sign_ed25519 value private_key_b64 = .ok signature →
    signed.strip_signatures = value.strip_signatures →
      signed.get "signature" = some (.string signature) →
        P.verify_ed25519 signed public_key_b64 = .ok ()

/-! ## §1. Members of an object. -/

theorem stripFields_append (left right : List (String × Json)) :
    stripFields (left ++ right) = stripFields left ++ stripFields right := by
  induction left with
  | nil => rfl
  | cons field rest ih =>
    obtain ⟨key, value⟩ := field
    rw [List.cons_append, stripFields, stripFields]
    by_cases hkey : key = "signature"
    · rw [if_pos hkey, if_pos hkey, ih]
    · rw [if_neg hkey, if_neg hkey, ih, List.cons_append]

/-- A last member named `signature` is not part of what is signed. -/
theorem strip_signature_member (fields : List (String × Json)) (signature : Option Json) :
    (Json.object (fields ++ optional "signature" signature)).strip_signatures =
      (Json.object fields).strip_signatures := by
  have hmember : stripFields (optional "signature" signature) = [] := by
    cases signature with
    | none => rfl
    | some value => rfl
  rw [strip_signatures, strip_signatures, stripFields_append, hmember, List.append_nil]

/-- No member is named `signature`. -/
def Unsigned (fields : List (String × Json)) : Prop :=
  ∀ member ∈ fields, member.1 ≠ "signature"

theorem unsigned_append {left right : List (String × Json)} :
    Unsigned (left ++ right) ↔ Unsigned left ∧ Unsigned right :=
  List.forall_mem_append

theorem unsigned_field {key : String} {value : Json} (h : key ≠ "signature") :
    Unsigned (field key value) := by
  intro member hmem
  rw [List.mem_singleton.mp hmem]
  exact h

theorem unsigned_optional {key : String} {value : Option Json} (h : key ≠ "signature") :
    Unsigned (optional key value) := by
  cases value with
  | none => intro member hmem; cases hmem
  | some value => exact unsigned_field h

theorem unsigned_nonempty {key : String} {items : List Json} (h : key ≠ "signature") :
    Unsigned (nonempty key items) := by
  unfold nonempty
  split
  · intro member hmem
    cases hmem
  · exact unsigned_field h

/-- The member is found when no other has its name. -/
theorem get_signature_member {fields : List (String × Json)} (h : Unsigned fields)
    (value : Json) :
    (Json.object (fields ++ optional "signature" (some value))).get "signature" = some value := by
  have hnone : fields.find? (fun field => field.1 = "signature") = none := by
    rw [List.find?_eq_none]
    intro field hmem
    simp only [decide_eq_true_eq]
    exact h field hmem
  show ((fields ++ [("signature", value)]).find? _).map Prod.snd = _
  rw [List.find?_append, hnone]
  rfl

/-! ## §2. Keys. -/

section Keys

variable {P : Platform} {private_key_b64 public_key_b64 signature : String} {seed : List UInt8}

theorem strip_prefix_append (pre text : String) :
    Platform.strip_prefix (pre ++ text) pre = some (as_bytes text) := by
  have hprefix : (as_bytes pre).isPrefixOf (as_bytes pre ++ as_bytes text) = true :=
    List.isPrefixOf_iff_prefix.mpr (List.prefix_append _ _)
  unfold Platform.strip_prefix
  rw [as_bytes_append, if_pos hprefix, List.drop_left]

/-- A signature is made whenever the private key is one. -/
theorem sign_ed25519_iff {value : Json} :
    P.sign_ed25519 value private_key_b64 = .ok signature ↔
      ∃ seed, P.private_bytes private_key_b64 = .ok seed ∧ signature = Platform.ED25519_PREFIX ++
        P.base64_encode (P.ed25519_sign seed (P.canonical_json_bytes value)) := by
  unfold Platform.sign_ed25519
  simp only [bind_eq_ok, Except.ok.injEq]
  exact exists_congr fun _ => and_congr_right fun _ => eq_comm

/-- The signatures of a seed can be written and read, and its public key verifies them. -/
theorem key_pair_of_seed {key : List UInt8} (hseed : P.private_bytes private_key_b64 = .ok seed)
    (hkey : P.base64_decode (as_bytes public_key_b64) = some key) (hwidth : key.length = 32)
    (hvalid : P.ed25519_valid_key key = true)
    (hencoded : ∀ bytes, P.base64_decode (as_bytes (P.base64_encode (P.ed25519_sign seed bytes))) =
      some (P.ed25519_sign seed bytes))
    (hlength : ∀ bytes, (P.ed25519_sign seed bytes).length = 64)
    (hverifies : ∀ bytes, P.ed25519_verify key bytes (P.ed25519_sign seed bytes) = true) :
    KeyPair P private_key_b64 public_key_b64 := by
  constructor
  · intro value
    exact ⟨_, sign_ed25519_iff.mpr ⟨seed, hseed, rfl⟩⟩
  · intro value signed signature hsign hstrip hget
    obtain ⟨found, hfound, hsignature⟩ := sign_ed25519_iff.mp hsign
    obtain rfl : found = seed := Except.ok.inj (hfound.symm.trans hseed)
    have hbytes : P.canonical_json_bytes signed = P.canonical_json_bytes value := by
      unfold Platform.canonical_json_bytes
      rw [hstrip]
    rw [hsignature] at hget
    unfold Platform.verify_ed25519
    rw [hget, hbytes]
    simp only [Option.bind_some, as_str, bind_eq_ok, exists_unit, rejectIf_eq_ok, okOr_eq_ok,
      bne_eq_false_iff_eq, Bool.not_eq_false', Option.some.injEq, strip_prefix_append,
      exists_eq_left', hencoded, hlength, hkey, hwidth, hvalid, hverifies, true_and]

end Keys

/-! ## §3. Graphs. -/

section Signed

variable {P : Platform} {private_key_b64 public_key_b64 signature : String}
variable {graph : QueryEvidenceGraphV2}

theorem strip_signed_graph :
    { graph with signature := some signature }.to_value.strip_signatures =
      graph.to_value.strip_signatures := by
  cases graph
  rw [QueryEvidenceGraphV2.to_value, QueryEvidenceGraphV2.to_value, strip_signature_member,
    strip_signature_member]

theorem get_signed_graph :
    { graph with signature := some signature }.to_value.get "signature" =
      some (.string signature) := by
  cases graph
  rw [QueryEvidenceGraphV2.to_value]
  refine get_signature_member ?_ _
  simp [unsigned_append, unsigned_field, unsigned_optional, unsigned_nonempty]

theorem KeyPair.verifies_graph (hkeys : KeyPair P private_key_b64 public_key_b64)
    (hsign : P.sign_ed25519 graph.to_value private_key_b64 = .ok signature) :
    P.verify_ed25519 { graph with signature := some signature }.to_value public_key_b64 =
      .ok () :=
  hkeys.verifies graph.to_value _ signature hsign strip_signed_graph get_signed_graph

end Signed

end ResolverIdentity
