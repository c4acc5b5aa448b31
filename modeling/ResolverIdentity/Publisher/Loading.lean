/-
  ResolverIdentity.Publisher.Loading: the identities a publication starts from.

  `load_identities` of `tools/manage_v2_registry.py`, with the signature check of
  `crypto/signatures.py` under the keys of an issuer bundle.

  Main results:
    * `Loaded`, `loaded_of_load_identities`: what holds of the identities loaded;
    * `Loaded.nodup_endpoints`: no endpoint key is there twice.
-/
import Mathlib.Data.List.AList
import Mathlib.Data.List.Dedup
import ResolverIdentity.Publisher.Identities

namespace ResolverIdentity.Publisher

open Library Json

/-! ## §1. Signatures. -/

/-- `IssuerPublicKey`. -/
structure IssuerPublicKey where
  issuer : String
  key_id : String
  algorithm : String
  public_key : String

/-- `binascii.a2b_base64` outside its strict mode: what is not in the alphabet is skipped, and
enough padding ends the text. -/
def a2b_base64 : List UInt8 → (quad_pos leftchar pads : Nat) → Option (List UInt8)
  | [], quad_pos, _, _ => if quad_pos = 0 then some [] else none
  | this_ch :: rest, quad_pos, leftchar, pads =>
    if this_ch = 61 then
      if quad_pos < 2 then a2b_base64 rest quad_pos leftchar pads
      else if 4 ≤ quad_pos + (pads + 1) then some []
      else a2b_base64 rest quad_pos leftchar (pads + 1)
    else
      match base64_value this_ch with
      | none => a2b_base64 rest quad_pos leftchar pads
      | some value =>
        match quad_pos with
        | 0 => a2b_base64 rest 1 value 0
        | 1 => (a2b_base64 rest 2 (value % 16) 0).map (UInt8.ofNat (leftchar * 4 + value / 16) :: ·)
        | 2 => (a2b_base64 rest 3 (value % 4) 0).map (UInt8.ofNat (leftchar * 16 + value / 4) :: ·)
        | _ => (a2b_base64 rest 0 0 0).map (UInt8.ofNat (leftchar * 64 + value) :: ·)

/-- `base64.b64decode(text)`; `none` is an exception. -/
def b64decode_lenient (text : String) : Option (List UInt8) :=
  let bytes := as_bytes text
  if bytes.all (· < 128) then a2b_base64 bytes 0 0 0 else none

/-- A value as a set or a dict keeps it: equal values are one. -/
inductive HashKey where
  | none
  | number (n : Int)
  | text (s : String)
  deriving DecidableEq

/-- `hash(value)`; a list or a dict has none. -/
def hash_key : Json → Option HashKey
  | .null => some .none
  | .bool b => some (.number (if b then 1 else 0))
  | .number n => some (.number n)
  | .string s => some (.text s)
  | .array _ | .object _ => none

/-- What a set says to a list or a dictionary. -/
def UNHASHABLE : String := "TypeError: unhashable type"

/-- `str(value)`, but for what a list or a dict has in its brackets. -/
def str_of : Json → String
  | .null => "None"
  | .bool b => if b then "True" else "False"
  | .number n => toString n
  | .string s => s
  | .array _ => "[]"
  | .object _ => "\x7b\x7d"

section Signatures

variable (P : Platform)

/-- `registry.get(issuer, key_id)`: of two keys the one added later. -/
def issuer_key (registry : List IssuerPublicKey) (issuer key_id : HashKey) :
    Option IssuerPublicKey :=
  registry.reverse.find? (fun key => .text key.issuer = issuer && .text key.key_id = key_id)

/-- The end of `verify_object_signature_with_registry`, where every exception is a `False`. -/
def verifies (key : IssuerPublicKey) (signature : String) (obj_dict : Json) : Bool :=
  match b64decode_lenient key.public_key,
    b64decode_lenient (String.ofList (signature.toList.drop Platform.ED25519_PREFIX.length)) with
  | some raw_public, some raw_signature =>
    raw_public.length = 32 && raw_signature.length = 64 &&
      P.ed25519_verify raw_public ( canonical_json_bytes obj_dict) raw_signature
  | _, _ => false

/-- What an HMAC signature begins with. -/
def HMAC_PREFIX : String := "base64:hmac-sha256:"

/-- Without a fallback secret. -/
def verify_object_signature_with_registry (obj_dict : Json) (registry : List IssuerPublicKey) :
    Except String Bool :=
  match dict_get obj_dict "signature" with
  | .string signature => do
    if starts_with (.string signature) HMAC_PREFIX then .ok false
    else if !starts_with (.string signature) Platform.ED25519_PREFIX then .ok false
    else do
      let issuer ← okOr (hash_key (dict_get_or obj_dict "issuer" (.string ""))) UNHASHABLE
      let key_id ← okOr (hash_key (dict_get_or obj_dict "key_id" (.string ""))) UNHASHABLE
      match issuer_key registry issuer key_id with
      | none => .ok false
      | some key =>
        .ok (P.to_lowercase key.algorithm = "ed25519" && verifies P key signature obj_dict)
  | _ => .ok false

/-- An identity is well formed and signed by its issuer. -/
def validate_identity (identity : Json) (issuers : List IssuerPublicKey) : Except String Unit := do
  validate_identity_structure P identity
  let verified ← verify_object_signature_with_registry P identity issuers
  rejectIf (!verified)
    ("identity signature is invalid: " ++ str_of (dict_get identity "server_id"))

/-! ## §2. Loading. -/

/-- What the loop over the identities has seen. -/
structure Loading where
  server_ids : List HashKey
  endpoint_owners : AList (fun _ : String => Json)

/-- The loop over the endpoints of an identity; `setdefault` leaves an owner that is there. -/
def own_endpoints (server_id : Json) : List Json → AList (fun _ : String => Json) →
    Except String (AList (fun _ : String => Json))
  | [], endpoint_owners => .ok endpoint_owners
  | endpoint :: rest, endpoint_owners => do
    let endpoint ← from_dict P endpoint
    let endpoint_key ← endpoint_lookup_key P endpoint
    let previous := (endpoint_owners.lookup endpoint_key).getD server_id
    rejectIf (hash_key previous != hash_key server_id)
      ("endpoint " ++ endpoint_key ++ " is shared by " ++ str_of previous ++ " and " ++
        str_of server_id)
    own_endpoints server_id rest (endpoint_owners.insert endpoint_key previous)

/-- One more identity: neither its id nor its keys were there. -/
def load_identity (issuers : List IssuerPublicKey) (acc : Loading) (identity : Json) :
    Except String Loading := do
  validate_identity P identity issuers
  let server_id ← okOr (identity.get "server_id") "KeyError: 'server_id'"
  let key ← okOr (hash_key server_id) UNHASHABLE
  rejectIf (acc.server_ids.contains key) ("duplicate server_id: " ++ str_of server_id)
  let endpoints ← list_of (dict_get identity "endpoints")
  let endpoint_owners ← own_endpoints P server_id endpoints acc.endpoint_owners
  .ok { server_ids := key :: acc.server_ids, endpoint_owners }

/-- The loop over the file. -/
def load_all (issuers : List IssuerPublicKey) : List Json → Loading → Except String Loading
  | [], acc => .ok acc
  | identity :: rest, acc => do
    let acc ← load_identity P issuers acc identity
    load_all issuers rest acc

/-- `load_identities`: the identities of a file, all valid. -/
def load_identities (issuers : List IssuerPublicKey) (payload : Json) : Except String (List Json) :=
  match dict_get payload "identities" with
  | .array identities => do
    rejectIf identities.isEmpty "identity artifact must contain a non-empty identities list"
    let _ ← load_all P issuers identities ⟨[], ∅⟩
    .ok identities
  | _ => .error "identity artifact must contain a non-empty identities list"

end Signatures

/-! ## §3. What is loaded. -/

/-- What is known of an identity that was loaded, with its id and its endpoint keys. -/
structure Entered (P : Platform) (identity : Json) (id : HashKey) (keys : List String) : Prop where
  server_id : ∃ value, identity.get "server_id" = some value ∧ hash_key value = some id ∧
    is_blank value = false
  status : identity.get "status" = some (.string "ACTIVE")
  object_version : ∃ n, int_of (dict_get_or identity "object_version" (.number 0)) = .ok n ∧ 0 < n
  endpoints : endpoint_keys P (dict_get identity "endpoints") = .ok keys
  few : keys ≠ [] ∧ keys.length ≤ 32
  distinct : keys.Nodup

section Loaded

variable {P : Platform}

/-- What is iterated has its length, and a truthy value has an item. -/
theorem length_of_list_of {value : Json} {items : List Json} {count : Nat}
    (hitems : list_of value = .ok items) (hcount : len_of value = .ok count) :
    items.length = count ∧ (truthy value = true → items ≠ []) := by
  cases value with
  | array l =>
    rw [← Except.ok.inj hitems, ← Except.ok.inj hcount]
    exact ⟨rfl, fun htruthy hempty => by rw [truthy, hempty] at htruthy; cases htruthy⟩
  | string s =>
    rw [← Except.ok.inj hitems, ← Except.ok.inj hcount]
    refine ⟨by rw [List.length_map, String.length_toList], fun htruthy hempty => ?_⟩
    exact truthy_string.mp htruthy (String.toList_eq_nil_iff.mp (List.map_eq_nil_iff.mp hempty))
  | object fields =>
    rw [← Except.ok.inj hitems, ← Except.ok.inj hcount]
    refine ⟨List.length_map _, fun htruthy hempty => ?_⟩
    rw [truthy, List.map_eq_nil_iff.mp hempty] at htruthy
    cases htruthy
  | _ => cases hitems

/-- The endpoints of a validated identity have keys, each of them once. -/
theorem endpoint_keys_of_validated {identity : Json}
    (h : validate_identity_structure P identity = .ok ()) :
    ∃ keys, endpoint_keys P (dict_get identity "endpoints") = .ok keys ∧
      (keys ≠ [] ∧ keys.length ≤ 32) ∧ keys.Nodup := by
  unfold validate_identity_structure at h
  split at h
  case h_2 => cases h
  case h_1 fields =>
    simp only [bind_eq_ok, exists_unit, rejectIf_eq_ok, Bool.not_eq_false',
      decide_eq_false_iff_not, bne_eq_false_iff_eq, not_lt] at h
    obtain ⟨_, _, _, _, _, _, _, _, _, _, _, _, _, htruthy, count, hcount, hfew, _, keys, hkeys,
      hdedup, _⟩ := h
    refine ⟨keys, hkeys, ?_, ?_⟩
    · unfold endpoint_keys at hkeys
      obtain ⟨items, hitems, hall⟩ := bind_eq_ok.mp hkeys
      obtain ⟨hlength, hsome⟩ := length_of_list_of hitems hcount
      have hsame := (mapM_eq_ok.mp hall).length_eq
      refine ⟨fun hempty => hsome htruthy ?_, by omega⟩
      rw [hempty] at hsame
      exact List.length_eq_zero_iff.mp hsame
    · -- as many keys as endpoints, so none was dropped
      unfold endpoint_keys at hkeys
      obtain ⟨items, hitems, hall⟩ := bind_eq_ok.mp hkeys
      obtain ⟨hlength, _⟩ := length_of_list_of hitems hcount
      have hsame := (mapM_eq_ok.mp hall).length_eq
      rw [← (List.dedup_sublist keys).eq_of_length (by omega)]
      exact List.nodup_dedup keys

/-- The id of a validated identity is not blank. -/
theorem server_id_of_validated {identity : Json}
    (h : validate_identity_structure P identity = .ok ()) :
    is_blank (dict_get_or identity "server_id" (.string "")) = false := by
  unfold validate_identity_structure at h
  split at h
  case h_2 => cases h
  case h_1 fields =>
    simp only [bind_eq_ok, exists_unit, rejectIf_eq_ok] at h
    obtain ⟨_, _, _, _, hfields, _⟩ := h
    obtain ⟨_, hfirst, _⟩ := bind_eq_ok.mp hfields
    exact rejectIf_eq_ok.mp hfirst

/-- The keys of the endpoints get the identity for their owner, where none has another. -/
theorem owners_of_own_endpoints {server_id : Json} {items : List Json} :
    ∀ {keys : List String} {owners owners' : AList (fun _ : String => Json)},
      List.Forall₂ (fun item key => (do
        let endpoint ← from_dict P item
        endpoint_lookup_key P endpoint) = .ok key) items keys →
      own_endpoints P server_id items owners = .ok owners' →
        (∀ key ∈ keys, ∃ owner, owners'.lookup key = some owner ∧
          hash_key owner = hash_key server_id) ∧
        (∀ key owner, owners.lookup key = some owner → owners'.lookup key = some owner) := by
  induction items with
  | nil =>
    intro keys owners owners' hkeys h
    rw [List.forall₂_nil_left_iff.mp hkeys, ← Except.ok.inj h]
    exact ⟨fun key hkey => (nomatch hkey), fun key owner howner => howner⟩
  | cons item rest ih =>
    intro keys owners owners' hkeys h
    obtain ⟨key, keys, hkey, hkeys, heq⟩ := List.forall₂_cons_left_iff.mp hkeys
    obtain ⟨endpoint, hendpoint, hlookup⟩ := bind_eq_ok.mp hkey
    unfold own_endpoints at h
    rw [hendpoint, ok_bind, hlookup, ok_bind] at h
    simp only [bind_eq_ok, exists_unit, rejectIf_eq_ok, bne_eq_false_iff_eq] at h
    obtain ⟨hprevious, h⟩ := h
    obtain ⟨howned, hkept⟩ := ih hkeys h
    have hfirst := hkept key _ (AList.lookup_insert owners)
    refine ⟨?_, ?_⟩
    · intro other hother
      rw [heq] at hother
      rcases List.mem_cons.mp hother with hsame | hlater
      · rw [hsame]
        exact ⟨_, hfirst, hprevious⟩
      · exact howned other hlater
    · intro other owner howner
      by_cases hsame : other = key
      · rw [hsame] at howner ⊢
        rw [hfirst, howner]
        rfl
      · refine hkept other owner ?_
        rw [AList.lookup_insert_ne hsame]
        exact howner

/-- What the loop has seen, as it is known of the identities before. -/
structure Seen (entered : List (HashKey × List String)) (acc : Loading) : Prop where
  server_ids : ∀ entry ∈ entered, entry.1 ∈ acc.server_ids
  owners : ∀ entry ∈ entered, ∀ key ∈ entry.2, ∃ owner,
    acc.endpoint_owners.lookup key = some owner ∧ hash_key owner = some entry.1
  ids_nodup : (entered.map Prod.fst).Nodup
  keys_nodup : (entered.flatMap Prod.snd).Nodup

theorem seen_of_load_identity {issuers : List IssuerPublicKey} {acc acc' : Loading} {identity : Json}
    {entered : List (HashKey × List String)}
    (h : load_identity P issuers acc identity = .ok acc') (hseen : Seen entered acc) :
    ∃ id keys, Entered P identity id keys ∧ Seen ((id, keys) :: entered) acc' := by
  unfold load_identity at h
  simp only [bind_eq_ok, exists_unit, rejectIf_eq_ok, okOr_eq_ok, Except.ok.injEq] at h
  obtain ⟨hvalidated, server_id, hserver, id, hid, hnew, items, hitems, owners, howners, hmade⟩ := h
  unfold validate_identity at hvalidated
  obtain ⟨_, hvalid, _⟩ := bind_eq_ok.mp hvalidated
  obtain ⟨keys, hkeys, hfew, hnodup⟩ := endpoint_keys_of_validated hvalid
  have hblank := server_id_of_validated hvalid
  unfold dict_get_or at hblank
  rw [hserver] at hblank
  obtain ⟨hstatus, hversion⟩ : identity.get "status" = some (.string "ACTIVE") ∧
      ∃ n, int_of (dict_get_or identity "object_version" (.number 0)) = .ok n ∧ 0 < n := by
    cases identity with
    | object fields =>
      obtain ⟨_, _, hstatus, hversion, _⟩ := validated hvalid
      exact ⟨hstatus, hversion⟩
    | _ => cases hvalid
  have hmapped := hkeys
  unfold endpoint_keys at hmapped
  rw [hitems, ok_bind] at hmapped
  obtain ⟨howned, hkept⟩ := owners_of_own_endpoints (mapM_eq_ok.mp hmapped) howners
  have hfresh : id ∉ acc.server_ids := by
    rw [← List.contains_iff_mem, hnew]
    exact Bool.false_ne_true
  refine ⟨id, keys, ⟨⟨server_id, hserver, hid, hblank⟩, hstatus, hversion, hkeys, hfew, hnodup⟩, ?_⟩
  rw [← hmade]
  refine ⟨?_, ?_, ?_, ?_⟩
  · intro entry hentry
    rcases List.mem_cons.mp hentry with hsame | hlater
    · rw [hsame]
      exact List.mem_cons_self
    · exact List.mem_cons_of_mem _ (hseen.server_ids entry hlater)
  · intro entry hentry key hkey
    rcases List.mem_cons.mp hentry with hsame | hlater
    · rw [hsame] at hkey ⊢
      obtain ⟨owner, howner, hhash⟩ := howned key hkey
      exact ⟨owner, howner, hhash.trans hid⟩
    · obtain ⟨owner, howner, hhash⟩ := hseen.owners entry hlater key hkey
      exact ⟨owner, hkept key owner howner, hhash⟩
  · refine List.nodup_cons.mpr ⟨?_, hseen.ids_nodup⟩
    intro hmem
    obtain ⟨entry, hentry, heq⟩ := List.mem_map.mp hmem
    have hbefore := hseen.server_ids entry hentry
    rw [heq] at hbefore
    exact hfresh hbefore
  · rw [List.flatMap_cons]
    refine List.Nodup.append hnodup hseen.keys_nodup ?_
    intro key hkey hbefore
    -- an endpoint of an earlier identity has that one for its owner
    obtain ⟨entry, hentry, hmem⟩ := List.mem_flatMap.mp hbefore
    obtain ⟨owner, howner, hhash⟩ := hseen.owners entry hentry key hmem
    obtain ⟨owner', howner', hhash'⟩ := howned key hkey
    rw [hkept key owner howner] at howner'
    rw [← Option.some.inj howner', hhash, hid] at hhash'
    have hbefore := hseen.server_ids entry hentry
    rw [Option.some.inj hhash'] at hbefore
    exact hfresh hbefore

theorem seen_of_load_all {issuers : List IssuerPublicKey} {identities : List Json} :
    ∀ {acc acc' : Loading} {entered : List (HashKey × List String)},
      load_all P issuers identities acc = .ok acc' → Seen entered acc →
        ∃ later, List.Forall₂ (fun identity entry => Entered P identity entry.1 entry.2) identities
          later ∧ Seen (later.reverse ++ entered) acc' := by
  induction identities with
  | nil =>
    intro acc acc' entered h hseen
    rw [← Except.ok.inj h]
    exact ⟨[], .nil, hseen⟩
  | cons identity rest ih =>
    intro acc acc' entered h hseen
    unfold load_all at h
    obtain ⟨next, hnext, h⟩ := bind_eq_ok.mp h
    obtain ⟨id, keys, hentered, hseen⟩ := seen_of_load_identity hnext hseen
    obtain ⟨later, hall, hlast⟩ := ih h hseen
    refine ⟨(id, keys) :: later, .cons hentered hall, ?_⟩
    rw [List.reverse_cons, List.append_assoc]
    exact hlast

/-- What is loaded is what the artifact lists. -/
theorem listed_of_load_identities {issuers : List IssuerPublicKey} {payload : Json}
    {identities : List Json} (h : load_identities P issuers payload = .ok identities) :
    dict_get payload "identities" = .array identities := by
  unfold load_identities at h
  split at h
  case h_2 => cases h
  case h_1 items hitems =>
    simp only [bind_eq_ok, exists_unit, Except.ok.injEq] at h
    obtain ⟨_, _, _, heq⟩ := h
    rw [hitems, heq]

/-- What holds of the identities loaded. -/
structure Loaded (P : Platform) (identities : List Json) (entered : List (HashKey × List String)) :
    Prop where
  nonempty : identities ≠ []
  all_entered : List.Forall₂ (fun identity entry => Entered P identity entry.1 entry.2) identities entered
  ids_nodup : (entered.map Prod.fst).Nodup
  keys_nodup : (entered.flatMap Prod.snd).Nodup

theorem loaded_of_load_identities {issuers : List IssuerPublicKey} {payload : Json}
    {identities : List Json} (h : load_identities P issuers payload = .ok identities) :
    ∃ entered, Loaded P identities entered := by
  unfold load_identities at h
  split at h
  case h_2 => cases h
  case h_1 items _ =>
    simp only [bind_eq_ok, exists_unit, rejectIf_eq_ok, Except.ok.injEq] at h
    obtain ⟨hsome, acc, hacc, heq⟩ := h
    rw [heq] at hsome hacc
    obtain ⟨entered, hall, hseen⟩ := seen_of_load_all hacc
      (show Seen [] _ from ⟨fun _ hmem => absurd hmem List.not_mem_nil,
        fun _ hmem => absurd hmem List.not_mem_nil, List.nodup_nil, List.nodup_nil⟩)
    rw [List.append_nil] at hseen
    refine ⟨entered, List.isEmpty_eq_false_iff.mp hsome, hall, ?_, ?_⟩
    · have hids := hseen.ids_nodup
      rwa [List.map_reverse, List.nodup_reverse] at hids
    · exact ((List.reverse_perm entered).flatMap_right Prod.snd).nodup_iff.mp hseen.keys_nodup

end Loaded

end ResolverIdentity.Publisher
