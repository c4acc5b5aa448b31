/-
  ResolverIdentity.Sync.EndpointKeys: the two keys of an endpoint.

  `cache_key` joins six fields with ':' and the protocols with ',', and the store looks an
  identity up by it; `registry_key` is a digest of the same fields, and the Registry binds
  it.  A separator inside a field lets two endpoints share the first key and not the
  second.

  Main results:
    * `registry_key_eq_iff`: the digest tells every two normalized endpoints apart;
    * `lookup_bound`: an identity looked up has an endpoint with the `cache_key` asked for;
    * `cutAlike_of_plain`: plain endpoints are cut alike;
    * `keys_agree_iff`: the keys agree unless one text is cut up in two ways, and always
      those of plain endpoints.
-/
import ResolverIdentity.Library.Joined
import ResolverIdentity.Publisher.Endpoints
import ResolverIdentity.Store.Interleavings
import ResolverIdentity.Sync.Reconcile

namespace ResolverIdentity.Sync

open Library Store Publisher

/-! ## §1. The fields of a key. -/

/-- The fields `cache_key` joins, of a normalized endpoint. -/
def key_fields (normal : DnsEndpoint) : List (List Char) :=
  [(normal.ip.getD "").toList, (toString (normal.port.getD 0)).toList, normal.transport.toList,
    (normal.server_name.getD "").toList, (normal.uri.getD "").toList,
    (String.intercalate "," normal.alpn).toList]

/-- The ALPN names as characters. -/
def alpn_fields (normal : DnsEndpoint) : List (List Char) := normal.alpn.map String.toList

/-- If the pieces between the colons are the same, they are divided over the fields in one
way, and so are those between the commas over the protocols. -/
def CutAlike (a b : DnsEndpoint) : Prop :=
  pieces ':' (key_fields a) = pieces ':' (key_fields b) →
    cuts ':' (key_fields a) = cuts ':' (key_fields b) ∧
      cuts ',' (alpn_fields a) = cuts ',' (alpn_fields b)

section Keys

variable {P : Platform}

/-- A printed address or URI is not empty. -/
structure PrintLaws (P : Platform) : Prop where
  ip_text : ∀ text address, P.parse_ip text = some address → address ≠ ""
  url_text : ∀ text url, P.canonical_url text = some url → url ≠ ""

theorem toList_intercalate_char {separator : String} {c : Char} (h : separator.toList = [c])
    (texts : List String) :
    (String.intercalate separator texts).toList = joined c (texts.map String.toList) := by
  rw [String.toList_intercalate, h]
  rfl

theorem port_text_injective {m n : Nat} (h : toString m = toString n) : m = n := by
  have htext : ∀ n : Nat, (toString n).toList = Nat.toDigits 10 n := fun _ => String.toList_ofList
  apply Json.toDigits_injective
  rw [← htext, ← htext, h]

/-- The cache key of an endpoint, from its normal form. -/
theorem cache_key_eq {endpoint normal : DnsEndpoint} (h : P.normalized endpoint = .ok normal) :
    P.cache_key endpoint = .ok (String.ofList (joined ':' (key_fields normal))) := by
  have hjoin : String.ofList (joined ':' (key_fields normal)) =
      String.intercalate ":" [normal.ip.getD "", toString (normal.port.getD 0), normal.transport,
        normal.server_name.getD "", normal.uri.getD "", String.intercalate "," normal.alpn] := by
    have hcolon : ":".toList = [':'] := rfl
    apply String.toList_inj.mp
    rw [String.toList_ofList, toList_intercalate_char hcolon]
    rfl
  unfold Platform.cache_key
  rw [h, ok_bind, hjoin]
  rfl

theorem cache_key_eq_iff {a b normal normal' : DnsEndpoint} (ha : P.normalized a = .ok normal)
    (hb : P.normalized b = .ok normal') :
    P.cache_key a = P.cache_key b ↔
      pieces ':' (key_fields normal) = pieces ':' (key_fields normal') := by
  rw [cache_key_eq ha, cache_key_eq hb, Except.ok.injEq, String.ofList_inj]
  exact joined_eq_iff ':' (List.cons_ne_nil _ _) (List.cons_ne_nil _ _)

/-- What `registry_key` hashes, of a normalized endpoint. -/
def registry_text (P : Platform) (normal : DnsEndpoint) : List UInt8 :=
  as_bytes "endpoint-v2:" ++ P.canonical_json_bytes normal.key_value

theorem registry_key_eq {endpoint normal : DnsEndpoint} (h : P.normalized endpoint = .ok normal) :
    P.registry_key endpoint = .ok (P.sha256_hex ( registry_text P normal)) := by
  unfold Platform.registry_key
  rw [h]
  rfl

/-- The name is not used by either key. -/
def unnamed (endpoint : DnsEndpoint) : DnsEndpoint := { endpoint with endpoint_id := none }

/-- The digest tells normalized endpoints apart, whatever is in their fields. -/
theorem registry_key_eq_iff (hto_vec : Function.Injective P.to_vec)
    {a b normal normal' : DnsEndpoint} (ha : P.normalized a = .ok normal)
    (hb : P.normalized b = .ok normal')
    (hcollision : P.sha256_hex ( registry_text P normal) = P.sha256_hex ( registry_text P normal') →
      registry_text P normal = registry_text P normal') :
    P.registry_key a = P.registry_key b ↔ unnamed normal = unnamed normal' := by
  rw [registry_key_eq ha, registry_key_eq hb, Except.ok.injEq]
  constructor
  · intro h
    have hstrip := hto_vec (List.append_cancel_left (hcollision h))
    obtain ⟨ip, uri, _, _, _, hnormal⟩ := normalized_eq_ok.mp ha
    obtain ⟨ip', uri', _, _, _, hnormal'⟩ := normalized_eq_ok.mp hb
    rw [← hnormal, ← hnormal', verified_key_value, verified_key_value] at hstrip
    have hbinding := Binding.eq_of_strip_eq hstrip
    unfold verified_binding at hbinding
    simp only [Binding.mk.injEq, Int.ofNat_inj] at hbinding
    rw [← hnormal, ← hnormal']
    unfold unnamed verified
    simp only [DnsEndpoint.mk.injEq, Option.some.injEq, true_and]
    exact hbinding
  · intro h
    -- the name is taken off before the endpoint is hashed
    have hvalue : normal.key_value = normal'.key_value := congrArg DnsEndpoint.to_value h
    unfold registry_text
    rw [hvalue]

/-- A normalized text field is absent or not empty. -/
theorem field_of_getD {a b : Option String} (ha : ∀ text, a = some text → text ≠ "")
    (hb : ∀ text, b = some text → text ≠ "") (h : a.getD "" = b.getD "") : a = b := by
  cases a with
  | none =>
    cases b with
    | none => rfl
    | some text => exact absurd h.symm (hb text rfl)
  | some text =>
    cases b with
    | none => exact absurd h (ha text rfl)
    | some text' => exact congrArg some h

theorem normal_texts (laws : PrintLaws P) {endpoint normal : DnsEndpoint}
    (h : P.normalized endpoint = .ok normal) :
    (∀ text, normal.ip = some text → text ≠ "") ∧ (∀ text, normal.uri = some text → text ≠ "") ∧
      (∀ text, normal.server_name = some text → text ≠ "") ∧ ∃ port, normal.port = some port := by
  obtain ⟨ip, uri, hip, huri, _, hnormal⟩ := normalized_eq_ok.mp h
  rw [← hnormal]
  refine ⟨?_, ?_, ?_, _, rfl⟩
  · intro text htext
    rcases convert_eq_ok.mp hip with ⟨_, hnone⟩ | ⟨value, printed, _, hprinted, hsome⟩
    · rw [show ip = some text from htext] at hnone
      cases hnone
    · rw [show ip = some text from htext] at hsome
      rw [Option.some.inj hsome]
      exact laws.ip_text _ _ (okOr_eq_ok.mp hprinted)
  · intro text htext
    rcases convert_eq_ok.mp huri with ⟨_, hnone⟩ | ⟨value, printed, _, hprinted, hsome⟩
    · rw [show uri = some text from htext] at hnone
      cases hnone
    · rw [show uri = some text from htext] at hsome
      rw [Option.some.inj hsome]
      exact laws.url_text _ _ (okOr_eq_ok.mp hprinted)
  · intro text htext
    obtain ⟨name, _, hname⟩ := Option.bind_eq_some_iff.mp htext
    have hkept := (Option.filter_eq_some_iff.mp hname).2
    simpa using hkept

/-- Endpoints without names agree exactly if their fields do, and their protocols. -/
theorem unnamed_eq_iff (laws : PrintLaws P) {a b normal normal' : DnsEndpoint}
    (ha : P.normalized a = .ok normal) (hb : P.normalized b = .ok normal') :
    unnamed normal = unnamed normal' ↔
      key_fields normal = key_fields normal' ∧ alpn_fields normal = alpn_fields normal' := by
  obtain ⟨hip, huri, hname, port, hport⟩ := normal_texts laws ha
  obtain ⟨hip', huri', hname', port', hport'⟩ := normal_texts laws hb
  constructor
  · intro h
    have hfields : key_fields (unnamed normal) = key_fields (unnamed normal') := by rw [h]
    have halpn : alpn_fields (unnamed normal) = alpn_fields (unnamed normal') := by rw [h]
    exact ⟨hfields, halpn⟩
  · intro h
    obtain ⟨hfields, halpn⟩ := h
    unfold key_fields at hfields
    simp only [List.cons.injEq, String.toList_inj, and_true] at hfields
    obtain ⟨hsame_ip, hsame_port, hsame_transport, hsame_name, hsame_uri, _⟩ := hfields
    have hsame_alpn : normal.alpn = normal'.alpn :=
      List.map_injective_iff.mpr (fun _ _ heq => String.toList_inj.mp heq) halpn
    rw [hport, hport'] at hsame_port
    have hports : normal.port = normal'.port := by
      rw [hport, hport']
      exact congrArg some (port_text_injective hsame_port)
    unfold unnamed
    rw [field_of_getD hip hip' hsame_ip, hports, hsame_transport,
      field_of_getD hname hname' hsame_name, field_of_getD huri huri' hsame_uri, hsame_alpn]

/-- One list of protocols is joined from the other's pieces, and cut up like it. -/
theorem alpn_of_cuts {a b : DnsEndpoint} (hfields : key_fields a = key_fields b)
    (hcuts : cuts ',' (alpn_fields a) = cuts ',' (alpn_fields b)) :
    alpn_fields a = alpn_fields b := by
  have hcomma : ",".toList = [','] := rfl
  have hjoined : joined ',' (alpn_fields a) = joined ',' (alpn_fields b) := by
    unfold key_fields at hfields
    simp only [List.cons.injEq, toList_intercalate_char hcomma, and_true] at hfields
    exact hfields.2.2.2.2.2
  have hlength := congrArg List.length hcuts
  unfold cuts at hlength
  rw [List.length_map, List.length_map] at hlength
  by_cases hempty : alpn_fields a = []
  · rw [hempty, List.length_nil] at hlength
    rw [hempty, List.length_eq_zero_iff.mp hlength.symm]
  · have hempty' : alpn_fields b ≠ [] := by
      intro heq
      rw [heq, List.length_nil] at hlength
      exact hempty (List.length_eq_zero_iff.mp hlength)
    exact eq_of_pieces_of_cuts ',' ((joined_eq_iff ',' hempty hempty').mp hjoined) hcuts

/-- Endpoints cut alike have one cache key only if they have the same fields. -/
theorem unnamed_of_cutAlike (laws : PrintLaws P) {a b normal normal' : DnsEndpoint}
    (ha : P.normalized a = .ok normal) (hb : P.normalized b = .ok normal')
    (hcut : CutAlike normal normal') (h : P.cache_key a = P.cache_key b) :
    unnamed normal = unnamed normal' := by
  have hpieces := (cache_key_eq_iff ha hb).mp h
  obtain ⟨hcuts, halpn⟩ := hcut hpieces
  have hfields := eq_of_pieces_of_cuts ':' hpieces hcuts
  exact (unnamed_eq_iff laws ha hb).mpr ⟨hfields, alpn_of_cuts hfields halpn⟩

/-- The two keys identify the same endpoints exactly among those that are cut alike. -/
theorem cache_key_iff_registry_key (hto_vec : Function.Injective P.to_vec) (laws : PrintLaws P)
    {a b normal normal' : DnsEndpoint} (ha : P.normalized a = .ok normal)
    (hb : P.normalized b = .ok normal')
    (hcollision : P.sha256_hex ( registry_text P normal) = P.sha256_hex ( registry_text P normal') →
      registry_text P normal = registry_text P normal') :
    (P.cache_key a = P.cache_key b ↔ P.registry_key a = P.registry_key b) ↔
      CutAlike normal normal' := by
  rw [registry_key_eq_iff hto_vec ha hb hcollision]
  constructor
  · intro hkeys hpieces
    have hsame := hkeys.mp ((cache_key_eq_iff ha hb).mpr hpieces)
    obtain ⟨hfields, halpn⟩ := (unnamed_eq_iff laws ha hb).mp hsame
    rw [hfields, halpn]
    exact ⟨rfl, rfl⟩
  · intro hcut
    constructor
    · intro hcache
      exact unnamed_of_cutAlike laws ha hb hcut hcache
    · intro hsame
      have hfields := ((unnamed_eq_iff laws ha hb).mp hsame).1
      rw [cache_key_eq_iff ha hb, hfields]

end Keys

/-! ## §2. Plain endpoints. -/

/-- The characters an address is printed with. -/
def address_char (c : Char) : Bool :=
  c.isDigit || (97 ≤ c.toNat && c.toNat ≤ 102) || c = ':' || c = '.'

/-- Separators stand in the address and the URI alone, and the transport is no part of an
address. -/
structure Plain (normal : DnsEndpoint) : Prop where
  address : ∀ c ∈ (normal.ip.getD "").toList, address_char c = true
  transport : ':' ∉ normal.transport.toList
  apart : ∃ c ∈ normal.transport.toList, address_char c = false
  server_name : ':' ∉ (normal.server_name.getD "").toList
  alpn : ∀ protocol ∈ normal.alpn, protocol ≠ "" ∧ ':' ∉ protocol.toList ∧ ',' ∉ protocol.toList

section Plain

variable {normal normal' : DnsEndpoint}

theorem mem_of_mem_splitOn {c x : Char} {part piece : List Char} (hpiece : piece ∈ part.splitOn c)
    (hx : x ∈ piece) : x ∈ part := by
  rw [← @List.intercalate_splitOn Char part _ _ c]
  generalize part.splitOn c = items at hpiece
  induction items with
  | nil => cases hpiece
  | cons item rest ih =>
    by_cases hrest : rest = []
    · rw [hrest] at hpiece ⊢
      rw [List.intercalate_singleton, ← List.mem_singleton.mp hpiece]
      exact hx
    · rw [List.intercalate_cons_of_ne_nil hrest, List.mem_append, List.mem_append]
      rcases List.mem_cons.mp hpiece with heq | htail
      · rw [heq] at hx
        exact Or.inl (Or.inl hx)
      · exact Or.inr (ih htail)

theorem port_text_char {n : Nat} {c : Char} (h : c ∈ (toString n).toList) : c.isDigit = true := by
  have htext : (toString n).toList = Nat.toDigits 10 n := String.toList_ofList
  rw [htext] at h
  exact Nat.isDigit_of_mem_toDigits (by decide) (by decide) h

theorem port_text_plain (n : Nat) : ':' ∉ (toString n).toList := by
  intro h
  exact absurd (port_text_char h) (by decide)

/-- The pieces after those of the address. -/
def later_pieces (normal : DnsEndpoint) : List (List Char) :=
  (normal.server_name.getD "").toList :: ((normal.uri.getD "").toList.splitOn ':' ++
    [(String.intercalate "," normal.alpn).toList])

theorem joined_alpn_plain (h : Plain normal) :
    ':' ∉ (String.intercalate "," normal.alpn).toList := by
  have hcomma : ",".toList = [','] := rfl
  rw [toList_intercalate_char hcomma]
  have hall := h.alpn
  generalize normal.alpn = alpn at hall
  unfold joined
  induction alpn with
  | nil => exact List.not_mem_nil
  | cons protocol rest ih =>
    have hrest := ih (fun item hitem => hall item (List.mem_cons_of_mem _ hitem))
    have hfirst := (hall protocol List.mem_cons_self).2.1
    rw [List.map_cons]
    by_cases hempty : rest.map String.toList = []
    · rw [hempty, List.intercalate_singleton]
      exact hfirst
    · rw [List.intercalate_cons_of_ne_nil hempty, List.mem_append, List.mem_append]
      intro hmem
      rcases hmem with (hmem | hmem) | hmem
      · exact hfirst hmem
      · exact absurd (List.mem_singleton.mp hmem) (by decide)
      · exact hrest hmem

theorem pieces_plain (h : Plain normal) : pieces ':' (key_fields normal) =
    (normal.ip.getD "").toList.splitOn ':' ++ (toString (normal.port.getD 0)).toList ::
      normal.transport.toList :: later_pieces normal := by
  unfold pieces key_fields later_pieces
  simp only [List.flatMap_cons, List.flatMap_nil, List.append_nil]
  rw [List.splitOn_eq_singleton (port_text_plain _), List.splitOn_eq_singleton h.transport,
    List.splitOn_eq_singleton h.server_name, List.splitOn_eq_singleton (joined_alpn_plain h)]
  simp only [List.cons_append, List.nil_append]

/-- The address of one cannot take in the port of the other, and its transport with it. -/
theorem no_longer_address (h : Plain normal) (h' : Plain normal') {extra : List (List Char)}
    (haddress : (normal'.ip.getD "").toList.splitOn ':' =
      (normal.ip.getD "").toList.splitOn ':' ++ extra)
    (hrest : (toString (normal.port.getD 0)).toList :: normal.transport.toList ::
      later_pieces normal = extra ++ (toString (normal'.port.getD 0)).toList ::
        normal'.transport.toList :: later_pieces normal') : extra = [] := by
  obtain ⟨c, hc, hchar⟩ := h.apart
  cases extra with
  | nil => rfl
  | cons port more =>
    exfalso
    have htail := (List.cons.inj hrest).2
    cases more with
    | nil =>
      -- the transport would be a port
      rw [(List.cons.inj htail).1] at hc
      unfold address_char at hchar
      rw [port_text_char hc] at hchar
      cases hchar
    | cons transport _ =>
      -- the transport would be a part of an address
      have hmem : transport ∈ (normal'.ip.getD "").toList.splitOn ':' := by
        rw [haddress]
        simp
      rw [(List.cons.inj htail).1] at hc
      rw [h'.address c (mem_of_mem_splitOn hmem hc)] at hchar
      cases hchar

theorem alpn_plain (h : Plain normal) (h' : Plain normal')
    (hjoined : (String.intercalate "," normal.alpn).toList =
      (String.intercalate "," normal'.alpn).toList) :
    alpn_fields normal = alpn_fields normal' := by
  have hcomma : ",".toList = [','] := rfl
  rw [toList_intercalate_char hcomma, toList_intercalate_char hcomma] at hjoined
  have hparts : ∀ {endpoint : DnsEndpoint}, Plain endpoint → ∀ part ∈ alpn_fields endpoint,
      part ≠ [] ∧ ',' ∉ part := by
    intro endpoint hplain part hpart
    obtain ⟨protocol, hprotocol, heq⟩ := List.mem_map.mp hpart
    obtain ⟨hne, _, hno⟩ := hplain.alpn protocol hprotocol
    rw [← heq]
    exact ⟨fun hnil => hne (String.toList_eq_nil_iff.mp hnil), hno⟩
  have hsplit : ∀ {endpoint : DnsEndpoint}, Plain endpoint → alpn_fields endpoint =
      ((joined ',' (alpn_fields endpoint)).splitOn ',').filter (fun part => part ≠ []) := by
    intro endpoint hplain
    by_cases hempty : alpn_fields endpoint = []
    · rw [hempty]
      rfl
    · unfold joined
      rw [List.splitOn_intercalate ',' (fun part hpart => (hparts hplain part hpart).2) hempty]
      symm
      refine List.filter_eq_self.mpr ?_
      intro part hpart
      exact decide_eq_true (hparts hplain part hpart).1
  rw [hsplit h, hsplit h']
  unfold alpn_fields
  rw [hjoined]

/-- Plain endpoints are cut alike. -/
theorem cutAlike_of_plain (h : Plain normal) (h' : Plain normal') : CutAlike normal normal' := by
  intro hpieces
  rw [pieces_plain h, pieces_plain h'] at hpieces
  obtain ⟨haddress, hport, htransport, hlater⟩ :
      (normal.ip.getD "").toList.splitOn ':' = (normal'.ip.getD "").toList.splitOn ':' ∧
        (toString (normal.port.getD 0)).toList = (toString (normal'.port.getD 0)).toList ∧
        normal.transport.toList = normal'.transport.toList ∧
        later_pieces normal = later_pieces normal' := by
    rcases List.append_eq_append_iff.mp hpieces with ⟨extra, haddress, hrest⟩ |
      ⟨extra, haddress, hrest⟩
    · have hnone := no_longer_address h h' haddress hrest
      rw [hnone] at haddress hrest
      rw [List.append_nil] at haddress
      simp only [List.nil_append, List.cons.injEq] at hrest
      exact ⟨haddress.symm, hrest⟩
    · have hnone := no_longer_address h' h haddress hrest
      rw [hnone] at haddress hrest
      rw [List.append_nil] at haddress
      simp only [List.nil_append, List.cons.injEq] at hrest
      exact ⟨haddress, hrest.1.symm, hrest.2.1.symm, hrest.2.2.symm⟩
  unfold later_pieces at hlater
  obtain ⟨hname, htail⟩ := List.cons.inj hlater
  obtain ⟨huri, halpn⟩ := List.append_inj' htail rfl
  have halpn := (List.cons.inj halpn).1
  have hsame : ∀ {part part' : List Char}, part.splitOn ':' = part'.splitOn ':' →
      part = part' := by
    intro part part' heq
    rw [← @List.intercalate_splitOn Char part _ _ ':', heq, List.intercalate_splitOn]
  unfold key_fields
  rw [hsame haddress, hport, htransport, hname, hsame huri, halpn, alpn_plain h h' halpn]
  exact ⟨rfl, rfl⟩

end Plain

/-! ## §3. The lookup. -/

section Lookup

variable {P : Platform} {s : EvidenceStore}

/-- Every key in the lookup is one of an endpoint of the identity it leads to. -/
def LookupSound (P : Platform) (s : EvidenceStore) : Prop :=
  ∀ key id, s.ri_v2_endpoint_lookup.get? key = some id →
    ∃ row, s.ri_v2_identities.get? id = some row ∧
      ∃ endpoint ∈ row.identity_json.endpoints, P.cache_key endpoint = .ok key

/-- Raising the generation touches neither table. -/
theorem lookupSound_bump (h : LookupSound P s) : LookupSound P s.bump_generation.2 := by
  rcases s.bump_generation_cases with ⟨_, heq⟩ | ⟨_, heq⟩
  · rw [heq]
    exact h
  · rw [heq]
    exact h

/-- A change of a row that keeps its identity. -/
theorem lookupSound_update (h : LookupSound P s) (id : String) (f : IdentityRow → IdentityRow)
    (hf : ∀ row, (f row).identity_json = row.identity_json) :
    LookupSound P { s with ri_v2_identities := s.ri_v2_identities.update id f } := by
  intro key owner howner
  obtain ⟨row, hrow, endpoint, hmem, hkey⟩ := h key owner howner
  have hget := RowTable.get?_update s.ri_v2_identities id owner f
  rw [hrow, Option.map_some] at hget
  by_cases heq : owner = id
  · rw [if_pos heq] at hget
    refine ⟨f row, hget, endpoint, ?_, hkey⟩
    rw [hf row]
    exact hmem
  · rw [if_neg heq] at hget
    exact ⟨row, hget, endpoint, hmem, hkey⟩

theorem lookupSound_delete (h : LookupSound P s) (id : String) :
    LookupSound P (s.delete_endpoints id) := by
  intro key owner howner
  exact h key owner (EvidenceStore.get?_delete_endpoints.mp howner).1

theorem put_identity_lookup (identity : DnsServerIdentityV2) (registry : RegistryReferenceV2)
    (h : LookupSound P s) : LookupSound P (s.put_identity P identity registry).2 := by
  unfold EvidenceStore.put_identity
  rcases transaction_snd (EvidenceStore.put_identity_body P identity registry) s with
    ⟨_, s', hrun, hs'⟩ | ⟨_, _, hs'⟩
  · rw [hs']
    unfold EvidenceStore.put_identity_body at hrun
    obtain ⟨_, _, hrun⟩ := bind_eq_ok.mp hrun
    obtain ⟨row, hrow, hrun⟩ := bind_eq_ok.mp hrun
    obtain ⟨_, _, hrun⟩ := bind_eq_ok.mp hrun
    obtain ⟨unchanged, _, hrun⟩ := bind_eq_ok.mp hrun
    cases unchanged with
    | true =>
      obtain ⟨_, hs'⟩ := Prod.mk.inj (Except.ok.inj hrun)
      rw [← hs']
      exact lookupSound_update h _ _ (fun _ => rfl)
    | false =>
      obtain ⟨s₁, hinsert, hrun⟩ := bind_eq_ok.mp hrun
      obtain ⟨_, hs'⟩ := Prod.mk.inj (Except.ok.inj hrun)
      rw [← hs']
      apply lookupSound_bump
      unfold EvidenceStore.identity_row at hrow
      obtain ⟨_, _, hrow⟩ := bind_eq_ok.mp hrow
      obtain ⟨_, _, hrow⟩ := bind_eq_ok.mp hrow
      have hrow := Except.ok.inj hrow
      have hidentities := EvidenceStore.insert_endpoints_identities hinsert
      intro key owner howner
      rw [EvidenceStore.insert_endpoints_lookup hinsert] at howner
      by_cases hnew : key ∈ EvidenceStore.endpoint_keys P identity.endpoints
      · -- a key that was just inserted leads to the identity of the call
        rw [if_pos hnew] at howner
        obtain ⟨endpoint, hmem, hkey⟩ := EvidenceStore.mem_endpoint_keys.mp hnew
        refine ⟨row, ?_, endpoint, ?_, hkey⟩
        · rw [hidentities, ← Option.some.inj howner]
          exact (RowTable.get?_upsert _ _ _ _).trans (if_pos rfl)
        · rw [← hrow]
          exact hmem
      · -- another key leads where it led
        rw [if_neg hnew] at howner
        obtain ⟨hold, hother⟩ := EvidenceStore.get?_delete_endpoints.mp howner
        obtain ⟨found, hfound, hendpoint⟩ := h key owner hold
        refine ⟨found, ?_, hendpoint⟩
        rw [hidentities]
        exact ((RowTable.get?_upsert _ _ _ _).trans (if_neg hother)).trans hfound
  · rw [hs']
    exact h

theorem apply_registry_snapshot_lookup (records : List EvidenceStore.IdentityRecord)
    (success_epoch : Int) (h : LookupSound P s) :
    LookupSound P (s.apply_registry_snapshot P records success_epoch).2 := by
  cases hrun : s.apply_registry_snapshot P records success_epoch with
  | mk result s' =>
    cases result with
    | error e =>
      rw [transaction_error hrun]
      exact h
    | ok generation =>
      obtain ⟨_, record₀, _, _, _, hids, _, _, acc, acc', hremove, hwrite, hfinish⟩ :=
        EvidenceStore.apply_registry_snapshot_iff.mp hrun
      have happlied := EvidenceStore.applied_of_loops hids hremove hwrite
      have hs' : s' = (EvidenceStore.finish_snapshot record₀.2 success_epoch acc').2 :=
        congrArg Prod.snd hfinish
      have htables := EvidenceStore.finish_snapshot_tables record₀.2 success_epoch acc'
      intro key owner howner
      have howner : s'.ri_v2_endpoint_lookup.get? key = some owner := howner
      rw [hs', htables.2] at howner
      rcases (happlied.lookup key owner).mp howner with ⟨record, hrecord, hid, hkey⟩ |
        ⟨_, hnot, hold⟩
      · refine ⟨EvidenceStore.written_row record, ?_, EvidenceStore.mem_endpoint_keys.mp hkey⟩
        show s'.ri_v2_identities.get? owner = _
        rw [hs', htables.1, ← hid]
        exact happlied.listed record hrecord
      · -- a key of nobody's was not in the lookup before
        obtain ⟨row, hrow, _⟩ := h key owner hold
        exact absurd (EvidenceStore.mem_identity_ids.mpr ⟨row, hrow⟩) hnot

theorem quarantine_identity_lookup (server_id status : String) (h : LookupSound P s) :
    LookupSound P (s.quarantine_identity server_id status).2 := by
  unfold EvidenceStore.quarantine_identity
  cases s.get_identity server_id with
  | error e => exact h
  | ok found =>
    cases found with
    | none => exact h
    | some record =>
      show LookupSound P (s.quarantine_record record status).2
      unfold EvidenceStore.quarantine_record
      by_cases hsame : record.2.resolver_status = status
      · rw [if_pos hsame]
        exact h
      · rw [if_neg hsame]
        apply lookupSound_bump
        refine lookupSound_delete (lookupSound_update h _ _ ?_) record.1.server_id
        intro row
        rfl

theorem run_lookup (call : IdentityCall) (h : LookupSound P s) : LookupSound P (call.run P s) := by
  cases call with
  | put_identity identity registry => exact put_identity_lookup identity registry h
  | apply_registry_snapshot records success_epoch =>
    exact apply_registry_snapshot_lookup records success_epoch h
  | quarantine_identity server_id status => exact quarantine_identity_lookup server_id status h

theorem run_serial_lookup (calls : List IdentityCall) (h : LookupSound P s) :
    LookupSound P (run_serial P calls s) := by
  induction calls using List.reverseRecOn with
  | nil => exact h
  | append_singleton calls call ih =>
    rw [run_serial_append]
    exact run_lookup call ih

/-- An identity looked up has an endpoint with the cache key asked for. -/
theorem lookup_bound (h : LookupSound P s) {endpoint : DnsEndpoint}
    {identity : DnsServerIdentityV2} {registry : RegistryReferenceV2}
    (hlookup : lookup_identity P s endpoint = .ok (some (identity, registry))) :
    ∃ bound ∈ identity.endpoints, P.cache_key bound = P.cache_key endpoint := by
  unfold lookup_identity EvidenceStore.lookup_server_id at hlookup
  simp only [bind_eq_ok, mapError_eq_ok] at hlookup
  obtain ⟨owner, ⟨key, hkey, howner⟩, hlookup⟩ := hlookup
  cases owner with
  | none => cases hlookup
  | some id =>
    obtain ⟨row, hrow, bound, hmem, hbound⟩ := h key id (Except.ok.inj howner)
    have hget : s.get_identity id = .ok (some (identity, registry)) := hlookup
    unfold EvidenceStore.get_identity at hget
    rw [hrow] at hget
    obtain ⟨_, _, hget⟩ := bind_eq_ok.mp hget
    have hidentity := (Prod.mk.inj (Option.some.inj (Except.ok.inj hget))).1
    rw [← hidentity]
    exact ⟨bound, hmem, hbound.trans hkey.symm⟩

/-- The two keys identify the same endpoints exactly among those that are cut alike, so any two
plain ones; and an identity is given out for its own endpoints if these are cut like the one
asked for. -/
theorem keys_agree_iff (hto_vec : Function.Injective P.to_vec) (laws : PrintLaws P)
    {a b normal normal' : DnsEndpoint} (ha : P.normalized a = .ok normal)
    (hb : P.normalized b = .ok normal')
    (hcollision : P.sha256_hex ( registry_text P normal) = P.sha256_hex ( registry_text P normal') →
      registry_text P normal = registry_text P normal') :
    ((P.cache_key a = P.cache_key b ↔ P.registry_key a = P.registry_key b) ↔
        CutAlike normal normal') ∧
      (Plain normal → Plain normal' →
        (P.cache_key a = P.cache_key b ↔ P.registry_key a = P.registry_key b)) ∧
      ∀ (calls : List IdentityCall) (identity : DnsServerIdentityV2)
        (registry : RegistryReferenceV2),
        lookup_identity P (run_serial P calls .open_) b = .ok (some (identity, registry)) →
          (∀ bound ∈ identity.endpoints, ∀ other, P.normalized bound = .ok other →
            CutAlike other normal') →
          ∃ bound ∈ identity.endpoints, P.registry_key bound = P.registry_key b := by
  have hkeys := cache_key_iff_registry_key hto_vec laws ha hb hcollision
  refine ⟨hkeys, fun h h' => hkeys.mpr (cutAlike_of_plain h h'), ?_⟩
  intro calls identity registry hlookup hcut
  have hopen : LookupSound P .open_ := by
    intro key id howner
    cases howner
  obtain ⟨bound, hmem, hcache⟩ := lookup_bound (run_serial_lookup calls hopen) hlookup
  -- the bound endpoint has a key, so it has a normal form
  obtain ⟨other, hother⟩ : ∃ other, P.normalized bound = .ok other := by
    rw [cache_key_eq hb] at hcache
    obtain ⟨other, hother, _⟩ := bind_eq_ok.mp hcache
    exact ⟨other, hother⟩
  refine ⟨bound, hmem, ?_⟩
  have hsame := unnamed_of_cutAlike laws hother hb (hcut bound hmem other hother) hcache
  rw [registry_key_eq hother, registry_key_eq hb]
  have hvalue : other.key_value = normal'.key_value := congrArg DnsEndpoint.to_value hsame
  unfold registry_text
  rw [hvalue]

end Lookup

/-! ## §4. Recorded keys. -/

open Agent

/-- A resolver over TLS, with its protocols. -/
def tls_endpoint (alpn : List String) : DnsEndpoint :=
  ⟨none, none, some 853, "dot", none, some "resolver.example", alpn⟩

/-- The digests of `tls_endpoint` with one protocol "a,b" and with two. -/
def tls_recording : Recording where
  digests := [
    ("endpoint-v2:\x7b\"alpn\":[\"a,b\"],\"port\":853,\"server_name\":\"resolver.example\",\"transport\":\"dot\"\x7d",
      "0xf75c9cc0120eb0137a088ca3eb76e7cf66ddf8cbf80bd0a62858eb0b3879eda4"),
    ("endpoint-v2:\x7b\"alpn\":[\"a\",\"b\"],\"port\":853,\"server_name\":\"resolver.example\",\"transport\":\"dot\"\x7d",
      "0xfe2b8d74bb393cdca97d1d5eb2a88c1ad88b3d5e4a312e8b34b2b65e6c178054")]
  keys := []
  signatures := []

/-- One protocol with a comma has the cache key of two, and another registry key. -/
theorem comma_keys_differ :
    ¬ ∀ a b normal normal', tls_recording.platform.normalized a = .ok normal →
      tls_recording.platform.normalized b = .ok normal' →
        (tls_recording.platform.cache_key a = tls_recording.platform.cache_key b ↔
          tls_recording.platform.registry_key a = tls_recording.platform.registry_key b) := by
  intro h
  have hkeys := h (tls_endpoint ["a,b"]) (tls_endpoint ["a", "b"]) (tls_endpoint ["a,b"])
    (tls_endpoint ["a", "b"]) (by decide +kernel) (by decide +kernel)
  have hcache : tls_recording.platform.cache_key (tls_endpoint ["a,b"]) =
      tls_recording.platform.cache_key (tls_endpoint ["a", "b"]) := by
    decide +kernel
  have hregistry : tls_recording.platform.registry_key (tls_endpoint ["a,b"]) ≠
      tls_recording.platform.registry_key (tls_endpoint ["a", "b"]) := by
    decide +kernel
  exact hregistry (hkeys.mp hcache)

/-- The lab's functions, which print no empty text. -/
def lab_platform : Platform :=
  { registry_recording.platform with
    parse_ip := fun text => if text.isEmpty then none else some text
    canonical_url := fun text => if text.isEmpty then none else some text }

theorem lab_print_laws : PrintLaws lab_platform := by
  have hprint : ∀ text printed : String,
      (if text.isEmpty then none else some text) = some printed → printed ≠ "" := by
    intro text printed h
    by_cases hempty : text.isEmpty = true
    · rw [if_pos hempty] at h
      cases h
    · rw [if_neg hempty] at h
      rw [← Option.some.inj h]
      simpa using hempty
  exact ⟨hprint, hprint⟩

/-- The endpoint of `resolver_a` under a name and written otherwise. -/
def named_endpoint : DnsEndpoint := ⟨some "x", some " 192.0.2.1", none, "UDP", none, none, []⟩

theorem named_endpoint_agrees :
    (lab_platform.cache_key named_endpoint = lab_platform.cache_key (lab_endpoint "192.0.2.1") ↔
      lab_platform.registry_key named_endpoint =
        lab_platform.registry_key (lab_endpoint "192.0.2.1")) ∧
      ∃ bound ∈ resolver_a.1.endpoints, lab_platform.registry_key bound =
        lab_platform.registry_key (lab_endpoint "192.0.2.1") := by
  have hnamed : lab_platform.normalized named_endpoint =
      .ok { lab_endpoint "192.0.2.1" with endpoint_id := some "x" } := by
    decide +kernel
  have hlab : lab_platform.normalized (lab_endpoint "192.0.2.1") =
      .ok (lab_endpoint "192.0.2.1") := by
    decide +kernel
  have hlookup : lookup_identity lab_platform
      (run_serial lab_platform [.apply_registry_snapshot [resolver_a] 1750000000] .open_)
        (lab_endpoint "192.0.2.1") = .ok (some (resolver_a.1, resolver_a.2)) := by
    decide +kernel
  have hagree := keys_agree_iff Json.to_vec_injective lab_print_laws hnamed hlab (fun _ => rfl)
  have hplain : Plain (lab_endpoint "192.0.2.1") :=
    ⟨List.all_eq_true.mp (by decide), by decide, ⟨'u', by decide, by decide⟩, by decide, by decide⟩
  have hnamed_plain : Plain { lab_endpoint "192.0.2.1" with endpoint_id := some "x" } :=
    ⟨hplain.address, hplain.transport, hplain.apart, hplain.server_name, hplain.alpn⟩
  have hkeys := hagree.2.1 hnamed_plain hplain
  refine ⟨hkeys, hagree.2.2 _ _ _ hlookup ?_⟩
  intro bound hbound other hother
  have hsame : bound = lab_endpoint "192.0.2.1" := by
    have hlisted : bound ∈ [lab_endpoint "192.0.2.1"] := hbound
    exact List.mem_singleton.mp hlisted
  rw [hsame, hlab] at hother
  rw [← Except.ok.inj hother]
  exact fun _ => ⟨rfl, rfl⟩

end ResolverIdentity.Sync
