/-
  ResolverIdentity.Publisher.Normalization: normalizing an endpoint twice.

  A server name loses its white space first and its dots afterwards, so that a name such
  as "a ." keeps a blank, which the next normalization takes.  The other fields are
  settled by the first one.

  Main results:
    * `normalized_again`: what normalizing a normalized endpoint gives;
    * `normal_form_iff`: one normalization is enough exactly for the names that do not end
      in white space once their dots are gone.
-/
import ResolverIdentity.Publisher.Endpoints

namespace ResolverIdentity.Publisher

open Library

/-! ## §1. The texts of a normalized endpoint. -/

/-- What the normalizations of texts, addresses and URIs promise. -/
structure FoldLaws (P : Platform) : Prop where
  lower_lower : ∀ text, P.to_lowercase (P.to_lowercase text) = P.to_lowercase text
  lower_trim : ∀ text, P.to_lowercase (trim text) = trim (P.to_lowercase text)
  lower_dots : ∀ text, P.to_lowercase (trim_end_matches text '.') =
    trim_end_matches (P.to_lowercase text) '.'
  /-- White space at an end is there after lower-casing as before. -/
  trim_of_lower : ∀ text, trim (P.to_lowercase text) = P.to_lowercase text → trim text = text
  ip_again : ∀ text address, P.parse_ip text = some address →
    P.parse_ip (trim address) = some address
  url_again : ∀ text url, P.canonical_url text = some url →
    P.canonical_url (trim url) = some url

section Again

variable {P : Platform}

theorem lower_trim_again (laws : FoldLaws P) (text : String) :
    P.to_lowercase (trim (P.to_lowercase (trim text))) = P.to_lowercase (trim text) := by
  rw [laws.lower_trim, laws.lower_lower, laws.lower_trim, trim_trim]

/-- A name is settled exactly if no white space is left where its dots were. -/
theorem normalize_name_again_iff (laws : FoldLaws P) (name : String) :
    P.normalize_name (P.normalize_name name) = P.normalize_name name ↔
      trim (undotted name) = undotted name := by
  have hname : P.normalize_name name = P.to_lowercase (undotted name) := rfl
  have hagain : P.normalize_name (P.normalize_name name) =
      P.to_lowercase (trim_end_matches (trim (undotted name)) '.') := by
    rw [hname]
    unfold Platform.normalize_name
    rw [← laws.lower_trim, ← laws.lower_dots, laws.lower_lower]
  constructor
  · intro h
    -- neither of the two cuts can have shortened the name
    apply laws.trim_of_lower
    apply trim_eq_of_length
    have hcut := (trim_end_matches_sublist (trim (P.to_lowercase (undotted name))) '.').length_le
    rw [← laws.lower_trim, ← laws.lower_dots, ← hagain, h, hname, laws.lower_trim] at hcut
    exact hcut
  · intro h
    rw [hagain, h, hname]
    unfold undotted
    rw [trim_end_matches_again]

theorem verifier_name_again_iff (laws : FoldLaws P) (name : String) :
    (verifier_name P name).bind (verifier_name P) = verifier_name P name ↔
      trim (undotted name) = undotted name := by
  rw [← normalize_name_again_iff laws]
  unfold verifier_name
  by_cases hempty : P.normalize_name name = ""
  · -- an empty name is dropped, and stays empty
    have hagain : P.normalize_name (P.normalize_name name) = P.normalize_name name := by
      rw [normalize_name_again_iff laws]
      apply laws.trim_of_lower
      have hlower : P.to_lowercase (undotted name) = "" := hempty
      rw [hlower]
      decide
    rw [hagain, hempty]
    exact iff_of_true rfl rfl
  · have hsome : ∀ text : String, text ≠ "" →
        (some text).filter (fun name => !name.isEmpty) = some text := by
      intro text hne
      rw [Option.filter_some, if_pos]
      simpa using hne
    rw [hsome _ hempty, Option.bind_some]
    constructor
    · intro h
      by_cases hagain : P.normalize_name (P.normalize_name name) = ""
      · rw [hagain] at h
        cases h
      · rw [hsome _ hagain] at h
        exact Option.some.inj h
    · intro h
      rw [h, hsome _ hempty]

/-- The list of protocols is sorted, without repetitions, and of lower-cased texts. -/
theorem verifier_alpn_again (laws : FoldLaws P) (alpn : List String) :
    verifier_alpn P (verifier_alpn P alpn) = verifier_alpn P alpn := by
  have hascending : (verifier_alpn P alpn).Pairwise (· < ·) :=
    dedup_ascending (List.pairwise_insertionSort (fun a b : String => a ≤ b) _)
  have hitem : ∀ item ∈ verifier_alpn P alpn,
      P.to_lowercase (trim item) = item ∧ (!item.isEmpty) = true := by
    intro item hitem
    have hmem := (dedup_sublist _).subset hitem
    rw [List.mem_insertionSort] at hmem
    obtain ⟨hmap, hkept⟩ := List.mem_filter.mp hmem
    obtain ⟨text, _, heq⟩ := List.mem_map.mp hmap
    rw [← heq]
    exact ⟨lower_trim_again laws text, heq ▸ hkept⟩
  have hmap : (verifier_alpn P alpn).map (fun value => P.to_lowercase (trim value)) =
      verifier_alpn P alpn := by
    rw [List.map_congr_left (fun item h => (hitem item h).1), List.map_id']
  show dedup ((((verifier_alpn P alpn).map (fun value => P.to_lowercase (trim value))).filter
    (fun value => !value.isEmpty)).insertionSort (fun a b => a ≤ b)) = verifier_alpn P alpn
  rw [hmap, List.filter_eq_self.mpr (fun item h => (hitem item h).2),
    (hascending.imp le_of_lt).insertionSort_eq, dedup_of_ascending hascending]

/-! ## §2. Normal forms. -/

/-- A text that a parser printed is parsed to itself. -/
theorem convert_again {parse : String → Option String} {e : EvidenceValidationError}
    (hparse : ∀ text printed, parse text = some printed → parse (trim printed) = some printed)
    {value out : Option String}
    (h : Platform.convert value (fun text => okOr (parse (trim text)) e) = .ok out) :
    Platform.convert out (fun text => okOr (parse (trim text)) e) = .ok out := by
  rcases convert_eq_ok.mp h with ⟨_, hnone⟩ | ⟨text, printed, _, hprinted, hsome⟩
  · exact convert_eq_ok.mpr (Or.inl ⟨hnone, hnone⟩)
  · refine convert_eq_ok.mpr (Or.inr ⟨printed, printed, hsome, ?_, hsome⟩)
    exact okOr_eq_ok.mpr (hparse _ _ (okOr_eq_ok.mp hprinted))

/-- A normalized endpoint is its own normal form exactly if its name is settled. -/
theorem normalized_again_iff (laws : FoldLaws P) {endpoint normal : DnsEndpoint}
    (h : P.normalized endpoint = .ok normal) :
    P.normalized normal = .ok normal ↔
      ∀ name, endpoint.server_name = some name → trim (undotted name) = undotted name := by
  obtain ⟨ip, uri, hip, huri, hlocated, hnormal⟩ := normalized_eq_ok.mp h
  have hagain : verified P normal ip uri =
      { normal with server_name := normal.server_name.bind (verifier_name P) } := by
    unfold verified
    rw [← hnormal]
    unfold verified
    simp only [Option.getD_some, lower_trim_again laws, verifier_alpn_again laws]
  have hname : normal.server_name = endpoint.server_name.bind (verifier_name P) := by
    rw [← hnormal]
    rfl
  have hiff : normal.server_name.bind (verifier_name P) = normal.server_name ↔
      ∀ name, endpoint.server_name = some name → trim (undotted name) = undotted name := by
    rw [hname]
    cases endpoint.server_name with
    | none => simp
    | some name => simp [verifier_name_again_iff laws]
  rw [← hiff]
  constructor
  · intro hsame
    obtain ⟨ip', uri', _, _, _, heq⟩ := normalized_eq_ok.mp hsame
    exact congrArg DnsEndpoint.server_name heq
  · intro hsettled
    refine normalized_eq_ok.mpr ⟨ip, uri, ?_, ?_, ?_, ?_⟩
    · rw [← hnormal]
      exact convert_again laws.ip_again hip
    · rw [← hnormal]
      exact convert_again laws.url_again huri
    · rw [hsettled, hname]
      exact hlocated
    · rw [hagain, hsettled]

/-- Every bound field of an endpoint is observed at that endpoint. -/
theorem matches_self {endpoint normal : DnsEndpoint} (h : P.normalized endpoint = .ok normal) :
    P.endpoint_matches endpoint endpoint = .ok true := by
  unfold Platform.endpoint_matches
  rw [h, ok_bind, ok_bind]
  simp

/-- The normal form stands for the endpoint, wherever it is looked at, exactly if the name
does not end in white space once its dots are gone. -/
theorem normal_form_iff (laws : FoldLaws P) {endpoint normal : DnsEndpoint}
    (h : P.normalized endpoint = .ok normal) :
    (P.normalized normal = .ok normal ∧
      (∀ other, P.endpoint_matches normal other = P.endpoint_matches endpoint other) ∧
      (∀ other, P.endpoint_matches other normal = P.endpoint_matches other endpoint) ∧
      P.cache_key normal = P.cache_key endpoint ∧
      P.registry_key normal = P.registry_key endpoint ∧
      P.endpoint_matches endpoint endpoint = .ok true) ↔
    ∀ name, endpoint.server_name = some name →
      trim (trim_end_matches (trim name) '.') = trim_end_matches (trim name) '.' := by
  have hiff := normalized_again_iff laws h
  constructor
  · intro hall
    exact hiff.mp hall.1
  · intro hname
    have hagain := hiff.mpr hname
    refine ⟨hagain, ?_, ?_, ?_, ?_, matches_self h⟩
    · intro other
      unfold Platform.endpoint_matches
      rw [hagain, h]
    · intro other
      unfold Platform.endpoint_matches
      rw [hagain, h]
    · unfold Platform.cache_key
      rw [hagain, h]
    · unfold Platform.registry_key
      rw [hagain, h]

end Again

/-! ## §3. Recorded endpoints. -/

theorem folding_laws : FoldLaws endpoint_platform where
  lower_lower := recorded_laws.lower_lower
  lower_trim := recorded_laws.lower_trim
  lower_dots := recorded_laws.lower_dots
  trim_of_lower := by
    intro text h
    apply trim_eq_of_length
    have hlength := congrArg (fun text => text.toList.length) h
    simp only [← recorded_laws.lower_trim, recorded_lower_toList, List.length_map] at hlength
    exact hlength.ge
  ip_again := by
    intro text address h
    have haddress : address = "192.0.2.53" := by
      by_cases heq : text = "192.0.2.53"
      · have h : some text = some address := by
          simpa [endpoint_platform, heq] using h
        rw [← Option.some.inj h, heq]
      · simp [endpoint_platform, heq] at h
    rw [haddress]
    decide
  url_again := by
    intro text url h
    cases h

/-- A name with a blank before its dot is another name when it is normalized again. -/
theorem dotted_name_moves :
    ¬ ∀ endpoint normal, endpoint_platform.normalized endpoint = .ok normal →
      endpoint_platform.normalized normal = .ok normal ∧
        endpoint_platform.cache_key normal = endpoint_platform.cache_key endpoint := by
  intro h
  have hsecond := (h ⟨none, none, none, "udp", none, some "a .", []⟩
    ⟨none, none, some 53, "udp", none, some "a ", []⟩ (by decide +kernel)).2
  revert hsecond
  decide +kernel

theorem settled_name : endpoint_platform.normalized
      ⟨none, none, some 53, "udp", none, some "resolver.example", []⟩ =
    .ok ⟨none, none, some 53, "udp", none, some "resolver.example", []⟩ :=
  ((@normal_form_iff endpoint_platform folding_laws
    ⟨none, none, none, " UDP", none, some "Resolver.Example.", []⟩ _ (by decide +kernel)).mpr (by
      intro name hname
      rw [← Option.some.inj hname]
      decide +kernel)).1

end ResolverIdentity.Publisher
