/-
  ResolverIdentity.V1.ChainVersions: the high-water mark of a resolver chain.

  `_update_context` of `wrapper/resolver_chain.py` and what it compares with.  One
  string for each first hop holds the versions of the chain recorded last; a new
  chain is compared with it on the resolvers both name, and then takes its place.

  Main results:
    * `parse_chain_versions_iff`: what the string says of resolvers named without `>`;
    * `never_back_iff`: versions never go back in a run exactly when a resolver the
      string does not hold comes with no lower version than it was accepted with;
    * `rejoined_resolver_goes_back`: a resolver that left the chain and came back.
-/
import Mathlib.Data.List.AList
import ResolverIdentity.Library.Machine
import ResolverIdentity.Library.PythonText

namespace ResolverIdentity.V1

open Library

/-! ## §1. Chains and their versions. -/

/-- A signed chain, as far as its versions go. -/
inductive VerificationChain where
  | mk (resolver_id config_version : String) (downstream_chains : List VerificationChain)

/-- Resolver ids with their versions, in the order of the text. -/
abbrev Versions := List (String × String)

mutual

/-- The versions of a chain, parents first. -/
def VerificationChain.versions : VerificationChain → Versions
  | .mk resolver_id config_version downstream_chains =>
    (resolver_id, config_version) :: all_versions downstream_chains

/-- The versions of several chains. -/
def all_versions : List VerificationChain → Versions
  | [] => []
  | chain :: rest => chain.versions ++ all_versions rest

end

/-- A resolver and its version, as text. -/
def version_text (version : String × String) : String :=
  version.1 ++ String.singleton ':' ++ version.2

/-- `">".join(...)` of one `id:version` each. -/
def config_text (versions : Versions) : String :=
  (String.singleton '>').intercalate (versions.map version_text)

mutual

/-- The version text of a chain. -/
def chain_config_version : VerificationChain → String
  | .mk resolver_id config_version downstream_chains =>
    (String.singleton '>').intercalate
      (version_text (resolver_id, config_version) :: chain_config_versions downstream_chains)

/-- The version texts of several chains. -/
def chain_config_versions : List VerificationChain → List String
  | [] => []
  | chain :: rest => chain_config_version chain :: chain_config_versions rest

end

theorem versions_ne_nil (chain : VerificationChain) : chain.versions ≠ [] := by
  cases chain
  rw [VerificationChain.versions]
  exact List.cons_ne_nil _ _

/-- Joining a text that was joined itself. -/
theorem intercalate_intercalate {s : String} {inner : List String} (hinner : inner ≠ [])
    (rest : List String) :
    s.intercalate (s.intercalate inner :: rest) = s.intercalate (inner ++ rest) := by
  cases rest with
  | nil => rw [String.intercalate_singleton, List.append_nil]
  | cons text rest =>
    rw [String.intercalate_cons_of_ne_nil (List.cons_ne_nil _ _),
      String.intercalate_append_of_ne_nil hinner (List.cons_ne_nil _ _)]

mutual

/-- Nested joins are one join, over the chain in its order. -/
theorem chain_config_version_eq : ∀ chain : VerificationChain,
    chain_config_version chain = config_text chain.versions
  | .mk resolver_id config_version downstream_chains => by
    rw [chain_config_version, VerificationChain.versions, config_text, List.map_cons,
      join_chain_config_versions downstream_chains]

theorem join_chain_config_versions : ∀ (chains : List VerificationChain) (first : String),
    (String.singleton '>').intercalate (first :: chain_config_versions chains) =
      (String.singleton '>').intercalate (first :: (all_versions chains).map version_text)
  | [], first => rfl
  | chain :: rest, first => by
    have hne : chain.versions.map version_text ≠ [] :=
      fun hnil => versions_ne_nil chain (List.map_eq_nil_iff.mp hnil)
    have hrest : (String.singleton '>').intercalate
        (chain_config_version chain :: chain_config_versions rest) =
          (String.singleton '>').intercalate ((all_versions (chain :: rest)).map version_text) := by
      rw [join_chain_config_versions rest, chain_config_version_eq chain, config_text,
        intercalate_intercalate hne, all_versions, List.map_append]
    have hall : (all_versions (chain :: rest)).map version_text ≠ [] := by
      rw [all_versions, List.map_append]
      exact fun hnil => hne (List.append_eq_nil_iff.mp hnil).1
    rw [chain_config_versions, String.intercalate_cons_of_ne_nil (List.cons_ne_nil _ _), hrest,
      String.intercalate_cons_of_ne_nil hall]

end

/-! ## §2. Comparing two texts. -/

/-- The dictionary of a text; a later part replaces an earlier one of its id. -/
abbrev VersionMap := AList (fun _ : String => String)

/-- One turn of the loop; a part without a colon is passed over. -/
def add_version (versions : VersionMap) (part : String) : VersionMap :=
  match rsplit_once ':' part with
  | none => versions
  | some (resolver_id, config_version) => versions.insert resolver_id config_version

/-- The versions a text names; a later one replaces an earlier. -/
def parse_chain_versions (value : String) : VersionMap :=
  (split '>' value).foldl add_version ∅

/-- Numbers are compared as numbers; where one is no number, both are text. -/
def lower_version (new_value old_value : String) : Bool :=
  match int_value new_value, int_value old_value with
  | some new, some old => new < old
  | _, _ => new_value < old_value

/-- Some resolver has gone back. -/
def is_config_rollback (previous current : String) : Bool :=
  (parse_chain_versions previous).entries.any (fun entry =>
    match (parse_chain_versions current).lookup entry.1 with
    | none => false
    | some new_value => lower_version new_value entry.2)

/-- Only resolvers of both texts are compared. -/
theorem is_config_rollback_eq_false {previous current : String} :
    is_config_rollback previous current = false ↔ ∀ resolver_id old new,
      (parse_chain_versions previous).lookup resolver_id = some old →
        (parse_chain_versions current).lookup resolver_id = some new →
          lower_version new old = false := by
  unfold is_config_rollback
  rw [List.any_eq_false]
  constructor
  · intro h resolver_id old new hold hnew
    have hentry := h _ (AList.mem_lookup_iff.mp hold)
    rw [hnew] at hentry
    exact eq_false_of_ne_true hentry
  · intro h entry hentry
    have hold : (parse_chain_versions previous).lookup entry.1 = some entry.2 :=
      AList.mem_lookup_iff.mpr hentry
    cases hnew : (parse_chain_versions current).lookup entry.1 with
    | none => exact Bool.false_ne_true
    | some new =>
      show ¬ lower_version new entry.2 = true
      rw [h entry.1 entry.2 new hold hnew]
      exact Bool.false_ne_true

/-! ## §3. What a text says. -/

/-- Versions that are integers. -/
def Integral (versions : Versions) : Prop :=
  ∀ version ∈ versions, (int_value version.2).isSome = true

instance (versions : Versions) : Decidable (Integral versions) :=
  inferInstanceAs (Decidable (∀ version ∈ versions, (int_value version.2).isSome = true))

/-- Resolver ids that do not break the text up. -/
def Plain (versions : Versions) : Prop :=
  ∀ version ∈ versions, '>' ∉ version.1.toList

section Texts

variable {versions : Versions} {version : String × String} {resolver_id config_version : String}

theorem rsplit_version_text (h : (int_value version.2).isSome = true) :
    rsplit_once ':' (version_text version) = some version := by
  obtain ⟨n, hn⟩ := Option.isSome_iff_exists.mp h
  exact rsplit_once_append (separator_of_int_value hn).1

theorem find_reverse_of_nodup (honce : (versions.map Prod.fst).Nodup)
    (hmem : (resolver_id, config_version) ∈ versions) :
    versions.reverse.find? (fun version => version.1 = resolver_id) =
      some (resolver_id, config_version) := by
  have hsome : (versions.reverse.find? (fun version => version.1 = resolver_id)).isSome = true :=
    List.find?_isSome.mpr ⟨_, List.mem_reverse.mpr hmem, by simp⟩
  obtain ⟨found, hfound⟩ := Option.isSome_iff_exists.mp hsome
  have hid : found.1 = resolver_id :=
    of_decide_eq_true (List.find?_some (p := fun version : String × String =>
      version.1 = resolver_id) hfound)
  have hfound_mem := List.mem_reverse.mp (List.mem_of_find?_eq_some hfound)
  rw [hfound, List.inj_on_of_nodup_map honce hfound_mem hmem hid]

theorem split_config_text (hne : versions ≠ []) (hplain : Plain versions)
    (hint : Integral versions) :
    split '>' (config_text versions) = versions.map version_text := by
  refine split_join (fun hnil => hne (List.map_eq_nil_iff.mp hnil)) ?_
  intro part hpart
  obtain ⟨version, hversion, heq⟩ := List.mem_map.mp hpart
  obtain ⟨n, hn⟩ := Option.isSome_iff_exists.mp (hint version hversion)
  rw [← heq, version_text, String.toList_append, String.toList_append, String.toList_singleton,
    List.mem_append, List.mem_append, List.mem_singleton]
  intro hmem
  rcases hmem with (hid | hcolon) | hversion_text
  · exact hplain version hversion hid
  · exact absurd hcolon (by decide)
  · exact (separator_of_int_value hn).2 hversion_text

/-- The dictionary filled from a list: the last version of a resolver stays. -/
theorem lookup_foldl_add_version {map : VersionMap} (hint : Integral versions) :
    ((versions.map version_text).foldl add_version map).lookup resolver_id =
      ((versions.reverse.find? (fun version => version.1 = resolver_id)).map Prod.snd).or
        (map.lookup resolver_id) := by
  induction versions generalizing map with
  | nil => rfl
  | cons version rest ih =>
    have hrest : Integral rest := fun other hother => hint other (List.mem_cons_of_mem _ hother)
    have hadd : add_version map (version_text version) = map.insert version.1 version.2 := by
      unfold add_version
      rw [rsplit_version_text (hint version List.mem_cons_self)]
    rw [List.map_cons, List.foldl_cons, ih hrest, hadd, List.reverse_cons, List.find?_append]
    cases hfind : rest.reverse.find? (fun version => version.1 = resolver_id) with
    | some later => rfl
    | none =>
      by_cases hid : version.1 = resolver_id
      · rw [← hid, AList.lookup_insert, List.find?_singleton, if_pos (decide_eq_true rfl)]
        rfl
      · rw [AList.lookup_insert_ne (fun heq => hid heq.symm), List.find?_singleton,
          if_neg (by simpa using hid)]
        rfl

/-- The text of a chain says of each resolver what the chain says of it last. -/
theorem parse_chain_versions_iff (hne : versions ≠ []) (hplain : Plain versions)
    (hint : Integral versions) :
    (parse_chain_versions (config_text versions)).lookup resolver_id =
      (versions.reverse.find? (fun version => version.1 = resolver_id)).map Prod.snd := by
  unfold parse_chain_versions
  rw [split_config_text hne hplain hint, lookup_foldl_add_version hint, AList.lookup_empty,
    Option.or_none]

end Texts

/-! ## §4. The provider. -/

/-- What discovery found: the identities of a walk, or one signed chain. -/
inductive Discovered where
  | identities (first : String × String) (rest : Versions)
  | chain (chain : VerificationChain)

/-- The versions that were discovered. -/
def Discovered.versions : Discovered → Versions
  | .identities first rest => first :: rest
  | .chain signed => signed.versions

/-- The version text that `_record_context` and `_record_context_from_chain` make. -/
def Discovered.config_version : Discovered → String
  | .identities first rest => config_text (first :: rest)
  | .chain signed => chain_config_version signed

theorem Discovered.config_version_eq (discovered : Discovered) :
    discovered.config_version = config_text discovered.versions := by
  cases discovered with
  | identities first rest => rfl
  | chain signed => exact chain_config_version_eq signed

theorem Discovered.versions_ne_nil (discovered : Discovered) : discovered.versions ≠ [] := by
  cases discovered with
  | identities first rest => exact List.cons_ne_nil _ _
  | chain signed => exact V1.versions_ne_nil signed

variable {Endpoint : Type}

/-- What was observed of one resolver's chain. -/
structure ResolverChainContext (Endpoint : Type) where
  observed_resolvers : List Endpoint
  config_version : String

/-- The provider's own fields, and the rows of `runtime_state` it writes. -/
structure Wrapper (Endpoint : Type) where
  context_cache : AList (fun _ : String => ResolverChainContext Endpoint)
  invalidated_endpoints : List Endpoint
  runtime_state : AList (fun _ : String => String)

/-- A wrapper started over an empty database. -/
def Wrapper.new : Wrapper Endpoint := ⟨∅, [], ∅⟩

/-- Where the highest version is kept. -/
def state_key (key : String) : String := "agent_config_high_water:" ++ key

namespace Wrapper

variable (w : Wrapper Endpoint) (key : String)

/-- What a new context is compared with. -/
def previous_version : Option String :=
  match w.context_cache.lookup key with
  | some previous => some previous.config_version
  | none => w.runtime_state.lookup (state_key key)

/-- An empty text counts as none. -/
def rolls_back (config_version : String) : Bool :=
  (w.previous_version key).any (fun previous =>
    previous != "" && is_config_rollback previous config_version)

/-- The context goes into the cache and its text into the database; the resolvers of the
context it replaces are noted when their versions differ. -/
def record (context : ResolverChainContext Endpoint) : Wrapper Endpoint where
  context_cache := w.context_cache.insert key context
  invalidated_endpoints := w.invalidated_endpoints ++
    match w.context_cache.lookup key with
    | some previous =>
      if previous.config_version = context.config_version then [] else previous.observed_resolvers
    | none => []
  runtime_state := w.runtime_state.insert (state_key key) context.config_version

/-- `_update_context`; the flag says whether the context was accepted. -/
def update_context (context : ResolverChainContext Endpoint) : Bool × Wrapper Endpoint :=
  if w.rolls_back key context.config_version then (false, w) else (true, w.record key context)

/-- A new process over the same database. -/
def restart : Wrapper Endpoint := { Wrapper.new with runtime_state := w.runtime_state }

end Wrapper

/-! ## §5. Runs. -/

/-- A context for the first hop `key`, its versions integers. -/
structure Observation (Endpoint : Type) where
  key : String
  discovered : Discovered
  observed_resolvers : List Endpoint
  integral : Integral discovered.versions

/-- The context of an observation. -/
def Observation.context (observation : Observation Endpoint) : ResolverChainContext Endpoint where
  observed_resolvers := observation.observed_resolvers
  config_version := observation.discovered.config_version

/-- An observation, or a restart of the wrapper. -/
inductive Input (Endpoint : Type) where
  | observe (observation : Observation Endpoint)
  | restart

/-- A wrapper and the contexts it has accepted, oldest first. -/
structure History (Endpoint : Type) where
  wrapper : Wrapper Endpoint
  accepted : List (Observation Endpoint)

/-- One more input. -/
def History.take (h : History Endpoint) : Input Endpoint → History Endpoint
  | .observe observation =>
    let updated := h.wrapper.update_context observation.key observation.context
    ⟨updated.2, if updated.1 then h.accepted ++ [observation] else h.accepted⟩
  | .restart => ⟨h.wrapper.restart, h.accepted⟩

/-- Contexts and restarts in any order, for any first hops. -/
def provider : Machine (History Endpoint) (Input Endpoint) where
  init := ⟨.new, []⟩
  step h input := some (h.take input)

/-- No resolver of both has a lower version in the later list. -/
def NotBelow (earlier later : Versions) : Prop :=
  ∀ resolver_id old new, (resolver_id, old) ∈ earlier → (resolver_id, new) ∈ later →
    ∀ m n, int_value old = some m → int_value new = some n → m ≤ n

/-- The versions accepted for a first hop never go back. -/
def NeverBack (accepted : List (Observation Endpoint)) : Prop :=
  accepted.Pairwise (fun earlier later => earlier.key = later.key →
    NotBelow earlier.discovered.versions later.discovered.versions)

theorem pairwise_of_never_back {accepted : List (Observation Endpoint)}
    (h : NeverBack accepted) :
    (accepted.map (fun observation =>
        (observation.key, observation.discovered.versions))).Pairwise
      (fun earlier later => earlier.1 = later.1 → NotBelow earlier.2 later.2) :=
  List.pairwise_map.mpr h

/-- The context accepted last for a first hop. -/
def History.latest (h : History Endpoint) (key : String) : Option (Observation Endpoint) :=
  h.accepted.reverse.find? (fun observation => observation.key = key)

/-- The text of these versions holds the one version they have of the resolver. -/
def Holds (versions : Versions) (resolver_id version : String) : Prop :=
  (parse_chain_versions (config_text versions)).lookup resolver_id = some version ∧
    (resolver_id, version) ∈ versions ∧ ∀ other, (resolver_id, other) ∈ versions → other = version

/-- A version of the context that is compared with the version recorded last. -/
def Compared (h : History Endpoint) (observation : Observation Endpoint)
    (resolver_id version : String) : Prop :=
  ∃ last, h.latest observation.key = some last ∧
    (∃ recorded, Holds last.discovered.versions resolver_id recorded) ∧
    (parse_chain_versions observation.context.config_version).lookup resolver_id = some version

/-- A resolver that the comparison misses comes back with no lower version than it
was accepted with. -/
def ReturnsNotBelow (h : History Endpoint) : Input Endpoint → Prop
  | .observe observation =>
    h.wrapper.rolls_back observation.key observation.context.config_version = false →
      ∀ resolver_id new, (resolver_id, new) ∈ observation.discovered.versions →
        ¬ Compared h observation resolver_id new →
          ∀ earlier ∈ h.accepted, earlier.key = observation.key →
            NotBelow earlier.discovered.versions [(resolver_id, new)]
  | .restart => True

section Runs

variable {h h' : History Endpoint} {observation : Observation Endpoint} {input : Input Endpoint}
variable {key resolver_id : String}

/-- The texts of cache and database are those of the context accepted last. -/
structure Recorded (h : History Endpoint) : Prop where
  stored : ∀ key, h.wrapper.runtime_state.lookup (state_key key) =
    (h.latest key).map (fun last => last.context.config_version)
  cached : ∀ key context, h.wrapper.context_cache.lookup key = some context →
    some context.config_version = (h.latest key).map (fun last => last.context.config_version)

theorem state_key_injective : Function.Injective state_key := by
  intro key other heq
  exact String.append_right_inj _ |>.mp heq

theorem latest_snoc : History.latest ⟨w, accepted ++ [observation]⟩ key =
    if observation.key = key then some observation else History.latest ⟨w, accepted⟩ key := by
  unfold History.latest
  show (accepted ++ [observation]).reverse.find? _ = _
  rw [List.reverse_append, List.reverse_singleton, List.singleton_append, List.find?_cons]
  by_cases hkey : observation.key = key
  · rw [if_pos hkey, decide_eq_true hkey]
  · rw [if_neg hkey, decide_eq_false hkey]

theorem Recorded.previous_version_eq (hrecorded : Recorded h) (key : String) :
    h.wrapper.previous_version key =
      (h.latest key).map (fun last => last.context.config_version) := by
  unfold Wrapper.previous_version
  cases hcache : h.wrapper.context_cache.lookup key with
  | none => exact hrecorded.stored key
  | some context => exact hrecorded.cached key context hcache

/-- A refused context changes nothing. -/
theorem take_refused
    (h_back : h.wrapper.rolls_back observation.key observation.context.config_version = true) :
    h.take (.observe observation) = h := by
  unfold History.take Wrapper.update_context
  simp only [if_pos h_back]
  rfl

theorem take_accepted
    (h_passed : h.wrapper.rolls_back observation.key observation.context.config_version = false) :
    h.take (.observe observation) =
      ⟨h.wrapper.record observation.key observation.context, h.accepted ++ [observation]⟩ := by
  unfold History.take Wrapper.update_context
  simp only [h_passed, Bool.false_eq_true, if_false, if_true]

theorem Recorded.take (hrecorded : Recorded h) : Recorded (h.take input) := by
  cases input with
  | restart =>
    constructor
    · exact hrecorded.stored
    · intro key context hcache
      cases hcache
  | observe observation =>
    cases hback : h.wrapper.rolls_back observation.key observation.context.config_version with
    | true =>
      rw [take_refused hback]
      exact hrecorded
    | false =>
      rw [take_accepted hback]
      constructor
      · intro key
        show (h.wrapper.runtime_state.insert _ _).lookup (state_key key) = _
        rw [latest_snoc]
        by_cases hkey : observation.key = key
        · rw [if_pos hkey, ← hkey, AList.lookup_insert]
          rfl
        · rw [if_neg hkey, AList.lookup_insert_ne
            (fun heq => hkey (state_key_injective heq).symm)]
          exact hrecorded.stored key
      · intro key context hcache
        have hcache : (h.wrapper.context_cache.insert _ _).lookup key = some context := hcache
        rw [latest_snoc]
        by_cases hkey : observation.key = key
        · rw [← hkey, AList.lookup_insert] at hcache
          rw [if_pos hkey, ← Option.some.inj hcache]
          rfl
        · rw [AList.lookup_insert_ne (fun heq => hkey heq.symm)] at hcache
          rw [if_neg hkey]
          exact hrecorded.cached key context hcache

/-- Whatever was accepted for the first hop is the latest context or below it. -/
theorem not_below_latest (hback : NeverBack h.accepted) {last earlier : Observation Endpoint}
    (hlast : h.latest key = some last) (hmem : earlier ∈ h.accepted) (hkey : earlier.key = key) :
    earlier = last ∨ NotBelow earlier.discovered.versions last.discovered.versions := by
  obtain ⟨hlast_key, newer, older, hsplit, hnewer⟩ := List.find?_eq_some_iff_append.mp hlast
  have hpairwise := List.pairwise_reverse.mpr hback
  rw [hsplit] at hpairwise
  rw [← List.mem_reverse, hsplit] at hmem
  rcases List.mem_append.mp hmem with hmem | hmem
  · -- nothing newer has the key
    have hother := hnewer earlier hmem
    rw [hkey] at hother
    simp at hother
  · rcases List.mem_cons.mp hmem with heq | hmem
    · exact Or.inl heq
    · refine Or.inr ?_
      have holder := (List.pairwise_cons.mp (List.pairwise_append.mp hpairwise).2.1).1 earlier hmem
      exact holder (hkey.trans (of_decide_eq_true hlast_key).symm)

/-- The comparison finds a lower number. -/
theorem le_of_not_lower {old new : String} {m n : Int} (hold : int_value old = some m)
    (hnew : int_value new = some n) (h : lower_version new old = false) : m ≤ n := by
  unfold lower_version at h
  rw [hold, hnew] at h
  have hle := of_decide_eq_false h
  omega

theorem not_rollback_of_passed (hrecorded : Recorded h) {last : Observation Endpoint}
    (hlast : h.latest key = some last) {config_version : String}
    (hpassed : h.wrapper.rolls_back key config_version = false) :
    is_config_rollback last.context.config_version config_version = false := by
  unfold Wrapper.rolls_back at hpassed
  rw [hrecorded.previous_version_eq, hlast] at hpassed
  rcases Bool.and_eq_false_iff.mp hpassed with hempty | hpassed
  · -- an empty text names nobody
    have hempty : last.context.config_version = "" := bne_eq_false_iff_eq.mp hempty
    rw [hempty]
    rfl
  · exact hpassed

/-- A compared version is at least as high as every one accepted before. -/
theorem not_below_of_compared (hrecorded : Recorded h) (hback : NeverBack h.accepted)
    (hpassed : h.wrapper.rolls_back observation.key observation.context.config_version = false)
    {new : String} (hcompared : Compared h observation resolver_id new)
    {earlier : Observation Endpoint} (hmem : earlier ∈ h.accepted)
    (hkey : earlier.key = observation.key) :
    NotBelow earlier.discovered.versions [(resolver_id, new)] := by
  obtain ⟨last, hlast, ⟨recorded, hread, hrecorded_mem, honly⟩, hnew⟩ := hcompared
  intro id old other hold hother m n hm hn
  obtain ⟨rfl, rfl⟩ := Prod.mk.inj (List.mem_singleton.mp hother)
  obtain ⟨k, hk⟩ := Option.isSome_iff_exists.mp (last.integral _ hrecorded_mem)
  have hnot := is_config_rollback_eq_false.mp (not_rollback_of_passed hrecorded hlast hpassed)
  have hstep : k ≤ n := by
    refine le_of_not_lower hk hn (hnot id recorded other ?_ hnew)
    rw [Observation.context, Discovered.config_version_eq]
    exact hread
  have hrest : m ≤ k := by
    rcases not_below_latest hback hlast hmem hkey with heq | hbelow
    · rw [heq] at hold
      rw [honly old hold] at hm
      exact Int.le_of_eq (Option.some.inj (hm.symm.trans hk))
    · exact hbelow id old recorded hold hrecorded_mem m k hm hk
  omega

/-- One step keeps the versions from going back exactly when it meets the condition. -/
theorem never_back_step_iff (hrecorded : Recorded h) (hback : NeverBack h.accepted) :
    NeverBack (h.take input).accepted ↔ ReturnsNotBelow h input := by
  cases input with
  | restart => exact ⟨fun _ => trivial, fun _ => hback⟩
  | observe observation =>
    cases hpassed :
        h.wrapper.rolls_back observation.key observation.context.config_version with
    | true =>
      rw [take_refused hpassed]
      refine ⟨fun _ hnot => ?_, fun _ => hback⟩
      rw [hpassed] at hnot
      cases hnot
    | false =>
      rw [take_accepted hpassed, NeverBack, pairwise_snoc]
      constructor
      · intro hall _ id new hnew _ earlier hmem hkey id' old other hold hother
        obtain ⟨rfl, rfl⟩ := Prod.mk.inj (List.mem_singleton.mp hother)
        exact hall.2 earlier hmem hkey id' old other hold hnew
      · intro hcondition
        refine ⟨hback, ?_⟩
        intro earlier hmem hkey id old new hold hnew
        by_cases hcompared : Compared h observation id new
        · exact not_below_of_compared hrecorded hback hpassed hcompared hmem hkey id old new hold
            List.mem_cons_self
        · exact hcondition hpassed id new hnew hcompared earlier hmem hkey id old new hold
            List.mem_cons_self

theorem never_back_of_take (hback : NeverBack (h.take input).accepted) :
    NeverBack h.accepted := by
  cases input with
  | restart => exact hback
  | observe observation =>
    cases hpassed :
        h.wrapper.rolls_back observation.key observation.context.config_version with
    | true =>
      rw [take_refused hpassed] at hback
      exact hback
    | false =>
      rw [take_accepted hpassed] at hback
      exact (pairwise_snoc.mp hback).1

/-- A resolver that the latest context names, once and under a plain id, is compared. -/
theorem compared_of_named {last : Observation Endpoint} {old new : String}
    (hlast : h.latest observation.key = some last) (hlast_plain : Plain last.discovered.versions)
    (hlast_once : (last.discovered.versions.map Prod.fst).Nodup)
    (hplain : Plain observation.discovered.versions)
    (honce : (observation.discovered.versions.map Prod.fst).Nodup)
    (hold : (resolver_id, old) ∈ last.discovered.versions)
    (hnew : (resolver_id, new) ∈ observation.discovered.versions) :
    Compared h observation resolver_id new := by
  refine ⟨last, hlast, ⟨old, ?_, hold, ?_⟩, ?_⟩
  · rw [parse_chain_versions_iff last.discovered.versions_ne_nil hlast_plain last.integral,
      find_reverse_of_nodup hlast_once hold]
    rfl
  · intro other hother
    exact congrArg Prod.snd (List.inj_on_of_nodup_map hlast_once hother hold rfl)
  · rw [Observation.context, Discovered.config_version_eq,
      parse_chain_versions_iff observation.discovered.versions_ne_nil hplain observation.integral,
      find_reverse_of_nodup honce hnew]
    rfl

end Runs

/-- In every run the accepted versions never go back if and only if each resolver that
a comparison misses comes back with no lower version. -/
theorem never_back_iff (inputs : List (Input Endpoint)) :
    ∃ h, provider.run inputs = some h ∧
      (NeverBack h.accepted ↔ provider.Along ReturnsNotBelow inputs) := by
  have hall : ∀ inputs : List (Input Endpoint), ∃ h, provider.run inputs = some h ∧
      Recorded h ∧ (NeverBack h.accepted ↔ provider.Along ReturnsNotBelow inputs) := by
    intro inputs
    induction inputs using List.reverseRecOn with
    | nil =>
      refine ⟨⟨.new, []⟩, rfl, ⟨fun _ => rfl, ?_⟩, fun _ => provider.along_nil _, fun _ => .nil⟩
      intro key context hcache
      cases hcache
    | append_singleton inputs input ih =>
      obtain ⟨h, hrun, hrecorded, hiff⟩ := ih
      refine ⟨h.take input, provider.run_snoc_eq_some.mpr ⟨h, hrun, rfl⟩, hrecorded.take, ?_⟩
      rw [Machine.along_snoc_iff hrun, ← hiff]
      constructor
      · intro hback
        have hbefore := never_back_of_take hback
        exact ⟨hbefore, (never_back_step_iff hrecorded hbefore).mp hback⟩
      · intro h
        exact (never_back_step_iff hrecorded h.1).mpr h.2
  obtain ⟨h, hrun, _, hiff⟩ := hall inputs
  exact ⟨h, hrun, hiff⟩

/-- The chain `r1`, with `r2` behind it at a version or on its own. -/
def chain_of_r1 : Option String → VerificationChain
  | none => .mk "r1" "5" []
  | some version => .mk "r1" "5" [.mk "r2" version []]

/-- `r2` at version 7, then gone, then back at version 6. -/
def rejoining : List (Input String) :=
  [.observe ⟨"192.0.2.53:53:udp", .chain (chain_of_r1 (some "7")), [], by decide +kernel⟩,
    .observe ⟨"192.0.2.53:53:udp", .chain (chain_of_r1 none), [], by decide +kernel⟩,
    .observe ⟨"192.0.2.53:53:udp", .chain (chain_of_r1 (some "6")), [], by decide +kernel⟩]

theorem rejoined_resolver_goes_back :
    ∃ h, provider.run rejoining = some h ∧ ¬ NeverBack h.accepted := by
  refine ⟨rejoining.foldl History.take ⟨.new, []⟩, rfl, ?_⟩
  intro hback
  have haccepted : (rejoining.foldl History.take ⟨.new, []⟩).accepted.map
      (fun observation => (observation.key, observation.discovered.versions)) =
        [("192.0.2.53:53:udp", [("r1", "5"), ("r2", "7")]), ("192.0.2.53:53:udp", [("r1", "5")]),
          ("192.0.2.53:53:udp", [("r1", "5"), ("r2", "6")])] := by decide +kernel
  have hpairs := pairwise_of_never_back hback
  rw [haccepted] at hpairs
  have hbelow := (List.pairwise_cons.mp hpairs).1 _
    (List.mem_cons_of_mem _ (List.mem_singleton.mpr rfl)) rfl
  have hle := hbelow "r2" "7" "6" (List.mem_cons_of_mem _ (List.mem_singleton.mpr rfl))
    (List.mem_cons_of_mem _ (List.mem_singleton.mpr rfl)) 7 6 (by decide +kernel) (by decide +kernel)
  exact absurd hle (by decide)

end ResolverIdentity.V1
