/-
  ResolverIdentity.Publisher.SignedBytes: the bytes that are signed and hashed.

  `canonical_json_bytes` of `canonical.rs` and of `crypto/canonical_json.py`.  A value is what
  a parser of either language leaves: an object has one value for a key, and two objects are
  equal when they have the same keys with equal values, whatever the order.

  Main results:
    * `strip_eq_of_same`: the canonical form does not depend on the order of members;
    * `same_of_strip_eq`: it determines the value without its signatures;
    * `signed_bytes_exact`: both languages sign one text, and it determines the value.
-/
import ResolverIdentity.Core.Recorded
import ResolverIdentity.Publisher.Dictionaries

namespace ResolverIdentity.Publisher

open Library Json

/-! ## §1. Equal values. -/

mutual

/-- `a == b`: dictionaries are as long and have equal values for each key. -/
def same : Json → Json → Bool
  | .null, .null => true
  | .bool b, .bool b' => b = b'
  | .number n, .number n' => n = n'
  | .string s, .string s' => s = s'
  | .array items, .array items' => same_items items items'
  | .object fields, .object fields' =>
    fields.length = fields'.length && same_members fields fields'
  | _, _ => false

/-- Item by item. -/
def same_items : List Json → List Json → Bool
  | [], [] => true
  | v :: rest, w :: rest' => same v w && same_items rest rest'
  | _, _ => false

/-- Each member has its like in the other dictionary. -/
def same_members : List (String × Json) → List (String × Json) → Bool
  | [], _ => true
  | (k, v) :: rest, fields' =>
    (match (Json.object fields').get k with
      | some w => same v w
      | none => false) && same_members rest fields'

end

mutual

/-- At every depth a key has one value. -/
def Keyed : Json → Prop
  | .object fields => Distinct fields ∧ KeyedMembers fields
  | .array items => KeyedItems items
  | .null | .bool _ | .number _ | .string _ => True

/-- Every value inside is keyed. -/
def KeyedMembers : List (String × Json) → Prop
  | [] => True
  | (_, v) :: rest => Keyed v ∧ KeyedMembers rest

/-- Every item is keyed. -/
def KeyedItems : List Json → Prop
  | [] => True
  | v :: rest => Keyed v ∧ KeyedItems rest

end

theorem KeyedMembers.of_mem {fields : List (String × Json)} (h : KeyedMembers fields)
    {key : String} {value : Json} (hmem : (key, value) ∈ fields) : Keyed value := by
  induction fields with
  | nil => cases hmem
  | cons member rest ih =>
    obtain ⟨hvalue, hrest⟩ := h
    rcases List.mem_cons.mp hmem with heq | hlater
    · rw [← heq] at hvalue
      exact hvalue
    · exact ih hrest hlater

/-! ## §2. The order of members. -/

/-- As many keys, and each of one among those of the other: they are the same keys. -/
theorem keys_perm {fields fields' : List (String × Json)} (h : Distinct fields)
    (hlength : fields.length = fields'.length)
    (hkeys : ∀ key ∈ fields.map Prod.fst, key ∈ fields'.map Prod.fst) :
    (fields.map Prod.fst).Perm (fields'.map Prod.fst) := by
  refine (List.subperm_of_subset h hkeys).perm_of_length_le ?_
  rw [List.length_map, List.length_map, hlength]

mutual

/-- Equal values have one canonical form. -/
theorem strip_eq_of_same : ∀ a b : Json, Keyed a → Keyed b → same a b = true →
    a.strip_signatures = b.strip_signatures
  | .null, b, _, _, h => by
    cases b <;> first | rfl | cases h
  | .bool x, b, _, _, h => by
    cases b with
    | bool y =>
      have heq : x = y := of_decide_eq_true h
      rw [heq]
    | _ => cases h
  | .number x, b, _, _, h => by
    cases b with
    | number y =>
      have heq : x = y := of_decide_eq_true h
      rw [heq]
    | _ => cases h
  | .string x, b, _, _, h => by
    cases b with
    | string y =>
      have heq : x = y := of_decide_eq_true h
      rw [heq]
    | _ => cases h
  | .array items, b, ha, hb, h => by
    cases b with
    | array items' =>
      rw [strip_signatures, strip_signatures, strip_items_of_same items items' ha hb h]
    | _ => cases h
  | .object fields, b, ha, hb, h => by
    cases b with
    | object fields' =>
      obtain ⟨hdistinct, hmembers⟩ := ha
      obtain ⟨hdistinct', hmembers'⟩ := hb
      rw [same, Bool.and_eq_true, decide_eq_true_iff] at h
      have hlike := strip_members_of_same fields fields' hmembers hmembers' h.2
      have hperm := keys_perm hdistinct h.1 (by
        intro key hkey
        obtain ⟨member, hmember, heq⟩ := List.mem_map.mp hkey
        obtain ⟨w, hw, _⟩ := hlike member.1 member.2 hmember
        rw [← heq]
        exact List.mem_map.mpr ⟨_, mem_of_get hw, rfl⟩)
      refine (strip_eq_iff hdistinct hdistinct').mpr ?_
      intro key _
      cases hget : (Json.object fields).get key with
      | some v =>
        obtain ⟨w, hw, heq⟩ := hlike key v (mem_of_get hget)
        rw [hw, Option.map_some, Option.map_some, heq]
      | none =>
        cases hget' : (Json.object fields').get key with
        | none => rfl
        | some w =>
          -- the key is one of the first dictionary's, too
          have hkey : key ∈ fields.map Prod.fst :=
            hperm.mem_iff.mpr (List.mem_map.mpr ⟨_, mem_of_get hget', rfl⟩)
          obtain ⟨member, hmember, heq⟩ := List.mem_map.mp hkey
          have hfound := (get_eq_some_iff hdistinct).mpr
            (show (key, member.2) ∈ fields by rw [← heq]; exact hmember)
          rw [hget] at hfound
          cases hfound
    | _ => cases h

theorem strip_members_of_same : ∀ fields fields' : List (String × Json), KeyedMembers fields →
    KeyedMembers fields' → same_members fields fields' = true →
      ∀ key v, (key, v) ∈ fields → ∃ w, (Json.object fields').get key = some w ∧
        v.strip_signatures = w.strip_signatures
  | [], _, _, _, _ => fun _ _ hmem => (nomatch hmem)
  | (k, v) :: rest, fields', hkeyed, hkeyed', h => by
    rw [same_members, Bool.and_eq_true] at h
    obtain ⟨hfirst, hrest⟩ := h
    intro key value hmem
    rcases List.mem_cons.mp hmem with heq | hlater
    · obtain ⟨hkey, hvalue⟩ := Prod.mk.inj heq
      rw [hkey, hvalue]
      cases hget : (Json.object fields').get k with
      | none =>
        rw [hget] at hfirst
        cases hfirst
      | some w =>
        rw [hget] at hfirst
        exact ⟨w, rfl, strip_eq_of_same v w hkeyed.1 (hkeyed'.of_mem (mem_of_get hget)) hfirst⟩
    · exact strip_members_of_same rest fields' hkeyed.2 hkeyed' hrest key value hlater

theorem strip_items_of_same : ∀ items items' : List Json, KeyedItems items → KeyedItems items' →
    same_items items items' = true → stripItems items = stripItems items'
  | [], items', _, _, h => by
    cases items' with
    | nil => rfl
    | cons => cases h
  | v :: rest, items', hkeyed, hkeyed', h => by
    cases items' with
    | nil => cases h
    | cons w rest' =>
      rw [same_items, Bool.and_eq_true] at h
      rw [stripItems, stripItems, strip_eq_of_same v w hkeyed.1 hkeyed'.1 h.1,
        strip_items_of_same rest rest' hkeyed.2 hkeyed'.2 h.2]

end

/-! ## §3. What the canonical form determines. -/

theorem strip_members_length (fields : List (String × Json)) :
    (strip_members fields).length = (stripFields fields).length := by
  induction fields with
  | nil => rfl
  | cons member rest ih =>
    obtain ⟨k, v⟩ := member
    rw [strip_members, stripFields]
    by_cases hk : k = "signature"
    · rw [if_pos hk, if_pos hk, ih]
    · rw [if_neg hk, if_neg hk, List.length_cons, List.length_cons, ih]

/-- A key other than `signature` keeps its value, stripped. -/
theorem get_strip_members {key : String} (hkey : key ≠ "signature")
    (fields : List (String × Json)) : (Json.object (strip_members fields)).get key =
      ((Json.object fields).get key).map strip_signature := by
  induction fields with
  | nil => rfl
  | cons member rest ih =>
    obtain ⟨k, v⟩ := member
    rw [strip_members, get_cons]
    by_cases hk : k = "signature"
    · have hne : k ≠ key := by
        rw [hk]
        exact hkey.symm
      rw [if_pos hk, if_neg hne, ih]
    · rw [if_neg hk, get_cons, ih]
      by_cases hfound : k = key
      · rw [if_pos hfound, if_pos hfound]
        rfl
      · rw [if_neg hfound, if_neg hfound]

mutual

/-- Values with one canonical form are equal without their signatures. -/
theorem same_of_strip_eq : ∀ a b : Json, Keyed a → Keyed b →
    a.strip_signatures = b.strip_signatures →
      same (strip_signature a) (strip_signature b) = true
  | .null, b, _, _, h => by
    cases b <;> first | rfl | (simp [strip_signatures] at h)
  | .bool x, b, _, _, h => by
    cases b with
    | bool y => exact decide_eq_true (Json.bool.inj h)
    | _ => simp [strip_signatures] at h
  | .number x, b, _, _, h => by
    cases b with
    | number y => exact decide_eq_true (Json.number.inj h)
    | _ => simp [strip_signatures] at h
  | .string x, b, _, _, h => by
    cases b with
    | string y => exact decide_eq_true (Json.string.inj h)
    | _ => simp [strip_signatures] at h
  | .array items, b, ha, hb, h => by
    cases b with
    | array items' =>
      rw [strip_signatures, strip_signatures] at h
      exact same_items_of_strip_eq items items' ha hb (Json.array.inj h)
    | _ => simp [strip_signatures] at h
  | .object fields, b, ha, hb, h => by
    cases b with
    | object fields' =>
      have hget := (strip_eq_iff ha.1 hb.1).mp h
      rw [strip_signature, strip_signature, same, Bool.and_eq_true, decide_eq_true_iff]
      constructor
      · rw [strip_signatures, strip_signatures] at h
        have hlength := congrArg List.length (Json.object.inj h)
        rw [List.length_insertionSort, List.length_insertionSort] at hlength
        rw [strip_members_length, strip_members_length, hlength]
      · refine same_members_of_strip_eq fields fields' ha.2 hb.2 ?_
        intro key v hmem hkey
        have hlike := hget key hkey
        rw [(get_eq_some_iff ha.1).mpr hmem, Option.map_some] at hlike
        obtain ⟨w, hw, heq⟩ := Option.map_eq_some_iff.mp hlike.symm
        exact ⟨w, hw, heq.symm⟩
    | _ => simp [strip_signatures] at h

theorem same_members_of_strip_eq : ∀ fields fields' : List (String × Json), KeyedMembers fields →
    KeyedMembers fields' → (∀ key v, (key, v) ∈ fields → key ≠ "signature" →
      ∃ w, (Json.object fields').get key = some w ∧ v.strip_signatures = w.strip_signatures) →
      same_members (strip_members fields) (strip_members fields') = true
  | [], _, _, _, _ => rfl
  | (k, v) :: rest, fields', hkeyed, hkeyed', h => by
    have hrest := same_members_of_strip_eq rest fields' hkeyed.2 hkeyed'
      (fun key value hmem => h key value (List.mem_cons_of_mem _ hmem))
    rw [strip_members]
    by_cases hk : k = "signature"
    · rw [if_pos hk]
      exact hrest
    · obtain ⟨w, hw, heq⟩ := h k v List.mem_cons_self hk
      have hvalue := same_of_strip_eq v w hkeyed.1 (hkeyed'.of_mem (mem_of_get hw)) heq
      rw [if_neg hk, same_members, get_strip_members hk, hw, Option.map_some, Bool.and_eq_true]
      exact ⟨hvalue, hrest⟩

theorem same_items_of_strip_eq : ∀ items items' : List Json, KeyedItems items →
    KeyedItems items' → stripItems items = stripItems items' →
      same_items (strip_list items) (strip_list items') = true
  | [], items', _, _, h => by
    cases items' with
    | nil => rfl
    | cons => cases h
  | v :: rest, items', hkeyed, hkeyed', h => by
    cases items' with
    | nil => cases h
    | cons w rest' =>
      rw [stripItems, stripItems] at h
      obtain ⟨hfirst, hrest⟩ := List.cons.inj h
      rw [strip_list, strip_list, same_items, Bool.and_eq_true]
      exact ⟨same_of_strip_eq v w hkeyed.1 hkeyed'.1 hfirst,
        same_items_of_strip_eq rest rest' hkeyed.2 hkeyed'.2 hrest⟩

end

/-! ## §4. Values without signatures. -/

mutual

theorem strip_strip :
    ∀ value : Json, strip_signature (strip_signature value) = strip_signature value
  | .null | .bool _ | .number _ | .string _ => rfl
  | .array items => by
    rw [strip_signature, strip_signature, strip_strip_list items]
  | .object fields => by
    rw [strip_signature, strip_signature, strip_strip_members fields]

theorem strip_strip_members : ∀ fields : List (String × Json),
    strip_members (strip_members fields) = strip_members fields
  | [] => rfl
  | (k, v) :: rest => by
    rw [strip_members]
    by_cases hk : k = "signature"
    · rw [if_pos hk]
      exact strip_strip_members rest
    · rw [if_neg hk, strip_members, if_neg hk, strip_strip v, strip_strip_members rest]

theorem strip_strip_list : ∀ items : List Json, strip_list (strip_list items) = strip_list items
  | [] => rfl
  | v :: rest => by
    rw [strip_list, strip_list, strip_strip v, strip_strip_list rest]

end

/-- The canonical form is that of the value without its signatures. -/
theorem canonical_of_stripped (value : Json) :
    (strip_signature value).strip_signatures = value.strip_signatures := by
  rw [← sort_strip, strip_strip, sort_strip]

theorem mem_strip_keys {key : String} {fields : List (String × Json)}
    (h : key ∈ (strip_members fields).map Prod.fst) : key ∈ fields.map Prod.fst := by
  induction fields with
  | nil => exact h
  | cons member rest ih =>
    obtain ⟨k, v⟩ := member
    rw [strip_members] at h
    rw [List.map_cons, List.mem_cons]
    by_cases hk : k = "signature"
    · rw [if_pos hk] at h
      exact Or.inr (ih h)
    · rw [if_neg hk, List.map_cons, List.mem_cons] at h
      exact h.imp_right ih

theorem distinct_strip {fields : List (String × Json)} (h : Distinct fields) :
    Distinct (strip_members fields) := by
  unfold Distinct at *
  induction fields with
  | nil => exact h
  | cons member rest ih =>
    obtain ⟨k, v⟩ := member
    rw [List.map_cons, List.nodup_cons] at h
    rw [strip_members]
    by_cases hk : k = "signature"
    · rw [if_pos hk]
      exact ih h.2
    · rw [if_neg hk, List.map_cons, List.nodup_cons]
      exact ⟨fun hmem => h.1 (mem_strip_keys hmem), ih h.2⟩

mutual

theorem Keyed.strip : ∀ {value : Json}, Keyed value → Keyed (strip_signature value)
  | .null, h | .bool _, h | .number _, h | .string _, h => h
  | .array _, h => KeyedItems.strip h
  | .object _, h => ⟨distinct_strip h.1, KeyedMembers.strip h.2⟩

theorem KeyedMembers.strip : ∀ {fields : List (String × Json)}, KeyedMembers fields →
    KeyedMembers (strip_members fields)
  | [], h => h
  | (k, v) :: rest, h => by
    rw [strip_members]
    by_cases hk : k = "signature"
    · rw [if_pos hk]
      exact KeyedMembers.strip h.2
    · rw [if_neg hk]
      exact ⟨Keyed.strip h.1, KeyedMembers.strip h.2⟩

theorem KeyedItems.strip : ∀ {items : List Json}, KeyedItems items →
    KeyedItems (strip_list items)
  | [], h => h
  | _ :: _, h => ⟨Keyed.strip h.1, KeyedItems.strip h.2⟩

end

/-! ## §5. One text. -/

/-- **Both languages sign one text for a value**, whatever the order of its members, and the
text determines the value without its signatures. -/
theorem signed_bytes_exact {P : Platform} (hvec : P.to_vec = to_vec) {a b : Json} (ha : Keyed a)
    (hb : Keyed b) :
    P.canonical_json_bytes a = canonical_json_bytes a ∧
      (same a b = true → canonical_json_bytes a = canonical_json_bytes b) ∧
      (canonical_json_bytes a = canonical_json_bytes b ↔
        same (strip_signature a) (strip_signature b) = true) := by
  have hone : canonical_json_bytes a = canonical_json_bytes b ↔
      a.strip_signatures = b.strip_signatures := by
    rw [canonical_json_bytes_eq, canonical_json_bytes_eq]
    exact ⟨fun h => to_vec_injective h, fun h => by rw [h]⟩
  refine ⟨?_, ?_, ?_⟩
  · rw [canonical_json_bytes_eq]
    unfold Platform.canonical_json_bytes
    rw [hvec]
  · intro h
    exact hone.mpr (strip_eq_of_same a b ha hb h)
  · rw [hone]
    constructor
    · exact same_of_strip_eq a b ha hb
    · intro h
      have hstripped := strip_eq_of_same _ _ ha.strip hb.strip h
      rwa [canonical_of_stripped, canonical_of_stripped] at hstripped

/-- Two objects in another order, one of them signed. -/
def plain_object : Json :=
  .object [("b", .array [.number 1, .null]), ("a", .object [("c", .string "\x01")])]

/-- An object with two signatures, one of them inside. -/
def signed_object : Json :=
  .object [("a", .object [("signature", .string "s"), ("c", .string "\x01")]),
    ("signature", .string "t"), ("b", .array [.number 1, .null])]

theorem signature_not_signed :
    (Recording.mk [] [] []).platform.canonical_json_bytes plain_object =
        canonical_json_bytes plain_object ∧
      canonical_json_bytes plain_object = canonical_json_bytes signed_object := by
  have hkeyed : Keyed plain_object := by
    simp [plain_object, Keyed, KeyedMembers, KeyedItems, Distinct]
  have hkeyed' : Keyed signed_object := by
    simp [signed_object, Keyed, KeyedMembers, KeyedItems, Distinct]
  obtain ⟨hverifier, _, hbytes⟩ :=
    signed_bytes_exact (P := (Recording.mk [] [] []).platform) rfl hkeyed hkeyed'
  exact ⟨hverifier, hbytes.mpr (by decide)⟩

end ResolverIdentity.Publisher
