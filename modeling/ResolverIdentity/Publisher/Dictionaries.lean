/-
  ResolverIdentity.Publisher.Dictionaries: members of a dictionary.

  A dictionary is the list of its members, each key once.  `pop`, `[key] = value` and
  `get` are what the publisher does with it, and `get` is all that its canonical form
  depends on.

  Main results:
    * `get_dict_set`, `get_dict_pop`, `get_append`, `get_filter`: what `get` finds;
    * `strip_eq_iff`: two dictionaries have one canonical form exactly if their members do.
-/
import ResolverIdentity.Core.Serialize
import ResolverIdentity.Publisher.CanonicalJson

namespace ResolverIdentity.Publisher

open Library Json

/-! ## §1. Dictionaries. -/

/-- `data.pop(key, None)`. -/
def dict_pop (key : String) (fields : List (String × Json)) : List (String × Json) :=
  fields.filter (fun item => item.1 ≠ key)

/-- `data[key] = value`: a key that is there keeps its place. -/
def dict_set (key : String) (value : Json) : List (String × Json) → List (String × Json)
  | [] => [(key, value)]
  | item :: rest =>
    if item.1 = key then (key, value) :: rest else item :: dict_set key value rest

/-- A dictionary has one value for a key. -/
def Distinct (fields : List (String × Json)) : Prop := (fields.map Prod.fst).Nodup

theorem get_cons {key : String} {item : String × Json} {rest : List (String × Json)} :
    (Json.object (item :: rest)).get key =
      if item.1 = key then some item.2 else (Json.object rest).get key := by
  show ((item :: rest).find? _).map Prod.snd = _
  rw [List.find?_cons]
  by_cases h : item.1 = key
  · rw [if_pos h, decide_eq_true h]
    rfl
  · rw [if_neg h, decide_eq_false h]
    rfl

theorem get_dict_set {key name : String} {value : Json} {fields : List (String × Json)} :
    (Json.object (dict_set name value fields)).get key =
      if name = key then some value else (Json.object fields).get key := by
  induction fields with
  | nil => rw [dict_set, get_cons]
  | cons item rest ih =>
    rw [dict_set]
    by_cases h : item.1 = name
    · rw [if_pos h, get_cons, get_cons, h]
      by_cases hkey : name = key
      · rw [if_pos hkey, if_pos hkey]
      · rw [if_neg hkey, if_neg hkey, if_neg hkey]
    · rw [if_neg h, get_cons, get_cons, ih]
      by_cases hitem : item.1 = key
      · rw [if_pos hitem, if_pos hitem, if_neg (fun heq => h (hitem.trans heq.symm))]
      · rw [if_neg hitem, if_neg hitem]

theorem get_dict_pop {key name : String} {fields : List (String × Json)} :
    (Json.object (dict_pop name fields)).get key =
      if name = key then none else (Json.object fields).get key := by
  induction fields with
  | nil => by_cases h : name = key <;> simp [dict_pop, Json.get]
  | cons item rest ih =>
    unfold dict_pop at ih ⊢
    rw [List.filter_cons]
    by_cases h : item.1 = name
    · rw [if_neg (by simp [h]), ih, get_cons, h]
      by_cases hkey : name = key
      · rw [if_pos hkey, if_pos hkey]
      · rw [if_neg hkey, if_neg hkey, if_neg hkey]
    · rw [if_pos (by simp [h]), get_cons, ih, get_cons]
      by_cases hitem : item.1 = key
      · rw [if_pos hitem, if_pos hitem, if_neg (fun heq => h (hitem.trans heq.symm))]
      · rw [if_neg hitem, if_neg hitem]

theorem keys_dict_set {name : String} {value : Json} {fields : List (String × Json)} {key : String} :
    key ∈ (dict_set name value fields).map Prod.fst ↔ key = name ∨ key ∈ fields.map Prod.fst := by
  induction fields with
  | nil => simp [dict_set]
  | cons item rest ih =>
    rw [dict_set]
    by_cases h : item.1 = name
    · rw [if_pos h]
      simp [h]
    · rw [if_neg h, List.map_cons, List.mem_cons, ih, List.map_cons, List.mem_cons]
      tauto

theorem Distinct.dict_set {name : String} {value : Json} {fields : List (String × Json)}
    (h : Distinct fields) : Distinct (dict_set name value fields) := by
  unfold Distinct at h ⊢
  induction fields with
  | nil => simp [Publisher.dict_set]
  | cons item rest ih =>
    rw [Publisher.dict_set]
    rw [List.map_cons, List.nodup_cons] at h
    by_cases hname : item.1 = name
    · rw [if_pos hname, List.map_cons, List.nodup_cons, ← hname]
      exact h
    · rw [if_neg hname, List.map_cons, List.nodup_cons, keys_dict_set]
      exact ⟨fun hmem => hmem.elim hname h.1, ih h.2⟩

theorem Distinct.dict_pop {name : String} {fields : List (String × Json)}
    (h : Distinct fields) : Distinct (dict_pop name fields) :=
  h.sublist (List.filter_sublist.map Prod.fst)

/-! ## §2. Objects with distinct keys. -/

/-- A key with a value is one of the members. -/
theorem mem_of_get {fields : List (String × Json)} {key : String} {value : Json}
    (h : (Json.object fields).get key = some value) : (key, value) ∈ fields := by
  have h : (fields.find? (fun field => field.1 = key)).map Prod.snd = some value := h
  obtain ⟨item, hitem, hvalue⟩ := Option.map_eq_some_iff.mp h
  have hkey : decide (item.1 = key) = true :=
    List.find?_some (p := fun field : String × Json => decide (field.1 = key)) hitem
  rw [← of_decide_eq_true hkey, ← hvalue]
  exact List.mem_of_find?_eq_some hitem

theorem get_eq_some_iff {fields : List (String × Json)} (h : Distinct fields) {key : String}
    {value : Json} : (Json.object fields).get key = some value ↔ (key, value) ∈ fields := by
  refine ⟨mem_of_get, ?_⟩
  intro hmem
  induction fields with
  | nil => cases hmem
  | cons item rest ih =>
    unfold Distinct at h
    rw [List.map_cons, List.nodup_cons] at h
    rw [get_cons]
    rcases List.mem_cons.mp hmem with heq | hlater
    · rw [← heq, if_pos rfl]
    · have hne : item.1 ≠ key := by
        intro heq
        exact h.1 (List.mem_map.mpr ⟨_, hlater, heq.symm⟩)
      rw [if_neg hne, ih h.2 hlater]

/-- The canonical form of an object is made of the canonical forms of its members. -/
theorem strip_eq_iff {fields fields' : List (String × Json)} (h : Distinct fields)
    (h' : Distinct fields') :
    strip_signatures (.object fields) = strip_signatures (.object fields') ↔
      ∀ key, key ≠ "signature" → ((Json.object fields).get key).map strip_signatures =
        ((Json.object fields').get key).map strip_signatures := by
  constructor
  · intro hstrip key hkey
    refine Option.ext ?_
    intro canonical
    have hmem := mem_iff_of_strip_eq hstrip hkey canonical
    simp only [Option.map_eq_some_iff, get_eq_some_iff h, get_eq_some_iff h']
    simpa only [eq_comm] using hmem
  · intro hget
    -- the same members, each key once: one list is the other in another order
    have hkeys : ∀ {fields : List (String × Json)}, Distinct fields →
        ((stripFields fields).map Prod.fst).Nodup := by
      intro fields hfields
      unfold Distinct at hfields
      induction fields with
      | nil => exact List.nodup_nil
      | cons item rest ih =>
        obtain ⟨key, value⟩ := item
        rw [List.map_cons, List.nodup_cons] at hfields
        rw [stripFields]
        by_cases hkey : key = "signature"
        · rw [if_pos hkey]
          exact ih hfields.2
        · rw [if_neg hkey, List.map_cons, List.nodup_cons]
          refine ⟨?_, ih hfields.2⟩
          intro hmem
          obtain ⟨member, hmember, heq⟩ := List.mem_map.mp hmem
          obtain ⟨_, v, hv, _⟩ := mem_stripFields.mp
            (show (member.1, member.2) ∈ stripFields rest from hmember)
          have hfirst : member.1 ∈ rest.map Prod.fst := List.mem_map.mpr ⟨_, hv, rfl⟩
          rw [heq] at hfirst
          exact hfields.1 hfirst
    have hmembers : ∀ member, member ∈ stripFields fields ↔ member ∈ stripFields fields' := by
      intro member
      obtain ⟨key, canonical⟩ := member
      rw [mem_stripFields, mem_stripFields]
      refine and_congr_right ?_
      intro hkey
      have hsame := congrArg (· = some canonical) (hget key hkey)
      simp only [Option.map_eq_some_iff, get_eq_some_iff h, get_eq_some_iff h', eq_iff_iff] at hsame
      simpa only [eq_comm] using hsame
    have hperm : (stripFields fields).Perm (stripFields fields') :=
      (List.perm_ext_iff_of_nodup (List.Nodup.of_map _ (hkeys h)) (List.Nodup.of_map _ (hkeys h'))).mpr
        hmembers
    rw [strip_signatures, strip_signatures]
    refine congrArg Json.object ?_
    have hsorted := ((List.perm_insertionSort keyLe (stripFields fields)).trans hperm).trans
      (List.perm_insertionSort keyLe (stripFields fields')).symm
    refine List.Perm.eq_of_pairwise ?_ (List.pairwise_insertionSort keyLe _)
      (List.pairwise_insertionSort keyLe _) hsorted
    intro a b ha hb hab hba
    have hkey : a.1 = b.1 := as_bytes_injective (List.le_antisymm hab hba)
    exact List.inj_on_of_nodup_map (hkeys h) (List.mem_insertionSort _ |>.mp ha)
      ((hmembers b).mpr (List.mem_insertionSort _ |>.mp hb)) hkey

/-- Of distinct keys a filter keeps those whose value it keeps. -/
theorem get_filter {fields : List (String × Json)} (h : Distinct fields) {q : Json → Bool}
    {key : String} : (Json.object (fields.filter (fun item => q item.2))).get key =
      ((Json.object fields).get key).filter q := by
  refine Option.ext ?_
  intro value
  have hkept : Distinct (fields.filter (fun item => q item.2)) :=
    h.sublist (List.filter_sublist.map Prod.fst)
  rw [get_eq_some_iff hkept, List.mem_filter, Option.filter_eq_some_iff, get_eq_some_iff h]

/-! ## §3. Members of what is written. -/

@[simp] theorem get_append {left right : List (String × Json)} {key : String} :
    (Json.object (left ++ right)).get key =
      ((Json.object left).get key).or ((Json.object right).get key) := by
  induction left with
  | nil => rfl
  | cons item rest ih =>
    rw [List.cons_append, get_cons, get_cons, ih]
    by_cases h : item.1 = key
    · rw [if_pos h, if_pos h]
      rfl
    · rw [if_neg h, if_neg h]

@[simp] theorem get_field {name key : String} {value : Json} :
    (Json.object (Json.field name value)).get key = if name = key then some value else none := by
  unfold Json.field
  rw [get_cons]
  rfl

@[simp] theorem get_optional {name key : String} {value : Option Json} :
    (Json.object (Json.optional name value)).get key = if name = key then value else none := by
  cases value with
  | none =>
    rw [ite_self]
    rfl
  | some v => exact get_field

@[simp] theorem get_nonempty {name key : String} {items : List Json} :
    (Json.object (Json.nonempty name items)).get key =
      if name = key ∧ items ≠ [] then some (.array items) else none := by
  unfold Json.nonempty
  cases items with
  | nil => simp [Json.get]
  | cons item rest =>
    rw [List.isEmpty_cons, if_neg Bool.false_ne_true, get_cons]
    by_cases h : name = key
    · rw [if_pos h, if_pos ⟨h, List.cons_ne_nil _ _⟩]
    · rw [if_neg h, if_neg (fun hand => h hand.1)]
      rfl

theorem keys_optional (name : String) (value : Option Json) :
    ((Json.optional name value).map Prod.fst).Sublist [name] := by
  cases value with
  | none => exact List.nil_sublist _
  | some v => exact List.Sublist.refl _

/-- An item of the first list has its counterpart in the second. -/
theorem forall₂_left {α β : Type} {r : α → β → Prop} {l : List α} {l' : List β}
    (h : List.Forall₂ r l l') : ∀ a ∈ l, ∃ b ∈ l', r a b := by
  induction h with
  | nil => intro a ha; cases ha
  | @cons a b _ _ hab _ ih =>
    intro x hx
    rcases List.mem_cons.mp hx with hfirst | hrest
    · rw [hfirst]
      exact ⟨b, List.mem_cons_self, hab⟩
    · obtain ⟨y, hy, hxy⟩ := ih x hrest
      exact ⟨y, List.mem_cons_of_mem b hy, hxy⟩

end ResolverIdentity.Publisher
