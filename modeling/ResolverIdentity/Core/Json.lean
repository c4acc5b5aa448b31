/-
  ResolverIdentity.Core.Json: JSON values and their canonical form.

  `canonical_json_bytes` of the source strips every field named `signature`,
  at every depth, sorts the remaining keys and writes the result compactly.
  The value `strip_signatures` returns is the canonical form itself; the bytes
  are the serializer's (`Platform.to_vec`).

  Main result:
    * `mem_strip_signatures`: the fields of a canonical object.
-/
import Mathlib.Data.List.Sort

namespace ResolverIdentity

/-- `str::as_bytes`: the UTF-8 text. -/
def as_bytes (text : String) : List UInt8 := text.toByteArray.data.toList

theorem as_bytes_append (left right : String) :
    as_bytes (left ++ right) = as_bytes left ++ as_bytes right := by
  simp [as_bytes]

/-- A `serde_json::Value`; the sources hold no floating-point field. -/
inductive Json where
  | null
  | bool (b : Bool)
  | number (n : Int)
  | string (s : String)
  | array (items : List Json)
  | object (fields : List (String × Json))

namespace Json

/-! ## §1. Canonical form. -/

/-- Byte order of two keys, the order of `sort_unstable` on `&String`. -/
abbrev keyLe (a b : String × Json) : Prop := as_bytes a.1 ≤ as_bytes b.1

mutual

/-- Drop every `signature` field and sort the keys, at every depth. -/
def strip_signatures : Json → Json
  | .object fields => .object ((stripFields fields).insertionSort keyLe)
  | .array items => .array (stripItems items)
  | .null => .null
  | .bool b => .bool b
  | .number n => .number n
  | .string s => .string s

/-- The stripped fields, still in their own order. -/
def stripFields : List (String × Json) → List (String × Json)
  | [] => []
  | (key, value) :: rest =>
    if key = "signature" then stripFields rest
    else (key, strip_signatures value) :: stripFields rest

/-- The stripped items of an array. -/
def stripItems : List Json → List Json
  | [] => []
  | item :: rest => strip_signatures item :: stripItems rest

end

mutual

/-- Nesting depth of arrays and objects, as the reader's recursion limit counts it. -/
def depth : Json → Nat
  | .object fields => depthFields fields + 1
  | .array items => depthItems items + 1
  | .null => 0
  | .bool _ => 0
  | .number _ => 0
  | .string _ => 0

/-- The deepest field. -/
def depthFields : List (String × Json) → Nat
  | [] => 0
  | (_, value) :: rest => max (depth value) (depthFields rest)

/-- The deepest item. -/
def depthItems : List Json → Nat
  | [] => 0
  | item :: rest => max (depth item) (depthItems rest)

end

/-! ## §2. Field access. -/

/-- `value.get(key)` on an object. -/
def get (value : Json) (key : String) : Option Json :=
  match value with
  | .object fields => (fields.find? (fun field => field.1 = key)).map Prod.snd
  | _ => none

/-- `Value::as_str`. -/
def as_str : Json → Option String
  | .string s => some s
  | _ => none

/-! ## §3. What the canonical form keeps. -/

theorem mem_stripFields {fields : List (String × Json)} {key : String} {value : Json} :
    (key, value) ∈ stripFields fields ↔
      key ≠ "signature" ∧ ∃ v, (key, v) ∈ fields ∧ value = strip_signatures v := by
  induction fields with
  | nil => simp [stripFields]
  | cons field rest ih =>
    obtain ⟨k, v⟩ := field
    rw [stripFields]
    by_cases hk : k = "signature"
    · -- the field is dropped, and its key is the forbidden one
      rw [if_pos hk, ih]
      constructor
      · rintro ⟨hne, v', hv', rfl⟩
        exact ⟨hne, v', List.mem_cons_of_mem _ hv', rfl⟩
      · rintro ⟨hne, v', hv', rfl⟩
        rcases List.mem_cons.mp hv' with heq | hv'
        · exact absurd ((Prod.mk.inj heq).1.trans hk) hne
        · exact ⟨hne, v', hv', rfl⟩
    · rw [if_neg hk, List.mem_cons, ih]
      constructor
      · rintro (heq | ⟨hne, v', hv', rfl⟩)
        · obtain ⟨rfl, rfl⟩ := Prod.mk.inj heq
          exact ⟨hk, v, List.mem_cons_self, rfl⟩
        · exact ⟨hne, v', List.mem_cons_of_mem _ hv', rfl⟩
      · rintro ⟨hne, v', hv', rfl⟩
        rcases List.mem_cons.mp hv' with heq | hv'
        · obtain ⟨rfl, rfl⟩ := Prod.mk.inj heq
          exact Or.inl rfl
        · exact Or.inr ⟨hne, v', hv', rfl⟩

/-- The canonical form of an object holds its other fields, each in canonical form. -/
theorem mem_strip_signatures {fields fields' : List (String × Json)}
    (h : strip_signatures (.object fields) = .object fields') {key : String} {value : Json} :
    (key, value) ∈ fields' ↔
      key ≠ "signature" ∧ ∃ v, (key, v) ∈ fields ∧ value = strip_signatures v := by
  rw [strip_signatures] at h
  obtain rfl := Json.object.inj h
  rw [List.mem_insertionSort, mem_stripFields]

end Json

end ResolverIdentity
