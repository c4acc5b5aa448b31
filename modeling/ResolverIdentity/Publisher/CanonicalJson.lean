/-
  ResolverIdentity.Publisher.CanonicalJson: the canonical text of the publisher.

  `strip_signature` and `canonical_json_bytes` of `crypto/canonical_json.py`, with the
  writer of `json.dumps` under `ensure_ascii=False`, `sort_keys=True` and the compact
  separators.  The publisher sorts and escapes code points, the verifier bytes.

  Main results:
    * `canonical_json_bytes_eq`: both write one text for every value;
    * `plain_mem_iff`: the canonical form determines the plain members.
-/
import ResolverIdentity.Core.JsonText
import ResolverIdentity.Library.Utf8

namespace ResolverIdentity.Publisher

open Library Json

/-! ## §1. What is written. -/

mutual

/-- The value without members named `signature`, at every depth. -/
def strip_signature : Json → Json
  | .object fields => .object (strip_members fields)
  | .array items => .array (strip_list items)
  | .null => .null
  | .bool b => .bool b
  | .number n => .number n
  | .string s => .string s

/-- `{k: strip_signature(v) for k, v in value.items() if k != "signature"}` -/
def strip_members : List (String × Json) → List (String × Json)
  | [] => []
  | (k, v) :: rest =>
    if k = "signature" then strip_members rest
    else (k, strip_signature v) :: strip_members rest

/-- The items of a list, stripped. -/
def strip_list : List Json → List Json
  | [] => []
  | v :: rest => strip_signature v :: strip_list rest

end

/-- The order of two keys as Python's texts. -/
abbrev key_le (a b : String × Json) : Prop := a.1 ≤ b.1

mutual

/-- `sort_keys=True`. -/
def sort_keys : Json → Json
  | .object fields => .object ((sort_members fields).insertionSort key_le)
  | .array items => .array (sort_list items)
  | .null => .null
  | .bool b => .bool b
  | .number n => .number n
  | .string s => .string s

/-- The members, their values sorted. -/
def sort_members : List (String × Json) → List (String × Json)
  | [] => []
  | (k, v) :: rest => (k, sort_keys v) :: sort_members rest

/-- The items of a list, sorted inside. -/
def sort_list : List Json → List Json
  | [] => []
  | v :: rest => sort_keys v :: sort_list rest

end

/-! ## §2. How it is written. -/

/-- `'{0:x}'.format(n)` of one digit. -/
def hex_char (n : Nat) : Char := if n < 10 then Char.ofNat (48 + n) else Char.ofNat (87 + n)

/-- `ESCAPE_DCT`. -/
def escape_char (c : Char) : List Char :=
  if c = '"' || c = '\\' then ['\\', c]
  else if c = '\x08' then ['\\', 'b']
  else if c = '\t' then ['\\', 't']
  else if c = '\n' then ['\\', 'n']
  else if c = '\x0c' then ['\\', 'f']
  else if c = '\r' then ['\\', 'r']
  else if c.toNat < 32 then
    ['\\', 'u', '0', '0', hex_char (c.toNat / 16), hex_char (c.toNat % 16)]
  else [c]

/-- `py_encode_basestring`. -/
def encode_basestring (text : String) : List Char :=
  '"' :: text.toList.flatMap escape_char ++ ['"']

mutual

/-- `json.dumps` of what is sorted already. -/
def dumps : Json → List Char
  | .null => "null".toList
  | .bool true => "true".toList
  | .bool false => "false".toList
  | .number n => (toString n).toList
  | .string s => encode_basestring s
  | .array items => '[' :: dumps_list true items
  | .object fields => '{' :: dumps_members true fields

/-- The items after the opening bracket; only later ones follow a comma. -/
def dumps_list (first : Bool) : List Json → List Char
  | [] => [']']
  | v :: rest => (if first then [] else [',']) ++ dumps v ++ dumps_list false rest

/-- The members after the opening brace. -/
def dumps_members (first : Bool) : List (String × Json) → List Char
  | [] => ['}']
  | (k, v) :: rest =>
    (if first then [] else [',']) ++ encode_basestring k ++ ':' :: dumps v ++
      dumps_members false rest

end

/-- `.encode("utf-8")`. -/
def encode (chars : List Char) : List UInt8 := chars.flatMap String.utf8EncodeChar

/-- `canonical_json_bytes` of the publisher. -/
def canonical_json_bytes (value : Json) : List UInt8 :=
  encode (dumps (sort_keys (strip_signature value)))

/-! ## §3. One order of the keys. -/

/-- Keys in the order of their code points are in the order of their bytes. -/
theorem key_le_iff (a b : String × Json) : key_le a b ↔ keyLe a b := by
  show a.1 ≤ b.1 ↔ as_bytes a.1 ≤ as_bytes b.1
  rw [as_bytes_eq, as_bytes_eq, Utf8.flatMap_encode_le_iff, String.le_iff_toList_le]

theorem sorted_eq (fields : List (String × Json)) :
    fields.insertionSort key_le = fields.insertionSort keyLe := by
  have hsame : (key_le : String × Json → String × Json → Prop) = keyLe := by
    funext a b
    exact propext (key_le_iff a b)
  congr 1

mutual

/-- Stripping, then sorting, is the canonical form of the verifier. -/
theorem sort_strip : ∀ value : Json, sort_keys (strip_signature value) = value.strip_signatures
  | .null => rfl
  | .bool _ => rfl
  | .number _ => rfl
  | .string _ => rfl
  | .array items => by
    rw [strip_signature, sort_keys, strip_signatures, sort_strip_list items]
  | .object fields => by
    rw [strip_signature, sort_keys, strip_signatures, sort_strip_members fields, sorted_eq]

theorem sort_strip_members : ∀ fields : List (String × Json),
    sort_members (strip_members fields) = stripFields fields
  | [] => rfl
  | (k, v) :: rest => by
    rw [strip_members, stripFields]
    by_cases hk : k = "signature"
    · rw [if_pos hk, if_pos hk]
      exact sort_strip_members rest
    · rw [if_neg hk, if_neg hk, sort_members, sort_strip v, sort_strip_members rest]

theorem sort_strip_list : ∀ items : List Json, sort_list (strip_list items) = stripItems items
  | [] => rfl
  | v :: rest => by
    rw [strip_list, sort_list, stripItems, sort_strip v, sort_strip_list rest]

end

/-! ## §4. One text. -/

theorem encode_append (s t : List Char) : encode (s ++ t) = encode s ++ encode t :=
  List.flatMap_append

theorem encode_toList (text : String) : encode text.toList = as_bytes text :=
  (as_bytes_eq text).symm

/-- The bytes of a character beyond ASCII are none that is escaped. -/
theorem escape_high {c : Char} (h : 128 ≤ c.toNat) :
    ∀ byte ∈ String.utf8EncodeChar c, escape byte = [byte] := by
  have hall : ∀ n < 256, 128 ≤ n → escape (UInt8.ofNat n) = [UInt8.ofNat n] := by decide +kernel
  intro byte hmem
  have hescape := hall byte.toNat byte.toNat_lt (Utf8.high_bytes h byte hmem)
  rwa [UInt8.ofNat_toNat] at hescape

/-- One character is escaped alike before and after its encoding. -/
theorem escape_encode (c : Char) :
    encode (escape_char c) = (String.utf8EncodeChar c).flatMap escape := by
  by_cases hsmall : c.toNat < 128
  · have hall : ∀ n < 128, encode (escape_char (Char.ofNat n)) =
        (String.utf8EncodeChar (Char.ofNat n)).flatMap escape := by decide +kernel
    have hescape := hall c.toNat hsmall
    rwa [Char.ofNat_toNat] at hescape
  · have hhigh : 128 ≤ c.toNat := by omega
    have hkept : escape_char c = [c] := by
      have hne : ∀ d : Char, d.toNat < 128 → c ≠ d := by
        intro d hd heq
        rw [heq] at hhigh
        omega
      unfold escape_char
      rw [if_neg, if_neg, if_neg, if_neg, if_neg, if_neg, if_neg]
      · omega
      all_goals simp [hne]
    rw [hkept]
    show String.utf8EncodeChar c ++ [] = _
    rw [List.append_nil]
    have hflat : ∀ bytes : List UInt8, (∀ byte ∈ bytes, escape byte = [byte]) →
        bytes = bytes.flatMap escape := by
      intro bytes
      induction bytes with
      | nil => intro _; rfl
      | cons byte rest ih =>
        intro hbytes
        rw [List.flatMap_cons, hbytes byte List.mem_cons_self, List.singleton_append,
          ← ih (fun later hlater => hbytes later (List.mem_cons_of_mem _ hlater))]
    exact hflat _ (escape_high hhigh)

theorem encode_basestring_eq (text : String) :
    encode (encode_basestring text) = write_string text := by
  have hchars : ∀ chars : List Char, encode (chars.flatMap escape_char) =
      (encode chars).flatMap escape := by
    intro chars
    induction chars with
    | nil => rfl
    | cons c rest ih =>
      rw [List.flatMap_cons, encode_append, ih, escape_encode, ← List.flatMap_append]
      rfl
  show encode (['"'] ++ text.toList.flatMap escape_char ++ ['"']) = _
  rw [encode_append, encode_append, hchars, encode_toList]
  rfl

mutual

/-- The writers of the publisher and of the verifier write one text. -/
theorem dumps_eq : ∀ value : Json, encode (dumps value) = to_vec value
  | .null => encode_toList "null"
  | .bool true => encode_toList "true"
  | .bool false => encode_toList "false"
  | .number n => encode_toList (toString n)
  | .string s => encode_basestring_eq s
  | .array items => by
    show encode (['['] ++ dumps_list true items) = 91 :: write_items true items
    rw [encode_append, dumps_list_eq true items]
    rfl
  | .object fields => by
    show encode (['{'] ++ dumps_members true fields) = 123 :: write_fields true fields
    rw [encode_append, dumps_members_eq true fields]
    rfl

theorem dumps_list_eq : ∀ (first : Bool) (items : List Json),
    encode (dumps_list first items) = write_items first items
  | _, [] => rfl
  | first, v :: rest => by
    rw [dumps_list, write_items, encode_append, encode_append, dumps_eq v,
      dumps_list_eq false rest]
    cases first <;> rfl

theorem dumps_members_eq : ∀ (first : Bool) (fields : List (String × Json)),
    encode (dumps_members first fields) = write_fields first fields
  | _, [] => rfl
  | first, (k, v) :: rest => by
    have hcolon : encode (':' :: dumps v) = 58 :: to_vec v := by
      show encode ([':'] ++ dumps v) = _
      rw [encode_append, dumps_eq v]
      rfl
    rw [dumps_members, write_fields, encode_append, encode_append, encode_append,
      encode_basestring_eq, hcolon, dumps_members_eq false rest]
    cases first <;> rfl

end

/-- The publisher and the verifier write one canonical text for every value. -/
theorem canonical_json_bytes_eq (value : Json) :
    canonical_json_bytes value = to_vec value.strip_signatures := by
  unfold canonical_json_bytes
  rw [dumps_eq, sort_strip]

/-! ## §5. What the canonical form determines. -/

/-- Members that have one canonical form. -/
theorem mem_iff_of_strip_eq {fields fields' : List (String × Json)}
    (h : strip_signatures (.object fields) = strip_signatures (.object fields')) {key : String}
    (hkey : key ≠ "signature") (canonical : Json) :
    (∃ v, (key, v) ∈ fields ∧ canonical = v.strip_signatures) ↔
      ∃ v, (key, v) ∈ fields' ∧ canonical = v.strip_signatures := by
  have hform : ∃ form, strip_signatures (.object fields) = .object form := ⟨_, by
    rw [strip_signatures]⟩
  obtain ⟨form, hform⟩ := hform
  have hleft : (key, canonical) ∈ form ↔ _ := mem_strip_signatures hform
  have hright : (key, canonical) ∈ form ↔ _ := mem_strip_signatures (h.symm.trans hform)
  constructor
  · intro hmem
    exact (hright.mp (hleft.mpr ⟨hkey, hmem⟩)).2
  · intro hmem
    exact (hleft.mp (hright.mpr ⟨hkey, hmem⟩)).2

/-- Only the value itself has the value as its canonical form. -/
def Plain (value : Json) : Prop := ∀ v : Json, value = v.strip_signatures ↔ v = value

theorem plain_string (text : String) : Plain (.string text) := by
  intro v
  cases v <;> simp [strip_signatures, eq_comm]

theorem plain_number (n : Int) : Plain (.number n) := by
  intro v
  cases v <;> simp [strip_signatures, eq_comm]

theorem plain_texts (items : List String) : Plain (.array (items.map .string)) := by
  have hitems : ∀ (items : List String) (l : List Json),
      items.map Json.string = stripItems l ↔ l = items.map Json.string := by
    intro items
    induction items with
    | nil =>
      intro l
      cases l <;> simp [stripItems]
    | cons text rest ih =>
      intro l
      cases l with
      | nil => simp [stripItems]
      | cons v later =>
        rw [List.map_cons, stripItems, List.cons.injEq, List.cons.injEq, plain_string text v, ih]
  intro v
  cases v with
  | array l => rw [strip_signatures, Json.array.injEq, Json.array.injEq, hitems]
  | _ => simp [strip_signatures]

/-- A plain member is kept as it is. -/
theorem plain_mem_iff {fields fields' : List (String × Json)}
    (h : strip_signatures (.object fields) = strip_signatures (.object fields')) {key : String}
    (hkey : key ≠ "signature") {value : Json} (hplain : Plain value) :
    (key, value) ∈ fields ↔ (key, value) ∈ fields' := by
  have hmem := mem_iff_of_strip_eq h hkey value
  simp only [hplain _, exists_eq_right] at hmem
  exact hmem

end ResolverIdentity.Publisher
