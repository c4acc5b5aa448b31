/-
  ResolverIdentity.Core.Recorded: a platform that replays recorded results.

  A concrete `Platform` for runs on fixed inputs: the serializer is written out
  (compact JSON, serde_json's escapes), and digests and signatures come from a
  recording of the real SHA-256 and ed25519 on the values of that run.

  Main result:
    * `base64_decode_chars`: what is written in base64 is read back.
-/
import Mathlib.Algebra.Order.Ring.Int
import ResolverIdentity.Core.Crypto

namespace ResolverIdentity

namespace Json

/-! ## §1. The compact writer. -/

/-- One hexadecimal digit. -/
def hex_digit (n : Nat) : UInt8 := if n < 10 then UInt8.ofNat (48 + n) else UInt8.ofNat (87 + n)

/-- The escapes of serde_json: the quote, the backslash and the control characters. -/
def escape (byte : UInt8) : List UInt8 :=
  if byte = 34 || byte = 92 then [92, byte]
  else if byte = 8 then as_bytes "\\b"
  else if byte = 9 then as_bytes "\\t"
  else if byte = 10 then as_bytes "\\n"
  else if byte = 12 then as_bytes "\\f"
  else if byte = 13 then as_bytes "\\r"
  else if byte < 32 then
    as_bytes "\\u00" ++ [hex_digit (byte.toNat / 16), hex_digit (byte.toNat % 16)]
  else [byte]

/-- A string between its quotes. -/
def write_string (text : String) : List UInt8 := 34 :: (as_bytes text).flatMap escape ++ [34]

mutual

/-- `to_vec`, byte by byte. -/
def to_vec : Json → List UInt8
  | .null => as_bytes "null"
  | .bool true => as_bytes "true"
  | .bool false => as_bytes "false"
  | .number n => as_bytes (toString n)
  | .string s => write_string s
  | .array items => 91 :: write_items true items
  | .object fields => 123 :: write_fields true fields

/-- The items after the opening bracket; only later ones follow a comma. -/
def write_items (first : Bool) : List Json → List UInt8
  | [] => [93]
  | item :: rest => (if first then [] else [44]) ++ to_vec item ++ write_items false rest

/-- The fields after the opening brace. -/
def write_fields (first : Bool) : List (String × Json) → List UInt8
  | [] => [125]
  | (key, value) :: rest =>
    (if first then [] else [44]) ++ write_string key ++ 58 :: to_vec value ++
      write_fields false rest

end

end Json

/-! ## §2. Base64. -/

/-- The character of the standard alphabet with a value. -/
def base64_symbol (n : Nat) : Char :=
  if n < 26 then Char.ofNat (65 + n)
  else if n < 52 then Char.ofNat (71 + n)
  else if n < 62 then Char.ofNat (n - 4)
  else if n = 62 then '+'
  else '/'

/-- Three bytes are four characters; a shorter end is padded. -/
def base64_chars : List UInt8 → List Char
  | [] => []
  | [a] =>
    let n := a.toNat * 16
    [base64_symbol (n / 64), base64_symbol (n % 64), '=', '=']
  | [a, b] =>
    let n := (a.toNat * 256 + b.toNat) * 4
    [base64_symbol (n / 4096), base64_symbol (n / 64 % 64), base64_symbol (n % 64), '=']
  | a :: b :: c :: rest =>
    let n := (a.toNat * 256 + b.toNat) * 256 + c.toNat
    [base64_symbol (n / 262144), base64_symbol (n / 4096 % 64), base64_symbol (n / 64 % 64),
      base64_symbol (n % 64)] ++ base64_chars rest

/-- The value of a character of the alphabet. -/
def base64_value (byte : UInt8) : Option Nat :=
  let n := byte.toNat
  if 65 ≤ n && n ≤ 90 then some (n - 65)
  else if 97 ≤ n && n ≤ 122 then some (n - 71)
  else if 48 ≤ n && n ≤ 57 then some (n + 4)
  else if n = 43 then some 62
  else if n = 47 then some 63
  else none

/-- The low bytes of a number, most significant first. -/
def low_bytes : Nat → Nat → List UInt8
  | 0, _ => []
  | count + 1, n => low_bytes count (n / 256) ++ [UInt8.ofNat (n % 256)]

/-- One group of characters with `padding` of them left out; unused bits are zero. -/
def base64_group (chars : List UInt8) (padding : Nat) : Option (List UInt8) := do
  let values ← chars.mapM base64_value
  let n := values.foldl (fun n value => n * 64 + value) 0
  if n % 4 ^ padding = 0 then some (low_bytes (3 - padding) (n / 4 ^ padding)) else none

/-- Groups of four characters; only the last one may be padded, and then it is. -/
def base64_decode : List UInt8 → Option (List UInt8)
  | [] => some []
  | [a, b, c, d] =>
    if d = 61 then
      if c = 61 then base64_group [a, b] 2 else base64_group [a, b, c] 1
    else base64_group [a, b, c, d] 0
  | a :: b :: c :: d :: rest => do
    let head ← base64_group [a, b, c, d] 0
    let tail ← base64_decode rest
    some (head ++ tail)
  | _ => none

/-- The bytes of a recorded key or signature. -/
def base64_text (text : String) : List UInt8 := (base64_decode (as_bytes text)).getD []

/-- The byte of a symbol. -/
def base64_byte (n : Nat) : UInt8 := UInt8.ofNat (base64_symbol n).toNat

/-- A symbol is one byte with its value, and never the padding. -/
theorem base64_symbol_read : ∀ n < 64, String.utf8EncodeChar (base64_symbol n) = [base64_byte n] ∧
    base64_value (base64_byte n) = some n ∧ base64_byte n ≠ 61 := by
  decide +kernel

/-- The bytes of a text, character by character. -/
theorem as_bytes_cons (c : Char) (chars : List Char) :
    as_bytes (String.ofList (c :: chars)) =
      String.utf8EncodeChar c ++ as_bytes (String.ofList chars) := by
  simp [as_bytes, String.toByteArray_ofList, List.utf8Encode]

theorem as_bytes_symbol {n : Nat} (h : n < 64) (chars : List Char) :
    as_bytes (String.ofList (base64_symbol n :: chars)) =
      base64_byte n :: as_bytes (String.ofList chars) := by
  rw [as_bytes_cons, (base64_symbol_read n h).1]
  rfl

theorem as_bytes_padding (chars : List Char) :
    as_bytes (String.ofList ('=' :: chars)) = 61 :: as_bytes (String.ofList chars) := by
  rw [as_bytes_cons]
  rfl

/-- Three bytes come back from their group of symbols. -/
theorem base64_group_three (a b c : UInt8) {n : Nat}
    (hn : n = (a.toNat * 256 + b.toNat) * 256 + c.toNat) :
    base64_group [base64_byte (n / 262144), base64_byte (n / 4096 % 64),
      base64_byte (n / 64 % 64), base64_byte (n % 64)] 0 = some [a, b, c] := by
  have ha := a.toNat_lt
  have hb := b.toNat_lt
  have hc := c.toNat_lt
  have hvalue : ∀ m < 64, base64_value (base64_byte m) = some m :=
    fun m hm => (base64_symbol_read m hm).2.1
  have hsum : (((0 * 64 + n / 262144) * 64 + n / 4096 % 64) * 64 + n / 64 % 64) * 64 + n % 64 = n := by
    omega
  have hlow : low_bytes 3 n = [a, b, c] := by
    have h1 : n / 256 / 256 % 256 = a.toNat := by omega
    have h2 : n / 256 % 256 = b.toNat := by omega
    have h3 : n % 256 = c.toNat := by omega
    simp only [low_bytes, h1, h2, h3, UInt8.ofNat_toNat, List.nil_append, List.cons_append]
  unfold base64_group
  simp only [List.mapM_cons, List.mapM_nil, hvalue (n / 262144) (by omega),
    hvalue (n / 4096 % 64) (by omega), hvalue (n / 64 % 64) (by omega), hvalue (n % 64) (by omega),
    Option.pure_def, Option.bind_eq_bind, Option.bind_some, List.foldl_cons, List.foldl_nil, hsum]
  simp [Nat.mod_one, hlow]

/-- Two bytes come back from a group with one padding. -/
theorem base64_group_two (a b : UInt8) {n : Nat} (hn : n = (a.toNat * 256 + b.toNat) * 4) :
    base64_group [base64_byte (n / 4096), base64_byte (n / 64 % 64), base64_byte (n % 64)] 1 =
      some [a, b] := by
  have ha := a.toNat_lt
  have hb := b.toNat_lt
  have hvalue : ∀ m < 64, base64_value (base64_byte m) = some m :=
    fun m hm => (base64_symbol_read m hm).2.1
  have hsum : ((0 * 64 + n / 4096) * 64 + n / 64 % 64) * 64 + n % 64 = n := by
    omega
  have hlow : low_bytes 2 (n / 4) = [a, b] := by
    have h1 : n / 4 / 256 % 256 = a.toNat := by omega
    have h2 : n / 4 % 256 = b.toNat := by omega
    simp only [low_bytes, h1, h2, UInt8.ofNat_toNat, List.nil_append, List.cons_append]
  have hunused : n % 4 = 0 := by omega
  unfold base64_group
  simp only [List.mapM_cons, List.mapM_nil, hvalue (n / 4096) (by omega),
    hvalue (n / 64 % 64) (by omega), hvalue (n % 64) (by omega),
    Option.pure_def, Option.bind_eq_bind, Option.bind_some, List.foldl_cons, List.foldl_nil, hsum]
  simp [hunused, hlow]

/-- One byte comes back from a group with two. -/
theorem base64_group_one (a : UInt8) {n : Nat} (hn : n = a.toNat * 16) :
    base64_group [base64_byte (n / 64), base64_byte (n % 64)] 2 = some [a] := by
  have ha := a.toNat_lt
  have hvalue : ∀ m < 64, base64_value (base64_byte m) = some m :=
    fun m hm => (base64_symbol_read m hm).2.1
  have hsum : (0 * 64 + n / 64) * 64 + n % 64 = n := by
    omega
  have hlow : low_bytes 1 (n / 16) = [a] := by
    have h1 : n / 16 % 256 = a.toNat := by omega
    simp only [low_bytes, h1, UInt8.ofNat_toNat, List.nil_append]
  have hunused : n % 16 = 0 := by omega
  unfold base64_group
  simp only [List.mapM_cons, List.mapM_nil, hvalue (n / 64) (by omega), hvalue (n % 64) (by omega),
    Option.pure_def, Option.bind_eq_bind, Option.bind_some, List.foldl_cons, List.foldl_nil, hsum]
  simp [hunused, hlow]

/-- What is written in base64 is read back. -/
theorem base64_decode_chars (bytes : List UInt8) :
    base64_decode (as_bytes (String.ofList (base64_chars bytes))) = some bytes := by
  induction bytes using base64_chars.induct with
  | case1 => rfl
  | case2 a =>
    have ha := a.toNat_lt
    rw [base64_chars]
    generalize hn : a.toNat * 16 = n
    rw [as_bytes_symbol (by omega), as_bytes_symbol (by omega), as_bytes_padding, as_bytes_padding]
    show base64_decode [_, _, 61, 61] = _
    rw [base64_decode, if_pos rfl, if_pos rfl]
    exact base64_group_one a hn.symm
  | case3 a b =>
    have ha := a.toNat_lt
    have hb := b.toNat_lt
    rw [base64_chars]
    generalize hn : (a.toNat * 256 + b.toNat) * 4 = n
    rw [as_bytes_symbol (by omega), as_bytes_symbol (by omega), as_bytes_symbol (by omega),
      as_bytes_padding]
    show base64_decode [_, _, _, 61] = _
    rw [base64_decode, if_pos rfl, if_neg (base64_symbol_read (n % 64) (by omega)).2.2]
    exact base64_group_two a b hn.symm
  | case4 a b c rest ih =>
    have ha := a.toNat_lt
    have hb := b.toNat_lt
    have hc := c.toNat_lt
    rw [base64_chars]
    generalize hn : (a.toNat * 256 + b.toNat) * 256 + c.toNat = n
    dsimp only [List.cons_append, List.nil_append]
    rw [as_bytes_symbol (by omega), as_bytes_symbol (by omega), as_bytes_symbol (by omega),
      as_bytes_symbol (by omega)]
    have hgroup := base64_group_three a b c hn.symm
    -- the last group is read by the branch that allows padding
    cases htail : as_bytes (String.ofList (base64_chars rest)) with
    | nil =>
      rw [htail] at ih
      obtain rfl : rest = [] := (Option.some.inj ih).symm
      rw [base64_decode, if_neg (base64_symbol_read (n % 64) (by omega)).2.2]
      exact hgroup
    | cons byte tail =>
      rw [htail] at ih
      rw [base64_decode, hgroup, ih]
      · rfl
      · intro h
        cases h

/-! ## §3. Recordings. -/

/-- What the real functions answered in one run.  Digests and signatures are found
again by how the canonical text begins, which tells the values of a run apart; keys and
signatures are in base64, and a signature stands under its public key. -/
structure Recording where
  digests : List (String × String)
  keys : List (String × String)
  signatures : List (String × String × String)

namespace Recording

/-- `starts_with`, on bytes. -/
def begins (bytes : List UInt8) (text : String) : Bool := (as_bytes text).isPrefixOf bytes

/-- The public key of a seed. -/
def public_key (recording : Recording) (seed : List UInt8) : List UInt8 :=
  ((recording.keys.find? (fun pair => base64_text pair.1 = seed)).map
    (fun pair => base64_text pair.2)).getD []

/-- The recorded signature of a text. -/
def signed (recording : Recording) (public_key bytes : List UInt8) : Option (List UInt8) :=
  (recording.signatures.find? (fun entry =>
    begins bytes entry.2.1 && base64_text entry.1 = public_key)).map
      (fun entry => base64_text entry.2.2)

/-- The platform that answers from a recording. -/
def platform (recording : Recording) : Platform where
  to_vec := Json.to_vec
  sha256_hex := fun bytes =>
    ((recording.digests.find? (fun entry => begins bytes entry.1)).map Prod.snd).getD "0x"
  base64_encode := fun bytes => String.ofList (base64_chars bytes)
  base64_decode := base64_decode
  ed25519_public_key := recording.public_key
  ed25519_valid_key := fun key => recording.keys.any (fun pair => base64_text pair.2 = key)
  ed25519_sign := fun seed bytes => (recording.signed (recording.public_key seed) bytes).getD []
  ed25519_verify := fun key bytes signature => recording.signed key bytes = some signature
  to_lowercase := String.toLower
  parse_ip := some
  canonical_url := some

end Recording

/-- A well-formed digest of one repeated digit. -/
def digest_of (c : Char) : String := "0x" ++ String.ofList (List.replicate 64 c)

/-! ## §4. A query and its answer. -/

/-- The query `example A` under a transaction id below 256. -/
def query_wire (transaction_id : UInt8) : List UInt8 :=
  [0, transaction_id, 1, 0, 0, 1, 0, 0, 0, 0, 0, 0, 7, 101, 120, 97, 109, 112, 108, 101, 0, 0, 1, 0,
    1]

/-- Its answer. -/
def answer_wire (transaction_id : UInt8) : List UInt8 :=
  [0, transaction_id, 129, 128, 0, 1, 0, 1, 0, 0, 0, 0, 7, 101, 120, 97, 109, 112, 108, 101, 0, 0,
    1, 0, 1, 192, 12, 0, 1, 0, 1, 0, 0, 0, 0, 0, 4, 192, 0, 2, 1]

/-- SHA-256 of the two messages and of the texts their correlation ids are made of. -/
def wire_digests : List (String × String) := [
    ("dns-correlation-v2:0007:",
      "0xba74f72bb38fc47df9524dd8705dd8e57456bf357b1888ec486e50c385ecd905"),
    ("dns-correlation-v2:0008:",
      "0xefd55e16e7b865606434ee104b1fd4092f404598bea0df5359d22659012668a4"),
    ("dns-correlation-v2:0009:",
      "0x2cfea27e3eeb843e45aa43cc5d53a08e76db386bd2c7b84b305b2ec7178226b5"),
    -- the query, then the answer: its TTL is 0, so both of its digests are one
    ("\x00\x00\x01\x00\x00\x01\x00\x00\x00\x00\x00\x00\x07example\x00\x00\x01\x00\x01",
      "0xd9980e7ede56b88af0d215ed6a4943dd6ffc0b6e3478abe8ef683a1255ae5616"),
    ("\x00\x00", "0x1429f43ff6c4913a2b148b1050473a728af3a84ccc962544bcc798d8460910b6")]

end ResolverIdentity
