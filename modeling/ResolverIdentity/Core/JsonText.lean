/-
  ResolverIdentity.Core.JsonText: the compact writer loses nothing.

  Two values with one text are one value.  A text is read from the front: its first
  byte tells the kind of the value, and every kind but a number tells where it ends;
  a number ends where no digit follows.

  Main results:
    * `write_string_append_inj`: the quote closes a text, whatever is in it;
    * `to_vec_append_inj`: a value is determined by a text that begins with its own;
    * `to_vec_injective`: the writer is injective.
-/
import ResolverIdentity.Core.Recorded

namespace ResolverIdentity.Json

/-! ## §1. Texts. -/

theorem as_bytes_injective : Function.Injective as_bytes := by
  intro a b h
  unfold as_bytes at h
  rw [← String.toByteArray_inj]
  exact ByteArray.ext (Array.toList_inj.mp h)

theorem as_bytes_eq (text : String) :
    as_bytes text = text.toList.flatMap String.utf8EncodeChar := by
  have htext : text.toByteArray = (String.ofList text.toList).toByteArray := by
    rw [String.ofList_toList]
  unfold as_bytes
  rw [htext, String.toByteArray_ofList]
  unfold List.utf8Encode
  rw [List.data_toByteArray]

/-- The byte an escape stands for. -/
def unescape : List UInt8 → UInt8
  | [byte] => byte
  | [_, byte] =>
    if byte = 98 then 8
    else if byte = 116 then 9
    else if byte = 110 then 10
    else if byte = 102 then 12
    else if byte = 114 then 13
    else byte
  | [_, _, _, _, high, low] =>
    (if high < 58 then high - 48 else high - 87) * 16 + (if low < 58 then low - 48 else low - 87)
  | _ => 0

/-- How many bytes an escape takes, from its first two. -/
def escape_width : List UInt8 → Nat
  | 92 :: 117 :: _ => 6
  | 92 :: _ => 2
  | _ => 1

theorem unescape_escape (byte : UInt8) : unescape (escape byte) = byte := by
  have hall : ∀ n < 256, unescape (escape (UInt8.ofNat n)) = UInt8.ofNat n := by
    decide +kernel
  have hbyte := hall byte.toNat byte.toNat_lt
  rw [UInt8.ofNat_toNat] at hbyte
  exact hbyte

/-- No escape begins with a quote, and its first two bytes tell its width. -/
theorem escape_shape (byte : UInt8) :
    (escape byte).head? ≠ some 34 ∧ escape byte ≠ [] ∧
      escape_width (escape byte) = (escape byte).length ∧
        ((escape byte).length = 1 → (escape byte).head? ≠ some 92) := by
  have hall : ∀ n < 256, (escape (UInt8.ofNat n)).head? ≠ some 34 ∧ escape (UInt8.ofNat n) ≠ [] ∧
      escape_width (escape (UInt8.ofNat n)) = (escape (UInt8.ofNat n)).length ∧
        ((escape (UInt8.ofNat n)).length = 1 → (escape (UInt8.ofNat n)).head? ≠ some 92) := by
    decide +kernel
  have hbyte := hall byte.toNat byte.toNat_lt
  rw [UInt8.ofNat_toNat] at hbyte
  exact hbyte

theorem escape_width_append (byte : UInt8) (rest : List UInt8) :
    escape_width (escape byte ++ rest) = (escape byte).length := by
  obtain ⟨_, hne, hwidth, hshort⟩ := escape_shape byte
  cases hescape : escape byte with
  | nil => exact absurd hescape hne
  | cons first tail =>
    rw [hescape] at hwidth hshort
    rw [← hwidth]
    cases tail with
    | nil =>
      -- a byte that stands for itself is no backslash
      have hfirst : first ≠ 92 := fun heq => hshort rfl (congrArg some heq)
      show escape_width (first :: rest) = escape_width [first]
      unfold escape_width
      split
      · exact absurd (List.cons.inj ‹_›).1 hfirst
      · exact absurd (List.cons.inj ‹_›).1 hfirst
      · split
        · exact absurd (List.cons.inj ‹_›).1 hfirst
        · exact absurd (List.cons.inj ‹_›).1 hfirst
        · rfl
    | cons second tail =>
      by_cases hfirst : first = 92
      · by_cases hsecond : second = 117
        · rw [hfirst, hsecond]
          rfl
        · rw [hfirst]
          show escape_width (92 :: second :: (tail ++ rest)) = escape_width (92 :: second :: tail)
          simp [escape_width, hsecond]
      · show escape_width (first :: second :: (tail ++ rest)) = escape_width (first :: second :: tail)
        simp [escape_width, hfirst]

theorem escape_append_inj {byte byte' : UInt8} {rest rest' : List UInt8}
    (h : escape byte ++ rest = escape byte' ++ rest') : byte = byte' ∧ rest = rest' := by
  have hlength : (escape byte).length = (escape byte').length := by
    rw [← escape_width_append byte rest, ← escape_width_append byte' rest', h]
  obtain ⟨hescape, hrest⟩ := List.append_inj h hlength
  refine ⟨?_, hrest⟩
  rw [← unescape_escape byte, hescape, unescape_escape]

/-- The first quote that is not escaped closes the text. -/
theorem quoted_append_inj {bytes : List UInt8} :
    ∀ {bytes' x y : List UInt8},
      bytes.flatMap escape ++ 34 :: x = bytes'.flatMap escape ++ 34 :: y →
        bytes = bytes' ∧ x = y := by
  induction bytes with
  | nil =>
    intro bytes' x y h
    cases bytes' with
    | nil => exact ⟨rfl, (List.cons.inj h).2⟩
    | cons byte' rest' =>
      rw [List.flatMap_cons, List.append_assoc] at h
      obtain ⟨hquote, hne, _⟩ := escape_shape byte'
      cases hescape : escape byte' with
      | nil => exact absurd hescape hne
      | cons first tail =>
        rw [hescape] at h hquote
        exact absurd (congrArg some (List.cons.inj h).1.symm) hquote
  | cons byte rest ih =>
    intro bytes' x y h
    cases bytes' with
    | nil =>
      rw [List.flatMap_cons, List.append_assoc] at h
      obtain ⟨hquote, hne, _⟩ := escape_shape byte
      cases hescape : escape byte with
      | nil => exact absurd hescape hne
      | cons first tail =>
        rw [hescape] at h hquote
        exact absurd (congrArg some (List.cons.inj h).1) hquote
    | cons byte' rest' =>
      rw [List.flatMap_cons, List.flatMap_cons, List.append_assoc, List.append_assoc] at h
      obtain ⟨hbyte, hrest⟩ := escape_append_inj h
      obtain ⟨hbytes, hxy⟩ := ih hrest
      exact ⟨by rw [hbyte, hbytes], hxy⟩

theorem write_string_append_inj {s t : String} {x y : List UInt8}
    (h : write_string s ++ x = write_string t ++ y) : s = t ∧ x = y := by
  unfold write_string at h
  rw [List.cons_append, List.cons_append, List.cons_append, List.cons_append, List.append_assoc,
    List.append_assoc] at h
  obtain ⟨hbytes, hxy⟩ := quoted_append_inj (List.cons.inj h).2
  exact ⟨as_bytes_injective hbytes, hxy⟩

/-! ## §2. Numbers. -/

/-- The bytes of a number: the digits and the sign. -/
def is_numeric (byte : UInt8) : Bool := byte = 45 || (48 ≤ byte && byte ≤ 57)

/-- The text does not go on with a digit. -/
def Stops (text : List UInt8) : Prop := ∀ byte ∈ text.head?, is_numeric byte = false

/-- The characters of a number. -/
def number_chars : Int → List Char
  | .ofNat n => Nat.toDigits 10 n
  | .negSucc n => '-' :: Nat.toDigits 10 (n + 1)

theorem toString_number (n : Int) : toString n = String.ofList (number_chars n) := by
  cases n with
  | ofNat n => rfl
  | negSucc n =>
    show "-" ++ String.ofList (Nat.toDigits 10 (n + 1)) =
      String.ofList ('-' :: Nat.toDigits 10 (n + 1))
    rw [String.ofList_cons]
    rfl

theorem toDigits_injective {m n : Nat} (h : Nat.toDigits 10 m = Nat.toDigits 10 n) : m = n := by
  rw [← Nat.ofDigitChars_ten_toDigits (n := m), h, Nat.ofDigitChars_ten_toDigits]

/-- A sign is no digit. -/
theorem toDigits_ne_minus {n : Nat} {rest : List Char} : Nat.toDigits 10 n ≠ '-' :: rest := by
  intro h
  have hmem : '-' ∈ Nat.toDigits 10 n := by
    rw [h]
    exact List.mem_cons_self
  have hdigit := Nat.isDigit_of_mem_toDigits (by decide) (by decide) hmem
  exact absurd hdigit (by decide)

theorem number_chars_injective {m n : Int} (h : number_chars m = number_chars n) : m = n := by
  cases m with
  | ofNat m =>
    cases n with
    | ofNat n => rw [toDigits_injective h]
    | negSucc n => exact absurd h toDigits_ne_minus
  | negSucc m =>
    cases n with
    | ofNat n => exact absurd h.symm toDigits_ne_minus
    | negSucc n =>
      have hnext : m + 1 = n + 1 := toDigits_injective (List.cons.inj h).2
      rw [Nat.succ.inj hnext]

/-- A digit or a sign is one byte, and a numeric one. -/
theorem numeric_of_char {c : Char} (h : c = '-' ∨ c.isDigit = true) :
    ∀ byte ∈ String.utf8EncodeChar c, is_numeric byte = true := by
  have hsmall : ∀ n < 58, 48 ≤ n →
      ∀ byte ∈ String.utf8EncodeChar (Char.ofNat n), is_numeric byte = true := by
    decide +kernel
  rcases h with heq | hdigit
  · rw [heq]
    decide +kernel
  · obtain ⟨hlow, hhigh⟩ := Char.isDigit_iff_toNat.mp hdigit
    have hlow' : 48 ≤ c.toNat := hlow
    have hhigh' : c.toNat < 58 := Nat.lt_succ_of_le hhigh
    rw [← Char.ofNat_toNat c]
    exact hsmall c.toNat hhigh' hlow'

theorem number_chars_numeric (n : Int) : ∀ c ∈ number_chars n, c = '-' ∨ c.isDigit = true := by
  intro c hc
  cases n with
  | ofNat n => exact Or.inr (Nat.isDigit_of_mem_toDigits (by decide) (by decide) hc)
  | negSucc n =>
    rcases List.mem_cons.mp hc with heq | hc
    · exact Or.inl heq
    · exact Or.inr (Nat.isDigit_of_mem_toDigits (by decide) (by decide) hc)

/-- The bytes of a number: at least one, all of them numeric. -/
theorem number_bytes (n : Int) :
    as_bytes (toString n) ≠ [] ∧ ∀ byte ∈ as_bytes (toString n), is_numeric byte = true := by
  have hbytes : as_bytes (toString n) = (number_chars n).flatMap String.utf8EncodeChar := by
    unfold as_bytes
    rw [toString_number, String.toByteArray_ofList]
    unfold List.utf8Encode
    rw [List.data_toByteArray]
  rw [hbytes]
  constructor
  · intro hnil
    rw [List.flatMap_eq_nil_iff] at hnil
    cases hchars : number_chars n with
    | nil =>
      cases n with
      | ofNat n => exact Nat.toDigits_ne_nil hchars
      | negSucc n => cases hchars
    | cons c rest =>
      rw [hchars] at hnil
      exact String.utf8EncodeChar_ne_nil (hnil c List.mem_cons_self)
  · intro byte hbyte
    obtain ⟨c, hc, hbyte⟩ := List.mem_flatMap.mp hbyte
    exact numeric_of_char (number_chars_numeric n c hc) byte hbyte

/-- The digits at the front of a text that stops after them. -/
theorem takeWhile_numeric {bytes rest : List UInt8}
    (hbytes : ∀ byte ∈ bytes, is_numeric byte = true) (hrest : Stops rest) :
    (bytes ++ rest).takeWhile is_numeric = bytes := by
  rw [List.takeWhile_append_of_pos hbytes]
  cases rest with
  | nil => rw [List.takeWhile_nil, List.append_nil]
  | cons byte rest =>
    rw [List.takeWhile_cons_of_neg (by rw [hrest byte rfl]; decide), List.append_nil]

theorem number_append_inj {m n : Int} {x y : List UInt8} (hx : Stops x) (hy : Stops y)
    (h : as_bytes (toString m) ++ x = as_bytes (toString n) ++ y) : m = n ∧ x = y := by
  have hbytes : as_bytes (toString m) = as_bytes (toString n) := by
    rw [← takeWhile_numeric (number_bytes m).2 hx, h, takeWhile_numeric (number_bytes n).2 hy]
  rw [hbytes] at h
  refine ⟨?_, List.append_cancel_left h⟩
  have htext := as_bytes_injective hbytes
  rw [toString_number, toString_number] at htext
  exact number_chars_injective (String.ofList_injective htext)

/-! ## §3. Values. -/

/-- The kinds of values a first byte tells apart. -/
inductive Kind where
  | null
  | true
  | false
  | number
  | string
  | array
  | object
  | other
  deriving DecidableEq

/-- The kind of a value. -/
def kind : Json → Kind
  | .null => .null
  | .bool .true => .true
  | .bool .false => .false
  | .number _ => .number
  | .string _ => .string
  | .array _ => .array
  | .object _ => .object

/-- The kind of a value whose text begins with the byte. -/
def kind_of (byte : UInt8) : Kind :=
  if is_numeric byte then .number
  else if byte = 110 then .null
  else if byte = 116 then .true
  else if byte = 102 then .false
  else if byte = 34 then .string
  else if byte = 91 then .array
  else if byte = 123 then .object
  else .other

theorem to_vec_kind (value : Json) :
    ∃ byte rest, to_vec value = byte :: rest ∧ kind_of byte = value.kind := by
  cases value with
  | null => exact ⟨110, _, rfl, by decide⟩
  | bool b =>
    cases b with
    | false => exact ⟨102, _, rfl, by decide⟩
    | true => exact ⟨116, _, rfl, by decide⟩
  | number n =>
    obtain ⟨hne, hnumeric⟩ := number_bytes n
    cases hbytes : as_bytes (toString n) with
    | nil => exact absurd hbytes hne
    | cons byte rest =>
      have hbyte : is_numeric byte = true := by
        rw [hbytes] at hnumeric
        exact hnumeric byte List.mem_cons_self
      refine ⟨byte, rest, by rw [to_vec, hbytes], ?_⟩
      unfold kind_of
      rw [if_pos hbyte]
      rfl
  | string s => exact ⟨34, _, by rw [to_vec, write_string]; rfl, (by decide : kind_of 34 = .string)⟩
  | array items => exact ⟨91, _, by rw [to_vec], (by decide : kind_of 91 = .array)⟩
  | object fields => exact ⟨123, _, by rw [to_vec], (by decide : kind_of 123 = .object)⟩

theorem kind_ne_other (value : Json) : value.kind ≠ .other := by
  cases value with
  | bool b => cases b <;> exact Kind.noConfusion
  | _ => exact Kind.noConfusion

/-- Values of one text are of one kind. -/
theorem kind_eq_of_to_vec_append {a b : Json} {x y : List UInt8}
    (h : to_vec a ++ x = to_vec b ++ y) : a.kind = b.kind := by
  obtain ⟨byte, rest, ha, hkind⟩ := to_vec_kind a
  obtain ⟨byte', rest', hb, hkind'⟩ := to_vec_kind b
  rw [ha, hb] at h
  rw [← hkind, ← hkind', (List.cons.inj h).1]

/-- No value begins with a closing bracket or a brace. -/
theorem to_vec_ne_close {value : Json} {byte : UInt8} {x y : List UInt8}
    (hbyte : kind_of byte = .other) : to_vec value ++ x ≠ byte :: y := by
  intro h
  obtain ⟨first, rest, hvalue, hkind⟩ := to_vec_kind value
  rw [hvalue] at h
  rw [(List.cons.inj h).1, hbyte] at hkind
  exact kind_ne_other value hkind.symm

/-- What follows an item is a comma or the closing bracket. -/
theorem stops_write_items (items : List Json) (x : List UInt8) :
    Stops (write_items false items ++ x) := by
  cases items with
  | nil =>
    intro byte hbyte
    rw [← Option.some.inj hbyte]
    decide
  | cons item rest =>
    intro byte hbyte
    rw [← Option.some.inj hbyte]
    decide

theorem stops_write_fields (fields : List (String × Json)) (x : List UInt8) :
    Stops (write_fields false fields ++ x) := by
  cases fields with
  | nil =>
    intro byte hbyte
    rw [← Option.some.inj hbyte]
    decide
  | cons field rest =>
    intro byte hbyte
    rw [← Option.some.inj hbyte]
    decide

mutual

/-- A text begins with the text of one value only. -/
theorem to_vec_append_inj : ∀ (a b : Json) {x y : List UInt8}, Stops x → Stops y →
    to_vec a ++ x = to_vec b ++ y → a = b ∧ x = y
  | .null, b, x, y, _, _, h => by
    have hkind : Kind.null = b.kind := kind_eq_of_to_vec_append h
    cases b with
    | null => exact ⟨rfl, List.append_cancel_left h⟩
    | bool b => cases b <;> cases hkind
    | _ => cases hkind
  | .bool a, b, x, y, _, _, h => by
    have hkind : (Json.bool a).kind = b.kind := kind_eq_of_to_vec_append h
    cases b with
    | bool b =>
      have heq : a = b := by
        cases a <;> cases b <;> first | rfl | cases hkind
      rw [heq] at h ⊢
      exact ⟨rfl, List.append_cancel_left h⟩
    | _ => cases a <;> cases hkind
  | .number n, b, x, y, hx, hy, h => by
    have hkind : Kind.number = b.kind := kind_eq_of_to_vec_append h
    cases b with
    | number m =>
      rw [to_vec, to_vec] at h
      obtain ⟨hn, hxy⟩ := number_append_inj hx hy h
      exact ⟨by rw [hn], hxy⟩
    | bool b => cases b <;> cases hkind
    | _ => cases hkind
  | .string s, b, x, y, _, _, h => by
    have hkind : Kind.string = b.kind := kind_eq_of_to_vec_append h
    cases b with
    | string t =>
      rw [to_vec, to_vec] at h
      obtain ⟨hs, hxy⟩ := write_string_append_inj h
      exact ⟨by rw [hs], hxy⟩
    | bool b => cases b <;> cases hkind
    | _ => cases hkind
  | .array items, b, x, y, _, _, h => by
    have hkind : Kind.array = b.kind := kind_eq_of_to_vec_append h
    cases b with
    | array items' =>
      rw [to_vec, to_vec] at h
      obtain ⟨hitems, hxy⟩ := write_items_append_inj true items items' (List.cons.inj h).2
      exact ⟨by rw [hitems], hxy⟩
    | bool b => cases b <;> cases hkind
    | _ => cases hkind
  | .object fields, b, x, y, _, _, h => by
    have hkind : Kind.object = b.kind := kind_eq_of_to_vec_append h
    cases b with
    | object fields' =>
      rw [to_vec, to_vec] at h
      obtain ⟨hfields, hxy⟩ := write_fields_append_inj true fields fields' (List.cons.inj h).2
      exact ⟨by rw [hfields], hxy⟩
    | bool b => cases b <;> cases hkind
    | _ => cases hkind

theorem write_items_append_inj (first : Bool) : ∀ (items items' : List Json) {x y : List UInt8},
    write_items first items ++ x = write_items first items' ++ y → items = items' ∧ x = y
  | [], [], x, y, h => ⟨rfl, (List.cons.inj h).2⟩
  | [], item' :: rest', x, y, h => by
    rw [write_items, write_items, List.append_assoc, List.append_assoc] at h
    cases first with
    | true => exact absurd h.symm (to_vec_ne_close (by decide))
    | false => exact absurd (List.cons.inj h).1 (by decide)
  | item :: rest, [], x, y, h => by
    rw [write_items, write_items, List.append_assoc, List.append_assoc] at h
    cases first with
    | true => exact absurd h (to_vec_ne_close (by decide))
    | false => exact absurd (List.cons.inj h).1 (by decide)
  | item :: rest, item' :: rest', x, y, h => by
    rw [write_items, write_items, List.append_assoc, List.append_assoc, List.append_assoc,
      List.append_assoc] at h
    obtain ⟨hitem, hrest⟩ := to_vec_append_inj item item' (stops_write_items rest x)
      (stops_write_items rest' y) (List.append_cancel_left h)
    obtain ⟨hitems, hxy⟩ := write_items_append_inj false rest rest' hrest
    exact ⟨by rw [hitem, hitems], hxy⟩

theorem write_fields_append_inj (first : Bool) :
    ∀ (fields fields' : List (String × Json)) {x y : List UInt8},
      write_fields first fields ++ x = write_fields first fields' ++ y →
        fields = fields' ∧ x = y
  | [], [], x, y, h => ⟨rfl, (List.cons.inj h).2⟩
  | [], (key', value') :: rest', x, y, h => by
    rw [write_fields, write_fields, List.append_assoc, List.append_assoc, List.append_assoc] at h
    cases first with
    | true => exact absurd (List.cons.inj h).1 (by decide)
    | false => exact absurd (List.cons.inj h).1 (by decide)
  | (key, value) :: rest, [], x, y, h => by
    rw [write_fields, write_fields, List.append_assoc, List.append_assoc, List.append_assoc] at h
    cases first with
    | true => exact absurd (List.cons.inj h).1 (by decide)
    | false => exact absurd (List.cons.inj h).1 (by decide)
  | (key, value) :: rest, (key', value') :: rest', x, y, h => by
    rw [write_fields, write_fields, List.append_assoc, List.append_assoc, List.append_assoc,
      List.append_assoc, List.append_assoc, List.append_assoc] at h
    obtain ⟨hkey, hvalue⟩ := write_string_append_inj (List.append_cancel_left h)
    rw [List.cons_append, List.cons_append] at hvalue
    obtain ⟨hvalue, hrest⟩ := to_vec_append_inj value value' (stops_write_fields rest x)
      (stops_write_fields rest' y) (List.cons.inj hvalue).2
    obtain ⟨hfields, hxy⟩ := write_fields_append_inj false rest rest' hrest
    exact ⟨by rw [hkey, hvalue, hfields], hxy⟩

end

/-- The writer is injective. -/
theorem to_vec_injective : Function.Injective to_vec := by
  intro a b h
  have hempty : Stops [] := fun _ hmem => (nomatch hmem)
  exact (to_vec_append_inj a b hempty hempty (by rw [h])).1

end ResolverIdentity.Json
