/-
  ResolverIdentity.Library.PythonText: text as Python reads it.

  `int()` of a text, `str.split` and `str.rsplit` by one character, and `str.strip`.
  A text is a list of code points; the character tables are those of Unicode 14, which
  Python 3.11 carries.

  Main results:
    * `separator_of_int_value`: the text of an integer has no separator in it;
    * `split_join`: a joined text is split again;
    * `rsplit_once_append`: a last separator is found again.
-/
import Mathlib.Data.List.TakeWhile

namespace ResolverIdentity.Library

/-! ## §1. Characters. -/

/-- `str.isspace` of one character. -/
def is_space (c : Char) : Bool :=
  let n := c.toNat
  (9 ≤ n && n ≤ 13) || (0x1c ≤ n && n ≤ 0x20) || n = 0x85 || n = 0xa0 || n = 0x1680 ||
    (0x2000 ≤ n && n ≤ 0x200a) || n = 0x2028 || n = 0x2029 || n = 0x202f || n = 0x205f ||
    n = 0x3000

/-- The zeros of the decimal digits; nine digits follow each of them. -/
def decimal_zeros : List Nat := [
    0x30, 0x660, 0x6f0, 0x7c0, 0x966, 0x9e6, 0xa66, 0xae6, 0xb66, 0xbe6, 0xc66, 0xce6, 0xd66, 0xde6,
    0xe50, 0xed0, 0xf20, 0x1040, 0x1090, 0x17e0, 0x1810, 0x1946, 0x19d0, 0x1a80, 0x1a90, 0x1b50,
    0x1bb0, 0x1c40, 0x1c50, 0xa620, 0xa8d0, 0xa900, 0xa9d0, 0xa9f0, 0xaa50, 0xabf0, 0xff10, 0x104a0,
    0x10d30, 0x11066, 0x110f0, 0x11136, 0x111d0, 0x112f0, 0x11450, 0x114d0, 0x11650, 0x116c0,
    0x11730, 0x118e0, 0x11950, 0x11c50, 0x11d50, 0x11da0, 0x16a60, 0x16ac0, 0x16b50, 0x1d7ce,
    0x1d7d8, 0x1d7e2, 0x1d7ec, 0x1d7f6, 0x1e140, 0x1e2f0, 0x1e950, 0x1fbf0]

/-- `unicodedata.decimal`. -/
def decimal_value (c : Char) : Option Nat :=
  (decimal_zeros.find? (fun first => first ≤ c.toNat && c.toNat < first + 10)).map (c.toNat - ·)

/-- The white space around the text of a number: of the ASCII characters those of C's
`isspace`, which the separators from `0x1c` to `0x1f` are not. -/
def is_int_space (c : Char) : Bool :=
  (9 ≤ c.toNat && c.toNat ≤ 13) || c.toNat = 0x20 || (0x80 ≤ c.toNat && is_space c)

/-- A text without the characters of a kind at its ends. -/
def strip_chars (space : Char → Bool) (chars : List Char) : List Char :=
  ((chars.dropWhile space).reverse.dropWhile space).reverse

/-- `str.strip()`. -/
def strip (chars : List Char) : List Char := strip_chars is_space chars

/-! ## §2. Integers. -/

/-- `sys.int_info.default_max_str_digits`. -/
def MAX_STR_DIGITS : Nat := 4300

/-- Digits, with single underscores between them. -/
def int_digits : List Char → Option (List Nat)
  | [] => none
  | [c] => (decimal_value c).map (fun digit => [digit])
  | c :: '_' :: rest => do
    let digit ← decimal_value c
    let digits ← int_digits rest
    some (digit :: digits)
  | c :: rest => do
    let digit ← decimal_value c
    let digits ← int_digits rest
    some (digit :: digits)

/-- The number behind the sign; `int()` refuses too many digits as it refuses no number. -/
def int_magnitude (chars : List Char) : Option Nat := do
  let digits ← int_digits chars
  if MAX_STR_DIGITS < digits.length then none
  else some (digits.foldl (fun n digit => n * 10 + digit) 0)

/-- `int(text)`; `none` is a `ValueError`. -/
def int_value (text : String) : Option Int :=
  match strip_chars is_int_space text.toList with
  | '-' :: rest => (int_magnitude rest).map (fun n : Nat => -(n : Int))
  | '+' :: rest => (int_magnitude rest).map Int.ofNat
  | chars => (int_magnitude chars).map Int.ofNat

/-- A character of the text of an integer. -/
def IntChar (c : Char) : Prop :=
  is_int_space c = true ∨ (decimal_value c).isSome = true ∨ c = '_' ∨ c = '-' ∨ c = '+'

theorem intChar_of_int_digits :
    ∀ {chars : List Char} {digits : List Nat}, int_digits chars = some digits →
      ∀ c ∈ chars, IntChar c := by
  intro chars
  induction chars using int_digits.induct with
  | case1 => intro digits h; cases h
  | case2 c =>
    intro digits h c' hc'
    obtain ⟨digit, hdigit, _⟩ := Option.map_eq_some_iff.mp h
    rw [List.mem_singleton.mp hc']
    exact Or.inr (Or.inl (by rw [hdigit]; rfl))
  | case3 c rest ih =>
    intro digits h c' hc'
    obtain ⟨digit, hdigit, h⟩ := Option.bind_eq_some_iff.mp h
    obtain ⟨rest_digits, hrest, _⟩ := Option.bind_eq_some_iff.mp h
    rcases List.mem_cons.mp hc' with hfirst | hlater
    · rw [hfirst]
      exact Or.inr (Or.inl (by rw [hdigit]; rfl))
    · rcases List.mem_cons.mp hlater with hunderscore | hlater
      · exact Or.inr (Or.inr (Or.inl hunderscore))
      · exact ih hrest c' hlater
  | case4 c rest hne hother ih =>
    intro digits h c' hc'
    rw [int_digits] at h
    · obtain ⟨digit, hdigit, h⟩ := Option.bind_eq_some_iff.mp h
      obtain ⟨rest_digits, hrest, _⟩ := Option.bind_eq_some_iff.mp h
      rcases List.mem_cons.mp hc' with hfirst | hlater
      · rw [hfirst]
        exact Or.inr (Or.inl (by rw [hdigit]; rfl))
      · exact ih hrest c' hlater
    · exact hne
    · exact hother

theorem intChar_of_int_magnitude {chars : List Char} {n : Nat} (h : int_magnitude chars = some n) :
    ∀ c ∈ chars, IntChar c := by
  obtain ⟨digits, hdigits, _⟩ := Option.bind_eq_some_iff.mp h
  exact intChar_of_int_digits hdigits

/-- What is stripped off is of the kind. -/
theorem mem_of_strip {space : Char → Bool} {chars : List Char} {c : Char} (hc : c ∈ chars) :
    c ∈ strip_chars space chars ∨ space c = true := by
  have hdrop : ∀ {chars : List Char}, c ∈ chars →
      c ∈ chars.dropWhile space ∨ space c = true := by
    intro chars hc
    rw [← List.takeWhile_append_dropWhile (p := space) (l := chars)] at hc
    rcases List.mem_append.mp hc with htaken | hleft
    · exact Or.inr (List.mem_takeWhile_imp htaken)
    · exact Or.inl hleft
  rcases hdrop hc with hleft | hspace
  · refine (hdrop (List.mem_reverse.mpr hleft)).imp_left ?_
    exact List.mem_reverse.mpr
  · exact Or.inr hspace

theorem intChar_of_int_value {text : String} {n : Int} (h : int_value text = some n) :
    ∀ c ∈ text.toList, IntChar c := by
  intro c hc
  rcases mem_of_strip hc with hkept | hspace
  · unfold int_value at h
    split at h
    case h_1 rest heq =>
      obtain ⟨m, hm, _⟩ := Option.map_eq_some_iff.mp h
      rw [heq] at hkept
      rcases List.mem_cons.mp hkept with hsign | hlater
      · exact Or.inr (Or.inr (Or.inr (Or.inl hsign)))
      · exact intChar_of_int_magnitude hm c hlater
    case h_2 rest heq =>
      obtain ⟨m, hm, _⟩ := Option.map_eq_some_iff.mp h
      rw [heq] at hkept
      rcases List.mem_cons.mp hkept with hsign | hlater
      · exact Or.inr (Or.inr (Or.inr (Or.inr hsign)))
      · exact intChar_of_int_magnitude hm c hlater
    case h_3 =>
      obtain ⟨m, hm, _⟩ := Option.map_eq_some_iff.mp h
      exact intChar_of_int_magnitude hm c hkept
  · exact Or.inl hspace

/-- A separator is stripped off a text, but not off a number. -/
example : strip "\x1c7".toList = ['7'] ∧ int_value "\x1c7" = none ∧ int_value "\t7\n" = some 7 := by
  decide

/-- The text of an integer has no colon and no greater-than sign. -/
theorem separator_of_int_value {text : String} {n : Int} (h : int_value text = some n) :
    ':' ∉ text.toList ∧ '>' ∉ text.toList := by
  have hcolon : ¬ IntChar ':' := by unfold IntChar; decide
  have hgreater : ¬ IntChar '>' := by unfold IntChar; decide
  exact ⟨fun hmem => hcolon (intChar_of_int_value h _ hmem),
    fun hmem => hgreater (intChar_of_int_value h _ hmem)⟩

/-! ## §3. Splitting. -/

/-- `text.split(c)`. -/
def split (c : Char) (text : String) : List String :=
  (text.toList.splitOn c).map String.ofList

/-- `text.rsplit(c, 1)` of a text with the character in it. -/
def rsplit_once (c : Char) (text : String) : Option (String × String) :=
  let after := text.toList.reverse.takeWhile (· ≠ c)
  match text.toList.reverse.dropWhile (· ≠ c) with
  | [] => none
  | _ :: before => some (String.ofList before.reverse, String.ofList after.reverse)

/-- Parts without the separator are split again. -/
theorem split_join {c : Char} {parts : List String} (hne : parts ≠ [])
    (hparts : ∀ part ∈ parts, c ∉ part.toList) :
    split c ((String.singleton c).intercalate parts) = parts := by
  have hnone : ∀ chars ∈ parts.map String.toList, c ∉ chars := by
    intro chars hchars
    obtain ⟨part, hpart, heq⟩ := List.mem_map.mp hchars
    rw [← heq]
    exact hparts part hpart
  unfold split
  rw [String.toList_intercalate, String.toList_singleton,
    List.splitOn_intercalate c hnone (fun hnil => hne (List.map_eq_nil_iff.mp hnil)), List.map_map]
  refine (List.map_congr_left ?_).trans (List.map_id _)
  intro part _
  exact String.ofList_toList

theorem rsplit_once_append {c : Char} {before after : String} (hafter : c ∉ after.toList) :
    rsplit_once c (before ++ String.singleton c ++ after) = some (before, after) := by
  have hkeep : ∀ x ∈ after.toList.reverse, decide (x ≠ c) = true := by
    intro x hx
    refine decide_eq_true ?_
    intro heq
    exact hafter (heq ▸ List.mem_reverse.mp hx)
  unfold rsplit_once
  rw [String.toList_append, String.toList_append, String.toList_singleton, List.reverse_append,
    List.reverse_append, List.reverse_singleton, List.singleton_append]
  rw [List.dropWhile_append_of_pos hkeep, List.takeWhile_append_of_pos hkeep]
  simp

/-! ## §4. Letter case. -/

/-- Only characters below 128. -/
def IsAscii (text : String) : Prop := ∀ c ∈ text.toList, c.toNat < 128

/-- `str.lower` and `str.upper`, of which the ASCII part is written out here. -/
structure Casing where
  lower : String → String
  upper : String → String
  lower_ascii : ∀ text, IsAscii text → lower text = String.ofList (text.toList.map Char.toLower)
  upper_ascii : ∀ text, IsAscii text → upper text = String.ofList (text.toList.map Char.toUpper)

/-- The case of ASCII letters alone. -/
def ascii_casing : Casing where
  lower := fun text => String.ofList (text.toList.map Char.toLower)
  upper := fun text => String.ofList (text.toList.map Char.toUpper)
  lower_ascii := fun _ _ => rfl
  upper_ascii := fun _ _ => rfl

end ResolverIdentity.Library
