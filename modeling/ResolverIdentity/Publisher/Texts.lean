/-
  ResolverIdentity.Publisher.Texts: the texts of both sides, trimmed.

  `str::trim` and `str::trim_end_matches` of the verifier, `str.strip` of the publisher.
  Python takes the separators from U+001C to U+001F for white space, Unicode's property does
  not.

  Main results:
    * `trim_trim`, `trim_end_matches_again`: trimming is done once;
    * `stripped_twice_iff`: the names that both sides take the same characters of.
-/
import ResolverIdentity.Core.Endpoint
import ResolverIdentity.Library.PythonText
import ResolverIdentity.Library.Trimming

namespace ResolverIdentity.Publisher

open Library

/-- `value.strip()`. -/
def strip_text (text : String) : String := String.ofList (strip text.toList)

/-- The text that the verifier's `normalize_name` lower-cases. -/
def undotted (name : String) : String := trim_end_matches (trim name) '.'

/-- The text that the publisher's `normalize_name` lower-cases. -/
def stripped (name : String) : String := trim_end_matches (strip_text name) '.'

theorem trim_eq (text : String) : trim text = String.ofList (trimmed is_whitespace text.toList) := rfl

theorem strip_text_eq (text : String) :
    strip_text text = String.ofList (trimmed is_space text.toList) := rfl

theorem trim_end_matches_eq (text : String) (c : Char) :
    trim_end_matches text c = String.ofList (text.toList.rdropWhile (fun x => x = c)) := rfl

theorem trim_sublist (text : String) : (trim text).toList.Sublist text.toList := by
  rw [trim_eq, String.toList_ofList]
  exact trimmed_sublist_self is_whitespace text.toList

/-- What trimming shortens by nothing it leaves alone. -/
theorem trim_eq_of_length {text : String} (h : text.toList.length ≤ (trim text).toList.length) :
    trim text = text :=
  String.toList_inj.mp ((trim_sublist text).eq_of_length_le h)

theorem strip_text_eq_of_length {text : String}
    (h : text.toList.length ≤ (strip_text text).toList.length) : strip_text text = text := by
  refine String.toList_inj.mp (List.Sublist.eq_of_length_le ?_ h)
  rw [strip_text_eq, String.toList_ofList]
  exact trimmed_sublist_self is_space text.toList

theorem trim_trim (text : String) : trim (trim text) = trim text := by
  rw [trim_eq (trim text), trim_eq text, String.toList_ofList, trimmed_trimmed]

theorem trim_end_matches_again (text : String) (c : Char) :
    trim_end_matches (trim_end_matches text c) c = trim_end_matches text c := by
  rw [trim_end_matches_eq (trim_end_matches text c), trim_end_matches_eq text,
    String.toList_ofList, List.rdropWhile_idempotent]

theorem trim_end_matches_sublist (text : String) (c : Char) :
    (trim_end_matches text c).toList.Sublist text.toList := by
  rw [trim_end_matches_eq, String.toList_ofList]
  exact (List.rdropWhile_prefix _ _).sublist

/-- White space is white space for Python. -/
theorem space_of_whitespace (c : Char) (h : is_whitespace c = true) : is_space c = true := by
  unfold is_whitespace at h
  unfold is_space
  simp only [Bool.or_eq_true, Bool.and_eq_true, decide_eq_true_eq] at h ⊢
  omega

theorem no_dot_of_space (c : Char) (h : is_space c = true) : decide (c = '.') = false := by
  refine decide_eq_false ?_
  rintro rfl
  cases h

theorem undotted_toList (name : String) : (undotted name).toList =
    trimmed_then is_whitespace (fun c => decide (c = '.')) name.toList := by
  unfold undotted
  rw [trim_end_matches_eq, String.toList_ofList, trim_eq, String.toList_ofList]
  rfl

theorem stripped_toList (name : String) : (stripped name).toList =
    trimmed_then is_space (fun c => decide (c = '.')) name.toList := by
  unfold stripped
  rw [trim_end_matches_eq, String.toList_ofList, strip_text_eq, String.toList_ofList]
  rfl

theorem strip_text_iff (text : String) :
    strip_text text = text ↔ trimmed is_space text.toList = text.toList := by
  rw [← String.toList_inj, strip_text_eq, String.toList_ofList]

theorem stripped_of_undotted {name : String} (h : strip_text (undotted name) = undotted name) :
    stripped name = undotted name := by
  rw [strip_text_iff, undotted_toList] at h
  rw [← String.toList_inj, stripped_toList, undotted_toList]
  exact trimmed_then_eq space_of_whitespace no_dot_of_space h

/-- Stripped twice, a name is what the verifier makes of it exactly if nothing more can be stripped
off that. -/
theorem stripped_twice_iff (name : String) :
    stripped (stripped name) = undotted name ↔ strip_text (undotted name) = undotted name := by
  rw [strip_text_iff, ← String.toList_inj, stripped_toList, stripped_toList, undotted_toList]
  exact trimmed_twice_iff space_of_whitespace no_dot_of_space name.toList

end ResolverIdentity.Publisher
