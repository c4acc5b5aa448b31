/-
  ResolverIdentity.Library.Utf8: the order of UTF-8 texts.

  Texts in the order of their bytes are in the order of their code points, so a key
  order of either kind is the same order.

  Main results:
    * `encode_lt`: a smaller character has the smaller bytes, whatever follows;
    * `flatMap_encode_le_iff`: two texts compare as their bytes do.
-/
import Mathlib.Data.String.Basic

namespace ResolverIdentity.Library.Utf8

/-! ## §1. One character. -/

/-- The four groups of bits of a code point, the highest first. -/
theorem groups_lt {m n : Nat} (h : m < n) :
    m / 262144 < n / 262144 ∨ m / 262144 = n / 262144 ∧
      (m / 4096 % 64 < n / 4096 % 64 ∨ m / 4096 % 64 = n / 4096 % 64 ∧
        (m / 64 % 64 < n / 64 % 64 ∨ m / 64 % 64 = n / 64 % 64 ∧ m % 64 < n % 64)) := by
  by_cases hfirst : m / 262144 < n / 262144
  · exact Or.inl hfirst
  · have hfirst_eq : m / 262144 = n / 262144 := by omega
    refine Or.inr ⟨hfirst_eq, ?_⟩
    by_cases hsecond : m / 4096 < n / 4096
    · left
      omega
    · right
      have hsecond_eq : m / 4096 = n / 4096 := by omega
      refine ⟨by omega, ?_⟩
      by_cases hthird : m / 64 < n / 64
      · left
        omega
      · right
        omega

theorem code_point_lt (c : Char) : c.toNat < 0x110000 := by
  have hbound : c.val.toNat < 0x110000 := by
    rcases c.valid with hlow | hhigh
    · have hlow : c.val.toNat < 0xd800 := hlow
      omega
    · exact hhigh.2
  exact hbound

/-- A smaller character has the smaller bytes, whatever follows them. -/
theorem encode_lt {c d : Char} (h : c.toNat < d.toNat) (s t : List UInt8) :
    String.utf8EncodeChar c ++ s < String.utf8EncodeChar d ++ t := by
  have hc : c.val.toNat = c.toNat := rfl
  have hd : d.val.toNat = d.toNat := rfl
  have hbound := code_point_lt d
  have hgroups := groups_lt h
  fun_cases String.utf8EncodeChar c
  all_goals fun_cases String.utf8EncodeChar d
  all_goals
    simp only [List.cons_append, List.nil_append, List.cons_lt_cons_iff, UInt8.lt_iff_toNat_lt,
      ← UInt8.toNat_inj, UInt8.toNat_ofNat']
  case case4.case4 m _ _ _ n _ _ _ =>
    have hm : m = c.toNat := rfl
    have hn : n = d.toNat := rfl
    rw [hm, hn]
    -- the first byte holds all the bits above the others
    have hmask : c.toNat / 262144 % 8 = c.toNat / 262144 := Nat.mod_eq_of_lt (by omega)
    have hmask' : d.toNat / 262144 % 8 = d.toNat / 262144 := Nat.mod_eq_of_lt (by omega)
    have hbyte : ∀ group offset, group < 64 → offset ≤ 192 →
        (group + offset) % 2 ^ 8 = group + offset :=
      fun group offset hgroup hoffset => Nat.mod_eq_of_lt (by omega)
    have hsmall : ∀ value, value % 64 < 64 := fun value => Nat.mod_lt _ (by decide)
    have htop : (c.toNat / 262144 + 240) % 2 ^ 8 = c.toNat / 262144 + 240 :=
      Nat.mod_eq_of_lt (by omega)
    have htop' : (d.toNat / 262144 + 240) % 2 ^ 8 = d.toNat / 262144 + 240 :=
      Nat.mod_eq_of_lt (by omega)
    rw [hmask, hmask', htop, htop', hbyte _ 128 (hsmall _) (by decide), hbyte _ 128 (hsmall _) (by decide),
      hbyte _ 128 (hsmall _) (by decide), hbyte _ 128 (hsmall _) (by decide),
      hbyte _ 128 (hsmall _) (by decide), hbyte _ 128 (hsmall _) (by decide)]
    omega
  all_goals omega

/-- A character beyond ASCII has only bytes beyond ASCII. -/
theorem high_bytes {c : Char} (h : 128 ≤ c.toNat) :
    ∀ byte ∈ String.utf8EncodeChar c, 128 ≤ byte.toNat := by
  have hc : c.val.toNat = c.toNat := rfl
  fun_cases String.utf8EncodeChar c
  case case1 => omega
  all_goals
    simp only [List.forall_mem_cons, List.not_mem_nil, UInt8.toNat_ofNat', false_imp_iff,
      implies_true, and_true]
    omega

/-! ## §2. Texts. -/

theorem flatMap_encode_lt {s t : List Char} (h : s < t) :
    s.flatMap String.utf8EncodeChar < t.flatMap String.utf8EncodeChar := by
  induction s generalizing t with
  | nil =>
    cases t with
    | nil => exact absurd h (lt_irrefl _)
    | cons d rest =>
      rw [List.flatMap_cons]
      cases hencoded : String.utf8EncodeChar d with
      | nil => exact absurd hencoded String.utf8EncodeChar_ne_nil
      | cons byte bytes => exact List.nil_lt_cons _ _
  | cons c rest ih =>
    cases t with
    | nil => exact absurd h (List.not_lt_nil _)
    | cons d rest' =>
      rw [List.flatMap_cons, List.flatMap_cons]
      rcases List.cons_lt_cons_iff.mp h with hfirst | ⟨heq, hlater⟩
      · exact encode_lt hfirst _ _
      · rw [heq]
        exact List.append_left_lt (ih hlater)

/-- Two texts compare as their bytes do. -/
theorem flatMap_encode_le_iff {s t : List Char} :
    s.flatMap String.utf8EncodeChar ≤ t.flatMap String.utf8EncodeChar ↔ s ≤ t := by
  constructor
  · intro h
    by_contra hnot
    exact h (flatMap_encode_lt (not_le.mp hnot))
  · intro h
    rcases lt_or_eq_of_le h with hlt | heq
    · exact List.le_of_lt (flatMap_encode_lt hlt)
    · rw [heq]
      exact List.le_refl _

end ResolverIdentity.Library.Utf8
