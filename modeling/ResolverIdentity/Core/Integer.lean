/-
  ResolverIdentity.Core.Integer: the 64-bit integers of the sources.

  `u64` values are `Nat` and `i64` values `Int`; these are the conversions and
  the saturating or wrapping operations the code applies to them.
-/
import Mathlib.Tactic.Basic

namespace ResolverIdentity

/-- `i64::MAX`. -/
def I64_MAX : Int := 9223372036854775807

/-- `i64::MIN`. -/
def I64_MIN : Int := -9223372036854775808

/-- `u64::MAX`. -/
def U64_MAX : Nat := 18446744073709551615

/-- `i64::try_from` on a `u64`. -/
def i64_try_from (n : Nat) : Option Int := if (n : Int) ≤ I64_MAX then some (n : Int) else none

/-- `u64::try_from` on an `i64`. -/
def u64_try_from (n : Int) : Option Nat := if 0 ≤ n then some n.toNat else none

/-- `saturating_add(1)` on a `u64`. -/
def u64_succ (n : Nat) : Nat := min (n + 1) U64_MAX

/-- Two's complement: what a release build keeps of an `i64` sum. -/
def i64_wrap (n : Int) : Int := (n - I64_MIN) % 18446744073709551616 + I64_MIN

/-- `saturating_sub` on an `i64`. -/
def i64_saturating_sub (a b : Int) : Int := max I64_MIN (min I64_MAX (a - b))

/-- `saturating_add` on an `i64`. -/
def i64_saturating_add (a b : Int) : Int := max I64_MIN (min I64_MAX (a + b))

theorem i64_try_from_eq_some {n : Nat} {i : Int} :
    i64_try_from n = some i ↔ i = n ∧ (n : Int) ≤ I64_MAX := by
  unfold i64_try_from
  split <;> simp_all [eq_comm]

@[simp] theorem u64_try_from_natCast (n : Nat) : u64_try_from (n : Int) = some n := by
  simp [u64_try_from]

/-- Sums in range do not wrap. -/
theorem i64_wrap_of_range {n : Int} (hlo : I64_MIN ≤ n) (hhi : n ≤ I64_MAX) : i64_wrap n = n := by
  unfold i64_wrap I64_MIN at *
  unfold I64_MAX at hhi
  omega

theorem u64_succ_of_lt {n : Nat} (h : n < U64_MAX) : u64_succ n = n + 1 := by
  unfold u64_succ
  omega

end ResolverIdentity
