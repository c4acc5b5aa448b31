/-
  ResolverIdentity.Library.Slices: functions that index slices.

  A function that returns an error can also panic, on an index outside its slice.  `Failure`
  keeps the two apart: a function written with every index it uses equals, under `returns`,
  the one that is written without, where its checks keep the indices inside.

  Main results:
    * `index_eq_ok`, `slice_eq_ok`: what is inside is read;
    * `returns_bind`, `returns_check_bind`: the two functions, step by step.
-/
import ResolverIdentity.Library.Transaction

namespace ResolverIdentity.Library

variable {ε α β : Type}

/-- How a function that indexes slices can fail. -/
inductive Failure (ε : Type) where
  | error (e : ε)
  /-- An index outside its slice. -/
  | panic

/-! ## §1. Reads. -/

/-- `values[i]` -/
def index (values : List α) (i : Nat) : Except (Failure ε) α := okOr values[i]? .panic

/-- `values[start..finish]` -/
def slice (values : List α) (start finish : Nat) : Except (Failure ε) (List α) :=
  if start ≤ finish ∧ finish ≤ values.length then
    .ok ((values.drop start).take (finish - start))
  else .error .panic

theorem index_eq_ok {values : List α} {i : Nat} {value : α} (h : values[i]? = some value) :
    (index values i : Except (Failure ε) α) = .ok value := by
  unfold index
  rw [h]
  rfl

theorem slice_eq_ok {values : List α} {start finish : Nat} (h : start ≤ finish)
    (hinside : finish ≤ values.length) :
    (slice values start finish : Except (Failure ε) (List α)) =
      .ok ((values.drop start).take (finish - start)) :=
  if_pos ⟨h, hinside⟩

/-! ## §2. Returns. -/

/-- An early return. -/
def returns (x : Except ε α) : Except (Failure ε) α := x.mapError .error

theorem returns_bind {x : Except ε α} {f : α → Except ε β} :
    returns (x >>= f) = returns x >>= fun a => returns (f a) := by
  cases x <;> rfl

@[simp] theorem returns_ok {a : α} : returns (.ok a : Except ε α) = .ok a := rfl

/-- What follows a check may rely on it. -/
theorem returns_check_bind {c : Bool} {e : ε} {f : Unit → Except (Failure ε) β}
    {g : Unit → Except ε β} (h : c = false → f () = returns (g ())) :
    (returns (rejectIf c e) >>= f) = returns (rejectIf c e >>= g) := by
  cases c with
  | true => rfl
  | false => exact h rfl

end ResolverIdentity.Library
