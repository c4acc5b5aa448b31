/-
  ResolverIdentity.Library.Transaction: statements that roll back on error.

  A transaction body threads the database state and loses it on an error, so
  `transaction` gives back the state the body started from; a bare statement
  outside a transaction keeps whatever it had written.  `rejectIf` is the early
  return of a validation check, with the check's own polarity.

  Main results:
    * `bind_eq_ok`, `rejectIf_eq_ok`: peeling a successful body apart;
    * `transaction_eq_ok`, `transaction_error`: commit and rollback.
-/
import Mathlib.Data.List.Forall2

namespace ResolverIdentity.Library

variable {σ ε α β : Type}

/-! ## §1. Checks and their inversion. -/

/-- `if c { return Err(e); }` -/
def rejectIf (c : Bool) (e : ε) : Except ε Unit :=
  if c then .error e else .ok ()

@[simp] theorem rejectIf_eq_ok {c : Bool} {e : ε} {u : Unit} :
    rejectIf c e = .ok u ↔ c = false := by
  cases c <;> simp [rejectIf]

/-- A check has one result to go on with. -/
theorem exists_unit {p : Unit → Prop} : (∃ u, p u) ↔ p () :=
  ⟨fun h => h.choose_spec, fun h => ⟨(), h⟩⟩

/-- A sequence succeeds when both halves do. -/
theorem bind_eq_ok {x : Except ε α} {f : α → Except ε β} {b : β} :
    (x >>= f) = .ok b ↔ ∃ a, x = .ok a ∧ f a = .ok b := by
  cases x with
  | error e => simp [bind, Except.bind]
  | ok a => simp [bind, Except.bind]

@[simp] theorem ok_bind (a : α) (f : α → Except ε β) : ((.ok a : Except ε α) >>= f) = f a := rfl

@[simp] theorem error_bind (e : ε) (f : α → Except ε β) :
    ((.error e : Except ε α) >>= f) = .error e := rfl

@[simp] theorem pure_eq_ok (a : α) : (pure a : Except ε α) = .ok a := rfl

/-- `.ok_or_else(...)` on a missing value. -/
def okOr (x : Option α) (e : ε) : Except ε α :=
  match x with
  | some a => .ok a
  | none => .error e

@[simp] theorem okOr_eq_ok {x : Option α} {e : ε} {a : α} : okOr x e = .ok a ↔ x = some a := by
  cases x <;> simp [okOr]

/-- `.map_err(...)` keeps what succeeded. -/
@[simp] theorem mapError_eq_ok {ε' : Type} {x : Except ε α} {f : ε → ε'} {a : α} :
    x.mapError f = .ok a ↔ x = .ok a := by
  cases x <;> simp [Except.mapError]

theorem toOption_eq_some {x : Except ε α} {a : α} (h : x.toOption = some a) : x = .ok a := by
  cases x with
  | error e => cases h
  | ok found => exact congrArg Except.ok (Option.some.inj h)

/-- A loop of checks passes when each of them does. -/
theorem forM_eq_ok {l : List α} {f : α → Except ε Unit} {u : Unit} :
    l.forM f = .ok u ↔ ∀ a ∈ l, f a = .ok () := by
  induction l with
  | nil => exact ⟨fun _ a ha => (nomatch ha), fun _ => rfl⟩
  | cons a rest ih =>
    show (f a >>= fun _ => rest.forM f) = .ok u ↔ _
    rw [bind_eq_ok, List.forall_mem_cons]
    constructor
    · intro h
      obtain ⟨_, ha, hrest⟩ := h
      exact ⟨ha, ih.mp hrest⟩
    · intro h
      exact ⟨(), h.1, ih.mpr h.2⟩

/-- A loop that collects succeeds when each of its steps does. -/
theorem mapM_eq_ok {f : α → Except ε β} {l : List α} :
    ∀ {out : List β}, l.mapM f = .ok out ↔ List.Forall₂ (fun a b => f a = .ok b) l out := by
  induction l with
  | nil =>
    intro out
    rw [List.mapM_nil, List.forall₂_nil_left_iff]
    exact ⟨fun h => (Except.ok.inj h).symm, fun h => congrArg Except.ok h.symm⟩
  | cons a rest ih =>
    intro out
    rw [List.mapM_cons, bind_eq_ok, List.forall₂_cons_left_iff]
    simp only [bind_eq_ok, pure_eq_ok, Except.ok.injEq]
    constructor
    · intro h
      obtain ⟨b, hb, later, hlater, heq⟩ := h
      exact ⟨b, later, hb, ih.mp hlater, heq.symm⟩
    · intro h
      obtain ⟨b, later, hb, hlater, heq⟩ := h
      exact ⟨b, hb, later, ih.mpr hlater, heq.symm⟩

/-! ## §2. Commit and rollback. -/

/-- The statements between `BEGIN` and `COMMIT`: an error loses their writes. -/
abbrev Body (σ ε α : Type) := σ → Except ε (α × σ)

/-- Run a body: commit what it wrote, or return the error on the old state. -/
def transaction (body : Body σ ε α) (s : σ) : Except ε α × σ :=
  match body s with
  | .ok (a, s') => (.ok a, s')
  | .error e => (.error e, s)

theorem transaction_eq_ok {body : Body σ ε α} {s s' : σ} {a : α} :
    transaction body s = (.ok a, s') ↔ body s = .ok (a, s') := by
  unfold transaction
  cases h : body s with
  | error e => simp
  | ok r => simp [Prod.ext_iff]

/-- Rollback: a body that fails leaves the state it started from. -/
theorem transaction_error {body : Body σ ε α} {s s' : σ} {e : ε}
    (h : transaction body s = (.error e, s')) : s' = s := by
  unfold transaction at h
  cases hb : body s with
  | error e' =>
    rw [hb] at h
    exact (Prod.mk.inj h).2.symm
  | ok r =>
    rw [hb] at h
    cases (Prod.mk.inj h).1

/-- The state after a transaction is the committed one or the old one. -/
theorem transaction_snd (body : Body σ ε α) (s : σ) :
    (∃ a s', body s = .ok (a, s') ∧ (transaction body s).2 = s') ∨
      (∃ e, body s = .error e ∧ (transaction body s).2 = s) := by
  unfold transaction
  cases body s with
  | error e => exact Or.inr ⟨e, rfl, rfl⟩
  | ok r => exact Or.inl ⟨r.1, r.2, rfl, rfl⟩

end ResolverIdentity.Library
