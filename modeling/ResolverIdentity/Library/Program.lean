/-
  ResolverIdentity.Library.Program: programs that call a shared system.

  A program is a tree: it returns, fails, or issues one operation and goes on
  with the answer.  Between two operations anything may happen to the shared
  system, so the tree is exactly what an interleaving can see of a client.

  A `Protocol` watches a client from outside: its state says what the client
  has learnt so far, `permits` which operations it may issue there, `answers`
  which answers are to be reckoned with, `next` what an answer teaches.
  `Follows` is the weakest precondition of a program under a protocol.

  Main results:
    * `follows_bind`: the rule of sequential composition;
    * `Follows.op`: a client that issues an operation was permitted to, and its
      continuation follows the protocol from the next state;
    * `Exec.follows`: a finished execution ends in a state with the postcondition;
    * `exec_bind_ok`: a sequence that returned, taken apart;
    * `exec_result_bind`: a sequence that goes on whatever its first half ends with;
    * `runWith_bind`: a sequence run against a system of its own;
    * `exec_trace`, `mem_trace`: a run against a system that always answers is an
      execution, with answers of that system.
-/
import Mathlib.Tactic.Basic

namespace ResolverIdentity.Library

/-- A client of a shared system: operations `Op`, answers `Res`, errors `ε`. -/
inductive Prog (Op : Type) (Res : Op → Type) (ε α : Type) where
  | ret (a : α)
  | fail (e : ε)
  | op (o : Op) (k : Res o → Prog Op Res ε α)

namespace Prog

variable {Op : Type} {Res : Op → Type} {ε α β : Type}

/-! ## §1. Sequential composition. -/

/-- Run `p`, then `f` on what it returned; an error of `p` ends the program. -/
def bind : Prog Op Res ε α → (α → Prog Op Res ε β) → Prog Op Res ε β
  | .ret a, f => f a
  | .fail e, _ => .fail e
  | .op o k, f => .op o (fun r => (k r).bind f)

instance : Monad (Prog Op Res ε) where
  pure := .ret
  bind := bind

@[simp] theorem pure_eq (a : α) : (pure a : Prog Op Res ε α) = .ret a := rfl

@[simp] theorem ret_bind (a : α) (f : α → Prog Op Res ε β) :
    ((.ret a : Prog Op Res ε α) >>= f) = f a := rfl

@[simp] theorem fail_bind (e : ε) (f : α → Prog Op Res ε β) :
    ((.fail e : Prog Op Res ε α) >>= f) = .fail e := rfl

@[simp] theorem op_bind (o : Op) (k : Res o → Prog Op Res ε α) (f : α → Prog Op Res ε β) :
    (.op o k >>= f) = .op o (fun r => k r >>= f) := rfl

/-- Issue one operation and return its answer. -/
def perform (o : Op) : Prog Op Res ε (Res o) := .op o .ret

/-- The `?` operator on a value that is already there. -/
def ofExcept : Except ε α → Prog Op Res ε α
  | .ok a => .ret a
  | .error e => .fail e

/-- `.ok_or_else(...)?` -/
def okOr (x : Option α) (e : ε) : Prog Op Res ε α :=
  match x with
  | some a => .ret a
  | none => .fail e

/-- `if c { return Err(e); }` -/
def rejectIf (c : Bool) (e : ε) : Prog Op Res ε Unit :=
  if c then .fail e else .ret ()

end Prog

/-! ## §2. Protocols. -/

/-- What a client may do, seen from outside. -/
structure Protocol (Op : Type) (Res : Op → Type) (σ : Type) where
  permits : σ → Op → Prop
  answers : σ → (o : Op) → Res o → Prop
  next : σ → (o : Op) → Res o → σ

namespace Prog

variable {Op : Type} {Res : Op → Type} {ε α β σ : Type} (P : Protocol Op Res σ)

/-- The weakest precondition of a program: every operation it can reach is
permitted there, every value it returns has `Q`, every error it ends with `E`. -/
def Follows (Q : α → σ → Prop) (E : ε → σ → Prop) :
    Prog Op Res ε α → σ → Prop
  | .ret a, st => Q a st
  | .fail e, st => E e st
  | .op o k, st => P.permits st o ∧ ∀ r, P.answers st o r → (k r).Follows Q E (P.next st o r)

variable {P} {Q Q' : α → σ → Prop} {E : ε → σ → Prop} {st : σ}

@[simp] theorem follows_ret {a : α} : (.ret a : Prog Op Res ε α).Follows P Q E st ↔ Q a st :=
  Iff.rfl

@[simp] theorem follows_fail {e : ε} : (.fail e : Prog Op Res ε α).Follows P Q E st ↔ E e st :=
  Iff.rfl

/-- Sequential composition: the second half starts from what the first established. -/
theorem follows_bind {p : Prog Op Res ε α} {f : α → Prog Op Res ε β}
    {Q : β → σ → Prop} :
    (p >>= f).Follows P Q E st ↔ p.Follows P (fun a st' => (f a).Follows P Q E st') E st := by
  induction p generalizing st with
  | ret a => exact Iff.rfl
  | fail e => exact Iff.rfl
  | op o k ih =>
    constructor
    · rintro ⟨hpermit, hk⟩
      exact ⟨hpermit, fun r hr => (ih r).mp (hk r hr)⟩
    · rintro ⟨hpermit, hk⟩
      exact ⟨hpermit, fun r hr => (ih r).mpr (hk r hr)⟩

theorem Follows.mono {p : Prog Op Res ε α} {E' : ε → σ → Prop}
    (h : p.Follows P Q E st) (hQ : ∀ a st, Q a st → Q' a st) (hE : ∀ e st, E e st → E' e st) :
    p.Follows P Q' E' st := by
  induction p generalizing st with
  | ret a => exact hQ a st h
  | fail e => exact hE e st h
  | op o k ih => exact ⟨h.1, fun r hr => ih r (h.2 r hr)⟩

@[simp] theorem follows_ofExcept {x : Except ε α} :
    (ofExcept x : Prog Op Res ε α).Follows P Q E st ↔
      (∀ a, x = .ok a → Q a st) ∧ (∀ e, x = .error e → E e st) := by
  cases x <;> simp [ofExcept]

@[simp] theorem follows_okOr {x : Option α} {e : ε} :
    (okOr x e : Prog Op Res ε α).Follows P Q E st ↔
      (∀ a, x = some a → Q a st) ∧ (x = none → E e st) := by
  cases x <;> simp [okOr]

@[simp] theorem follows_rejectIf {c : Bool} {e : ε} {Q : Unit → σ → Prop} :
    (rejectIf c e : Prog Op Res ε Unit).Follows P Q E st ↔
      (c = false → Q () st) ∧ (c = true → E e st) := by
  cases c <;> simp [rejectIf]

/-- The first half establishes `R`, and from there on the second half follows. -/
theorem Follows.bind {p : Prog Op Res ε α} {f : α → Prog Op Res ε β} {Q : β → σ → Prop}
    (hp : p.Follows P Q' E st) (hf : ∀ a st', Q' a st' → (f a).Follows P Q E st') :
    (p >>= f).Follows P Q E st :=
  follows_bind.mpr (hp.mono hf (fun _ _ h => h))

/-- The continuation of `?` only has to be followed with a value. -/
theorem follows_ofExcept_bind {x : Except ε α} {f : α → Prog Op Res ε β} {Q : β → σ → Prop}
    (hf : ∀ a, x = .ok a → (f a).Follows P Q (fun _ _ => True) st) :
    (ofExcept x >>= f).Follows P Q (fun _ _ => True) st :=
  follows_bind.mpr (follows_ofExcept.mpr ⟨hf, fun _ _ => trivial⟩)

theorem follows_okOr_bind {x : Option α} {e : ε} {f : α → Prog Op Res ε β} {Q : β → σ → Prop}
    (hf : ∀ a, x = some a → (f a).Follows P Q (fun _ _ => True) st) :
    (okOr x e >>= f).Follows P Q (fun _ _ => True) st :=
  follows_bind.mpr (follows_okOr.mpr ⟨hf, fun _ => trivial⟩)

theorem follows_rejectIf_bind {c : Bool} {e : ε} {f : Unit → Prog Op Res ε β} {Q : β → σ → Prop}
    (hf : c = false → (f ()).Follows P Q (fun _ _ => True) st) :
    (rejectIf c e >>= f).Follows P Q (fun _ _ => True) st :=
  follows_bind.mpr (follows_rejectIf.mpr ⟨hf, fun _ => trivial⟩)

/-! ## §3. Executions. -/

/-- One operation with the answer it got. -/
abbrev Event (Op : Type) (Res : Op → Type) := (o : Op) × Res o

/-- The program finishes after exactly these operations and answers. -/
inductive Exec : Prog Op Res ε α → List (Event Op Res) → Except ε α → Prop where
  | ret (a : α) : Exec (.ret a) [] (.ok a)
  | fail (e : ε) : Exec (.fail e) [] (.error e)
  | op {o : Op} {k : Res o → Prog Op Res ε α} {r : Res o} {τ : List (Event Op Res)}
      {x : Except ε α} : Exec (k r) τ x → Exec (.op o k) (⟨o, r⟩ :: τ) x

variable (P) in
/-- The protocol state after a list of operations. -/
def after (st : σ) : List (Event Op Res) → σ
  | [] => st
  | ⟨o, r⟩ :: τ => after (P.next st o r) τ

variable (P) in
/-- Every answer of the list is one the protocol reckons with. -/
def Plausible (st : σ) : List (Event Op Res) → Prop
  | [] => True
  | ⟨o, r⟩ :: τ => P.answers st o r ∧ Plausible (P.next st o r) τ

/-- The postcondition that belongs to how a program ended. -/
def Ends (Q : α → σ → Prop) (E : ε → σ → Prop) : Except ε α → σ → Prop
  | .ok a => Q a
  | .error e => E e

/-- A finished execution of a client that follows the protocol ends well. -/
theorem Exec.follows {p : Prog Op Res ε α} {τ : List (Event Op Res)} {x : Except ε α}
    (h : Exec p τ x) (hp : p.Follows P Q E st) (hτ : Plausible P st τ) :
    Ends Q E x (after P st τ) := by
  induction h generalizing st with
  | ret a => exact hp
  | fail e => exact hp
  | op _ ih => exact ih (hp.2 _ hτ.1) hτ.2

theorem exec_ret_ok {a b : α} {τ : List (Event Op Res)} :
    Exec (.ret a : Prog Op Res ε α) τ (.ok b) ↔ τ = [] ∧ a = b := by
  constructor
  · intro h
    cases h with
    | ret => exact ⟨rfl, rfl⟩
  · intro h
    rw [h.1, h.2]
    exact .ret b

theorem exec_fail_ok {e : ε} {b : α} {τ : List (Event Op Res)} :
    ¬ Exec (.fail e : Prog Op Res ε α) τ (.ok b) := by
  intro h
  cases h

theorem exec_op {o : Op} {k : Res o → Prog Op Res ε α} {τ : List (Event Op Res)}
    {x : Except ε α} :
    Exec (.op o k) τ x ↔ ∃ r τ', τ = ⟨o, r⟩ :: τ' ∧ Exec (k r) τ' x := by
  constructor
  · intro h
    cases h with
    | op h => exact ⟨_, _, rfl, h⟩
  · intro h
    obtain ⟨r, τ', heq, h⟩ := h
    rw [heq]
    exact .op h

/-- A sequence that returned ran its first half to a value and went on from there. -/
theorem exec_bind_ok {p : Prog Op Res ε α} {f : α → Prog Op Res ε β} {b : β} :
    ∀ {τ : List (Event Op Res)}, Exec (p >>= f) τ (.ok b) ↔
      ∃ a τ₁ τ₂, τ = τ₁ ++ τ₂ ∧ Exec p τ₁ (.ok a) ∧ Exec (f a) τ₂ (.ok b) := by
  induction p with
  | ret a =>
    intro τ
    rw [ret_bind]
    constructor
    · intro h
      exact ⟨a, [], τ, rfl, .ret a, h⟩
    · intro h
      obtain ⟨a', τ₁, τ₂, heq, hret, h⟩ := h
      obtain ⟨hnil, ha⟩ := exec_ret_ok.mp hret
      rw [heq, hnil, ha]
      exact h
  | fail e =>
    intro τ
    rw [fail_bind]
    constructor
    · intro h
      exact absurd h exec_fail_ok
    · intro h
      obtain ⟨_, _, _, _, hfail, _⟩ := h
      exact absurd hfail exec_fail_ok
  | op o k ih =>
    intro τ
    rw [op_bind, exec_op]
    constructor
    · intro h
      obtain ⟨r, τ', heq, h⟩ := h
      obtain ⟨a, τ₁, τ₂, heq', hp, hf⟩ := (ih r).mp h
      rw [heq, heq']
      exact ⟨a, ⟨o, r⟩ :: τ₁, τ₂, rfl, .op hp, hf⟩
    · intro h
      obtain ⟨a, τ₁, τ₂, heq, hp, hf⟩ := h
      obtain ⟨r, τ', heq', hp⟩ := exec_op.mp hp
      rw [heq, heq']
      exact ⟨r, τ' ++ τ₂, rfl, (ih r).mpr ⟨a, τ', τ₂, rfl, hp, hf⟩⟩

theorem exec_ofExcept_bind {x : Except ε α} {f : α → Prog Op Res ε β} {b : β}
    {τ : List (Event Op Res)} :
    Exec (ofExcept x >>= f) τ (.ok b) ↔ ∃ a, x = .ok a ∧ Exec (f a) τ (.ok b) := by
  cases x with
  | ok a => exact ⟨fun h => ⟨a, rfl, h⟩, fun ⟨a', heq, h⟩ => by cases heq; exact h⟩
  | error e => exact ⟨fun h => absurd h exec_fail_ok, fun ⟨_, heq, _⟩ => by cases heq⟩

theorem exec_ofExcept_ok {x : Except ε α} {b : α} {τ : List (Event Op Res)} :
    Exec (ofExcept x) τ (.ok b) ↔ τ = [] ∧ x = .ok b := by
  cases x with
  | ok a => exact exec_ret_ok.trans (and_congr_right fun _ => Except.ok.injEq a b ▸ Iff.rfl)
  | error e => exact ⟨fun h => absurd h exec_fail_ok, fun h => by cases h.2⟩

theorem exec_okOr_bind {x : Option α} {e : ε} {f : α → Prog Op Res ε β} {b : β}
    {τ : List (Event Op Res)} :
    Exec (okOr x e >>= f) τ (.ok b) ↔ ∃ a, x = some a ∧ Exec (f a) τ (.ok b) := by
  cases x with
  | some a => exact ⟨fun h => ⟨a, rfl, h⟩, fun ⟨a', heq, h⟩ => by cases heq; exact h⟩
  | none => exact ⟨fun h => absurd h exec_fail_ok, fun ⟨_, heq, _⟩ => by cases heq⟩

theorem exec_rejectIf_bind {c : Bool} {e : ε} {f : Unit → Prog Op Res ε β} {b : β}
    {τ : List (Event Op Res)} :
    Exec (rejectIf c e >>= f) τ (.ok b) ↔ c = false ∧ Exec (f ()) τ (.ok b) := by
  cases c with
  | false => exact ⟨fun h => ⟨rfl, h⟩, fun h => h.2⟩
  | true => exact ⟨fun h => absurd h exec_fail_ok, fun h => by cases h.1⟩

/-! ## §4. Outcomes. -/

variable {ε' : Type}

/-- The outcome as a value: an error ends the program, but not its caller. -/
def result : Prog Op Res ε α → Prog Op Res ε' (Except ε α)
  | .ret a => .ret (.ok a)
  | .fail e => .ret (.error e)
  | .op o k => .op o (fun r => (k r).result)

/-- A sequence after `result` goes on from any end of its first half. -/
theorem exec_result_bind {p : Prog Op Res ε α} {f : Except ε α → Prog Op Res ε' β}
    {x : Except ε' β} :
    ∀ {τ : List (Event Op Res)}, Exec (p.result >>= f) τ x ↔
      ∃ y τ₁ τ₂, τ = τ₁ ++ τ₂ ∧ Exec p τ₁ y ∧ Exec (f y) τ₂ x := by
  induction p with
  | ret a =>
    intro τ
    constructor
    · intro h
      exact ⟨.ok a, [], τ, rfl, .ret a, h⟩
    · intro h
      obtain ⟨y, τ₁, τ₂, heq, hp, hf⟩ := h
      cases hp
      rw [heq]
      exact hf
  | fail e =>
    intro τ
    constructor
    · intro h
      exact ⟨.error e, [], τ, rfl, .fail e, h⟩
    · intro h
      obtain ⟨y, τ₁, τ₂, heq, hp, hf⟩ := h
      cases hp
      rw [heq]
      exact hf
  | op o k ih =>
    intro τ
    show Exec (.op o (fun r => (k r).result >>= f)) τ x ↔ _
    rw [exec_op]
    constructor
    · intro h
      obtain ⟨r, τ', heq, h⟩ := h
      obtain ⟨y, τ₁, τ₂, heq', hp, hf⟩ := (ih r).mp h
      rw [heq, heq']
      exact ⟨y, ⟨o, r⟩ :: τ₁, τ₂, rfl, .op hp, hf⟩
    · intro h
      obtain ⟨y, τ₁, τ₂, heq, hp, hf⟩ := h
      obtain ⟨r, τ', heq', hp⟩ := exec_op.mp hp
      rw [heq, heq']
      exact ⟨r, τ' ++ τ₂, rfl, (ih r).mpr ⟨y, τ', τ₂, rfl, hp, hf⟩⟩

/-! ## §5. Running against a system that nothing else touches. -/

variable {τ : Type}

/-- Serve each operation in turn; `none` when one of them is not served. -/
def runWith (serve : τ → (o : Op) → Option (Res o × τ)) :
    Prog Op Res ε α → τ → Option (Except ε α × τ)
  | .ret a, t => some (.ok a, t)
  | .fail e, t => some (.error e, t)
  | .op o k, t => (serve t o).bind (fun r => (k r.1).runWith serve r.2)

variable {serve : τ → (o : Op) → Option (Res o × τ)}

/-- The second half of a sequence runs where the first half ended. -/
theorem runWith_bind {p : Prog Op Res ε α} {f : α → Prog Op Res ε β} {t : τ} :
    (p >>= f).runWith serve t = (p.runWith serve t).bind (fun r =>
      match r.1 with
      | .ok a => (f a).runWith serve r.2
      | .error e => some (.error e, r.2)) := by
  induction p generalizing t with
  | ret a => rfl
  | fail e => rfl
  | op o k ih =>
    show (serve t o).bind _ = ((serve t o).bind _).bind _
    cases serve t o with
    | none => rfl
    | some r => exact ih r.1

/-- Serve each operation in turn and note the answers: the execution against a system
that answers every operation. -/
def trace (serve : τ → (o : Op) → Res o × τ) :
    Prog Op Res ε α → τ → List (Event Op Res) × Except ε α × τ
  | .ret a, t => ([], .ok a, t)
  | .fail e, t => ([], .error e, t)
  | .op o k, t =>
    let answer := serve t o
    let rest := (k answer.1).trace serve answer.2
    (⟨o, answer.1⟩ :: rest.1, rest.2)

/-- What was noted is an execution. -/
theorem exec_trace (serve : τ → (o : Op) → Res o × τ) (p : Prog Op Res ε α) :
    ∀ t, Exec p (p.trace serve t).1 (p.trace serve t).2.1 := by
  induction p with
  | ret a => intro t; exact Exec.ret a
  | fail e => intro t; exact Exec.fail e
  | op o k ih => intro t; exact Exec.op (ih _ _)

/-- Every answer was served by some state of the system. -/
theorem mem_trace {serve : τ → (o : Op) → Res o × τ} {p : Prog Op Res ε α} {event : Event Op Res} :
    ∀ {t}, event ∈ (p.trace serve t).1 → ∃ t', event.2 = (serve t' event.1).1 := by
  induction p with
  | ret a => intro t h; cases h
  | fail e => intro t h; cases h
  | op o k ih =>
    intro t h
    rcases List.mem_cons.mp h with rfl | hrest
    · exact ⟨t, rfl⟩
    · exact ih _ hrest

end Prog

end ResolverIdentity.Library
