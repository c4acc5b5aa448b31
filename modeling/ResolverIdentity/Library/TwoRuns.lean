/-
  ResolverIdentity.Library.TwoRuns: one client run twice against answers that differ.

  Some of the answers a client gets are exchanged for others, and its operations may
  change with them.  An `Exchange` says which answers are exchanged, for what, and
  which events of the two runs correspond.  `Mirrors R p q` says that every run of
  `p` that returns has a counterpart of `q` under every exchange of its answers, with
  results related by `R`.

  Main results:
    * `Mirrors.bind`: the rule of sequential composition;
    * `mirrors_op`: one operation, its answer exchanged or not;
    * `mirrors_of_quiet`: a program without such answers mirrors itself.
-/
import Mathlib.Data.List.Forall2
import ResolverIdentity.Library.Program

namespace ResolverIdentity.Library

/-! ## §1. Exchanges. -/

/-- How a second run of a client may differ from the first. -/
structure Exchange (Op : Type) (Res : Op → Type) (γ : Type) where
  /-- The part of an event that is exchanged. -/
  reply : Prog.Event Op Res → Option γ
  /-- What it may be exchanged for. -/
  swap : γ → γ → Prop
  /-- The events of the two runs that correspond. -/
  same : Prog.Event Op Res → Prog.Event Op Res → Prop
  /-- What is known of every event of the first run. -/
  given : Prog.Event Op Res → Prop

namespace Prog

variable {Op : Type} {Res : Op → Type} {γ ε α α' β β' : Type} (X : Exchange Op Res γ)

/-- All that is exchanged in a run. -/
def replies (τ : List (Event Op Res)) : List γ := τ.filterMap X.reply

/-- Every run of `p` has its counterpart of `q`, whatever is exchanged. -/
def Mirrors (R : α → β → Prop) (p : Prog Op Res ε α) (q : Prog Op Res ε β) : Prop :=
  ∀ τ a, Exec p τ (.ok a) → (∀ event ∈ τ, X.given event) →
    ∀ exchanged, List.Forall₂ X.swap (replies X τ) exchanged →
      ∃ τ' b, Exec q τ' (.ok b) ∧ List.Forall₂ X.same τ τ' ∧ replies X τ' = exchanged ∧ R a b

variable {X} {R : α → β → Prop} {o o' : Op}

/-! ## §2. Rules. -/

theorem mirrors_ret {a : α} {b : β} (h : R a b) :
    Mirrors X R (.ret a : Prog Op Res ε α) (.ret b) := by
  intro τ a' hrun _ exchanged hswap
  obtain ⟨hnil, ha⟩ := exec_ret_ok.mp hrun
  rw [hnil] at hswap ⊢
  rw [← ha]
  cases hswap
  exact ⟨[], b, .ret b, .nil, rfl, h⟩

theorem mirrors_fail {e : ε} {q : Prog Op Res ε β} :
    Mirrors X R (.fail e : Prog Op Res ε α) q := by
  intro τ a hrun
  exact absurd hrun exec_fail_ok

/-- Only runs that return count. -/
theorem mirrors_of_returns {p : Prog Op Res ε α} {q : Prog Op Res ε β}
    (h : ∀ τ a, Exec p τ (.ok a) → Mirrors X R p q) : Mirrors X R p q :=
  fun τ a hrun => h τ a hrun τ a hrun

theorem Mirrors.mono {S : α → β → Prop} {p : Prog Op Res ε α} {q : Prog Op Res ε β}
    (h : Mirrors X R p q) (hRS : ∀ a b, R a b → S a b) : Mirrors X S p q := by
  intro τ a hrun hgiven exchanged hswap
  obtain ⟨τ', b, hq, hsame, hreplies, hab⟩ := h τ a hrun hgiven exchanged hswap
  exact ⟨τ', b, hq, hsame, hreplies, hRS a b hab⟩

/-- The second half of either run starts where the first half ended. -/
theorem Mirrors.bind {S : α' → β' → Prop} {p : Prog Op Res ε α} {q : Prog Op Res ε β}
    {f : α → Prog Op Res ε α'} {g : β → Prog Op Res ε β'} (h : Mirrors X R p q)
    (hf : ∀ a b, R a b → Mirrors X S (f a) (g b)) : Mirrors X S (p >>= f) (q >>= g) := by
  intro τ c hrun hgiven exchanged hswap
  obtain ⟨a, τ₁, τ₂, hsplit, hp, hrest⟩ := exec_bind_ok.mp hrun
  rw [hsplit] at hswap hgiven ⊢
  -- what is exchanged is split where the run is
  have hboth : List.Forall₂ X.swap (replies X τ₁ ++ replies X τ₂) exchanged := by
    rw [replies, replies, ← List.filterMap_append]
    exact hswap
  have hlen : exchanged.take (replies X τ₁).length ++ exchanged.drop (replies X τ₁).length =
      exchanged := List.take_append_drop _ _
  have hfirst := List.forall₂_take_append exchanged (replies X τ₁) (replies X τ₂) hboth.flip
  have hsecond := List.forall₂_drop_append exchanged (replies X τ₁) (replies X τ₂) hboth.flip
  obtain ⟨τ₁', b, hq, hsame₁, hreplies₁, hab⟩ := h τ₁ a hp
    (fun event hmem => hgiven event (List.mem_append_left _ hmem)) _ hfirst.flip
  obtain ⟨τ₂', d, hg, hsame₂, hreplies₂, hcd⟩ := hf a b hab τ₂ c hrest
    (fun event hmem => hgiven event (List.mem_append_right _ hmem)) _ hsecond.flip
  refine ⟨τ₁' ++ τ₂', d, exec_bind_ok.mpr ⟨b, τ₁', τ₂', rfl, hq, hg⟩,
    List.rel_append hsame₁ hsame₂, ?_, hcd⟩
  rw [replies, List.filterMap_append, ← replies, ← replies, hreplies₁, hreplies₂, hlen]

/-- A value that is there goes through in both runs, or the first one ends. -/
theorem mirrors_ofExcept_bind {S : α' → β' → Prop} {x : Except ε α} {y : Except ε β}
    {f : α → Prog Op Res ε α'} {g : β → Prog Op Res ε β'}
    (h : ∀ a, x = .ok a → ∃ b, y = .ok b ∧ Mirrors X S (f a) (g b)) :
    Mirrors X S (ofExcept x >>= f) (ofExcept y >>= g) := by
  intro τ c hrun
  obtain ⟨a, hx, hrest⟩ := exec_ofExcept_bind.mp hrun
  obtain ⟨b, hy, hmirrors⟩ := h a hx
  rw [hy]
  exact hmirrors τ c hrest

/-- The last value of both runs. -/
theorem mirrors_ofExcept {x : Except ε α} {y : Except ε β}
    (h : ∀ a, x = .ok a → ∃ b, y = .ok b ∧ R a b) : Mirrors X R (ofExcept x) (ofExcept y) := by
  cases x with
  | error e => exact mirrors_fail
  | ok a =>
    obtain ⟨b, hy, hab⟩ := h a rfl
    rw [hy]
    exact mirrors_ret hab

theorem mirrors_okOr_bind {S : α' → β' → Prop} {x : Option α} {e : ε}
    {f : α → Prog Op Res ε α'} {g : α → Prog Op Res ε β'}
    (h : ∀ a, x = some a → Mirrors X S (f a) (g a)) :
    Mirrors X S (okOr x e >>= f) (okOr x e >>= g) := by
  intro τ c hrun
  obtain ⟨a, hx, hrest⟩ := exec_okOr_bind.mp hrun
  rw [hx]
  exact h a hx τ c hrest

theorem mirrors_rejectIf_bind {S : α' → β' → Prop} {c : Bool} {e : ε}
    {f : Unit → Prog Op Res ε α'} {g : Unit → Prog Op Res ε β'}
    (h : c = false → Mirrors X S (f ()) (g ())) :
    Mirrors X S (rejectIf c e >>= f) (rejectIf c e >>= g) := by
  intro τ d hrun
  obtain ⟨hc, hrest⟩ := exec_rejectIf_bind.mp hrun
  rw [hc]
  exact h hc τ d hrest

/-- How two answered operations correspond: neither answer is exchanged, or the one is
exchanged for the other, whatever it is exchanged for. -/
def Answered (X : Exchange Op Res γ) (M : Res o → Res o' → Prop) (r : Res o) : Prop :=
  (X.reply ⟨o, r⟩ = none ∧
    ∃ r', X.same ⟨o, r⟩ ⟨o', r'⟩ ∧ X.reply ⟨o', r'⟩ = none ∧ M r r') ∨
  ∃ reply, X.reply ⟨o, r⟩ = some reply ∧ ∀ reply', X.swap reply reply' →
    ∃ r', X.same ⟨o, r⟩ ⟨o', r'⟩ ∧ X.reply ⟨o', r'⟩ = some reply' ∧ M r r'

/-- One operation; the operation itself may differ in the second run. -/
theorem mirrors_op {k : Res o → Prog Op Res ε α} {k' : Res o' → Prog Op Res ε β}
    (h : ∀ r, X.given ⟨o, r⟩ → Answered X (fun r r' => Mirrors X R (k r) (k' r')) r) :
    Mirrors X R (.op o k) (.op o' k') := by
  intro τ a hrun hgiven exchanged hswap
  obtain ⟨r, τ₁, hτ, hrest⟩ := exec_op.mp hrun
  rw [hτ] at hgiven hswap ⊢
  have hgiven₁ : ∀ event ∈ τ₁, X.given event :=
    fun event hmem => hgiven event (List.mem_cons_of_mem _ hmem)
  rcases h r (hgiven _ List.mem_cons_self) with hkept | hexchanged
  · obtain ⟨hreply, r', hsame, hreply', hmirrors⟩ := hkept
    rw [replies, List.filterMap_cons_none hreply] at hswap
    obtain ⟨τ₁', b, hq, hsame₁, hreplies, hab⟩ := hmirrors τ₁ a hrest hgiven₁ exchanged hswap
    refine ⟨⟨o', r'⟩ :: τ₁', b, .op hq, .cons hsame hsame₁, ?_, hab⟩
    rw [replies, List.filterMap_cons_none hreply']
    exact hreplies
  · obtain ⟨reply, hreply, hall⟩ := hexchanged
    rw [replies, List.filterMap_cons_some hreply] at hswap
    cases hswap with
    | cons hone hrests =>
      obtain ⟨r', hsame, hreply', hmirrors⟩ := hall _ hone
      obtain ⟨τ₁', b, hq, hsame₁, hreplies, hab⟩ := hmirrors τ₁ a hrest hgiven₁ _ hrests
      refine ⟨⟨o', r'⟩ :: τ₁', b, .op hq, .cons hsame hsame₁, ?_, hab⟩
      rw [replies, List.filterMap_cons_some hreply']
      exact congrArg _ hreplies

/-- An operation whose answers are not exchanged. -/
theorem mirrors_kept {k : Res o → Prog Op Res ε α} {k' : Res o → Prog Op Res ε β}
    (hsame : ∀ event, X.same event event) (hreply : ∀ r, X.reply ⟨o, r⟩ = none)
    (h : ∀ r, X.given ⟨o, r⟩ → Mirrors X R (k r) (k' r)) :
    Mirrors X R (.op o k) (.op o k') := by
  refine mirrors_op ?_
  intro r hgiven
  exact Or.inl ⟨hreply r, r, hsame _, hreply r, h r hgiven⟩

/-! ## §3. Programs that exchange nothing. -/

/-- No answer of the program is exchanged. -/
def Quiet (X : Exchange Op Res γ) : Prog Op Res ε α → Prop
  | .ret _ => True
  | .fail _ => True
  | .op o k => ∀ r, X.reply ⟨o, r⟩ = none ∧ Quiet X (k r)

theorem Quiet.bind {p : Prog Op Res ε α} {f : α → Prog Op Res ε β} (hp : Quiet X p)
    (hf : ∀ a, Quiet X (f a)) : Quiet X (p >>= f) := by
  induction p with
  | ret a => exact hf a
  | fail e => exact trivial
  | op o k ih => exact fun r => ⟨(hp r).1, ih r (hp r).2⟩

theorem quiet_okOr {x : Option α} {e : ε} : Quiet X (okOr x e : Prog Op Res ε α) := by
  cases x <;> exact trivial

theorem quiet_rejectIf {c : Bool} {e : ε} : Quiet X (rejectIf c e : Prog Op Res ε Unit) := by
  cases c <;> exact trivial

theorem quiet_ofExcept {x : Except ε α} : Quiet X (ofExcept x : Prog Op Res ε α) := by
  cases x <;> exact trivial

/-- The two runs are one and the same. -/
theorem mirrors_of_quiet (hsame : ∀ event, X.same event event) {p : Prog Op Res ε α}
    (hp : Quiet X p) : Mirrors X (· = ·) p p := by
  induction p with
  | ret a => exact mirrors_ret rfl
  | fail e => exact mirrors_fail
  | op o k ih =>
    exact mirrors_kept hsame (fun r => (hp r).1) (fun r _ => ih r (hp r).2)

end Prog

end ResolverIdentity.Library
