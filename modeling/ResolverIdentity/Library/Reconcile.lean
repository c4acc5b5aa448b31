/-
  ResolverIdentity.Library.Reconcile: work that may be repeated.

  A worker goes through a list of steps.  Each of them inspects the state it finds and
  fails, has nothing to do, or sends one operation, which is accepted or refused.  What
  was done is not remembered: a step that was taken before finds it in the state.

  Main results:
    * `runs_self_iff`: a run that sends nothing is one whose steps are all settled;
    * `runs_keeps`: what every accepted operation keeps, a run keeps;
    * `exists_run`: steps that settle, and keep what is settled before them, run to the end.
-/
import ResolverIdentity.Library.Transaction

namespace ResolverIdentity.Library

/-- Steps `ι` that inspect states `σ` and send operations `ω`; what else an operation meets
is told by how many were sent before it. -/
structure Worker (ι σ ε ω : Type) where
  inspect : ι → σ → Except ε (Option ω)
  send : Nat → ω → σ → Except ε σ

/-- The state, and the operations that were sent. -/
structure Progress (σ ω : Type) where
  state : σ
  sent : List ω

namespace Worker

variable {ι σ ε ω : Type}

/-! ## §1. Runs. -/

/-- One item: the operation it asks for is carried out. -/
def step (W : Worker ι σ ε ω) (i : ι) (p : Progress σ ω) : Except ε (Progress σ ω) :=
  W.inspect i p.state >>= fun op =>
    match op with
    | none => .ok p
    | some op => W.send p.sent.length op p.state >>= fun s => .ok ⟨s, p.sent ++ [op]⟩

/-- An error ends the run; what was sent before it stays. -/
def run (W : Worker ι σ ε ω) : List ι → Progress σ ω → Except ε Unit × Progress σ ω
  | [], p => (.ok (), p)
  | i :: rest, p =>
    match W.step i p with
    | .error e => (.error e, p)
    | .ok q => W.run rest q

/-- The steps run to the end. -/
def Runs (W : Worker ι σ ε ω) (steps : List ι) (p q : Progress σ ω) : Prop :=
  W.run steps p = (.ok (), q)

/-- Nothing is left to do for the step. -/
def Settled (W : Worker ι σ ε ω) (i : ι) (s : σ) : Prop := W.inspect i s = .ok none

variable {W : Worker ι σ ε ω} {i : ι} {steps : List ι} {p q : Progress σ ω}

@[simp] theorem runs_nil : W.Runs [] p q ↔ p = q := by
  unfold Runs run
  rw [Prod.mk.injEq]
  exact ⟨fun h => h.2, fun h => ⟨rfl, h⟩⟩

theorem runs_cons : W.Runs (i :: steps) p q ↔ ∃ next, W.step i p = .ok next ∧
    W.Runs steps next q := by
  unfold Runs
  rw [run]
  cases W.step i p with
  | error e =>
    constructor
    · intro h
      cases (Prod.mk.inj h).1
    · intro h
      obtain ⟨_, h, _⟩ := h
      cases h
  | ok next =>
    constructor
    · intro h
      exact ⟨next, rfl, h⟩
    · intro h
      obtain ⟨_, heq, h⟩ := h
      rw [← Except.ok.inj heq] at h
      exact h

theorem runs_unique {r : Progress σ ω} (h : W.Runs steps p q) (h' : W.Runs steps p r) : q = r :=
  (Prod.mk.inj (h.symm.trans h')).2

/-! ## §2. Steps. -/

theorem step_of_settled (h : W.Settled i p.state) : W.step i p = .ok p := by
  unfold step
  rw [show W.inspect i p.state = .ok none from h]
  rfl

theorem step_of_sent {op : ω} {s : σ} (h : W.inspect i p.state = .ok (some op))
    (hsend : W.send p.sent.length op p.state = .ok s) :
    W.step i p = .ok ⟨s, p.sent ++ [op]⟩ := by
  unfold step
  rw [h, ok_bind]
  show (W.send p.sent.length op p.state >>= fun s => Except.ok _) = _
  rw [hsend]
  rfl

/-- A step that goes through was settled, or one operation of it was accepted. -/
theorem step_cases (h : W.step i p = .ok q) :
    (W.Settled i p.state ∧ p = q) ∨ ∃ op s, W.inspect i p.state = .ok (some op) ∧
      W.send p.sent.length op p.state = .ok s ∧ q = ⟨s, p.sent ++ [op]⟩ := by
  unfold step at h
  obtain ⟨found, hinspect, h⟩ := bind_eq_ok.mp h
  cases found with
  | none => exact Or.inl ⟨hinspect, Except.ok.inj h⟩
  | some op =>
    obtain ⟨s, hsend, h⟩ := bind_eq_ok.mp h
    exact Or.inr ⟨op, s, hinspect, hsend, (Except.ok.inj h).symm⟩

/-- What every accepted operation keeps, a run keeps. -/
theorem runs_keeps {I : σ → Prop}
    (hsend : ∀ n op s s', I s → W.send n op s = .ok s' → I s') :
    ∀ {p : Progress σ ω}, I p.state → W.Runs steps p q → I q.state := by
  induction steps with
  | nil =>
    intro p hp h
    rw [← runs_nil.mp h]
    exact hp
  | cons i rest ih =>
    intro p hp h
    obtain ⟨next, hnext, h⟩ := runs_cons.mp h
    rcases step_cases hnext with ⟨_, heq⟩ | ⟨op, s, _, hs, heq⟩
    · rw [heq] at hp
      exact ih hp h
    · rw [heq] at h
      exact ih (hsend _ op _ s hp hs) h

theorem sent_length_le : ∀ {p : Progress σ ω}, W.Runs steps p q →
    p.sent.length ≤ q.sent.length := by
  induction steps with
  | nil =>
    intro p h
    exact Nat.le_of_eq (congrArg (fun p => p.sent.length) (runs_nil.mp h))
  | cons i rest ih =>
    intro p h
    obtain ⟨next, hnext, h⟩ := runs_cons.mp h
    have hlater := ih h
    rcases step_cases hnext with ⟨_, heq⟩ | ⟨op, s, _, _, heq⟩
    · rw [heq]
      exact hlater
    · rw [heq, List.length_append] at hlater
      exact Nat.le_trans (Nat.le_add_right _ _) hlater

/-- Steps that run without sending anything are those that are all settled. -/
theorem runs_self_iff : W.Runs steps p p ↔ ∀ i ∈ steps, W.Settled i p.state := by
  induction steps with
  | nil => exact ⟨fun _ i hi => (nomatch hi), fun _ => runs_nil.mpr rfl⟩
  | cons i rest ih =>
    rw [List.forall_mem_cons, runs_cons]
    constructor
    · intro h
      obtain ⟨next, hnext, h⟩ := h
      rcases step_cases hnext with ⟨hsettled, heq⟩ | ⟨op, s, _, _, heq⟩
      · rw [← heq] at h
        exact ⟨hsettled, ih.mp h⟩
      · -- what was sent is not taken back
        have hlength := sent_length_le h
        rw [heq, List.length_append, List.length_singleton] at hlength
        exact absurd hlength (Nat.not_succ_le_self _)
    · intro h
      exact ⟨p, step_of_settled h.1, ih.mpr h.2⟩

/-! ## §3. Runs that get to the end. -/

/-- In `s` the step is settled, or its operation settles it and keeps what `I` says and what
the steps `before` have settled. -/
def Advances (W : Worker ι σ ε ω) (I : σ → Prop) (before : List ι) (i : ι) (s : σ) : Prop :=
  W.Settled i s ∨ ∃ op, W.inspect i s = .ok (some op) ∧ ∀ n, ∃ s', W.send n op s = .ok s' ∧
    I s' ∧ W.Settled i s' ∧ ∀ earlier ∈ before, W.Settled earlier s → W.Settled earlier s'

/-- Steps that advance from where the steps before them are settled run to the end. -/
theorem exists_run_from {I : σ → Prop} :
    ∀ (before : List ι), (∀ pre i post, steps = pre ++ i :: post → ∀ s, I s →
      (∀ earlier ∈ before ++ pre, W.Settled earlier s) → W.Advances I (before ++ pre) i s) →
    ∀ {p : Progress σ ω}, I p.state → (∀ earlier ∈ before, W.Settled earlier p.state) →
      ∃ q, W.Runs steps p q ∧ I q.state ∧ ∀ i ∈ before ++ steps, W.Settled i q.state := by
  induction steps with
  | nil =>
    intro before _ p hp hbefore
    rw [List.append_nil]
    exact ⟨p, runs_nil.mpr rfl, hp, hbefore⟩
  | cons i rest ih =>
    intro before hadvances p hp hbefore
    have hrest : ∀ pre j post, rest = pre ++ j :: post → ∀ s, I s →
        (∀ earlier ∈ (before ++ [i]) ++ pre, W.Settled earlier s) →
          W.Advances I ((before ++ [i]) ++ pre) j s := by
      intro pre j post hsplit s hs hearlier
      rw [List.append_assoc, List.singleton_append] at hearlier ⊢
      exact hadvances (i :: pre) j post (by rw [hsplit, List.cons_append]) s hs hearlier
    have hfirst := hadvances [] i rest rfl p.state hp (by rwa [List.append_nil])
    rw [List.append_nil] at hfirst
    have hstep : ∃ next, W.step i p = .ok next ∧ I next.state ∧
        ∀ earlier ∈ before ++ [i], W.Settled earlier next.state := by
      rcases hfirst with hsettled | ⟨op, hinspect, hsend⟩
      · refine ⟨p, step_of_settled hsettled, hp, ?_⟩
        exact List.forall_mem_append.mpr ⟨hbefore, List.forall_mem_singleton.mpr hsettled⟩
      · obtain ⟨s, hs, hkept, hsettled, hearlier⟩ := hsend p.sent.length
        refine ⟨_, step_of_sent hinspect hs, hkept, ?_⟩
        refine List.forall_mem_append.mpr ⟨?_, List.forall_mem_singleton.mpr hsettled⟩
        intro earlier hmem
        exact hearlier earlier hmem (hbefore earlier hmem)
    obtain ⟨next, hnext, hkept, hsettled⟩ := hstep
    obtain ⟨q, hq, hlast, hall⟩ := ih (before ++ [i]) hrest hkept hsettled
    refine ⟨q, runs_cons.mpr ⟨next, hnext, hq⟩, hlast, ?_⟩
    rwa [List.append_assoc, List.singleton_append] at hall

theorem exists_run {I : σ → Prop} (hadvances : ∀ pre i post, steps = pre ++ i :: post → ∀ s, I s →
    (∀ earlier ∈ pre, W.Settled earlier s) → W.Advances I pre i s) (hp : I p.state) :
    ∃ q, W.Runs steps p q ∧ I q.state ∧ ∀ i ∈ steps, W.Settled i q.state :=
  exists_run_from [] hadvances hp nofun

/-- At every point of such a run the steps before it are settled. -/
theorem settled_of_runs {I : σ → Prop} {later : List ι}
    (hadvances : ∀ pre i post, steps ++ later = pre ++ i :: post → ∀ s, I s →
      (∀ earlier ∈ pre, W.Settled earlier s) → W.Advances I pre i s) (hp : I p.state)
    (h : W.Runs steps p q) : I q.state ∧ ∀ i ∈ steps, W.Settled i q.state := by
  have hpart : ∀ pre i post, steps = pre ++ i :: post → ∀ s, I s →
      (∀ earlier ∈ pre, W.Settled earlier s) → W.Advances I pre i s := by
    intro pre i post hsplit
    refine hadvances pre i (post ++ later) ?_
    rw [hsplit, List.append_assoc, List.cons_append]
  obtain ⟨r, hr, hlast, hsettled⟩ := exists_run hpart hp
  rw [runs_unique h hr]
  exact ⟨hlast, hsettled⟩

end Worker

end ResolverIdentity.Library
