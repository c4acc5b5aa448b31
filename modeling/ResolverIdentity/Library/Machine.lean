/-
  ResolverIdentity.Library.Machine: runs of a deterministic labelled machine.

  A machine has one initial state and a partial step function; a label says
  everything the step depends on beside the state (which operation, with which
  arguments, and whatever the environment chose), so an interleaving is a list
  of labels and `run` replays it.  A label the machine cannot take at that
  point makes the run `none`.

  Main results:
    * `run_induction`: what the initial state has and every step keeps (or
      extends) holds after every run;
    * `invariant_of_along`: the same for runs whose every step meets a
      condition on the state before it (`Along`);
    * `always_iff_along`: a property of every state passed through, as a condition
      on the steps, with an invariant that may rest on the property;
    * `run_of_prefix`, `Along.of_prefix`, `along_snoc_iff`: a prefix of a run is a run;
    * `rel_of_last`: ordering a growing log by its last entry alone;
    * `Justified.snoc`: a log whose entries rest on the entries before them.
-/
import Mathlib.Data.List.Induction

namespace ResolverIdentity.Library

/-- A deterministic machine: `none` means the label is not enabled. -/
structure Machine (σ ℓ : Type) where
  init : σ
  step : σ → ℓ → Option σ

namespace Machine

variable {σ ℓ : Type} (M : Machine σ ℓ)

/-! ## §1. Runs. -/

/-- The state after taking the labels in order from the initial state. -/
def run (ls : List ℓ) : Option σ := ls.foldlM M.step M.init

@[simp] theorem run_nil : M.run [] = some M.init := rfl

theorem run_append (pre post : List ℓ) :
    M.run (pre ++ post) = (M.run pre).bind (fun s => post.foldlM M.step s) := by
  unfold run
  rw [List.foldlM_append]
  rfl

theorem run_snoc_eq_some {ls : List ℓ} {l : ℓ} {s' : σ} :
    M.run (ls ++ [l]) = some s' ↔ ∃ s, M.run ls = some s ∧ M.step s l = some s' := by
  rw [run_append, Option.bind_eq_some_iff]
  simp

/-- Every prefix of a run is a run. -/
theorem run_of_prefix {pre post : List ℓ} {s : σ} (h : M.run (pre ++ post) = some s) :
    ∃ s₀, M.run pre = some s₀ := by
  rw [run_append] at h
  obtain ⟨s₀, h₀, _⟩ := Option.bind_eq_some_iff.mp h
  exact ⟨s₀, h₀⟩

/-- Induction on a run, last step last. -/
theorem run_induction {motive : List ℓ → σ → Prop} (nil : motive [] M.init)
    (snoc : ∀ ls s l s', M.run ls = some s → motive ls s → M.step s l = some s' →
      motive (ls ++ [l]) s') :
    ∀ {ls : List ℓ} {s : σ}, M.run ls = some s → motive ls s := by
  intro ls
  induction ls using List.reverseRecOn with
  | nil =>
    intro s h
    obtain rfl := Option.some.inj h
    exact nil
  | append_singleton ls l ih =>
    intro s' h
    obtain ⟨s, hs, hl⟩ := M.run_snoc_eq_some.mp h
    exact snoc ls s l s' hs (ih hs) hl

/-- A machine that takes every label runs through. -/
theorem run_of_total {next : σ → ℓ → σ} (h : ∀ s l, M.step s l = some (next s l)) (ls : List ℓ) :
    M.run ls = some (ls.foldl next M.init) := by
  induction ls using List.reverseRecOn with
  | nil => rfl
  | append_singleton ls l ih =>
    rw [List.foldl_append, List.foldl_cons, List.foldl_nil]
    exact M.run_snoc_eq_some.mpr ⟨_, ih, h _ l⟩

/-! ## §2. Runs whose every step meets a condition. -/

/-- Every step of the run is taken from a state that meets `C` for its label. -/
def Along (C : σ → ℓ → Prop) (ls : List ℓ) : Prop :=
  ∀ pre l post s, ls = pre ++ l :: post → M.run pre = some s → C s l

variable {M}

theorem Along.of_prefix {C : σ → ℓ → Prop} {pre post : List ℓ} (h : M.Along C (pre ++ post)) :
    M.Along C pre := by
  intro pre' l post' s heq hs
  refine h pre' l (post' ++ post) s ?_ hs
  rw [heq, List.append_assoc, List.cons_append]

theorem Along.last {C : σ → ℓ → Prop} {ls : List ℓ} {l : ℓ} {s : σ} (h : M.Along C (ls ++ [l]))
    (hs : M.run ls = some s) : C s l :=
  h ls l [] s rfl hs

theorem along_nil (C : σ → ℓ → Prop) : M.Along C [] := by
  intro pre l post s heq
  cases pre <;> cases heq

/-- A condition that holds along a run and at the state it reached holds along
the run with one more step. -/
theorem Along.snoc {C : σ → ℓ → Prop} {ls : List ℓ} {l : ℓ} (h : M.Along C ls)
    (hl : ∀ s, M.run ls = some s → C s l) : M.Along C (ls ++ [l]) := by
  intro pre l' post s heq hs
  rcases List.eq_nil_or_concat post with rfl | ⟨post', b, rfl⟩
  · obtain ⟨rfl, hl'⟩ := List.append_inj' heq rfl
    obtain rfl : l = l' := by simpa using hl'
    exact hl s hs
  · rw [List.concat_eq_append, ← List.cons_append, ← List.append_assoc] at heq
    obtain ⟨rfl, _⟩ := List.append_inj' heq rfl
    exact h pre l' post' s rfl hs

/-- A run along a condition, taken apart at its last step. -/
theorem along_snoc_iff {C : σ → ℓ → Prop} {ls : List ℓ} {l : ℓ} {s : σ}
    (hs : M.run ls = some s) : M.Along C (ls ++ [l]) ↔ M.Along C ls ∧ C s l := by
  constructor
  · intro h
    exact ⟨h.of_prefix, h.last hs⟩
  · intro h
    refine h.1.snoc ?_
    intro s' hs'
    obtain rfl : s = s' := Option.some.inj (hs.symm.trans hs')
    exact h.2

/-- An invariant kept by every step that meets the condition holds after every
run along the condition. -/
theorem invariant_of_along {C : σ → ℓ → Prop} {I : σ → Prop} (init : I M.init)
    (step : ∀ s l s', I s → C s l → M.step s l = some s' → I s')
    {ls : List ℓ} {s : σ} (hC : M.Along C ls) (hs : M.run ls = some s) : I s := by
  refine M.run_induction (motive := fun ls s => M.Along C ls → I s) (fun _ => init) ?_ hs hC
  intro ls s l s' hrun ih hl hC
  exact step s l s' (ih hC.of_prefix) (hC.last hrun) hl

/-- An invariant of every step holds after every run. -/
theorem invariant {I : σ → Prop} (init : I M.init)
    (step : ∀ s l s', I s → M.step s l = some s' → I s')
    {ls : List ℓ} {s : σ} (hs : M.run ls = some s) : I s :=
  M.run_induction (motive := fun _ s => I s) init
    (fun _ s l s' _ ih hl => step s l s' ih hl) hs

variable (M) in
/-- Every state the run passes through has `D`. -/
def Always (D : σ → Prop) (ls : List ℓ) : Prop :=
  ∀ pre post s, ls = pre ++ post → M.run pre = some s → D s

theorem Always.of_prefix {D : σ → Prop} {pre post : List ℓ} (h : M.Always D (pre ++ post)) :
    M.Always D pre := by
  intro pre' post' s heq hs
  refine h pre' (post' ++ post) s ?_ hs
  rw [heq, List.append_assoc]

/-- An invariant of the steps from states with `D` holds after every run that always has `D`. -/
theorem invariant_of_always {I D : σ → Prop} (init : I M.init)
    (inv : ∀ s l s', I s → D s → M.step s l = some s' → I s')
    {ls : List ℓ} {s : σ} (hall : M.Always D ls) (hs : M.run ls = some s) : I s := by
  refine M.run_induction (motive := fun ls s => M.Always D ls → I s) (fun _ => init) ?_ hs hall
  intro ls s l s' hrun ih hl hall
  exact inv s l s' (ih hall.of_prefix) (hall ls [l] s rfl hrun) hl

/-- Where the steps that keep `D` are those that meet `C`, the runs that always have
`D` are the runs along `C`; the invariant may rest on `D` itself. -/
theorem always_iff_along {C : σ → ℓ → Prop} {I D : σ → Prop}
    (init : I M.init) (inv : ∀ s l s', I s → D s → M.step s l = some s' → I s') (hD : D M.init)
    (disabled : ∀ s l, M.step s l = none → C s l)
    (step : ∀ s l s', I s → D s → M.step s l = some s' → (D s' ↔ C s l)) (ls : List ℓ) :
    M.Always D ls ↔ M.Along C ls := by
  constructor
  · intro hall pre l post s hls hs
    rw [hls] at hall
    cases hstep : M.step s l with
    | none => exact disabled s l hstep
    | some s' =>
      have hnow : D s := hall pre (l :: post) s rfl hs
      have hinv : I s := invariant_of_always init inv hall.of_prefix hs
      refine (step s l s' hinv hnow hstep).mp (hall (pre ++ [l]) post s' ?_ ?_)
      · rw [List.append_assoc, List.singleton_append]
      · exact M.run_snoc_eq_some.mpr ⟨s, hs, hstep⟩
  · intro halong pre post s hls hs
    rw [hls] at halong
    have hboth : I s ∧ D s := by
      refine Machine.invariant_of_along (I := fun s => I s ∧ D s) ⟨init, hD⟩ ?_
        halong.of_prefix hs
      intro s l s' h hC hl
      exact ⟨inv s l s' h.1 h.2 hl, (step s l s' h.1 h.2 hl).mpr hC⟩
    exact hboth.2

variable (M) in
/-- A decidable condition, checked from a state on until a label is not enabled. -/
def checked (C : σ → ℓ → Prop) [∀ s l, Decidable (C s l)] : σ → List ℓ → Bool
  | _, [] => true
  | s, l :: ls => decide (C s l) && (M.step s l).all (fun s' => checked C s' ls)

theorem of_checked {C : σ → ℓ → Prop} [∀ s l, Decidable (C s l)] {ls : List ℓ} :
    ∀ {s₀ : σ}, M.checked C s₀ ls = true → ∀ pre l post s, ls = pre ++ l :: post →
      pre.foldlM M.step s₀ = some s → C s l := by
  induction ls with
  | nil =>
    intro s₀ _ pre l post s heq
    cases pre <;> cases heq
  | cons first rest ih =>
    intro s₀ h pre l post s heq hs
    obtain ⟨hfirst, hrest⟩ := Bool.and_eq_true_iff.mp h
    cases pre with
    | nil =>
      obtain ⟨rfl, _⟩ := List.cons.inj heq
      obtain rfl := Option.some.inj hs
      exact of_decide_eq_true hfirst
    | cons _ pre =>
      obtain ⟨rfl, hrest'⟩ := List.cons.inj heq
      obtain ⟨s', hstep, hs⟩ := Option.bind_eq_some_iff.mp hs
      rw [hstep] at hrest
      exact ih hrest pre l post s hrest' hs

/-- A run can be checked along a decidable condition. -/
theorem along_of_checked {C : σ → ℓ → Prop} [∀ s l, Decidable (C s l)] {ls : List ℓ}
    (h : M.checked C M.init ls = true) : M.Along C ls :=
  fun pre l post s heq hs => of_checked h pre l post s heq hs

end Machine

/-! ## §3. Logs that only grow in order. -/

/-- Past a log ordered by a transitive relation, what follows the last entry
follows every entry. -/
theorem rel_of_last {α : Type} {R : α → α → Prop} (trans : ∀ {a b c}, R a b → R b c → R a c)
    {log : List α} (h : log.Pairwise R) {x : α} (hlast : ∀ last ∈ log.getLast?, R last x) :
    ∀ a ∈ log, R a x := by
  intro a ha
  obtain ⟨pre, last, rfl⟩ := List.eq_nil_or_concat log |>.resolve_left (List.ne_nil_of_mem ha)
  rw [List.concat_eq_append] at h ha hlast
  have hx : R last x := hlast last (by simp)
  rcases List.mem_append.mp ha with ha | ha
  · exact trans ((List.pairwise_append.mp h).2.2 a ha last List.mem_cons_self) hx
  · rw [List.mem_singleton.mp ha]
    exact hx

theorem pairwise_snoc {α : Type} {R : α → α → Prop} {log : List α} {x : α} :
    (log ++ [x]).Pairwise R ↔ log.Pairwise R ∧ ∀ a ∈ log, R a x := by
  rw [List.pairwise_append]
  simp

/-- Every entry of a log is justified by the entries before it. -/
def Justified {α : Type} (G : List α → α → Prop) (log : List α) : Prop :=
  ∀ pre x post, log = pre ++ x :: post → G pre x

theorem justified_nil {α : Type} (G : List α → α → Prop) : Justified G [] := by
  intro pre x post h
  cases pre <;> cases h

theorem Justified.snoc {α : Type} {G : List α → α → Prop} {log : List α} {x : α}
    (h : Justified G log) (hx : G log x) : Justified G (log ++ [x]) := by
  intro pre y post heq
  rcases List.eq_nil_or_concat post with rfl | ⟨post', b, rfl⟩
  · obtain ⟨rfl, hy⟩ := List.append_inj' heq rfl
    obtain rfl : x = y := by simpa using hy
    exact hx
  · rw [List.concat_eq_append, ← List.cons_append, ← List.append_assoc] at heq
    obtain ⟨rfl, _⟩ := List.append_inj' heq rfl
    exact h pre y post' rfl

/-- The entries before a point are justified without those after it. -/
theorem Justified.of_prefix {α : Type} {G : List α → α → Prop} {log more : List α}
    (h : Justified G (log ++ more)) : Justified G log := by
  intro pre x post heq
  refine h pre x (post ++ more) ?_
  rw [heq, List.append_assoc, List.cons_append]

/-- Entries that need no justification of their own. -/
theorem Justified.append {α : Type} {G : List α → α → Prop} {log added : List α}
    (h : Justified G log) (hadded : ∀ pre, ∀ x ∈ added, G pre x) :
    Justified G (log ++ added) := by
  induction added using List.reverseRecOn with
  | nil => rwa [List.append_nil]
  | append_singleton added x ih =>
    rw [← List.append_assoc]
    refine (ih (fun pre y hy => hadded pre y (List.mem_append_left _ hy))).snoc ?_
    exact hadded _ x (List.mem_append_right _ List.mem_cons_self)

end ResolverIdentity.Library
