import Garnd.Lib.Transition
import Mathlib.Logic.Function.Basic

/- Systems with a monitor. A monitor stands for what a system shares with its
   surroundings: it sees each step and what the surroundings add to the label, keeps a
   state of its own and refuses what the surroundings do not allow. `watched` is one
   system beside a monitor, `fleet` a family of copies of it that take turns beside one
   monitor. A monitor only refuses steps, so what holds of every state of the system may
   be used in an invariant that also speaks of the monitor (`Run.watched_invariant`,
   `Run.fleet_invariant`). -/
namespace Transition

variable {σ μ α β ι : Type} {ok : σ × μ → α × β → Prop}

/-- What a monitor makes of a step: the state before, the label, what the surroundings
add to it, and the state after. -/
abbrev Monitor (σ μ α β : Type) := σ → α → β → σ → μ → Option μ

/-- A step of the system that the monitor lets pass. -/
def watched (step : σ → α → Option σ) (watch : Monitor σ μ α β) (p : σ × μ) (x : α × β) :
    Option (σ × μ) :=
  match step p.1 x.1 with
  | some t => (watch p.1 x.1 x.2 t p.2).map fun m => (t, m)
  | none => none

variable {step : σ → α → Option σ} {watch : Monitor σ μ α β}

theorem watched_eq_some {p q : σ × μ} {x : α × β} :
    watched step watch p x = some q ↔
      step p.1 x.1 = some q.1 ∧ watch p.1 x.1 x.2 q.1 p.2 = some q.2 := by
  unfold watched
  obtain ⟨t, m⟩ := q
  cases hs : step p.1 x.1 with
  | none => simp
  | some u =>
    simp only [Option.map_eq_some_iff, Prod.mk.injEq, Option.some.injEq]
    constructor
    · rintro ⟨m', hw, rfl, rfl⟩
      exact ⟨rfl, hw⟩
    · rintro ⟨rfl, hw⟩
      exact ⟨m, hw, rfl, rfl⟩

theorem watched_intro {s t : σ} {m m' : μ} {a : α} {b : β} (hs : step s a = some t)
    (hw : watch s a b t m = some m') : watched step watch (s, m) (a, b) = some (t, m') :=
  watched_eq_some.mpr ⟨hs, hw⟩

/-- The invariant rule: `I` is an invariant of the system, `J` one of the system with
its monitor. -/
theorem Run.watched_invariant {I : σ → Prop} {J : σ → μ → Prop}
    (hI : ∀ s a t, I s → step s a = some t → I t)
    (hJ : ∀ s m a b t m', I s → J s m → step s a = some t → watch s a b t m = some m' → J t m')
    {p q : σ × μ} {xs : List (α × β)} (hr : Run (watched step watch) ok p xs q) (h : I p.1)
    (h' : J p.1 p.2) : I q.1 ∧ J q.1 q.2 := by
  refine hr.invariant (I := fun p => I p.1 ∧ J p.1 p.2) ?_ ⟨h, h'⟩
  intro p x q _ hp hs
  obtain ⟨hs, hw⟩ := watched_eq_some.mp hs
  exact ⟨hI _ _ _ hp.1 hs, hJ _ _ _ _ _ _ hp.1 hp.2 hs hw⟩

/-! ## Many of them -/

section Fleet
variable [DecidableEq ι]

/-- One of the systems takes a step that the monitor lets pass. -/
def fleet (step : σ → α → Option σ) (watch : ι → Monitor σ μ α β) (p : (ι → σ) × μ)
    (x : ι × α × β) : Option ((ι → σ) × μ) :=
  match step (p.1 x.1) x.2.1 with
  | some t => (watch x.1 (p.1 x.1) x.2.1 x.2.2 t p.2).map fun m => (Function.update p.1 x.1 t, m)
  | none => none

variable {watches : ι → Monitor σ μ α β} {okf : (ι → σ) × μ → ι × α × β → Prop}

theorem fleet_eq_some {p q : (ι → σ) × μ} {x : ι × α × β}
    (h : fleet step watches p x = some q) :
    ∃ t, step (p.1 x.1) x.2.1 = some t ∧ q.1 = Function.update p.1 x.1 t ∧
      watches x.1 (p.1 x.1) x.2.1 x.2.2 t p.2 = some q.2 := by
  unfold fleet at h
  cases hs : step (p.1 x.1) x.2.1 with
  | none =>
    rw [hs] at h
    cases h
  | some t =>
    rw [hs] at h
    obtain ⟨m, hw, rfl⟩ := Option.map_eq_some_iff.mp h
    exact ⟨t, rfl, rfl, hw⟩

/-- The invariant rule: `I` is an invariant of each system, `J` one of all of them with
the monitor. -/
theorem Run.fleet_invariant {I : σ → Prop} {J : (ι → σ) → μ → Prop}
    (hI : ∀ s a t, I s → step s a = some t → I t)
    (hJ : ∀ f m i a b t m', (∀ j, I (f j)) → J f m → step (f i) a = some t →
      watches i (f i) a b t m = some m' → J (Function.update f i t) m')
    {p q : (ι → σ) × μ} {xs : List (ι × α × β)} (hr : Run (fleet step watches) okf p xs q)
    (h : ∀ i, I (p.1 i)) (h' : J p.1 p.2) : (∀ i, I (q.1 i)) ∧ J q.1 q.2 := by
  refine hr.invariant (I := fun p => (∀ i, I (p.1 i)) ∧ J p.1 p.2) ?_ ⟨h, h'⟩
  rintro p x ⟨f, m⟩ _ hp hs
  obtain ⟨t, ht, hf, hw⟩ := fleet_eq_some hs
  obtain rfl : f = Function.update p.1 x.1 t := hf
  refine ⟨fun j => ?_, hJ _ _ _ _ _ _ _ hp.1 hp.2 ht hw⟩
  by_cases hj : j = x.1
  · subst hj
    simpa using hI _ _ _ (hp.1 _) ht
  · simpa [Function.update_of_ne hj] using hp.1 j

end Fleet

end Transition
