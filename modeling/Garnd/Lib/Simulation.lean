import Garnd.Lib.Transition

/- Forward simulation with stuttering. A step of a system is matched by a run of its
   specification, which may be of no steps, where what the run shows is what the step
   outputs and related states go to related states (`Simulation.matched`). So a whole
   run of the system is matched, with its whole output (`Simulation.run`). What a label
   of the specification shows is a function of the label, and `Run.invariant_shown` is
   the invariant rule for states with what was shown. -/
namespace Transition

variable {σ ρ α β ω : Type}

/-- Every step of the system from a state that meets its invariant `I` is a run of the
specification that shows the step's output. -/
structure Simulation (step : σ → α → Option σ) (spec : ρ → β → Option ρ) (output : σ → α → List ω)
    (shown : β → List ω) (I : σ → Prop) (R : σ → ρ → Prop) : Prop where
  keep : ∀ s a t, I s → step s a = some t → I t
  matched : ∀ s a t x, I s → R s x → step s a = some t →
    ∃ bs y, Run spec anyStep x bs y ∧ bs.flatMap shown = output s a ∧ R t y

variable {step : σ → α → Option σ} {ok : σ → α → Prop} {spec : ρ → β → Option ρ}
  {output : σ → α → List ω} {shown : β → List ω} {I : σ → Prop} {R : σ → ρ → Prop}

theorem Simulation.run (h : Simulation step spec output shown I R) {s t : σ} {as : List α} {x : ρ}
    (hr : Run step ok s as t) (hI : I s) (hR : R s x) :
    ∃ bs y, Run spec anyStep x bs y ∧ bs.flatMap shown = collect step output s as ∧ R t y := by
  induction hr generalizing x with
  | nil => exact ⟨[], x, .nil x, rfl, hR⟩
  | @cons s t u a as _ hs _ ih =>
    obtain ⟨bs, y, hrun, hshow, hR⟩ := h.matched s a t x hI hR hs
    obtain ⟨bs', z, hrun', hshow', hR⟩ := ih (h.keep s a t hI hs) hR
    refine ⟨bs ++ bs', z, hrun.append hrun', ?_, hR⟩
    simp only [List.flatMap_append, hshow, hshow', collect, hs]

/-- The invariant rule with what was shown so far. -/
theorem Run.invariant_shown {J : ρ → List ω → Prop}
    (hstep : ∀ x b y l, J x l → spec x b = some y → J y (l ++ shown b)) {x y : ρ} {bs : List β}
    {l : List ω} (hr : Run spec anyStep x bs y) (h : J x l) : J y (l ++ bs.flatMap shown) := by
  induction hr generalizing l with
  | nil => simpa using h
  | cons _ hs _ ih =>
    rw [List.flatMap_cons, ← List.append_assoc]
    exact ih (hstep _ _ _ _ h hs)

end Transition
