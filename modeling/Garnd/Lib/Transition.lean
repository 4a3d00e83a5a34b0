import Mathlib.Data.List.Basic

/- Labelled transition systems with a partial step function. A label carries
   every outcome the environment chooses, so a step is a function of the state
   and the label, and a run is a list of labels. `Run step ok s as t` is a run
   of `as` from `s` to `t` in which every step meets the condition `ok`; a
   safety property is an invariant of runs (`Run.invariant`), a condition on the
   environment is a choice of `ok` (`Run.mono`). `exec` replays a list of labels,
   so a concrete run is found by evaluation (`Run.of_exec`). `collect` is what the
   steps of a run contribute, and `Run.invariant_collect` its invariant rule. -/
namespace Transition

variable {σ α : Type}

/-- A run of the labels `as` from `s` to `t`, every step of which meets `ok`. -/
inductive Run (step : σ → α → Option σ) (ok : σ → α → Prop) : σ → List α → σ → Prop
  | nil (s : σ) : Run step ok s [] s
  | cons {s t u : σ} {a : α} {as : List α} :
      ok s a → step s a = some t → Run step ok t as u → Run step ok s (a :: as) u

/-- The condition every step meets. -/
def anyStep : σ → α → Prop := fun _ _ => True

/-- Replay a list of labels; `none` where a label is not enabled or does not
meet the check. -/
def exec (step : σ → α → Option σ) (check : σ → α → Bool) : σ → List α → Option σ
  | s, [] => some s
  | s, a :: as =>
    if check s a then
      match step s a with
      | some t => exec step check t as
      | none => none
    else none

/-- What the steps of a list of labels contribute, in their order. -/
def collect {β : Type} (step : σ → α → Option σ) (f : σ → α → List β) : σ → List α → List β
  | _, [] => []
  | s, a :: as =>
    match step s a with
    | some t => f s a ++ collect step f t as
    | none => []

variable {step : σ → α → Option σ} {ok ok' : σ → α → Prop}

namespace Run

theorem of_exec {check : σ → α → Bool} (h : ∀ s a, check s a = true → ok s a) :
    ∀ {as : List α} {s t : σ}, exec step check s as = some t → Run step ok s as t
  | [], s, t, he => by
    simp only [exec, Option.some.injEq] at he
    subst he
    exact .nil s
  | a :: as, s, t, he => by
    simp only [exec] at he
    split at he
    · rename_i hc
      split at he
      · rename_i u hu
        exact .cons (h s a hc) hu (of_exec h he)
      · cases he
    · cases he

/-- A replay that ends in a state with the property is a run that does. -/
theorem of_exec_any {check : σ → α → Bool} {p : σ → Bool} {as : List α} {s : σ}
    (h : ∀ s a, check s a = true → ok s a) (he : (exec step check s as).any p = true) :
    ∃ t, Run step ok s as t ∧ p t = true := by
  obtain ⟨t, ht, hp⟩ := (Option.any_eq_true _ _).mp he
  exact ⟨t, of_exec h ht, hp⟩

theorem mono (h : ∀ s a, ok s a → ok' s a) {s t : σ} {as : List α} (hr : Run step ok s as t) :
    Run step ok' s as t := by
  induction hr with
  | nil s => exact .nil s
  | cons ha hs _ ih => exact .cons (h _ _ ha) hs ih

theorem append {s t u : σ} {as bs : List α} (h₁ : Run step ok s as t) (h₂ : Run step ok t bs u) :
    Run step ok s (as ++ bs) u := by
  induction h₁ with
  | nil _ => exact h₂
  | cons ha hs _ ih => exact .cons ha hs (ih h₂)

theorem snoc {s t u : σ} {a : α} {as : List α} (h : Run step ok s as t) (ha : ok t a)
    (hs : step t a = some u) : Run step ok s (as ++ [a]) u :=
  h.append (.cons ha hs (.nil u))

/-- A run of a concatenation passes through a middle state. -/
theorem split {s u : σ} {as bs : List α} (h : Run step ok s (as ++ bs) u) :
    ∃ t, Run step ok s as t ∧ Run step ok t bs u := by
  induction as generalizing s with
  | nil => exact ⟨s, .nil s, h⟩
  | cons a as ih =>
    cases h with
    | cons ha hs hr =>
      obtain ⟨t, h₁, h₂⟩ := ih hr
      exact ⟨t, .cons ha hs h₁, h₂⟩

/-- A run ends where its labels say. -/
theorem unique {s t u : σ} {as : List α} (h₁ : Run step ok s as t) (h₂ : Run step ok' s as u) :
    t = u := by
  induction h₁ with
  | nil _ =>
    cases h₂
    rfl
  | cons _ hs _ ih =>
    cases h₂ with
    | cons _ hs' hr =>
      cases hs.symm.trans hs'
      exact ih hr

/-- The invariant rule: what every step that meets `ok` preserves holds at the
end of a run that starts in it. -/
theorem invariant {I : σ → Prop} (hstep : ∀ s a t, ok s a → I s → step s a = some t → I t)
    {s t : σ} {as : List α} (hr : Run step ok s as t) (h : I s) : I t := by
  induction hr with
  | nil _ => exact h
  | cons ha hs _ ih => exact ih (hstep _ _ _ ha h hs)

/-- The invariant rule with what the steps have contributed so far. -/
theorem invariant_collect {β : Type} {f : σ → α → List β} {I : σ → List β → Prop}
    (hstep : ∀ s a t l, ok s a → I s l → step s a = some t → I t (l ++ f s a))
    {s t : σ} {as : List α} {l : List β} (hr : Run step ok s as t) (h : I s l) :
    I t (l ++ collect step f s as) := by
  induction hr generalizing l with
  | nil _ => simpa [collect] using h
  | cons ha hs _ ih =>
    simp only [collect, hs, ← List.append_assoc]
    exact ih (hstep _ _ _ _ ha h hs)

end Run

end Transition
