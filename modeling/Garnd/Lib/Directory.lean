import Garnd.Lib.Transition
import Mathlib.Data.Set.Finite.Basic
import Mathlib.Logic.Function.Basic

/- An append-only directory of typed places, as a transition system whose labels are
   what its calls come back with: a label is enabled exactly where the directory
   gives that answer. A run only ever adds entries (`run_extends`), stays finite
   (`run_finite`), and every place it ever answered with is the place of an entry
   at its end (`place_of_run`). -/
namespace Directory
open Transition

/-- A typed place. -/
structure Entry (τ ℓ : Type) where
  type : τ
  place : ℓ
  deriving DecidableEq

abbrev State (κ τ ℓ : Type) := κ → Option (Entry τ ℓ)

/-- What a call comes back with: an entry was added, or not; nothing was found, or
something of another type, or a place. -/
inductive Answer (κ τ ℓ : Type) where
  | added (k : κ) (type : τ) (place : ℓ)
  | refused (k : κ) (type : τ)
  | absent (k : κ) (type : τ)
  | mismatch (k : κ) (type : τ)
  | found (k : κ) (type : τ) (place : ℓ)

/-- The place an answer names. -/
def Answer.place {κ τ ℓ : Type} : Answer κ τ ℓ → Option ℓ
  | .added _ _ place | .found _ _ place => some place
  | _ => none

/-- The directory after an answer, where it gives it. -/
def step {κ τ ℓ : Type} [DecidableEq κ] [DecidableEq τ] [DecidableEq ℓ] (d : State κ τ ℓ) :
    Answer κ τ ℓ → Option (State κ τ ℓ)
  | .added k type place =>
    match d k with
    | none => some (Function.update d k (some ⟨type, place⟩))
    | some _ => none
  | .refused _ _ => some d
  | .absent k _ =>
    match d k with
    | none => some d
    | some _ => none
  | .mismatch k type =>
    match d k with
    | none => none
    | some e => if e.type = type then none else some d
  | .found k type place => if d k = some ⟨type, place⟩ then some d else none

/-- Nothing changes or disappears. -/
def Extends {κ τ ℓ : Type} (d d' : State κ τ ℓ) : Prop := ∀ k e, d k = some e → d' k = some e

variable {κ τ ℓ : Type} [DecidableEq κ] [DecidableEq τ] [DecidableEq ℓ] {d d' : State κ τ ℓ}

/-- An answer changes nothing, or adds the entry it names under a free name. -/
theorem step_cases {a : Answer κ τ ℓ} (h : step d a = some d') :
    d' = d ∨ ∃ k type place, a = .added k type place ∧ d k = none ∧
      d' = Function.update d k (some ⟨type, place⟩) := by
  cases a with
  | added k type place =>
    simp only [step] at h
    split at h
    · rename_i hk
      exact .inr ⟨k, type, place, rfl, hk, (Option.some.inj h).symm⟩
    · cases h
  | refused k type => exact .inl (Option.some.inj h).symm
  | absent k type =>
    simp only [step] at h
    split at h
    · exact .inl (Option.some.inj h).symm
    · cases h
  | mismatch k type =>
    simp only [step] at h
    split at h
    · cases h
    · split at h
      · cases h
      · exact .inl (Option.some.inj h).symm
  | found k type place =>
    simp only [step] at h
    split at h
    · exact .inl (Option.some.inj h).symm
    · cases h

theorem step_extends {a : Answer κ τ ℓ} (h : step d a = some d') : Extends d d' := by
  intro k e hk
  obtain rfl | ⟨k', type, place, -, hk', rfl⟩ := step_cases h
  · exact hk
  · have hne : k ≠ k' := by
      rintro rfl
      rw [hk] at hk'
      cases hk'
    rw [Function.update_of_ne hne]
    exact hk

theorem run_extends {as : List (Answer κ τ ℓ)} {ok : State κ τ ℓ → Answer κ τ ℓ → Prop}
    (h : Run step ok d as d') : Extends d d' :=
  h.invariant (I := Extends d) (fun _ _ _ _ hs ht k e hk => step_extends ht k e (hs k e hk))
    fun _ _ hk => hk

theorem run_finite {as : List (Answer κ τ ℓ)} {ok : State κ τ ℓ → Answer κ τ ℓ → Prop}
    (h : Run step ok d as d') (hfin : {k | d k ≠ none}.Finite) : {k | d' k ≠ none}.Finite := by
  refine h.invariant (I := fun d => {k | d k ≠ none}.Finite) ?_ hfin
  intro s a t _ hs ht
  obtain rfl | ⟨k, type, place, -, -, rfl⟩ := step_cases ht
  · exact hs
  · refine (hs.insert k).subset fun n hn => ?_
    by_cases hnk : n = k
    · exact .inl hnk
    · refine .inr ?_
      rw [Set.mem_ofPred_eq, Function.update_of_ne hnk] at hn
      exact hn

/-- A place that is answered with is then the place of an entry. -/
theorem step_place {a : Answer κ τ ℓ} {place : ℓ} (h : step d a = some d')
    (ha : a.place = some place) : ∃ k e, d' k = some e ∧ e.place = place := by
  cases a with
  | added k type place' =>
    cases ha
    obtain ⟨rfl⟩ | ⟨k', type', place', heq, -, rfl⟩ := step_cases h
    · simp only [step] at h
      split at h
      · exact ⟨k, ⟨type, place⟩, by rw [← Option.some.inj h]; simp, rfl⟩
      · cases h
    · cases heq
      exact ⟨k, ⟨type, place⟩, by simp, rfl⟩
  | found k type place' =>
    cases ha
    simp only [step] at h
    split at h
    · rename_i hk
      cases h
      exact ⟨k, ⟨type, place⟩, hk, rfl⟩
    · cases h
  | refused _ _ => cases ha
  | absent _ _ => cases ha
  | mismatch _ _ => cases ha

/-- Every place that was ever answered with is the place of an entry at the end. -/
theorem place_of_run {as : List (Answer κ τ ℓ)} {ok : State κ τ ℓ → Answer κ τ ℓ → Prop}
    (h : Run step ok d as d') {a : Answer κ τ ℓ} {place : ℓ} (ha : a ∈ as)
    (hp : a.place = some place) : ∃ k e, d' k = some e ∧ e.place = place := by
  induction h with
  | nil _ => cases ha
  | cons _ hs hr ih =>
    rcases List.mem_cons.mp ha with rfl | ha
    · obtain ⟨k, e, hk, he⟩ := step_place hs hp
      exact ⟨k, e, run_extends hr k e hk, he⟩
    · exact ih ha

end Directory
