import Garnd.Lib.Simulation
import Mathlib.Data.Set.BooleanAlgebra
import Mathlib.Data.Set.Insert
import Mathlib.Logic.Function.Basic
import Mathlib.Order.CompletePartialOrder

/- Named sessions in which clients share resources, as a specification. A client asks for
   one name, and joins one session, of that name; while a session is live there is no
   other of its name. A session has a region for each resource it was asked for, always
   the same, and a new region has no point in common with any that was ever given, in
   this session or another. Clients see that their request is granted and where a
   resource is (`Message`), and no more. So where two clients are told of regions that
   have a point in common, they asked for one session and one resource by name, and were
   told the same (`overlap`); and clients of one session are told the same of a resource
   while both are there (`together`). -/
namespace Sessions
open Transition

variable {ι κ ν μ π : Type}

/-- `present` are the clients that have joined and not left. -/
structure State (ι κ ν μ π : Type) where
  asked : κ → Option ν
  name : ι → Option ν
  live : Set ι
  session : κ → Option ι
  present : Set κ
  region : ι → μ → Option (Set π)

inductive Act (ι κ ν μ π : Type) where
  | ask (c : κ) (n : ν)
  | begin (i : ι) (n : ν)
  | join (c : κ) (i : ι)
  | grant (c : κ)
  | tell (c : κ) (i : ι) (m : μ) (r : Set π)
  | leave (c : κ)
  | finish (i : ι)

/-- What passes between the clients and the service. -/
inductive Message (κ ν μ π : Type) where
  | asked (c : κ) (n : ν)
  | granted (c : κ)
  | told (c : κ) (m : μ) (r : Set π)

def Act.shown : Act ι κ ν μ π → List (Message κ ν μ π)
  | .ask c n => [.asked c n]
  | .grant c => [.granted c]
  | .tell c _ m r => [.told c m r]
  | _ => []

namespace State

def empty : State ι κ ν μ π where
  asked _ := none
  name _ := none
  live := ∅
  session _ := none
  present := ∅
  region _ _ := none

/-- The session has the resource there, or may put it there. -/
def Offers (x : State ι κ ν μ π) (i : ι) (m : μ) (r : Set π) : Prop :=
  x.region i m = some r ∨ x.region i m = none ∧ ∀ j k q, x.region j k = some q → Disjoint r q

/-- The step may be taken. -/
def Enabled (x : State ι κ ν μ π) : Act ι κ ν μ π → Prop
  | .ask c _ => x.asked c = none
  | .begin i n => x.name i = none ∧ ∀ j ∈ x.live, x.name j ≠ some n
  | .join c i => i ∈ x.live ∧ x.session c = none ∧ ∃ n, x.name i = some n ∧ x.asked c = some n
  | .grant c => x.session c ≠ none
  | .tell c i m r => i ∈ x.live ∧ x.session c = some i ∧ c ∈ x.present ∧ x.Offers i m r
  | .leave c => c ∈ x.present
  | .finish i => i ∈ x.live

open Classical in
noncomputable def effect (x : State ι κ ν μ π) : Act ι κ ν μ π → State ι κ ν μ π
  | .ask c n => { x with asked := Function.update x.asked c (some n) }
  | .begin i n => { x with name := Function.update x.name i (some n), live := insert i x.live }
  | .join c i =>
    { x with session := Function.update x.session c (some i), present := insert c x.present }
  | .grant _ => x
  | .tell _ i m r =>
    { x with region := Function.update x.region i (Function.update (x.region i) m (some r)) }
  | .leave c => { x with present := x.present \ {c} }
  | .finish i =>
    { x with live := x.live \ {i}, present := {c ∈ x.present | x.session c ≠ some i} }

open Classical in
noncomputable def step (x : State ι κ ν μ π) (a : Act ι κ ν μ π) : Option (State ι κ ν μ π) :=
  if x.Enabled a then some (x.effect a) else none

variable {x y : State ι κ ν μ π} {a : Act ι κ ν μ π} {bs : List (Act ι κ ν μ π)}

theorem step_eq_some : x.step a = some y ↔ x.Enabled a ∧ x.effect a = y := by
  unfold step
  split
  · rename_i h
    simp [h]
  · rename_i h
    simp [h]

theorem Enabled.run (h : x.Enabled a) : Run step anyStep x [a] (x.effect a) :=
  .cons trivial (step_eq_some.mpr ⟨h, rfl⟩) (.nil _)

theorem asked_ask (x : State ι κ ν μ π) (c : κ) (n : ν) : (x.effect (.ask c n)).asked c = some n := by
  simp [effect]

theorem asked_ask_of_ne (x : State ι κ ν μ π) {c d : κ} (n : ν) (h : d ≠ c) :
    (x.effect (.ask c n)).asked d = x.asked d := by
  simp [effect, h]

theorem name_begin (x : State ι κ ν μ π) (i : ι) (n : ν) : (x.effect (.begin i n)).name i = some n := by
  simp [effect]

theorem name_begin_of_ne (x : State ι κ ν μ π) {i j : ι} (n : ν) (h : j ≠ i) :
    (x.effect (.begin i n)).name j = x.name j := by
  simp [effect, h]

theorem session_join (x : State ι κ ν μ π) (c : κ) (i : ι) :
    (x.effect (.join c i)).session c = some i := by
  simp [effect]

theorem session_join_of_ne (x : State ι κ ν μ π) {c d : κ} (i : ι) (h : d ≠ c) :
    (x.effect (.join c i)).session d = x.session d := by
  simp [effect, h]

theorem region_tell (x : State ι κ ν μ π) (c : κ) (i : ι) (m : μ) (r : Set π) :
    (x.effect (.tell c i m r)).region i m = some r := by
  simp [effect]

theorem region_tell_of_ne (x : State ι κ ν μ π) (c : κ) {i j : ι} {m k : μ} (r : Set π)
    (h : j ≠ i ∨ k ≠ m) : (x.effect (.tell c i m r)).region j k = x.region j k := by
  classical
  simp only [effect]
  by_cases hj : j = i
  · subst hj
    rw [Function.update_self, Function.update_of_ne (h.resolve_left fun hne => hne rfl)]
  · rw [Function.update_of_ne hj]

/-! ## What holds in every run -/

/-- A client is in a session of the name it asked for, names are not shared, and neither
are points. -/
structure Sound (x : State ι κ ν μ π) : Prop where
  joined : ∀ c i, x.session c = some i → ∃ n, x.name i = some n ∧ x.asked c = some n
  present : ∀ c ∈ x.present, ∃ i ∈ x.live, x.session c = some i
  named : ∀ i ∈ x.live, x.name i ≠ none
  unique : ∀ i ∈ x.live, ∀ j ∈ x.live, x.name i = x.name j → i = j
  apart : ∀ i j m k r q, x.region i m = some r → x.region j k = some q → ¬Disjoint r q →
    i = j ∧ m = k

theorem sound_empty : (empty : State ι κ ν μ π).Sound where
  joined c i h := by cases h
  present c h := by cases h
  named i h := by cases h
  unique i h := by cases h
  apart i j m k r q h := by cases h

theorem region_before {i j : ι} {m k : μ} {c : κ} {r q : Set π}
    (h : (x.effect (.tell c i m r)).region j k = some q) :
    (j = i ∧ k = m ∧ q = r) ∨ x.region j k = some q := by
  by_cases hjk : j = i ∧ k = m
  · obtain ⟨rfl, rfl⟩ := hjk
    rw [region_tell] at h
    exact .inl ⟨rfl, rfl, (Option.some.inj h).symm⟩
  · rw [region_tell_of_ne x c r (not_and_or.mp hjk)] at h
    exact .inr h

/-- A region that is offered has a point in common with its own only. -/
theorem Offers.apart (h : x.Sound) {i j : ι} {m k : μ} {r q : Set π} (ho : x.Offers i m r)
    (hq : x.region j k = some q) (hov : ¬Disjoint r q) : i = j ∧ m = k := by
  rcases ho with hr | ⟨-, hnew⟩
  · exact h.apart i j m k r q hr hq hov
  · exact absurd (hnew j k q hq) hov

theorem Sound.step (h : x.Sound) (hs : x.step a = some y) : y.Sound := by
  obtain ⟨hen, rfl⟩ := step_eq_some.mp hs
  cases a with
  | ask c n =>
    refine { h with joined := fun d i hd => ?_ }
    obtain ⟨k, hi, hk⟩ := h.joined d i hd
    have hne : d ≠ c := by
      rintro rfl
      cases hk.symm.trans hen
    exact ⟨k, hi, (x.asked_ask_of_ne n hne).trans hk⟩
  | begin i n =>
    obtain ⟨hnew, hother⟩ := hen
    have hold {j : ι} {k : ν} (hj : x.name j = some k) : (x.effect (.begin i n)).name j = some k := by
      have hne : j ≠ i := by
        rintro rfl
        cases hj.symm.trans hnew
      exact (x.name_begin_of_ne n hne).trans hj
    have hlive {j : ι} (hj : j ∈ x.live) : (x.effect (.begin i n)).name j = x.name j := by
      refine x.name_begin_of_ne n ?_
      rintro rfl
      exact h.named j hj hnew
    refine { h with joined := fun c j hc => ?_, present := fun c hc => ?_, named := ?_, unique := ?_ }
    · obtain ⟨k, hj, hk⟩ := h.joined c j hc
      exact ⟨k, hold hj, hk⟩
    · obtain ⟨j, hj, hc⟩ := h.present c hc
      exact ⟨j, Set.mem_insert_of_mem i hj, hc⟩
    · rintro j (rfl | hj)
      · simp [name_begin]
      · rw [hlive hj]
        exact h.named j hj
    · rintro j (rfl | hj) k (rfl | hk) heq
      · rfl
      · rw [name_begin, hlive hk] at heq
        exact absurd heq.symm (hother k hk)
      · rw [name_begin, hlive hj] at heq
        exact absurd heq (hother j hj)
      · rw [hlive hj, hlive hk] at heq
        exact h.unique j hj k hk heq
  | join c i =>
    obtain ⟨hi, hnone, n, hn, hc⟩ := hen
    refine { h with joined := fun d j hd => ?_, present := ?_ }
    · by_cases hdc : d = c
      · subst hdc
        obtain rfl : i = j := Option.some.inj ((x.session_join d i).symm.trans hd)
        exact ⟨n, hn, hc⟩
      · exact h.joined d j ((x.session_join_of_ne i hdc).symm.trans hd)
    · rintro d (rfl | hd)
      · exact ⟨i, hi, x.session_join d i⟩
      · obtain ⟨j, hj, hdj⟩ := h.present d hd
        have hne : d ≠ c := by
          rintro rfl
          cases hdj.symm.trans hnone
        exact ⟨j, hj, (x.session_join_of_ne i hne).trans hdj⟩
  | grant c => exact h
  | tell c i m r =>
    obtain ⟨-, -, -, ho⟩ := hen
    refine { h with apart := fun j k m₁ m₂ r₁ r₂ h₁ h₂ hov => ?_ }
    rcases region_before h₁ with ⟨rfl, rfl, rfl⟩ | hold₁ <;>
      rcases region_before h₂ with ⟨rfl, rfl, rfl⟩ | hold₂
    · exact ⟨rfl, rfl⟩
    · exact ho.apart h hold₂ hov
    · obtain ⟨rfl, rfl⟩ := ho.apart h hold₁ (disjoint_comm.not.mp hov)
      exact ⟨rfl, rfl⟩
    · exact h.apart j k m₁ m₂ r₁ r₂ hold₁ hold₂ hov
  | leave c => exact { h with present := fun d hd => h.present d hd.1 }
  | finish i =>
    refine { h with present := fun d hd => ?_, named := fun j hj => h.named j hj.1, unique := ?_ }
    · obtain ⟨hd, hne⟩ := hd
      obtain ⟨j, hj, hdj⟩ := h.present d hd
      refine ⟨j, ⟨hj, ?_⟩, hdj⟩
      rintro rfl
      exact hne hdj
    · exact fun j hj k hk => h.unique j hj.1 k hk.1

/-- What the clients were told is what the service has. -/
structure Seen (x : State ι κ ν μ π) (l : List (Message κ ν μ π)) : Prop where
  sound : x.Sound
  told : ∀ c m r, .told c m r ∈ l → ∃ i, x.session c = some i ∧ x.region i m = some r

theorem seen_empty : (empty : State ι κ ν μ π).Seen [] where
  sound := sound_empty
  told c m r h := by cases h

/-- Clients stay in their session, and resources where they are. -/
theorem step_keeps (hs : x.step a = some y) :
    (∀ c i, x.session c = some i → y.session c = some i) ∧
      ∀ i m r, x.region i m = some r → y.region i m = some r := by
  obtain ⟨hen, rfl⟩ := step_eq_some.mp hs
  cases a with
  | join c i =>
    obtain ⟨-, hnone, -⟩ := hen
    refine ⟨fun d j hd => ?_, fun _ _ _ hr => hr⟩
    have hne : d ≠ c := by
      rintro rfl
      cases hd.symm.trans hnone
    exact (x.session_join_of_ne i hne).trans hd
  | tell c i m r =>
    obtain ⟨-, -, -, ho⟩ := hen
    refine ⟨fun _ _ hd => hd, fun j k q hq => ?_⟩
    by_cases hjk : j = i ∧ k = m
    · obtain ⟨rfl, rfl⟩ := hjk
      rcases ho with hr | ⟨hnone, -⟩
      · rw [region_tell, ← hr, hq]
      · cases hq.symm.trans hnone
    · exact (x.region_tell_of_ne c r (not_and_or.mp hjk)).trans hq
  | _ => exact ⟨fun _ _ hd => hd, fun _ _ _ hr => hr⟩

theorem Seen.step {l : List (Message κ ν μ π)} (h : x.Seen l) (hs : x.step a = some y) :
    y.Seen (l ++ a.shown) := by
  obtain ⟨hsession, hregion⟩ := step_keeps hs
  obtain ⟨hen, hy⟩ := step_eq_some.mp hs
  refine ⟨h.sound.step hs, fun c m r hc => ?_⟩
  rcases List.mem_append.mp hc with hc | hc
  · obtain ⟨i, hi, hr⟩ := h.told c m r hc
    exact ⟨i, hsession c i hi, hregion i m r hr⟩
  · cases a with
    | tell d i k q =>
      obtain ⟨rfl, rfl, rfl⟩ : c = d ∧ m = k ∧ r = q := by simpa [Act.shown] using hc
      obtain ⟨-, hc, -⟩ := hen
      exact ⟨i, hsession c i hc, hy ▸ x.region_tell c i m r⟩
    | _ => simp [Act.shown] at hc

theorem seen_run (hr : Run step anyStep empty bs x) : x.Seen (bs.flatMap Act.shown) :=
  hr.invariant_shown (J := Seen) (fun _ _ _ _ h hs => h.step hs) seen_empty

end State

/-- Clients that are told of regions with a point in common asked for one name, and were
told the same of one resource. -/
theorem overlap {bs : List (Act ι κ ν μ π)} {x : State ι κ ν μ π} {c d : κ} {m k : μ} {r q : Set π}
    (hr : Run State.step anyStep .empty bs x) (hc : .told c m r ∈ bs.flatMap Act.shown)
    (hd : .told d k q ∈ bs.flatMap Act.shown) (hov : ¬Disjoint r q) :
    m = k ∧ r = q ∧ ∃ n, x.asked c = some n ∧ x.asked d = some n := by
  have h := State.seen_run hr
  obtain ⟨i, hi, hreg⟩ := h.told c m r hc
  obtain ⟨j, hj, hreg'⟩ := h.told d k q hd
  obtain ⟨rfl, rfl⟩ := h.sound.apart i j m k r q hreg hreg' hov
  obtain ⟨n, hn, hcn⟩ := h.sound.joined c i hi
  obtain ⟨n', hn', hdn⟩ := h.sound.joined d i hj
  obtain rfl : n = n' := Option.some.inj (hn.symm.trans hn')
  exact ⟨rfl, Option.some.inj (hreg.symm.trans hreg'), n, hcn, hdn⟩

/-- Clients that are present and asked for one name are told the same of one resource. -/
theorem together {bs : List (Act ι κ ν μ π)} {x : State ι κ ν μ π} {c d : κ} {n : ν} {m : μ}
    {r q : Set π} (hr : Run State.step anyStep .empty bs x) (hc : .told c m r ∈ bs.flatMap Act.shown)
    (hd : .told d m q ∈ bs.flatMap Act.shown) (hcp : c ∈ x.present) (hdp : d ∈ x.present)
    (hcn : x.asked c = some n) (hdn : x.asked d = some n) : r = q := by
  have h := State.seen_run hr
  have session {b : κ} {p : Set π} (hb : .told b m p ∈ bs.flatMap Act.shown) (hbp : b ∈ x.present)
      (hbn : x.asked b = some n) : ∃ i ∈ x.live, x.name i = some n ∧ x.region i m = some p := by
    obtain ⟨i, hi, hreg⟩ := h.told b m p hb
    obtain ⟨j, hj, hbj⟩ := h.sound.present b hbp
    obtain rfl : i = j := Option.some.inj (hi.symm.trans hbj)
    obtain ⟨k, hk, hbk⟩ := h.sound.joined b i hi
    obtain rfl : k = n := Option.some.inj (hbk.symm.trans hbn)
    exact ⟨i, hj, hk, hreg⟩
  obtain ⟨i, hi, hin, hreg⟩ := session hc hcp hcn
  obtain ⟨j, hj, hjn, hreg'⟩ := session hd hdp hdn
  obtain rfl := h.sound.unique i hi j hj (hin.trans hjn.symm)
  exact Option.some.inj (hreg.symm.trans hreg')

end Sessions
