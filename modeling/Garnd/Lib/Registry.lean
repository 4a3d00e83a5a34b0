import Mathlib.Data.List.Nodup
import Mathlib.Data.Option.Basic
import Mathlib.Logic.Function.Basic
import Mathlib.Logic.Relation

/- A registry of named instances that retire by themselves. One keeper binds names
   to instances, makes them and drops them. An instance runs until it leaves; it
   then puts its name on a queue and raises an event, in two steps, and ends. The
   keeper looks at the event between its rounds: where it is raised it takes it
   down, empties the queue and drops what is bound to each name; where it is not,
   it may make an instance for a name that is unbound. It may close at any time
   between rounds, which gives up the queue and tears down everything that is
   bound, and open again.

   `Inv` holds in every interleaving. It says that an announcement is only ever
   about the instance the name is bound to (`Inv.taken`), that a bound instance
   which has left is announced or about to be (`Inv.announced_or_leaving`), that a
   queued announcement has a wake-up pending (`Inv.wake`), and that instances of
   one name do not overlap (`Inv.unique`). -/
set_option linter.unusedSectionVars false

namespace Registry

variable {κ ι : Type}

/-- What an instance is doing. `gone` has left and has nothing more to announce;
`told` says that it did, `ended` that it is over. -/
inductive Phase where
  | absent
  | running
  | leaving
  | sent
  | gone (told ended : Bool)
  deriving DecidableEq

/-- The instance is there and not over. -/
def Phase.alive : Phase → Bool
  | .absent | .gone _ true => false
  | _ => true

/-- The instance has announced its leaving. -/
def Phase.told : Phase → Bool
  | .sent | .gone true _ => true
  | _ => false

/-- The instance the keeper has in hand, to bind it or to drop it. -/
inductive Hand (ι : Type) where
  | none
  | fresh (j : ι)
  | dropping (j : ι)

def Hand.Holds (h : Hand ι) (j : ι) : Prop := h = .fresh j ∨ h = .dropping j

/-- The keeper: between rounds, about to take the event down, emptying the queue,
in a round that may make an instance, or closed. -/
inductive Ctl where
  | idle
  | due
  | drain
  | busy
  | closed
  deriving DecidableEq

structure State (κ ι : Type) where
  phase : ι → Phase
  name : ι → κ
  bound : κ → Option ι
  hand : Hand ι
  torn : List ι
  queue : List (κ × ι)
  event : ℕ
  ctl : Ctl
  forgot : Bool

def State.Owns (s : State κ ι) (j : ι) : Prop :=
  s.bound (s.name j) = some j ∨ s.hand.Holds j ∨ j ∈ s.torn

variable [DecidableEq κ] [DecidableEq ι]

/-- A step of an instance or of the keeper. -/
inductive Step : State κ ι → State κ ι → Prop
  | leave {s j} : s.phase j = .running →
      Step s { s with phase := Function.update s.phase j .leaving }
  | quit {s j} : s.phase j = .running → s.bound (s.name j) ≠ some j →
      Step s { s with phase := Function.update s.phase j (.gone false false) }
  | send {s j} : s.phase j = .leaving → s.ctl ≠ .closed →
      Step s { s with
        phase := Function.update s.phase j .sent, queue := s.queue ++ [(s.name j, j)] }
  | sendClosed {s j} : s.phase j = .leaving → s.ctl = .closed →
      Step s { s with phase := Function.update s.phase j .sent }
  | raise {s j count} : s.phase j = .sent → 0 < count →
      Step s { s with phase := Function.update s.phase j (.gone true false), event := count }
  | finish {s j told} : s.phase j = .gone told false →
      Step s { s with phase := Function.update s.phase j (.gone told true) }
  | quiet {s} : s.ctl = .idle → s.event = 0 → Step s { s with ctl := .busy }
  | look {s} : s.ctl = .idle → Step s { s with ctl := .due }
  | lower {s} : s.ctl = .due → Step s { s with ctl := .drain, event := 0 }
  | take {s n j i rest} : s.ctl = .drain → s.hand = .none → s.queue = (n, j) :: rest →
      s.bound n = some i →
      Step s { s with
        queue := rest, bound := Function.update s.bound n none, hand := .dropping i }
  | skip {s n j rest} : s.ctl = .drain → s.hand = .none → s.queue = (n, j) :: rest →
      s.bound n = none → Step s { s with queue := rest }
  | empty {s ctl} : s.ctl = .drain → s.hand = .none → s.queue = [] → ctl = .idle ∨ ctl = .busy →
      Step s { s with ctl := ctl }
  | make {s n j} : s.ctl = .busy → s.hand = .none → s.bound n = none → s.phase j = .absent →
      Step s { s with
        phase := Function.update s.phase j .running
        name := Function.update s.name j n
        hand := .fresh j }
  | bind {s j} : s.hand = .fresh j → (∀ ended, s.phase j ≠ .gone false ended) →
      Step s { s with
        bound := Function.update s.bound (s.name j) (some j), hand := .none, ctl := .idle }
  | abandon {s j} : s.hand = .fresh j → Step s { s with hand := .dropping j }
  | settle {s} : s.ctl = .busy → s.hand = .none → Step s { s with ctl := .idle }
  | release {s j told} : s.hand = .dropping j → s.phase j = .gone told true →
      Step s { s with hand := .none, ctl := if s.ctl = .busy then .idle else s.ctl }
  | close {s torn} : s.ctl = .idle ∨ s.ctl = .drain → s.hand = .none →
      (∀ j, j ∈ torn ↔ ∃ n, s.bound n = some j) → (torn.map s.name).Nodup →
      Step s { s with bound := fun _ => none, torn := torn, queue := [], ctl := .closed }
  | pick {s j} : s.ctl = .closed → s.hand = .none → j ∈ s.torn →
      Step s { s with hand := .dropping j, torn := s.torn.erase j }
  | forget {s} : s.ctl = .closed → Step s { s with torn := [], forgot := true }
  | reopen {s} : s.ctl = .closed → s.hand = .none → s.torn = [] → s.forgot = false →
      Step s { s with ctl := .idle, event := 0 }

structure Inv (s : State κ ι) : Prop where
  named : ∀ n j, s.bound n = some j → s.name j = n
  known : ∀ j, s.Owns j → s.phase j ≠ .absent
  apart : ∀ j, s.hand.Holds j → s.bound (s.name j) = none ∧ ∀ i ∈ s.torn, s.name i ≠ s.name j
  distinct : (s.torn.map s.name).Nodup
  handCtl : (∀ j, s.hand = .fresh j → s.ctl = .busy) ∧
    ∀ j, s.hand = .dropping j → s.ctl ≠ .idle ∧ s.ctl ≠ .due
  closed : s.ctl = .closed → (∀ n, s.bound n = none) ∧ s.queue = []
  torn : s.torn ≠ [] → s.ctl = .closed
  announced : ∀ j, s.bound (s.name j) = some j ∨ s.hand = .fresh j → (s.phase j).told = true →
    (s.name j, j) ∈ s.queue
  loud : ∀ j ended, s.bound (s.name j) = some j → s.phase j ≠ .gone false ended
  queued : ∀ n j, (n, j) ∈ s.queue → s.name j = n ∧ (s.phase j).told = true ∧
    (s.bound n = some j ∨ s.hand.Holds j ∨
      s.bound n = none ∧ s.ctl ≠ .busy ∧ s.phase j = .gone true true)
  once : (s.queue.map Prod.snd).Nodup
  wake : ∀ n j, (n, j) ∈ s.queue → 0 < s.event ∨ s.phase j = .sent ∨ s.ctl = .drain
  owned : s.forgot = false → ∀ j, (s.phase j).alive = true → s.Owns j
  forgets : s.forgot = true → s.ctl = .closed

variable {s t : State κ ι}

/-! ## Steps of an instance -/

theorem phase_update {j : ι} {p : Phase} (i : ι) :
    Function.update s.phase j p i = if i = j then p else s.phase i := by
  rw [Function.update_apply]

/-- An instance that is there and whose announcement is not at stake steps. -/
theorem Inv.phase_step (h : Inv s) {j : ι} {p : Phase} (hj : s.phase j ≠ .absent)
    (hp : p ≠ .absent) (hal : p.alive = true → (s.phase j).alive = true)
    (htold : p.told = (s.phase j).told)
    (hloud : s.bound (s.name j) = some j → ∀ b, p ≠ .gone false b)
    (hsent : s.phase j ≠ .sent) (hend : s.phase j ≠ .gone true true) :
    Inv { s with phase := Function.update s.phase j p } :=
  { h with
    known := by
      intro i hi
      have := h.known i hi
      simp only [phase_update]
      split <;> assumption
    announced := by
      intro i hi ht
      refine h.announced i hi ?_
      simp only [phase_update] at ht
      split at ht
      · rename_i heq
        rwa [heq, ← htold]
      · exact ht
    loud := by
      intro i b hi
      simp only [phase_update]
      split
      · rename_i heq
        subst heq
        exact hloud hi b
      · exact h.loud i b hi
    queued := by
      intro n i hq
      obtain ⟨hn, ht, ho⟩ := h.queued n i hq
      simp only [phase_update]
      split
      · rename_i heq
        subst heq
        refine ⟨hn, htold.trans ht, ?_⟩
        rcases ho with ho | ho | ⟨-, -, ho⟩
        · exact .inl ho
        · exact .inr (.inl ho)
        · exact absurd ho hend
      · exact ⟨hn, ht, ho⟩
    wake := by
      intro n i hq
      simp only [phase_update]
      split
      · rename_i heq
        subst heq
        rcases h.wake n i hq with hw | hw | hw
        · exact .inl hw
        · exact absurd hw hsent
        · exact .inr (.inr hw)
      · exact h.wake n i hq
    owned := by
      intro hf i hi
      refine h.owned hf i ?_
      simp only [phase_update] at hi
      split at hi
      · rename_i heq
        rw [heq]
        exact hal hi
      · exact hi }

/-- An instance that leaves is bound or in hand unless the keeper has closed. -/
theorem Inv.leaver (h : Inv s) {j : ι} (hj : (s.phase j).alive = true) (hc : s.ctl ≠ .closed) :
    s.bound (s.name j) = some j ∨ s.hand.Holds j := by
  have hf : s.forgot = false := by
    cases hf : s.forgot with
    | false => rfl
    | true => exact absurd (h.forgets hf) hc
  rcases h.owned hf j hj with hb | hh | ht
  · exact .inl hb
  · exact .inr hh
  · exact absurd (h.torn (List.ne_nil_of_mem ht)) hc

/-- An instance that has not announced itself is not in the queue. -/
theorem Inv.not_queued (h : Inv s) {n : κ} {j : ι} (hj : (s.phase j).told = false) :
    (n, j) ∉ s.queue := by
  intro hq
  rw [(h.queued n j hq).2.1] at hj
  cases hj

theorem Inv.send (h : Inv s) {j : ι} (hj : s.phase j = .leaving) (hc : s.ctl ≠ .closed) :
    Inv { s with phase := Function.update s.phase j .sent, queue := s.queue ++ [(s.name j, j)] } := by
  have howns := h.leaver (by rw [hj]; rfl) hc
  have hnot : ∀ n, (n, j) ∉ s.queue := fun n => h.not_queued (by rw [hj]; rfl)
  refine { h with
    known := ?_, closed := fun hc' => absurd hc' hc, announced := ?_, loud := ?_, queued := ?_
    once := ?_, wake := ?_, owned := ?_ }
  · have := h.known
    grind [State.Owns]
  · have := h.announced
    grind
  · have := h.loud
    grind
  · have := h.queued
    grind [Phase.told]
  · have := h.once
    simp only [List.map_append, List.map_cons, List.map_nil]
    refine this.append (List.nodup_singleton j) (List.disjoint_singleton.mpr fun hmem => ?_)
    obtain ⟨⟨n, i⟩, hq, rfl⟩ := List.mem_map.mp hmem
    exact hnot n hq
  · have := h.wake
    grind
  · have := h.owned
    grind [Phase.alive, State.Owns]

/-- After the keeper has closed, an announcement is lost. -/
theorem Inv.sendClosed (h : Inv s) {j : ι} (hj : s.phase j = .leaving) (hc : s.ctl = .closed) :
    Inv { s with phase := Function.update s.phase j .sent } := by
  obtain ⟨hb, hq⟩ := h.closed hc
  refine { h with known := ?_, announced := ?_, loud := ?_, queued := ?_, wake := ?_, owned := ?_ }
  · have := h.known
    grind [State.Owns]
  · have := h.handCtl
    grind
  · simp [hb]
  · simp [hq]
  · simp [hq]
  · have := h.owned
    grind [Phase.alive, State.Owns]

theorem Inv.raise (h : Inv s) {j : ι} {count : ℕ} (hj : s.phase j = .sent) (hc : 0 < count) :
    Inv { s with phase := Function.update s.phase j (.gone true false), event := count } := by
  refine { h with known := ?_, announced := ?_, loud := ?_, queued := ?_, wake := ?_, owned := ?_ }
  · have := h.known
    grind [State.Owns]
  · have := h.announced
    grind [Phase.told]
  · have := h.loud
    grind
  · have := h.queued
    grind [Phase.told]
  · intro n i hq
    exact .inl hc
  · have := h.owned
    grind [Phase.alive, State.Owns]

theorem Inv.finish (h : Inv s) {j : ι} {told : Bool} (hj : s.phase j = .gone told false) :
    Inv { s with phase := Function.update s.phase j (.gone told true) } := by
  refine h.phase_step (by simp [hj]) nofun nofun ?_ ?_ (by simp [hj]) (by simp [hj])
  · rw [hj]
    cases told <;> rfl
  · rintro hb b ⟨⟩
    exact absurd hj (h.loud j false hb)

/-! ## Steps of the keeper -/

/-- An announcement of a bound name is about the instance the name is bound to. -/
theorem Inv.taken (h : Inv s) {n : κ} {i j : ι} (hh : s.hand = .none)
    (hq : (n, j) ∈ s.queue) (hb : s.bound n = some i) : i = j := by
  obtain ⟨-, -, ho⟩ := h.queued n j hq
  rcases ho with ho | ho | ⟨ho, -, -⟩
  · rw [hb] at ho
    exact Option.some.inj ho
  · rcases ho with ho | ho <;> rw [hh] at ho <;> cases ho
  · rw [hb] at ho
    cases ho

/-- Between rounds and with the event down nothing is announced that the keeper
could still mistake for a later instance. -/
theorem Inv.no_orphan (h : Inv s) (hc : s.ctl = .idle) (he : s.event = 0) {n : κ} {j : ι}
    (hq : (n, j) ∈ s.queue) : s.bound n = some j ∨ s.hand.Holds j := by
  obtain ⟨-, -, ho⟩ := h.queued n j hq
  rcases ho with ho | ho | ⟨-, -, hp⟩
  · exact .inl ho
  · exact .inr ho
  · have := h.wake n j hq
    grind

theorem Inv.quiet (h : Inv s) (hc : s.ctl = .idle) (he : s.event = 0) :
    Inv { s with ctl := .busy } := by
  refine { h with
    handCtl := ?_, closed := nofun, torn := ?_, queued := ?_, wake := ?_, forgets := ?_ }
  · have := h.handCtl
    grind
  · have := h.torn
    grind
  · intro n j hq
    obtain ⟨hn, ht, -⟩ := h.queued n j hq
    exact ⟨hn, ht, (h.no_orphan hc he hq).imp_right .inl⟩
  · have := h.wake
    grind
  · have := h.forgets
    grind

/-- The keeper moves on without a round. -/
theorem Inv.move (h : Inv s) {ctl : Ctl} (hc : s.ctl = .idle ∧ ctl = .due ∨
    s.ctl = .busy ∧ s.hand = .none ∧ ctl = .idle) : Inv { s with ctl := ctl } := by
  refine { h with
    handCtl := ?_, closed := ?_, torn := ?_, queued := ?_, wake := ?_, forgets := ?_ }
  · have := h.handCtl
    grind
  · grind
  · have := h.torn
    grind
  · have := h.queued
    grind
  · have := h.wake
    grind
  · have := h.forgets
    grind

theorem Inv.lower (h : Inv s) (hc : s.ctl = .due) : Inv { s with ctl := .drain, event := 0 } := by
  refine { h with
    handCtl := ?_, closed := nofun, torn := ?_, queued := ?_, wake := ?_, forgets := ?_ }
  · have := h.handCtl
    grind
  · have := h.torn
    grind
  · have := h.queued
    grind
  · intro n j hq
    exact .inr (.inr rfl)
  · have := h.forgets
    grind

theorem Inv.take (h : Inv s) {n : κ} {i j : ι} {rest : List (κ × ι)} (hc : s.ctl = .drain)
    (hh : s.hand = .none) (hq : s.queue = (n, j) :: rest) (hb : s.bound n = some i) :
    Inv { s with queue := rest, bound := Function.update s.bound n none, hand := .dropping i } := by
  obtain rfl := h.taken hh (by rw [hq]; exact List.mem_cons_self) hb
  have hni := h.named n i hb
  have htorn : s.torn = [] := by
    by_contra ht
    rw [h.torn ht] at hc
    cases hc
  -- the announcement that was taken was the only one about this instance
  have honly : ∀ m, (m, i) ∉ rest := by
    have := h.once
    rw [hq] at this
    intro m hm
    simp only [List.map_cons, List.nodup_cons] at this
    exact this.1 (List.mem_map_of_mem hm)
  refine { h with
    named := ?_, known := ?_, apart := ?_, handCtl := ?_, closed := ?_, announced := ?_
    loud := ?_, queued := ?_, once := ?_, wake := ?_, owned := ?_ }
  · have := h.named
    grind
  · have := h.known
    grind [State.Owns, Hand.Holds]
  · grind [Hand.Holds]
  · grind
  · grind
  · have := h.announced
    grind
  · have := h.loud
    grind
  · have := h.queued
    grind [Hand.Holds]
  · have := h.once
    rw [hq] at this
    exact this.of_cons
  · have := h.wake
    grind
  · have := h.owned
    grind [State.Owns, Hand.Holds]

theorem Inv.skip (h : Inv s) {n : κ} {j : ι} {rest : List (κ × ι)} (hc : s.ctl = .drain)
    (hh : s.hand = .none) (hq : s.queue = (n, j) :: rest) (hb : s.bound n = none) :
    Inv { s with queue := rest } := by
  refine { h with closed := ?_, announced := ?_, queued := ?_, once := ?_, wake := ?_ }
  · grind
  · have := h.announced
    have := h.named
    grind
  · have := h.queued
    grind
  · have := h.once
    rw [hq] at this
    exact this.of_cons
  · have := h.wake
    grind

theorem Inv.empty (h : Inv s) {ctl : Ctl} (hc : s.ctl = .drain) (hh : s.hand = .none)
    (hq : s.queue = []) (hctl : ctl = .idle ∨ ctl = .busy) : Inv { s with ctl := ctl } := by
  refine { h with
    handCtl := ?_, closed := ?_, torn := ?_, queued := ?_, wake := ?_, forgets := ?_ }
  · grind
  · grind
  · have := h.torn
    grind
  · simp [hq]
  · simp [hq]
  · have := h.forgets
    grind

theorem Inv.make (h : Inv s) {n : κ} {j : ι} (hc : s.ctl = .busy) (hh : s.hand = .none)
    (hb : s.bound n = none) (hj : s.phase j = .absent) :
    Inv { s with
      phase := Function.update s.phase j .running, name := Function.update s.name j n
      hand := .fresh j } := by
  -- a number that was never used is not mentioned anywhere
  have hown : ¬ s.Owns j := fun ho => h.known j ho hj
  have hbound : ∀ m, s.bound m ≠ some j := fun m hm => hown (.inl (by rw [h.named m j hm, hm]))
  have hqueue : ∀ m, (m, j) ∉ s.queue := fun m => h.not_queued (by rw [hj]; rfl)
  have htorn : s.torn = [] := by
    by_contra ht
    rw [h.torn ht] at hc
    cases hc
  refine { h with
    named := ?_, known := ?_, apart := ?_, distinct := ?_, handCtl := ?_, announced := ?_
    loud := ?_, queued := ?_, wake := ?_, owned := ?_ }
  · have := h.named
    grind
  · have := h.known
    grind [State.Owns, Hand.Holds]
  · grind [Hand.Holds]
  · simp [htorn]
  · grind
  · have := h.announced
    grind [Phase.told]
  · have := h.loud
    grind
  · have := h.queued
    grind [Hand.Holds]
  · have := h.wake
    grind
  · have := h.owned
    grind [State.Owns, Hand.Holds, Phase.alive]

theorem Inv.bind (h : Inv s) {j : ι} (hh : s.hand = .fresh j)
    (hp : ∀ ended, s.phase j ≠ .gone false ended) :
    Inv { s with
      bound := Function.update s.bound (s.name j) (some j), hand := .none, ctl := .idle } := by
  have hc := h.handCtl.1 j hh
  obtain ⟨hb, -⟩ := h.apart j (.inl hh)
  refine { h with
    named := ?_, known := ?_, apart := ?_, handCtl := ?_, closed := nofun, torn := ?_
    announced := ?_, loud := ?_, queued := ?_, wake := ?_, owned := ?_, forgets := ?_ }
  · have := h.named
    grind
  · have := h.known
    grind [State.Owns, Hand.Holds]
  · grind [Hand.Holds]
  · grind
  · have := h.torn
    grind
  · have := h.announced
    grind
  · have := h.loud
    grind
  · have := h.queued
    grind [Hand.Holds]
  · have := h.wake
    grind
  · have := h.owned
    grind [State.Owns, Hand.Holds]
  · have := h.forgets
    grind

theorem Inv.abandon (h : Inv s) {j : ι} (hh : s.hand = .fresh j) :
    Inv { s with hand := .dropping j } := by
  have hc := h.handCtl.1 j hh
  refine { h with
    known := ?_, apart := ?_, handCtl := ?_, announced := ?_, queued := ?_, owned := ?_ }
  · have := h.known
    grind [State.Owns, Hand.Holds]
  · have := h.apart
    grind [Hand.Holds]
  · grind
  · have := h.announced
    grind
  · have := h.queued
    grind [Hand.Holds]
  · have := h.owned
    grind [State.Owns, Hand.Holds]

theorem Inv.release (h : Inv s) {j : ι} {told : Bool} (hh : s.hand = .dropping j)
    (hp : s.phase j = .gone told true) :
    Inv { s with hand := .none, ctl := if s.ctl = .busy then .idle else s.ctl } := by
  obtain ⟨hb, -⟩ := h.apart j (.inr hh)
  have hctl := h.handCtl.2 j hh
  refine { h with
    known := ?_, apart := ?_, handCtl := ?_, closed := ?_, torn := ?_, announced := ?_
    queued := ?_, wake := ?_, owned := ?_, forgets := ?_ }
  · have := h.known
    grind [State.Owns, Hand.Holds]
  · grind [Hand.Holds]
  · grind
  · have := h.closed
    grind
  · have := h.torn
    grind
  · have := h.announced
    grind
  · intro n i hq
    obtain ⟨hn, htold, ho⟩ := h.queued n i hq
    refine ⟨hn, htold, ?_⟩
    rcases ho with ho | ho | ⟨hn', -, hp'⟩
    · exact .inl ho
    · -- what was in hand is over, and its announcement is one of an unbound name
      obtain rfl : i = j := by grind [Hand.Holds]
      subst hn
      refine .inr (.inr ⟨hb, by grind, ?_⟩)
      rw [hp] at htold ⊢
      cases told
      · cases htold
      · rfl
    · exact .inr (.inr ⟨hn', by grind, hp'⟩)
  · have := h.wake
    grind
  · have := h.owned
    grind [State.Owns, Hand.Holds, Phase.alive]
  · have := h.forgets
    grind

theorem Inv.close (h : Inv s) {torn : List ι} (hc : s.ctl = .idle ∨ s.ctl = .drain)
    (hh : s.hand = .none) (ht : ∀ j, j ∈ torn ↔ ∃ n, s.bound n = some j)
    (hd : (torn.map s.name).Nodup) :
    Inv { s with bound := fun _ => none, torn := torn, queue := [], ctl := .closed } := by
  have htorn : s.torn = [] := by
    by_contra ht
    have := h.torn ht
    grind
  refine {
    named := nofun, known := ?_, apart := ?_, distinct := hd, handCtl := ?_, closed := ?_
    torn := fun _ => rfl, announced := ?_, loud := nofun, queued := nofun, once := .nil
    wake := nofun, owned := ?_, forgets := fun _ => rfl }
  · have hk := h.known
    have hn := h.named
    grind [State.Owns, Hand.Holds]
  · grind [Hand.Holds]
  · grind
  · grind
  · grind
  · have := h.owned
    grind [State.Owns, Hand.Holds]

theorem Inv.pick (h : Inv s) {j : ι} (hc : s.ctl = .closed) (hh : s.hand = .none)
    (hj : j ∈ s.torn) : Inv { s with hand := .dropping j, torn := s.torn.erase j } := by
  have hnone := (h.closed hc).1
  have hd := h.distinct
  have hnd : s.torn.Nodup := .of_map _ hd
  refine { h with
    known := ?_, apart := ?_, distinct := ?_, handCtl := ?_, torn := ?_, announced := ?_
    queued := ?_, owned := ?_ }
  · have := h.known
    grind [State.Owns, Hand.Holds]
  · intro i hi
    obtain rfl : j = i := by grind [Hand.Holds]
    refine ⟨hnone _, fun k hk hn => ?_⟩
    have hkj := List.inj_on_of_nodup_map hd (List.mem_of_mem_erase hk) hj hn
    subst hkj
    exact hnd.not_mem_erase hk
  · exact hd.sublist (List.erase_sublist.map _)
  · grind
  · grind
  · grind
  · have := h.queued
    have := h.closed hc
    grind
  · intro hf i hi
    have := h.owned hf i hi
    by_cases hij : i = j
    · exact .inr (.inl (.inr (by rw [hij])))
    · have := List.mem_erase_of_ne (l := s.torn) hij
      grind [State.Owns, Hand.Holds]

theorem Inv.forget (h : Inv s) (hc : s.ctl = .closed) :
    Inv { s with torn := [], forgot := true } := by
  refine { h with
    known := ?_, apart := ?_, distinct := .nil, torn := ?_, owned := nofun, forgets := fun _ => hc }
  · have := h.known
    grind [State.Owns]
  · have := h.apart
    grind
  · grind

theorem Inv.reopen (h : Inv s) (hc : s.ctl = .closed) (hh : s.hand = .none) (ht : s.torn = [])
    (hf : s.forgot = false) : Inv { s with ctl := .idle, event := 0 } := by
  have hq := (h.closed hc).2
  refine { h with
    handCtl := ?_, closed := ?_, torn := ?_, queued := ?_, wake := ?_, forgets := ?_ }
  · grind
  · grind
  · grind
  · simp [hq]
  · simp [hq]
  · grind

theorem Inv.step (h : Inv s) (hs : Step s t) : Inv t := by
  cases hs with
  | leave hj =>
    exact h.phase_step (by simp [hj]) nofun (by simp [hj, Phase.alive]) (by simp [hj, Phase.told])
      nofun (by simp [hj]) (by simp [hj])
  | quit hj hb =>
    exact h.phase_step (by simp [hj]) nofun (by simp [hj, Phase.alive]) (by simp [hj, Phase.told])
      (fun hb' => absurd hb' hb) (by simp [hj]) (by simp [hj])
  | send hj hc => exact h.send hj hc
  | sendClosed hj hc => exact h.sendClosed hj hc
  | raise hj hc => exact h.raise hj hc
  | finish hj => exact h.finish hj
  | quiet hc he => exact h.quiet hc he
  | look hc => exact h.move (.inl ⟨hc, rfl⟩)
  | lower hc => exact h.lower hc
  | take hc hh hq hb => exact h.take hc hh hq hb
  | skip hc hh hq hb => exact h.skip hc hh hq hb
  | empty hc hh hq hctl => exact h.empty hc hh hq hctl
  | make hc hh hb hj => exact h.make hc hh hb hj
  | bind hh hp => exact h.bind hh hp
  | abandon hh => exact h.abandon hh
  | settle hc hh => exact h.move (.inr ⟨hc, hh, rfl⟩)
  | release hh hp => exact h.release hh hp
  | close hc hh ht hd => exact h.close hc hh ht hd
  | pick hc hh hj => exact h.pick hc hh hj
  | forget hc => exact h.forget hc
  | reopen hc hh ht hf => exact h.reopen hc hh ht hf

/-- Several steps. -/
theorem Inv.steps (h : Inv s) (hs : Relation.ReflTransGen Step s t) : Inv t := by
  induction hs with
  | refl => exact h
  | tail _ hstep ih => exact ih.step hstep

/-- A keeper that has not opened has nothing. -/
theorem inv_closed (name : ι → κ) :
    Inv { phase := fun _ => .absent, name := name, bound := fun _ => none, hand := .none, torn := []
          queue := [], event := 0, ctl := .closed, forgot := false : State κ ι } where
  named := nofun
  known := by simp [State.Owns, Hand.Holds]
  apart := by simp [Hand.Holds]
  distinct := .nil
  handCtl := ⟨nofun, nofun⟩
  closed _ := ⟨fun _ => rfl, rfl⟩
  torn h := absurd rfl h
  announced := nofun
  loud := nofun
  queued := nofun
  once := .nil
  wake := nofun
  owned := by simp [Phase.alive]
  forgets := nofun

/-! ## What the invariant says -/

/-- A bound instance that does not run is announced, or about to be. -/
theorem Inv.announced_or_leaving (h : Inv s) {n : κ} {j : ι} (hb : s.bound n = some j)
    (hr : s.phase j ≠ .running) : (n, j) ∈ s.queue ∨ s.phase j = .leaving := by
  have hn := h.named n j hb
  subst hn
  cases hp : s.phase j with
  | absent => exact absurd hp (h.known j (.inl hb))
  | running => exact absurd hp hr
  | leaving => exact .inr rfl
  | sent => exact .inl (h.announced j (.inl hb) (by rw [hp]; rfl))
  | gone told ended =>
    cases told with
    | false => exact absurd hp (h.loud j ended hb)
    | true => exact .inl (h.announced j (.inl hb) (by rw [hp]; rfl))

/-- Instances of one name do not overlap. -/
theorem Inv.unique (h : Inv s) (hf : s.forgot = false) {i j : ι} (hi : (s.phase i).alive = true)
    (hj : (s.phase j).alive = true) (hn : s.name i = s.name j) : i = j := by
  have hi := h.owned hf i hi
  have hj := h.owned hf j hj
  have hinj := List.inj_on_of_nodup_map h.distinct (x := i) (y := j)
  have hnone := h.closed
  have htorn := h.torn
  have ha := h.apart
  rcases hi with hi | hi | hi <;> rcases hj with hj | hj | hj
  · rw [hn, hj] at hi
    exact (Option.some.inj hi).symm
  · rw [hn, (ha j hj).1] at hi
    cases hi
  · rw [(hnone (htorn (List.ne_nil_of_mem hj))).1] at hi
    cases hi
  · rw [← hn, (ha i hi).1] at hj
    cases hj
  · grind [Hand.Holds]
  · exact absurd hn.symm ((ha i hi).2 j hj)
  · rw [(hnone (htorn (List.ne_nil_of_mem hi))).1] at hj
    cases hj
  · exact absurd hn ((ha j hj).2 i hi)
  · exact hinj hi hj hn

end Registry
