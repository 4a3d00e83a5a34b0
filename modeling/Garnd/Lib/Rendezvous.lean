import Mathlib.Data.List.Basic

/- One client and one server thread that meet through a request queue, an event
   counter and a response queue, updated separately: the client queues a request,
   raises the event and waits; the server notices the event (`running true`),
   reads it, serves what is queued and sends one response, `ok` if everything was
   served and something `bad` otherwise. The server may leave between requests,
   and then serves nothing more. `Inv` is the invariant of every interleaving; it
   says that a waiting client is always owed something (`Inv.owed`), that there
   is at most one response and, until the server leaves, at most one request
   (`Inv.responses_le`, `Inv.requests_le`), and that a response is about the
   request the client waits for (`Inv.outcome`). -/
namespace Rendezvous

variable {α β : Type}

inductive Client (α : Type) where
  | idle
  | writing (a : α)
  | waiting (a : α)
  | closed

inductive Server (α β : Type) where
  | running (seen : Bool)
  | reading
  | draining
  | serving (a : α)
  | answering (b : β)
  | left

/-- `served` is the history of the requests served; `mark` is its length when the
client's current call began. -/
structure State (α β : Type) where
  client : Client α
  server : Server α β
  event : Nat
  requests : List α
  responses : List β
  served : List α
  mark : Nat

inductive Step (ok : β) (bad : β → Prop) : State α β → State α β → Prop
  | send {s} (a : α) : s.client = .idle →
      Step ok bad s { s with
        client := .writing a, requests := s.requests ++ [a], mark := s.served.length }
  | write {s a} : s.client = .writing a →
      Step ok bad s { s with client := .waiting a, event := s.event + 1 }
  | recv {s a b rest} : s.client = .waiting a → s.responses = b :: rest →
      Step ok bad s { s with client := .idle, responses := rest }
  | hangup {s a} : s.client = .waiting a → s.server = .left → s.responses = [] →
      Step ok bad s { s with client := .idle }
  | close {s} : s.client = .idle → Step ok bad s { s with client := .closed, responses := [] }
  | look {s seen} : s.server = .running false → (seen = true → 0 < s.event) →
      Step ok bad s { s with server := .running seen }
  | begin {s} : s.server = .running true → Step ok bad s { s with server := .reading }
  | read {s} : s.server = .reading → 0 < s.event →
      Step ok bad s { s with server := .draining, event := 0 }
  | readFail {s b} : s.server = .reading → s.event = 0 →
      Step ok bad s { s with server := .answering b }
  | take {s a rest} : s.server = .draining → s.requests = a :: rest →
      Step ok bad s { s with server := .serving a, requests := rest }
  | serve {s a} : s.server = .serving a →
      Step ok bad s { s with server := .draining, served := s.served ++ [a] }
  | refuse {s a b} : s.server = .serving a → bad b →
      Step ok bad s { s with server := .answering b }
  | finish {s} : s.server = .draining → s.requests = [] →
      Step ok bad s { s with server := .answering ok }
  | crash {s} : s.server = .draining → s.requests = [] → s.client = .closed →
      Step ok bad s { s with server := .left }
  | answer {s b} : s.server = .answering b →
      Step ok bad s { s with server := .running false, responses := s.responses ++ [b] }
  | leave {s seen} : s.server = .running seen → Step ok bad s { s with server := .left }
  | discard {s} : s.server = .left → Step ok bad s { s with requests := [] }

/-- What the response `b` says about the request `a` of the current call. -/
def Outcome (ok : β) (bad : β → Prop) (s : State α β) (a : α) (b : β) : Prop :=
  b = ok ∧ s.served.drop s.mark = [a] ∨ bad b ∧ s.served.length = s.mark

/-- What the running server may be doing while the client waits for `a`. -/
inductive Owed (ok : β) (bad : β → Prop) (s : State α β) (a : α) : Prop
  | pending (seen : Bool) : s.server = .running seen ∨ s.server = .reading → s.event = 1 →
      s.requests = [a] → s.responses = [] → s.served.length = s.mark → Owed ok bad s a
  | draining : s.server = .draining → s.event = 0 → s.requests = [a] → s.responses = [] →
      s.served.length = s.mark → Owed ok bad s a
  | serving : s.server = .serving a → s.event = 0 → s.requests = [] → s.responses = [] →
      s.served.length = s.mark → Owed ok bad s a
  | served : s.server = .draining → s.event = 0 → s.requests = [] → s.responses = [] →
      s.served.drop s.mark = [a] → Owed ok bad s a
  | answering {b} : s.server = .answering b → s.event = 0 → s.requests = [] →
      s.responses = [] → Outcome ok bad s a b → Owed ok bad s a
  | answered {b} : s.server = .running false → s.event = 0 → s.requests = [] →
      s.responses = [b] → Outcome ok bad s a b → Owed ok bad s a

/-- The invariant while the server runs. -/
def Live (ok : β) (bad : β → Prop) (s : State α β) : Prop :=
  match s.client with
  | .writing a => s.server = .running false ∧ s.event = 0 ∧ s.requests = [a] ∧
      s.responses = [] ∧ s.served.length = s.mark
  | .waiting a => Owed ok bad s a
  | _ => s.server = .running false ∧ s.event = 0 ∧ s.requests = [] ∧ s.responses = []

/-- The invariant once the server has left. -/
def Dead (ok : β) (bad : β → Prop) (s : State α β) : Prop :=
  match s.client with
  | .writing _ => s.responses = [] ∧ s.served.length = s.mark
  | .waiting a => s.responses = [] ∧ s.served.length = s.mark ∨
      ∃ b, s.responses = [b] ∧ Outcome ok bad s a b
  | _ => s.responses = []

structure Inv (ok : β) (bad : β → Prop) (s : State α β) : Prop where
  live : s.server ≠ .left → Live ok bad s
  dead : s.server = .left → Dead ok bad s

variable {ok : β} {bad : β → Prop} {s t : State α β}

/-- Nothing is queued, raised or answered. -/
def start : State α β := ⟨.idle, .running false, 0, [], [], [], 0⟩

theorem inv_start : Inv ok bad (start : State α β) where
  live _ := ⟨rfl, rfl, rfl, rfl⟩
  dead h := nomatch h

/-! ## One step -/

theorem Step.congr {u : State α β} (h : Step ok bad s t) (he : t = u) : Step ok bad s u := he ▸ h

theorem live_iff (hs : s.server ≠ .left) (h : Live ok bad s) : Inv ok bad s :=
  ⟨fun _ => h, fun hl => absurd hl hs⟩

theorem dead_iff (hs : s.server = .left) (h : Dead ok bad s) : Inv ok bad s :=
  ⟨fun hl => absurd hs hl, fun _ => h⟩

/-- What a waiting client is owed does not depend on the client's state. -/
theorem Inv.owed_of (h : Inv ok bad s) {a : α} (hc : s.client = .waiting a)
    (hs : s.server ≠ .left) : Owed ok bad s a := by
  have := h.live hs
  simpa only [Live, hc] using this

/-- A server that is at work on the queue is owed to a waiting client. -/
theorem Inv.waiting_of_busy (h : Inv ok bad s) (hs : s.server ≠ .left)
    (hb : ∀ seen, s.server ≠ .running seen) : ∃ a, s.client = .waiting a := by
  have hl := h.live hs
  unfold Live at hl
  split at hl
  · exact absurd hl.1 (hb false)
  · rename_i a hc
    exact ⟨a, hc⟩
  · exact absurd hl.1 (hb false)

theorem Inv.send (h : Inv ok bad s) (a : α) (hc : s.client = .idle) :
    Inv ok bad { s with
      client := .writing a, requests := s.requests ++ [a], mark := s.served.length } := by
  by_cases hs : s.server = .left
  · have hd := h.dead hs
    simp only [Dead, hc] at hd
    exact dead_iff hs ⟨hd, rfl⟩
  · have hl := h.live hs
    simp only [Live, hc] at hl
    obtain ⟨h1, h2, h3, h4⟩ := hl
    exact live_iff hs ⟨h1, h2, by simp [h3], h4, rfl⟩

theorem Inv.write (h : Inv ok bad s) {a : α} (hc : s.client = .writing a) :
    Inv ok bad { s with client := .waiting a, event := s.event + 1 } := by
  by_cases hs : s.server = .left
  · have hd := h.dead hs
    simp only [Dead, hc] at hd
    exact dead_iff hs (.inl hd)
  · have hl := h.live hs
    simp only [Live, hc] at hl
    obtain ⟨h1, h2, h3, h4, h5⟩ := hl
    exact live_iff hs (.pending false (.inl h1) (by simp [h2]) h3 h4 h5)

/-- A response is taken: it was the only one, and it was about the request. -/
theorem Inv.outcome (h : Inv ok bad s) {a : α} {b : β} {rest : List β}
    (hc : s.client = .waiting a) (hr : s.responses = b :: rest) :
    rest = [] ∧ Outcome ok bad s a b := by
  by_cases hs : s.server = .left
  · have hd := h.dead hs
    simp only [Dead, hc] at hd
    rcases hd with ⟨hn, -⟩ | ⟨b', hb, ho⟩
    · rw [hn] at hr
      cases hr
    · rw [hb] at hr
      cases hr
      exact ⟨rfl, ho⟩
  · cases h.owed_of hc hs with
    | answered _ _ _ hb ho =>
      rw [hb] at hr
      cases hr
      exact ⟨rfl, ho⟩
    | _ => simp_all

theorem Inv.recv (h : Inv ok bad s) {a : α} {b : β} {rest : List β} (hc : s.client = .waiting a)
    (hr : s.responses = b :: rest) : Inv ok bad { s with client := .idle, responses := rest } := by
  obtain ⟨rfl, -⟩ := h.outcome hc hr
  by_cases hs : s.server = .left
  · exact dead_iff hs rfl
  · cases h.owed_of hc hs with
    | answered h1 h2 h3 => exact live_iff hs ⟨h1, h2, h3, rfl⟩
    | _ => simp_all

/-- A step of the server keeps the invariant if it turns what a waiting client is
owed into something it is owed, and keeps a quiet server quiet. -/
theorem Inv.of_owed (h : Inv ok bad s) {a : α} (hc : s.client = .waiting a)
    (hs : s.server ≠ .left) (hct : t.client = .waiting a) (ht : t.server ≠ .left)
    (hstep : Owed ok bad s a → Owed ok bad t a) : Inv ok bad t :=
  live_iff ht (by simpa only [Live, hct] using hstep (h.owed_of hc hs))

theorem Inv.leave (h : Inv ok bad s) {seen : Bool} (hs : s.server = .running seen) :
    Inv ok bad { s with server := .left } := by
  have hne : s.server ≠ .left := by simp [hs]
  have hl := h.live hne
  refine dead_iff rfl ?_
  unfold Live at hl
  split at hl
  · rename_i a hc
    simp only [Dead, hc]
    exact ⟨hl.2.2.2.1, hl.2.2.2.2⟩
  · rename_i a hc
    simp only [Dead, hc]
    cases hl with
    | pending _ _ _ _ hn hm => exact .inl ⟨hn, hm⟩
    | answered _ _ _ hb ho => exact .inr ⟨_, hb, ho⟩
    | _ => simp_all
  · rename_i hw hi
    cases hc : s.client with
    | writing a => exact absurd hc (hw a)
    | waiting a => exact absurd hc (hi a)
    | idle => simpa only [Dead, hc] using hl.2.2.2
    | closed => simpa only [Dead, hc] using hl.2.2.2

theorem Inv.step (h : Inv ok bad s) (hs : Step ok bad s t) : Inv ok bad t := by
  cases hs with
  | send a hc => exact h.send a hc
  | write hc => exact h.write hc
  | recv hc hr => exact h.recv hc hr
  | @hangup a hc hl hr => exact dead_iff hl hr
  | close hc =>
    by_cases hl : s.server = .left
    · exact dead_iff hl rfl
    · have hq := h.live hl
      simp only [Live, hc] at hq
      exact live_iff hl ⟨hq.1, hq.2.1, hq.2.2.1, rfl⟩
  | @look seen h1 he =>
    have hne : s.server ≠ .left := by simp [h1]
    have hl := h.live hne
    refine live_iff nofun ?_
    cases seen with
    | false => simpa only [← h1] using hl
    | true =>
      have he := he rfl
      unfold Live at hl
      split at hl
      · omega
      · rename_i a hc
        simp only [Live, hc]
        cases hl with
        | pending _ h2 h3 h4 h5 h6 => exact .pending true (.inl rfl) h3 h4 h5 h6
        | answered _ h2 => omega
        | _ => simp_all
      · omega
  | begin h1 =>
    have hne : s.server ≠ .left := by simp [h1]
    have hl := h.live hne
    refine live_iff nofun ?_
    unfold Live at hl
    split at hl
    · simp [h1] at hl
    · rename_i a hc
      simp only [Live, hc]
      cases hl with
      | pending _ h2 h3 h4 h5 h6 => exact .pending true (.inr rfl) h3 h4 h5 h6
      | _ => simp_all
    · simp [h1] at hl
  | read h1 he =>
    have hne : s.server ≠ .left := by simp [h1]
    obtain ⟨a, hc⟩ := h.waiting_of_busy hne (by simp [h1])
    refine h.of_owed hc hne hc nofun fun ho => ?_
    cases ho with
    | pending _ _ _ h4 h5 h6 => exact .draining rfl rfl h4 h5 h6
    | _ => simp_all
  | readFail h1 he =>
    have hne : s.server ≠ .left := by simp [h1]
    obtain ⟨a, hc⟩ := h.waiting_of_busy hne (by simp [h1])
    cases h.owed_of hc hne with
    | pending _ _ h3 => omega
    | _ => simp_all
  | take h1 hr =>
    have hne : s.server ≠ .left := by simp [h1]
    obtain ⟨a, hc⟩ := h.waiting_of_busy hne (by simp [h1])
    refine h.of_owed hc hne hc nofun fun ho => ?_
    cases ho with
    | draining _ h3 h4 h5 h6 =>
      rw [h4] at hr
      cases hr
      exact .serving rfl h3 rfl h5 h6
    | served _ _ h4 => simp [h4] at hr
    | _ => simp_all
  | serve h1 =>
    have hne : s.server ≠ .left := by simp [h1]
    obtain ⟨a, hc⟩ := h.waiting_of_busy hne (by simp [h1])
    refine h.of_owed hc hne hc nofun fun ho => ?_
    cases ho with
    | serving h2 h3 h4 h5 h6 =>
      rw [h1] at h2
      cases h2
      exact .served rfl h3 h4 h5 (by simp [← h6])
    | _ => simp_all
  | refuse h1 hb =>
    have hne : s.server ≠ .left := by simp [h1]
    obtain ⟨a, hc⟩ := h.waiting_of_busy hne (by simp [h1])
    refine h.of_owed hc hne hc nofun fun ho => ?_
    cases ho with
    | serving h2 h3 h4 h5 h6 => exact .answering rfl h3 h4 h5 (.inr ⟨hb, h6⟩)
    | _ => simp_all
  | finish h1 hr =>
    have hne : s.server ≠ .left := by simp [h1]
    obtain ⟨a, hc⟩ := h.waiting_of_busy hne (by simp [h1])
    refine h.of_owed hc hne hc nofun fun ho => ?_
    cases ho with
    | served _ h3 h4 h5 h6 => exact .answering rfl h3 h4 h5 (.inl ⟨rfl, h6⟩)
    | draining _ _ h4 => simp [h4] at hr
    | _ => simp_all
  | crash h1 _ hc =>
    have hne : s.server ≠ .left := by simp [h1]
    obtain ⟨a, ha⟩ := h.waiting_of_busy hne (by simp [h1])
    rw [hc] at ha
    cases ha
  | answer h1 =>
    have hne : s.server ≠ .left := by simp [h1]
    obtain ⟨a, hc⟩ := h.waiting_of_busy hne (by simp [h1])
    refine h.of_owed hc hne hc nofun fun ho => ?_
    cases ho with
    | answering h2 h3 h4 h5 h6 =>
      rw [h1] at h2
      cases h2
      exact .answered rfl h3 h4 (by simp [h5]) h6
    | _ => simp_all
  | leave h1 => exact h.leave h1
  | discard h1 =>
    have hd := h.dead h1
    exact dead_iff h1 hd

/-! ## What the invariant says -/

/-- The server is at work on the queue. -/
def Server.busy : Server α β → Prop
  | .reading | .draining | .serving _ | .answering _ => True
  | _ => False

theorem Inv.responses_le (h : Inv ok bad s) : s.responses.length ≤ 1 := by
  by_cases hs : s.server = .left
  · have hd := h.dead hs
    unfold Dead at hd
    split at hd
    · simp [hd.1]
    · rcases hd with ⟨hn, -⟩ | ⟨b, hb, -⟩
      · simp [hn]
      · simp [hb]
    · simp [hd]
  · have hl := h.live hs
    unfold Live at hl
    split at hl
    · simp [hl.2.2.2.1]
    · cases hl <;> simp [*]
    · simp [hl.2.2.2]

theorem Inv.requests_le (h : Inv ok bad s) (hs : s.server ≠ .left) : s.requests.length ≤ 1 := by
  have hl := h.live hs
  unfold Live at hl
  split at hl
  · simp [hl.2.2.1]
  · cases hl <;> simp [*]
  · simp [hl.2.2.1]

/-- A waiting client is owed a response: it is queued, the server will see the
event or is at work, or the server has left. -/
theorem Inv.owed (h : Inv ok bad s) {a : α} (hc : s.client = .waiting a) :
    s.responses ≠ [] ∨ 0 < s.event ∨ s.server.busy ∨ s.server = .left := by
  by_cases hs : s.server = .left
  · exact .inr (.inr (.inr hs))
  · cases h.owed_of hc hs with
    | pending _ _ he => exact .inr (.inl (by omega))
    | draining hd => exact .inr (.inr (.inl (by rw [hd]; trivial)))
    | serving hd => exact .inr (.inr (.inl (by rw [hd]; trivial)))
    | served hd => exact .inr (.inr (.inl (by rw [hd]; trivial)))
    | answering hd => exact .inr (.inr (.inl (by rw [hd]; trivial)))
    | answered _ _ _ hb => exact .inl (by simp [hb])

end Rendezvous
