import Garnd.CircuitBreaker
import Garnd.Lib.Monitor
import Garnd.Privileges

/- Restarts. Every incarnation but the first is started by a `ReloadRequest`, and `main`
   calls `circuit_breaker` before it obeys one. So what bounds the calls of the breaker
   bounds the incarnations: however often reloads are asked for, by signals or by
   failures, no more than `2 R - 1` incarnations start within any `E + 1` seconds. -/
namespace Garnd
open Transition

/-- An incarnation is over, or about to be, and the next one is to start. -/
def MainPc.renewing : MainPc → Bool
  | .start | .join (.drain true) | .drain true => true
  | _ => false

/-- The time of a step, and whether a reading of the clock fails at it. -/
structure Tick where
  time : Timespec
  failure : Option Errno

def Tick.clock (k : Tick) : Except Errno Timespec :=
  match k.failure with
  | none => .ok k.time
  | some errno => .error errno

/-- The breaker returns only where it could read the clock. -/
theorem Tick.clock_returns {k : Tick} {E : Int64} {R : UInt64} {self next : CircuitBreaker}
    (h : self.circuitBreaker E R k.clock = some next) :
    self.circuitBreaker E R (.ok k.time) = some next := by
  obtain ⟨time, _ | errno⟩ := k
  · exact h
  · cases h

/-- The statics of the circuit breaker, the time of the last step, and when the breaker
let a reload pass and an incarnation started. -/
structure Timeline where
  breaker : CircuitBreaker
  now : Timespec
  reloads : List Timespec
  starts : List Timespec

def Timeline.boot : Timeline := ⟨.new, .zero, [], []⟩

namespace Daemon
variable {P : Externals} {s t : Daemon} {E : Int64} {R : UInt64}

/-- Time does not go back, and the process is killed where `circuit_breaker` does not
return. -/
def timing (E : Int64) (R : UInt64) : Monitor Daemon Timeline Act Tick
  | s, a, tick, _, line =>
    if tick.time.nanos < line.now.nanos then none
    else
      let line := { line with now := tick.time }
      match a with
      | .main (.new _) => some { line with starts := line.starts ++ [tick.time] }
      | .main (.recv tripped) =>
        match s.errors with
        | .reloadRequest :: _ =>
          match line.breaker.circuitBreaker E R tick.clock with
          | some breaker =>
            if tripped then none
            else some { line with breaker := breaker, reloads := line.reloads ++ [tick.time] }
          | none => if tripped then some line else none
        | _ => some line
      | _ => some line

/-- How many of the times are not before `a`. -/
def since (a : ℤ) (times : List Timespec) : ℕ := (times.filter fun t => a ≤ t.nanos).length

theorem since_append (a : ℤ) (times : List Timespec) (t : Timespec) :
    since a (times ++ [t]) = since a times + if a ≤ t.nanos then 1 else 0 := by
  by_cases h : a ≤ t.nanos <;> simp [since, h]

/-- Nothing is later than the last of the times. -/
theorem since_eq_zero {a : ℤ} {times : List Timespec} {now : Timespec}
    (h : ∀ t ∈ times, t.nanos ≤ now.nanos) (ha : now.nanos < a) : since a times = 0 := by
  rw [since, List.length_eq_zero_iff, List.filter_eq_nil_iff]
  intro t ht
  have hle := h t ht
  simpa using lt_of_le_of_lt hle ha

/-- What is recorded: the calls of the breaker that returned, in their order, and no
more starts since any moment than reloads, but one if no reload is under way. -/
structure Paced (E : Int64) (R : UInt64) (s : Daemon) (line : Timeline) : Prop where
  returned : CircuitBreaker.new.run E R line.reloads = some line.breaker
  sorted : line.reloads.Pairwise (·.nanos ≤ ·.nanos)
  past : ∀ t ∈ line.reloads ++ line.starts, t.nanos ≤ line.now.nanos
  allowed : ∀ a, since a line.starts ≤ since a line.reloads + if s.main.renewing then 0 else 1

theorem paced_boot : boot.Paced E R .boot where
  returned := rfl
  sorted := .nil
  past := by rintro t ⟨⟩
  allowed _ := Nat.zero_le _

/-- `main` comes to renew itself by a `ReloadRequest` that it obeys. -/
theorem renewing_step {a : Act} (hs : s.step P a = some t) (h : t.main.renewing = true) :
    s.main.renewing = true ∨ a = .main (.recv false) ∧ ∃ rest, s.errors = .reloadRequest :: rest := by
  obtain ⟨-, hp⟩ := step_party hs
  cases hp with
  | main hm =>
    cases hm with
    | recvReload _ he => exact .inr ⟨rfl, _, he⟩
    | @ahead _ pc _ _ hset hne => cases pc <;> first | exact absurd rfl hne | cases h | cases hset
    | @join reload hmain =>
      cases reload
      · cases h
      · exact .inl (by rw [hmain]; rfl)
    | reload hmain => exact .inl (by rw [hmain]; rfl)
    | drain => exact .inl h
    | _ => cases h
  | welcome _ he => exact .inl (he.main_eq ▸ h)
  | env _ _ he => exact .inl (he.frame.1 ▸ h)
  | client => exact .inl h
  | @signal sig _ _ _ _ hm =>
    obtain ⟨shutdown, reload, terminated, reloaded, hshape⟩ := s.handler_shape sig
    cases hm <;> rw [hshape] at h <;> exact .inl h

/-- An incarnation starts where the last one is over. -/
theorem new_step {envVar : Bool} (hs : s.step P (.main (.new envVar)) = some t) :
    s.main.renewing = true ∧ t.main.renewing = false := by
  have hm := mainStep_of_step hs
  simp only [mainStep] at hm
  split at hm
  · rename_i hstart
    refine ⟨by rw [hstart]; rfl, ?_⟩
    cases envVar <;> cases hm <;> rfl
  · cases hm

namespace Paced
variable {line : Timeline} {tick : Tick}

/-- Time passes. -/
theorem later (h : s.Paced E R line) (hle : line.now.nanos ≤ tick.time.nanos)
    (hnew : t.main.renewing = true → s.main.renewing = true) :
    t.Paced E R { line with now := tick.time } where
  returned := h.returned
  sorted := h.sorted
  past u hu := (h.past u hu).trans hle
  allowed a := by
    refine (h.allowed a).trans (Nat.add_le_add_left ?_ _)
    cases ht : t.main.renewing
    · split <;> simp
    · simp [hnew ht]

/-- An incarnation starts. -/
theorem started (h : s.Paced E R line) (hle : line.now.nanos ≤ tick.time.nanos)
    (hs : s.main.renewing = true) (ht : t.main.renewing = false) :
    t.Paced E R { line with now := tick.time, starts := line.starts ++ [tick.time] } where
  returned := h.returned
  sorted := h.sorted
  past u hu := by
    rw [← List.append_assoc] at hu
    rcases List.mem_append.mp hu with hu | hu
    · exact (h.past u hu).trans hle
    · rw [List.mem_singleton.mp hu]
  allowed a := by
    have hold := h.allowed a
    rw [if_pos hs] at hold
    rw [since_append, ht]
    split <;> simp <;> omega

/-- The breaker lets a reload pass. -/
theorem reloaded {breaker : CircuitBreaker} (h : s.Paced E R line)
    (hle : line.now.nanos ≤ tick.time.nanos)
    (hb : line.breaker.circuitBreaker E R (.ok tick.time) = some breaker) :
    t.Paced E R { line with
      now := tick.time, breaker := breaker, reloads := line.reloads ++ [tick.time] } where
  returned := by
    rw [CircuitBreaker.run_append, h.returned]
    simp [CircuitBreaker.run, hb]
  sorted := by
    refine List.pairwise_append.mpr ⟨h.sorted, List.pairwise_singleton _ _, fun u hu v hv => ?_⟩
    rw [List.mem_singleton.mp hv]
    exact (h.past u (List.mem_append_left _ hu)).trans hle
  past u hu := by
    simp only [List.mem_append, List.mem_singleton] at hu
    rcases hu with (hu | rfl) | hu
    · exact (h.past u (List.mem_append_left _ hu)).trans hle
    · exact le_rfl
    · exact (h.past u (List.mem_append_right _ hu)).trans hle
  allowed a := by
    rw [since_append]
    by_cases ha : a ≤ tick.time.nanos
    · have hold : since a line.starts ≤ since a line.reloads + 1 :=
        (h.allowed a).trans (Nat.add_le_add_left (by split <;> simp) _)
      rw [if_pos ha]
      exact hold.trans (Nat.le_add_right _ _)
    · have hzero : since a line.starts = 0 :=
        since_eq_zero (fun u hu => (h.past u (List.mem_append_right _ hu)).trans hle) (not_le.mp ha)
      rw [hzero]
      exact Nat.zero_le _

theorem step {a : Act} {line' : Timeline} (h : s.Paced E R line) (hs : s.step P a = some t)
    (hw : timing E R s a tick t line = some line') : t.Paced E R line' := by
  simp only [timing] at hw
  split at hw
  · cases hw
  · rename_i hlt
    have hle := not_lt.mp hlt
    have other (ha : ∀ rest, a = .main (.recv false) → s.errors ≠ .reloadRequest :: rest) :
        t.Paced E R { line with now := tick.time } := by
      refine h.later hle fun hnew => (renewing_step hs hnew).resolve_right ?_
      rintro ⟨rfl, rest, he⟩
      exact ha rest rfl he
    split at hw
    · cases hw
      exact h.started hle (new_step hs).1 (new_step hs).2
    · rename_i tripped
      split at hw
      · split at hw
        · rename_i breaker hb
          split at hw
          · cases hw
          · cases hw
            exact h.reloaded hle (Tick.clock_returns hb)
        · split at hw
          · cases hw
            rename_i htrip
            subst htrip
            exact other (by rintro rest ⟨⟩)
          · cases hw
      · rename_i hne
        cases hw
        exact other fun rest _ he => hne rest he
    · rename_i hne
      cases hw
      exact other fun rest ha _ => hne _ ha

/-- The reloads of the last `E + 1` seconds. -/
theorem reloads_le (h : s.Paced E R line) (hE : 0 ≤ E) (hR : 2 ≤ R) :
    since (line.now.nanos - CircuitBreaker.width E + 1) line.reloads ≤ 2 * (R.toNat - 1) := by
  refine CircuitBreaker.within_length_le hE hR h.sorted h.returned List.filter_sublist ?_
  intro first last hfirst hlast
  have hin := (List.mem_filter.mp (List.mem_of_mem_head? hfirst)).2
  have hpast := h.past last
    (List.mem_append_left _ (List.mem_filter.mp (List.mem_of_getLast? hlast)).1)
  have hge := of_decide_eq_true hin
  unfold CircuitBreaker.width at hge
  omega

end Paced

/-- In every run of the daemon with the circuit breaker and a clock that does not go
back: at every moment the incarnations that have started in the last `E + 1` seconds
number `2 R - 1` at most, whatever asks for the reloads. -/
theorem restarts_bounded (hE : 0 ≤ E) (hR : 2 ≤ R) {xs : List (Act × Tick)} {line : Timeline}
    (hr : Run (watched (Daemon.step P) (timing E R)) anyStep (boot, .boot) xs (s, line)) :
    (line.starts.filter fun t =>
      line.now.nanos - (E.toInt + 1) * 1000000000 < t.nanos).length ≤ 2 * R.toNat - 1 := by
  have h : s.Paced E R line := (hr.watched_invariant (I := fun _ => True) (J := Paced E R)
    (fun _ _ _ _ _ => trivial) (fun _ _ _ _ _ _ _ h hs hw => h.step hs hw) trivial paced_boot).2
  have hR' : 2 ≤ R.toNat := UInt64.le_iff_toNat_le.mp hR
  have hreloads := h.reloads_le hE hR
  have hstarts := h.allowed (line.now.nanos - CircuitBreaker.width E + 1)
  have hone : (if s.main.renewing then 0 else 1) ≤ 1 := by split <;> simp
  calc _ = since (line.now.nanos - CircuitBreaker.width E + 1) line.starts := by
        unfold since CircuitBreaker.width
        congr 2
    _ ≤ 2 * R.toNat - 1 := by omega

/-- Two signals in a row reload the service, where three are too many: the third
incarnation starts in the second of the first one. -/
def reloads : List Act :=
  startUp ++ [.signal .sighup .main false,
    .welcome (.poll (.ok ⟨.none, .readable, .none, .none⟩)), .welcome (.reloadRead (.ok ())),
    .welcome (.sendError .reloadRequest), .welcome .dropLocals, .welcome (.teardown none),
    .main (.recv false), .main .join, .main .drain]

theorem restarts_bounded_two : ∃ xs s line,
    Run (watched (Daemon.step .oneLetter) (timing 3 3)) anyStep (boot, .boot) xs (s, line) ∧
    line.starts.length = 3 ∧
    (line.starts.filter fun t =>
      line.now.nanos - (Int64.toInt 3 + 1) * 1000000000 < t.nanos).length ≤ 5 := by
  have hexec : (exec (watched (Daemon.step .oneLetter) (timing 3 3)) (fun _ _ => true)
      (boot, .boot) ((reloads ++ reloads ++ [Act.main (.new true)]).map fun a =>
        (a, ⟨CircuitBreaker.second 10 (by decide), none⟩))).any (fun p =>
          p.2.starts.length = 3) := by decide
  obtain ⟨⟨s, line⟩, hr, hp⟩ := Run.of_exec_any (fun _ _ _ => trivial) hexec
  exact ⟨_, s, line, hr, of_decide_eq_true hp, restarts_bounded (by decide) (by decide) hr⟩

end Daemon
end Garnd
