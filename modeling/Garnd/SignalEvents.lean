import Garnd.Errors
import Garnd.Lib.Transition
import Mathlib.Data.List.Nodup
import Mathlib.Logic.Function.Basic

/- `setup_events` and the two statics its signal handlers read, as a process takes its
   steps: a call is one system call or exchange at a time, and between any two of them
   a signal may be handled and other code may be given and give back descriptors. An
   `eventfd` is known by the order of creation, so a number that was closed and is open
   again denotes another one. The numbers of all of them are those of the statics and
   those the call owns (`Owned`), and a call owns none when it ends. -/
namespace Garnd
open Transition

/-- What a descriptor number denotes. -/
inductive OpenFile where
  | eventfd (k : ℕ)
  | other
  deriving DecidableEq, Repr

/-- Where `setup_events` is, with the numbers its local variables hold. The last four
places come after `Box::leak`. -/
inductive SetupPc where
  | idle
  | newShutdown
  | newReload (shutdownEvent : RawFd)
  | exchangeShutdown (shutdownEvent reloadEvent : RawFd)
  | exchangeReload (shutdownEvent reloadEvent : RawFd)
  | sigterm (shutdownEvent reloadEvent : RawFd)
  | sigint (shutdownEvent reloadEvent : RawFd)
  | sighup (shutdownEvent reloadEvent : RawFd)
  deriving DecidableEq, Repr

/-- `SHUTDOWN_EVENT_FOR_SIGNAL` and `RELOAD_EVENT_FOR_SIGNAL`, where -1 is `none`, the
descriptor table, the counters of the events, and what the calls returned. `stray`
counts the writes of a handler that met something else. -/
structure Process where
  shutdownEvent : Option RawFd
  reloadEvent : Option RawFd
  fds : RawFd → Option OpenFile
  created : ℕ
  counter : ℕ → ℕ
  stray : ℕ
  exited : Bool
  pc : SetupPc
  results : List (Except DetailedError (RawFd × RawFd))

/-- The numbers of the events a call has created and not yet shared or dropped. -/
def SetupPc.owned : SetupPc → List RawFd
  | .newReload s => [s]
  | .exchangeShutdown s r => [s, r]
  | .exchangeReload _ r => [r]
  | _ => []

/-- The number of the static a call holds a second handle of. -/
def SetupPc.shutdownShared : SetupPc → Option RawFd
  | .exchangeReload s _ | .sigterm s _ | .sigint s _ | .sighup s _ => some s
  | _ => none

def SetupPc.reloadShared : SetupPc → Option RawFd
  | .sigterm _ r | .sigint _ r | .sighup _ r => some r
  | _ => none

/-- The statics are shared, and the handlers are being installed. -/
def SetupPc.installing : SetupPc → Bool
  | .sigterm _ _ | .sigint _ _ | .sighup _ _ => true
  | _ => false

inductive ProcessAct where
  | call
  | eventfd (r : Except Errno RawFd)
  | exchange
  | sigaction (r : Except Errno Unit)
  | signal (isReload : Bool)
  | openOther (fd : RawFd)
  | closeOther (fd : RawFd)
  deriving Repr

namespace Process

/-- A process that was just started, with the descriptors it inherited. -/
def boot (inherited : RawFd → Bool) : Process :=
  { shutdownEvent := none
    reloadEvent := none
    fds := fun fd => if inherited fd then some .other else none
    created := 0
    counter := fun _ => 0
    stray := 0
    exited := false
    pc := .idle
    results := [] }

/-- `EventFd::from_value_and_flags`, given the number `fd`. -/
def create (p : Process) (fd : RawFd) : Process :=
  { p with
    fds := Function.update p.fds fd (some (.eventfd p.created))
    created := p.created + 1 }

def close (p : Process) (fd : RawFd) : Process := { p with fds := Function.update p.fds fd none }

/-- The call returns. -/
def ret (p : Process) (r : Except DetailedError (RawFd × RawFd)) : Process :=
  { p with pc := .idle, results := p.results ++ [r] }

/-- `termination_or_reload_handler`. -/
def terminationOrReloadHandler (p : Process) (isReload : Bool) : Process :=
  match if isReload then p.reloadEvent else p.shutdownEvent with
  | none => if isReload then p else { p with exited := true }
  | some fd =>
    match p.fds fd with
    | some (.eventfd k) => { p with counter := Function.update p.counter k (p.counter k + 1) }
    | _ => { p with stray := p.stray + 1 }

/-- One step. A number that is handed out is not open, and other code closes what is
its own. -/
def step (p : Process) (a : ProcessAct) : Option Process :=
  if p.exited then none else
  match a with
  | .call => if p.pc = .idle then some { p with pc := .newShutdown } else none
  | .eventfd r =>
    match p.pc, r with
    | .newShutdown, .ok fd =>
      if p.fds fd = none then some { p.create fd with pc := .newReload fd } else none
    | .newShutdown, .error e => some (p.ret (.error (.sys .eventfd e)))
    | .newReload s, .ok fd =>
      if p.fds fd = none then some { p.create fd with pc := .exchangeShutdown s fd } else none
    -- the first event is dropped on the way out
    | .newReload s, .error e => some ((p.close s).ret (.error (.sys .eventfd e)))
    | _, _ => none
  | .exchange =>
    match p.pc with
    | .exchangeShutdown s r =>
      match p.shutdownEvent with
      | none => some { p with shutdownEvent := some s, pc := .exchangeReload s r }
      -- the fresh event is dropped when a handle of the static's number takes its place
      | some rawFd => some { p.close s with pc := .exchangeReload rawFd r }
    | .exchangeReload s r =>
      match p.reloadEvent with
      | none => some { p with reloadEvent := some r, pc := .sigterm s r }
      | some rawFd => some { p.close r with pc := .sigterm s rawFd }
    | _ => none
  | .sigaction (.error e) =>
    match p.pc with
    | .sigterm _ _ | .sigint _ _ | .sighup _ _ => some (p.ret (.error (.sys .sigaction e)))
    | _ => none
  | .sigaction (.ok ()) =>
    match p.pc with
    | .sigterm s r => some { p with pc := .sigint s r }
    | .sigint s r => some { p with pc := .sighup s r }
    | .sighup s r => some (p.ret (.ok (s, r)))
    | _ => none
  | .signal isReload => some (p.terminationOrReloadHandler isReload)
  | .openOther fd =>
    if p.fds fd = none then some { p with fds := Function.update p.fds fd (some .other) } else none
  | .closeOther fd => if p.fds fd = some .other then some (p.close fd) else none

/-! ## What one step can do -/

inductive Moves (p : Process) : Process → Prop
  | call : p.pc = .idle → Moves p { p with pc := .newShutdown }
  | newShutdown (fd : RawFd) : p.pc = .newShutdown → p.fds fd = none →
      Moves p { p.create fd with pc := .newReload fd }
  | newShutdownFails (e : DetailedError) : p.pc = .newShutdown → Moves p (p.ret (.error e))
  | newReload (s fd : RawFd) : p.pc = .newReload s → p.fds fd = none →
      Moves p { p.create fd with pc := .exchangeShutdown s fd }
  | newReloadFails (s : RawFd) (e : DetailedError) : p.pc = .newReload s →
      Moves p ((p.close s).ret (.error e))
  | shareShutdown (s r : RawFd) : p.pc = .exchangeShutdown s r → p.shutdownEvent = none →
      Moves p { p with shutdownEvent := some s, pc := .exchangeReload s r }
  | recycleShutdown (s r rawFd : RawFd) : p.pc = .exchangeShutdown s r →
      p.shutdownEvent = some rawFd → Moves p { p.close s with pc := .exchangeReload rawFd r }
  | shareReload (s r : RawFd) : p.pc = .exchangeReload s r → p.reloadEvent = none →
      Moves p { p with reloadEvent := some r, pc := .sigterm s r }
  | recycleReload (s r rawFd : RawFd) : p.pc = .exchangeReload s r →
      p.reloadEvent = some rawFd → Moves p { p.close r with pc := .sigterm s rawFd }
  | sigterm (s r : RawFd) : p.pc = .sigterm s r → Moves p { p with pc := .sigint s r }
  | sigint (s r : RawFd) : p.pc = .sigint s r → Moves p { p with pc := .sighup s r }
  | sigactionFails (e : DetailedError) : p.pc.installing = true → Moves p (p.ret (.error e))
  | returns (s r : RawFd) : p.pc = .sighup s r → Moves p (p.ret (.ok (s, r)))
  | signal (isReload : Bool) : Moves p (p.terminationOrReloadHandler isReload)
  | openOther (fd : RawFd) : p.fds fd = none →
      Moves p { p with fds := Function.update p.fds fd (some .other) }
  | closeOther (fd : RawFd) : p.fds fd = some .other → Moves p (p.close fd)

variable {p q : Process} {a : ProcessAct}

theorem step_moves (h : p.step a = some q) : Moves p q := by
  unfold step at h
  split at h
  · cases h
  cases a with
  | call =>
    simp only [Option.ite_none_right_eq_some, Option.some.injEq] at h
    obtain ⟨hpc, rfl⟩ := h
    exact .call hpc
  | eventfd r =>
    cases hpc : p.pc <;> cases r <;>
      simp only [hpc, Option.ite_none_right_eq_some, Option.some.injEq, reduceCtorEq] at h
    · subst h
      exact .newShutdownFails _ hpc
    · obtain ⟨hfd, rfl⟩ := h
      exact .newShutdown _ hpc hfd
    · subst h
      exact .newReloadFails _ _ hpc
    · obtain ⟨hfd, rfl⟩ := h
      exact .newReload _ _ hpc hfd
  | exchange =>
    cases hpc : p.pc with
    | exchangeShutdown s r =>
      cases hs : p.shutdownEvent with
      | none =>
        simp only [hpc, hs, Option.some.injEq] at h
        exact h ▸ .shareShutdown s r hpc hs
      | some rawFd =>
        simp only [hpc, hs, Option.some.injEq] at h
        exact h ▸ .recycleShutdown s r rawFd hpc hs
    | exchangeReload s r =>
      cases hr : p.reloadEvent with
      | none =>
        simp only [hpc, hr, Option.some.injEq] at h
        exact h ▸ .shareReload s r hpc hr
      | some rawFd =>
        simp only [hpc, hr, Option.some.injEq] at h
        exact h ▸ .recycleReload s r rawFd hpc hr
    | _ =>
      simp only [hpc] at h
      cases h
  | sigaction r =>
    cases hpc : p.pc <;> cases r <;> simp only [hpc, Option.some.injEq, reduceCtorEq] at h
    all_goals subst h
    · exact .sigactionFails _ (by rw [hpc]; rfl)
    · exact .sigterm _ _ hpc
    · exact .sigactionFails _ (by rw [hpc]; rfl)
    · exact .sigint _ _ hpc
    · exact .sigactionFails _ (by rw [hpc]; rfl)
    · exact .returns _ _ hpc
  | signal isReload =>
    simp only [Option.some.injEq] at h
    exact h ▸ .signal isReload
  | openOther fd =>
    simp only [Option.ite_none_right_eq_some, Option.some.injEq] at h
    obtain ⟨hfd, rfl⟩ := h
    exact .openOther fd hfd
  | closeOther fd =>
    simp only [Option.ite_none_right_eq_some, Option.some.injEq] at h
    obtain ⟨hfd, rfl⟩ := h
    exact .closeOther fd hfd

/-! ## Who owns the events -/

def statics (p : Process) : List RawFd := p.shutdownEvent.toList ++ p.reloadEvent.toList

/-- The numbers of the statics and of the events a call owns. -/
def events (p : Process) : List RawFd := p.statics ++ p.pc.owned

/-- Every open event is a static's or the call's, under a number of its own. -/
structure Ledger (p : Process) : Prop where
  nodup : p.events.Nodup
  isEvent : ∀ fd, (∃ k, p.fds fd = some (.eventfd k)) ↔ fd ∈ p.events

/-- What a call hands on as the shared events are the statics. -/
structure Handles (p : Process) : Prop where
  shutdown : ∀ s, p.pc.shutdownShared = some s → p.shutdownEvent = some s
  reload : ∀ r, p.pc.reloadShared = some r → p.reloadEvent = some r
  results : ∀ s r, .ok (s, r) ∈ p.results → p.shutdownEvent = some s ∧ p.reloadEvent = some r

/-- The statics of `p` are as they were in `q`, and what they denote is. -/
structure Keeps (p q : Process) : Prop where
  shutdown : ∀ fd, p.shutdownEvent = some fd → q.shutdownEvent = some fd ∧ q.fds fd = p.fds fd
  reload : ∀ fd, p.reloadEvent = some fd → q.reloadEvent = some fd ∧ q.fds fd = p.fds fd

theorem Keeps.refl (p : Process) : Keeps p p := ⟨fun _ h => ⟨h, rfl⟩, fun _ h => ⟨h, rfl⟩⟩

theorem Keeps.trans {t : Process} (h : Keeps p q) (h' : Keeps q t) : Keeps p t := by
  refine ⟨fun fd hfd => ?_, fun fd hfd => ?_⟩
  · obtain ⟨hq, he⟩ := h.shutdown fd hfd
    obtain ⟨ht, he'⟩ := h'.shutdown fd hq
    exact ⟨ht, he'.trans he⟩
  · obtain ⟨hq, he⟩ := h.reload fd hfd
    obtain ⟨ht, he'⟩ := h'.reload fd hq
    exact ⟨ht, he'.trans he⟩

theorem Ledger.frame (h : Ledger p) (hev : q.events.Perm p.events)
    (hfds : ∀ fd k, q.fds fd = some (.eventfd k) ↔ p.fds fd = some (.eventfd k)) : Ledger q := by
  refine ⟨hev.nodup_iff.mpr h.nodup, fun fd => ?_⟩
  rw [hev.mem_iff, ← h.isEvent fd]
  simp only [hfds]

theorem Ledger.create (h : Ledger p) {fd : RawFd} (hfree : p.fds fd = none)
    (hev : q.events.Perm (fd :: p.events)) (hfds : q.fds = (p.create fd).fds) : Ledger q := by
  have hnew : fd ∉ p.events := by
    intro hmem
    obtain ⟨k, hk⟩ := (h.isEvent fd).mpr hmem
    rw [hfree] at hk
    cases hk
  refine ⟨hev.nodup_iff.mpr (List.nodup_cons.mpr ⟨hnew, h.nodup⟩), fun fd' => ?_⟩
  rw [hev.mem_iff, List.mem_cons, ← h.isEvent fd', hfds, Process.create]
  by_cases heq : fd' = fd
  · simp [heq]
  · simp [heq]

theorem Ledger.close (h : Ledger p) (fd : RawFd) (hev : p.events.Perm (fd :: q.events))
    (hfds : q.fds = (p.close fd).fds) : Ledger q := by
  obtain ⟨hout, hnodup⟩ := List.nodup_cons.mp (hev.nodup_iff.mp h.nodup)
  refine ⟨hnodup, fun fd' => ?_⟩
  rw [hfds, Process.close]
  by_cases heq : fd' = fd
  · simp [heq, hout]
  · have hmem := h.isEvent fd'
    rw [hev.mem_iff, List.mem_cons, or_iff_right heq] at hmem
    simpa [Function.update_of_ne heq] using hmem

theorem handler_eq (p : Process) (isReload : Bool) :
    ∃ counter stray exited, p.terminationOrReloadHandler isReload =
      { p with counter := counter, stray := stray, exited := exited } := by
  unfold terminationOrReloadHandler
  split
  · split
    · exact ⟨_, _, _, rfl⟩
    · exact ⟨_, _, _, rfl⟩
  · split
    · exact ⟨_, _, _, rfl⟩
    · exact ⟨_, _, _, rfl⟩

theorem Ledger.step (h : Ledger p) (hm : Moves p q) : Ledger q := by
  cases hm with
  | call hpc => exact h.frame (by simp [events, statics, hpc, SetupPc.owned]) fun _ _ => .rfl
  | newShutdown fd hpc hfd =>
    refine h.create hfd ?_ rfl
    simp only [events, statics, Process.create, hpc, SetupPc.owned, List.append_nil]
    exact List.perm_append_singleton _ _
  | newShutdownFails e hpc => exact h.frame (by simp [events, statics, ret, hpc, SetupPc.owned]) fun _ _ => .rfl
  | newReload s fd hpc hfd =>
    refine h.create hfd ?_ rfl
    simp only [events, statics, Process.create, hpc, SetupPc.owned]
    rw [← List.singleton_append, ← List.append_assoc]
    exact List.perm_append_singleton _ _
  | newReloadFails s e hpc =>
    refine h.close s ?_ rfl
    simp only [events, statics, ret, Process.close, hpc, SetupPc.owned, List.append_nil]
    exact List.perm_append_singleton _ _
  | shareShutdown s r hpc hs =>
    refine h.frame ?_ fun _ _ => .rfl
    simp only [events, statics, hpc, hs, SetupPc.owned, Option.toList_none, Option.toList_some,
      List.nil_append, List.cons_append]
    exact List.perm_middle.symm
  | recycleShutdown s r rawFd hpc hs =>
    refine h.close s ?_ rfl
    simp only [events, statics, Process.close, hpc, SetupPc.owned]
    exact List.perm_middle
  | shareReload s r hpc hr =>
    refine h.frame ?_ fun _ _ => .rfl
    simp [events, statics, hpc, hr, SetupPc.owned]
  | recycleReload s r rawFd hpc hr =>
    refine h.close r ?_ rfl
    simp only [events, statics, Process.close, hpc, SetupPc.owned, List.append_nil]
    exact List.perm_append_singleton _ _
  | sigterm s r hpc | sigint s r hpc =>
    exact h.frame (by simp [events, statics, hpc, SetupPc.owned]) fun _ _ => .rfl
  | sigactionFails e hpc =>
    refine h.frame ?_ fun _ _ => .rfl
    cases hpc' : p.pc <;> simp [hpc', SetupPc.installing] at hpc <;>
      simp [events, statics, ret, hpc', SetupPc.owned]
  | returns s r hpc => exact h.frame (by simp [events, statics, ret, hpc, SetupPc.owned]) fun _ _ => .rfl
  | signal isReload =>
    obtain ⟨counter, stray, exited, heq⟩ := p.handler_eq isReload
    rw [heq]
    exact h.frame .rfl fun _ _ => .rfl
  | openOther fd hfd =>
    refine h.frame .rfl fun fd' k => ?_
    by_cases heq : fd' = fd
    · simp [heq, hfd]
    · simp [heq]
  | closeOther fd hfd =>
    refine h.frame .rfl fun fd' k => ?_
    by_cases heq : fd' = fd
    · simp [heq, hfd, Process.close]
    · simp [heq, Process.close]

/-! ## The statics are set once -/

theorem Ledger.not_static (h : Ledger p) {fd : RawFd} (hfd : ∀ k, p.fds fd ≠ some (.eventfd k)) :
    fd ∉ p.statics := by
  intro hmem
  obtain ⟨k, hk⟩ := (h.isEvent fd).mpr (List.mem_append_left _ hmem)
  exact hfd k hk

theorem Ledger.owned_not_static (h : Ledger p) (fd : RawFd) (hfd : fd ∈ p.pc.owned) :
    fd ∉ p.statics := fun hmem => List.disjoint_of_nodup_append h.nodup hmem hfd

/-- Only a number of no static is opened or closed. -/
theorem Keeps.update {fd : RawFd} {f : Option OpenFile} (hout : fd ∉ p.statics)
    (hs : q.shutdownEvent = p.shutdownEvent) (hr : q.reloadEvent = p.reloadEvent)
    (hfds : q.fds = Function.update p.fds fd f) : Keeps p q := by
  refine ⟨fun fd' h => ⟨hs.trans h, ?_⟩, fun fd' h => ⟨hr.trans h, ?_⟩⟩
  · have hne : fd' ≠ fd := fun heq => hout (heq ▸ by simp [statics, h])
    rw [hfds, Function.update_of_ne hne]
  · have hne : fd' ≠ fd := fun heq => hout (heq ▸ by simp [statics, h])
    rw [hfds, Function.update_of_ne hne]

theorem Keeps.step (h : Ledger p) (hm : Moves p q) : Keeps p q := by
  cases hm with
  | newShutdown fd hpc hfd | newReload s fd hpc hfd =>
    exact .update (h.not_static fun k => by simp [hfd]) rfl rfl rfl
  | newReloadFails s e hpc =>
    exact .update (h.owned_not_static s (by simp [hpc, SetupPc.owned])) rfl rfl rfl
  | recycleShutdown s r rawFd hpc hs =>
    exact .update (h.owned_not_static s (by simp [hpc, SetupPc.owned])) rfl rfl rfl
  | recycleReload s r rawFd hpc hr =>
    exact .update (h.owned_not_static r (by simp [hpc, SetupPc.owned])) rfl rfl rfl
  | shareShutdown s r hpc hs =>
    refine ⟨fun fd hfd => ?_, fun fd hfd => ⟨hfd, rfl⟩⟩
    rw [hs] at hfd
    cases hfd
  | shareReload s r hpc hr =>
    refine ⟨fun fd hfd => ⟨hfd, rfl⟩, fun fd hfd => ?_⟩
    rw [hr] at hfd
    cases hfd
  | signal isReload =>
    obtain ⟨counter, stray, exited, heq⟩ := p.handler_eq isReload
    rw [heq]
    exact ⟨fun fd hfd => ⟨hfd, rfl⟩, fun fd hfd => ⟨hfd, rfl⟩⟩
  | openOther fd hfd => exact .update (h.not_static fun k => by simp [hfd]) rfl rfl rfl
  | closeOther fd hfd => exact .update (h.not_static fun k => by simp [hfd]) rfl rfl rfl
  | _ => exact ⟨fun fd hfd => ⟨hfd, rfl⟩, fun fd hfd => ⟨hfd, rfl⟩⟩

/-! ## What a call returns -/

theorem Handles.frame (h : Handles p) (hs : q.pc.shutdownShared = none ∨
      q.pc.shutdownShared = p.pc.shutdownShared) (hr : q.pc.reloadShared = none ∨
      q.pc.reloadShared = p.pc.reloadShared) (hse : q.shutdownEvent = p.shutdownEvent)
    (hre : q.reloadEvent = p.reloadEvent)
    (hres : ∀ s r, .ok (s, r) ∈ q.results → .ok (s, r) ∈ p.results) : Handles q := by
  refine ⟨fun s hq => ?_, fun r hq => ?_, fun s r hq => ?_⟩
  · rcases hs with hs | hs
    · rw [hs] at hq
      cases hq
    · exact hse.trans (h.shutdown s (hs ▸ hq))
  · rcases hr with hr | hr
    · rw [hr] at hq
      cases hq
    · exact hre.trans (h.reload r (hr ▸ hq))
  · rw [hse, hre]
    exact h.results s r (hres s r hq)

theorem Handles.step (h : Handles p) (hm : Moves p q) : Handles q := by
  cases hm with
  | call hpc | newShutdown fd hpc hfd | newReload s fd hpc hfd =>
    exact h.frame (.inl rfl) (.inl rfl) rfl rfl fun _ _ hq => hq
  | newShutdownFails e hpc | sigactionFails e hpc =>
    exact h.frame (.inl rfl) (.inl rfl) rfl rfl fun s r hq => by simpa [ret] using hq
  | newReloadFails s e hpc =>
    exact h.frame (.inl rfl) (.inl rfl) rfl rfl fun s r hq => by simpa [ret, Process.close] using hq
  | shareShutdown s r hpc hs =>
    refine ⟨fun s' hs' => hs', nofun, fun s' r' hq => ?_⟩
    obtain ⟨hs', -⟩ := h.results s' r' hq
    rw [hs] at hs'
    cases hs'
  | recycleShutdown s r rawFd hpc hs =>
    refine ⟨?_, nofun, h.results⟩
    rintro s' ⟨⟩
    exact hs
  | shareReload s r hpc hr =>
    refine ⟨?_, fun r' hr' => hr', fun s' r' hq => ?_⟩
    · rintro s' ⟨⟩
      exact h.shutdown s (by rw [hpc]; rfl)
    · obtain ⟨-, hr'⟩ := h.results s' r' hq
      rw [hr] at hr'
      cases hr'
  | recycleReload s r rawFd hpc hr =>
    refine ⟨?_, ?_, h.results⟩
    · rintro s' ⟨⟩
      exact h.shutdown s (by rw [hpc]; rfl)
    · rintro r' ⟨⟩
      exact hr
  | sigterm s r hpc | sigint s r hpc =>
    exact h.frame (.inr (by rw [hpc]; rfl)) (.inr (by rw [hpc]; rfl)) rfl rfl fun _ _ hq => hq
  | returns s r hpc =>
    refine ⟨nofun, nofun, fun s' r' hq => ?_⟩
    rcases List.mem_append.mp hq with hq | hq
    · exact h.results s' r' hq
    · simp only [List.mem_singleton, Except.ok.injEq, Prod.mk.injEq] at hq
      obtain ⟨rfl, rfl⟩ := hq
      exact ⟨h.shutdown s' (by rw [hpc]; rfl), h.reload r' (by rw [hpc]; rfl)⟩
  | signal isReload =>
    obtain ⟨counter, stray, exited, heq⟩ := p.handler_eq isReload
    rw [heq]
    exact h.frame (.inr rfl) (.inr rfl) rfl rfl fun _ _ hq => hq
  | openOther fd hfd | closeOther fd hfd =>
    exact h.frame (.inr rfl) (.inr rfl) rfl rfl fun _ _ hq => hq

/-! ## Runs -/

theorem boot_ledger (inherited : RawFd → Bool) : Ledger (boot inherited) := by
  refine ⟨List.nodup_nil, fun fd => ⟨?_, nofun⟩⟩
  rintro ⟨k, hk⟩
  simp only [boot] at hk
  split at hk <;> cases hk

theorem run_ledger {inherited : RawFd → Bool} {as : List ProcessAct}
    (hp : Run step anyStep (boot inherited) as p) : Ledger p ∧ Handles p := by
  refine hp.invariant (I := fun p => Ledger p ∧ Handles p) ?_
    ⟨boot_ledger inherited, nofun, nofun, nofun⟩
  rintro p a q - ⟨hl, hh⟩ hs
  have hm := step_moves hs
  exact ⟨hl.step hm, hh.step hm⟩

theorem run_keeps {as : List ProcessAct} (h : Ledger p) (hq : Run step anyStep p as q) :
    Ledger q ∧ Keeps p q := by
  refine hq.invariant (I := fun q => Ledger q ∧ Keeps p q) ?_ ⟨h, .refl p⟩
  rintro q a t - ⟨hl, hk⟩ hs
  have hm := step_moves hs
  exact ⟨hl.step hm, hk.trans (.step hl hm)⟩

theorem Ledger.shutdown_event (h : Ledger p) {fd : RawFd} (hfd : p.shutdownEvent = some fd) :
    ∃ k, p.fds fd = some (.eventfd k) := (h.isEvent fd).mpr (by simp [events, statics, hfd])

theorem Ledger.reload_event (h : Ledger p) {fd : RawFd} (hfd : p.reloadEvent = some fd) :
    ∃ k, p.fds fd = some (.eventfd k) := (h.isEvent fd).mpr (by simp [events, statics, hfd])

/-- A handler that finds its static set counts up the event of the static. -/
theorem Ledger.handler (h : Ledger p) (isReload : Bool) :
    (p.terminationOrReloadHandler isReload).stray = p.stray := by
  unfold terminationOrReloadHandler
  split
  · split <;> rfl
  · rename_i fd hstatic
    obtain ⟨k, hk⟩ : ∃ k, p.fds fd = some (.eventfd k) := by
      cases isReload with
      | true => exact h.reload_event hstatic
      | false => exact h.shutdown_event hstatic
    simp only [hk]

/-- No handler writes anywhere else, whatever the calls are doing. -/
theorem Ledger.stray_step {a : ProcessAct} (h : Ledger p) (hs : p.step a = some q) :
    q.stray = p.stray := by
  cases step_moves hs with
  | signal isReload => exact h.handler isReload
  | _ => rfl

/-- **The signal events are set once and never closed.** At any two moments of a process,
with any calls of `setup_events` that fail anywhere, signals, and other code opening and
closing its own descriptors: a static that holds a number keeps it, and the number
denotes the same `eventfd`; every call that succeeded returned the two numbers the
statics hold; and between calls no other `eventfd` is open. -/
theorem signal_events_kept {inherited : RawFd → Bool} {as bs : List ProcessAct}
    (hp : Run step anyStep (boot inherited) as p) (hq : Run step anyStep p bs q) :
    (∀ fd, p.shutdownEvent = some fd → q.shutdownEvent = some fd ∧
      ∃ k, p.fds fd = some (.eventfd k) ∧ q.fds fd = some (.eventfd k)) ∧
    (∀ fd, p.reloadEvent = some fd → q.reloadEvent = some fd ∧
      ∃ k, p.fds fd = some (.eventfd k) ∧ q.fds fd = some (.eventfd k)) ∧
    (∀ s r, .ok (s, r) ∈ q.results → q.shutdownEvent = some s ∧ q.reloadEvent = some r ∧ s ≠ r) ∧
    (q.pc = .idle → ∀ fd k, q.fds fd = some (.eventfd k) →
      q.shutdownEvent = some fd ∨ q.reloadEvent = some fd) := by
  obtain ⟨hl, -⟩ := run_ledger hp
  obtain ⟨hlq, hk⟩ := run_keeps hl hq
  obtain ⟨-, hh⟩ := run_ledger (hp.append hq)
  refine ⟨fun fd hfd => ?_, fun fd hfd => ?_, fun s r hres => ?_, fun hidle fd k hfd => ?_⟩
  · obtain ⟨hs, hsame⟩ := hk.shutdown fd hfd
    obtain ⟨k, hev⟩ := hl.shutdown_event hfd
    exact ⟨hs, k, hev, hsame.trans hev⟩
  · obtain ⟨hr, hsame⟩ := hk.reload fd hfd
    obtain ⟨k, hev⟩ := hl.reload_event hfd
    exact ⟨hr, k, hev, hsame.trans hev⟩
  · obtain ⟨hs, hr⟩ := hh.results s r hres
    refine ⟨hs, hr, ?_⟩
    have hnodup := hlq.nodup
    simp only [events, statics, hs, hr, Option.toList_some,
      List.cons_append, List.nodup_cons] at hnodup
    rintro rfl
    simp at hnodup
  · have hmem := (hlq.isEvent fd).mp ⟨k, hfd⟩
    simpa [events, statics, hidle, SetupPc.owned] using hmem

/-- A call that succeeds. -/
def setsUp : List ProcessAct :=
  [.call, .eventfd (.ok 7), .eventfd (.ok 8), .exchange, .exchange, .sigaction (.ok ()),
    .sigaction (.ok ()), .sigaction (.ok ())]

/-- Two more calls: the second event cannot be created, and then `sigaction` fails. -/
def fails : List ProcessAct :=
  [.signal true, .call, .eventfd (.ok 9), .eventfd (.error 24), .call, .eventfd (.ok 9),
    .eventfd (.ok 10), .exchange, .signal false, .exchange, .sigaction (.error 22)]

theorem signal_events_kept_fails : ∃ p q, exec step (fun _ _ => true) (boot (· < 7)) setsUp = some p ∧
    exec step (fun _ _ => true) p fails = some q ∧ q.shutdownEvent = some 7 ∧
    q.results.length = 3 := by
  obtain ⟨p, q, hp, hq, hs, hlen⟩ : ∃ p q,
      exec step (fun _ _ => true) (boot (· < 7)) setsUp = some p ∧
      exec step (fun _ _ => true) p fails = some q ∧ p.shutdownEvent = some 7 ∧
      q.results.length = 3 := ⟨_, _, rfl, rfl, rfl, rfl⟩
  have hrun : Run step anyStep (boot (· < 7)) setsUp p := .of_exec (fun _ _ _ => trivial) hp
  have h := signal_events_kept hrun (.of_exec (fun _ _ _ => trivial) hq)
  exact ⟨p, q, hp, hq, (h.1 7 hs).1, hlen⟩

end Process
end Garnd
