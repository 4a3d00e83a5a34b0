import Garnd.Close
import Garnd.Progress

/- Where the daemon comes to a stop. A thread that can do nothing stands in a call that
   waits (`Daemon.main_rests`, `Daemon.welcome_rests`, `Daemon.env_rests`), and what the
   threads wait for is never each other in a circle: if all of them stand still, the daemon
   has nothing to do, or a thread waits on a client, or `main` joins a welcome thread that
   polls (`Daemon.quiescent`). -/
namespace Garnd
open Transition

/-! ## A request for a mutex that fails -/

/-- Every call fails. -/
def ShmAllocator.ConstructCalls.failing : ShmAllocator.ConstructCalls where
  firstPage := ⟨.error 0, .error 0, .error 0, .error 0⟩
  retryPage := ⟨.error 0, .error 0, .error 0, .error 0⟩
  constructor := .error (.sys .mutexInit 0)

namespace ShmAllocator
variable {shm : ShmAllocator} {name : String} {T : ShmType}

/-- Then no page is made. -/
theorem allocate_failing : (shm.allocate name T .failing).self.pages = shm.pages := by
  unfold allocate
  split
  · unfold placeAt
    dsimp only
    split <;> rfl
  · rfl

theorem constructInShm_failing : (shm.constructInShm name T .failing).self.pages = shm.pages := by
  unfold constructInShm
  split
  · rfl
  · split
    · rfl
    · split
      · rfl
      · split
        · rfl
        · exact allocate_failing

end ShmAllocator

theorem Env.findOrConstruct_failing {P : Externals} {shm : ShmAllocator} {name : String} :
    (findOrConstruct P shm name .failing).self.pages = shm.pages := by
  unfold findOrConstruct
  split <;> first | rfl | exact ShmAllocator.constructInShm_failing

theorem Env.openMutex_shm {P : Externals} {e : Env} {shm : ShmAllocator} {fd : RawFd} {name : String}
    {rest : List Event} {os : ShmAllocator.ConstructCalls} {serializes : Bool} :
    (e.openMutex P shm fd name rest os serializes).shm =
      some (findOrConstruct P shm name os).self := by
  unfold openMutex
  dsimp only
  split
  · split <;> rfl
  · rfl
  · rfl

/-! ## A thread with nothing to report -/

theorem Env.step_of_act {P : Externals} {e e' : Env} {a : EnvAct} (ho : e.outbox = [])
    (h : e.act P a = some e') : e.step P a = some e' := by
  cases a with
  | sendError => cases h
  | _ => exact (if_pos ho).trans h

theorem Welcome.step_of_act {P : Externals} {w w' : Welcome} {a : WelcomeAct} (ho : w.outbox = [])
    (h : w.act P a = some w') : w.step P a = some w' := by
  cases a with
  | sendError => cases h
  | _ => exact (if_pos ho).trans h

/-- From its wait a thread goes on by its return only, and from its end not at all. -/
theorem Env.resting {P : Externals} {e e' : Env} {a : EnvAct} (ho : e.outbox = [])
    (hpc : e.pc = .wait ∨ e.pc = .ended) (hs : e.step P a = some e') :
    e.pc = .wait ∧ ∃ r, a = .wait r := by
  cases a with
  | wait r =>
    rcases hpc with hpc | hpc
    · exact ⟨hpc, r, rfl⟩
    · simp [step, ho, act, hpc] at hs
  | sendError => simp [step, ho] at hs
  | _ => rcases hpc with hpc | hpc <;> simp [step, ho, act, hpc] at hs

/-! ## Where the threads are -/

/-- The thread is at an event of the batch. -/
def EnvPc.dispatching : EnvPc → Bool
  | .batch _ | .addRead _ | .addDrain _ | .addEpoll .. | .respond .. | .dropRead _ => true
  | _ => false

/-- The thread is at a request of a client. -/
def EnvPc.answering : EnvPc → Bool
  | .recv .. | .openMutex .. | .send .. => true
  | _ => false

/-- The thread has left its loop. -/
def EnvPc.leaving : EnvPc → Bool
  | .closeSend | .closeWrite _ | .leave | .captures => true
  | _ => false

/-- The thread takes what an event is about. -/
def WelcomePc.taking : WelcomePc → Bool
  | .shutdownRead | .reloadRead | .closeRead _ | .drain _ => true
  | _ => false

/-- The thread is at a call that may fail. -/
def WelcomePc.failing : WelcomePc → Bool
  | .createEvent | .listen | .accept | .getsockopt _ | .dup .. | .envNew .. => true
  | _ => false

/-- The thread is at a request, or its answer. -/
def WelcomePc.serving : WelcomePc → Bool
  | .recv _ | .send .. => true
  | _ => false

/-- The thread passes a connection to an instance. -/
def WelcomePc.inserting : WelcomePc → Bool
  | .insertSend _ | .insertWrite _ | .insertRecv _ => true
  | _ => false

/-- The thread drops an instance. -/
def WelcomePc.dropping : WelcomePc → Bool
  | .dropWrite .. | .dropFields .. | .join .. => true
  | _ => false

/-- The thread closes descriptors, or returns. -/
def WelcomePc.ending : WelcomePc → Bool
  | .close .. | .ret _ | .teardown _ => true
  | _ => false

namespace Daemon
variable {P : Externals} {s t : Daemon} {i : EnvId} {e : Env} {c : ConnId}

/-! ## Standing still -/

/-- A send on the number returns, and fails: the peer takes nothing more. -/
def refusedAt (P : Externals) (s : Daemon) (x : RawFd) : Bool :=
  (s.connAt x).any fun c => s.hasRoom P c && (s.conns c).any Conn.refuses

/-- A call that waits returns, and what it waits for has not come: it fails without a
signal, or the `poll` reports nothing to read. -/
def unprompted (P : Externals) (s : Daemon) : Act → Bool
  | .welcome (.poll (.ok r)) =>
    !(r.shutdown.pollin || r.reload.pollin || r.closeEnv.pollin || r.welcome.pollin)
  | .welcome (.poll (.error errno)) | .env _ (.wait (.error errno)) => errno ≠ eintr
  | .welcome (.accept (.error _)) => s.backlog.isEmpty
  | .welcome (.recv (.error _) _) | .env _ (.recv _ (.error _) _) => true
  | .welcome (.send (.error _)) =>
    match s.welcome.pc with
    | .send fd _ _ _ _ => !s.refusedAt P fd
    | _ => true
  | .env _ (.send fd _ (.error _)) => !s.refusedAt P fd
  | _ => false

/-- The thread stands still: all that can happen to it is that a call fails. -/
def Stalled (P : Externals) (s : Daemon) (thread : Thread) : Prop :=
  ∀ a t, a.isOf thread = true → s.step P a = some t → s.unprompted P a = true

/-- The process has not ended. -/
def Alive (s : Daemon) : Prop := ∀ e, s.main ≠ .exited e

theorem Alive.step_eq (h : s.Alive) (a : Act) : s.step P a =
    match a with
    | .main a => s.mainStep a
    | .welcome a => s.welcomeStep P a
    | .env i a => s.envStep P i a
    | .client c a => s.clientStep c a
    | .signal sig t interrupts => s.signalStep sig t interrupts := by
  unfold Daemon.step
  split
  · exact absurd ‹s.main = _› (h _)
  · rfl

/-- The thread can take a step that is no failure of a call. -/
def Restless (P : Externals) (s : Daemon) (thread : Thread) : Prop :=
  ∃ a t, a.isOf thread = true ∧ s.step P a = some t ∧ s.unprompted P a = false

theorem Stalled.resting {thread : Thread} (h : s.Stalled P thread) : ¬s.Restless P thread := by
  rintro ⟨a, t, ha, hs, hb⟩
  have hbad := h a t ha hs
  cases hb.symm.trans hbad

/-! ## `main` -/

/-- What `main` waits for. -/
inductive MainRests (s : Daemon) : Prop
  | recv : s.main = .recv → s.errors = [] → MainRests s
  | join {k} : s.main = .join k → (s.welcome.pc = .ended → s.welcome.outbox ≠ []) → MainRests s

theorem main_rests (hrun : s.Alive) (hst : s.Stalled P .main) : s.MainRests := by
  have hno {b : MainAct} {t : Daemon} (hs : s.mainStep b = some t) : False := by
    have hbad := hst (.main b) t rfl (by rw [hrun.step_eq]; exact hs)
    cases hbad
  cases hm : s.main with
  | start => exact (hno (b := .new true) (if_pos hm)).elim
  | notifyStarting => exact (hno (b := .notifyStarting true) (if_pos hm)).elim
  | checkPrivileges => exact (hno (b := .checkPrivileges true) (if_pos hm)).elim
  | setupSocket => exact (hno (b := .setupSocket true) (if_pos hm)).elim
  | setupEvents => exact (hno (b := .setupEvents true) (if_pos hm)).elim
  | listen => exact (hno (b := .listen true) (if_pos hm)).elim
  | notifyListening => exact (hno (b := .notifyListening true) (if_pos hm)).elim
  | recv =>
    cases herr : s.errors with
    | nil => exact .recv hm herr
    | cons err rest =>
      refine (Option.ne_none_iff_exists'.mp ?_).elim fun t ht => (hno (b := .recv false) ht).elim
      simp only [mainStep, hm, herr]
      split <;> simp
  | join k =>
    refine .join hm fun hpc ho => ?_
    refine (Option.ne_none_iff_exists'.mp ?_).elim fun t ht => (hno (b := .join) ht).elim
    simp [mainStep, hm, hpc, ho]
  | drain reload =>
    refine (Option.ne_none_iff_exists'.mp ?_).elim fun t ht => (hno (b := .drain) ht).elim
    cases herr : s.errors <;> simp [mainStep, hm, herr]
  | exited e => exact absurd hm (hrun e)

/-! ## Reports -/

/-- Who has something to report finds the receiver there. -/
theorem Orders.receiver (h : s.Orders) (hhas : s.HasReports) : s.errorRx = true := by
  cases hrx : s.errorRx with
  | true => rfl
  | false =>
    obtain ⟨hw, henvs⟩ := h.reporting.quit h.instances h.orderly (h.reporting.rx hrx)
    rcases hhas with hne | ⟨i, e, he, hne⟩
    · exact absurd hw.2 hne
    · exact absurd (henvs i e he).2 hne

/-- A message is there to be received, or the peer sends no more. -/
theorem recvFrom_of_heard {x : RawFd} (hx : s.connAt x = some c) (hc : s.heard c = true) :
    ∃ m t, s.recvFrom x m = some t := by
  obtain ⟨conn, hconn, hh⟩ := (Option.any_eq_true _ _).mp hc
  cases hin : conn.inbox with
  | nil =>
    have hclosed : conn.closed = true := by simpa [hin] using hh
    exact ⟨[], s, by simp [recvFrom, hx, hconn, hin, hclosed]⟩
  | cons m rest => exact ⟨m, _, by simp only [recvFrom, hx, hconn, hin, if_true]; rfl⟩

/-- A send that returns succeeds, or the peer takes nothing more. -/
theorem sendTo_of_room {x : RawFd} (hx : s.connAt x = some c) (hroom : s.hasRoom P c = true) :
    (∃ t, s.sendTo P x = some t) ∨ s.refusedAt P x = true := by
  cases hconn : s.conns c with
  | none =>
    simp only [hasRoom, hconn] at hroom
    cases hroom
  | some conn =>
    cases hd : conn.refuses with
    | true =>
      exact .inr (by
        simp only [refusedAt, hx, Option.any_some, hroom, hconn, hd, Bool.and_self])
    | false =>
      have hgone : conn.gone = false := (Bool.or_eq_false_iff.mp hd).2
      have hlt : conn.unread < P.peerQueue := by simpa [hasRoom, hconn, hgone] using hroom
      exact .inl ⟨_, by simp only [sendTo, hx, hconn]; exact if_pos ⟨hlt, hd⟩⟩

theorem readEvent_returns (count : ℕ) : ∃ r next, readEvent count r = some next := by
  cases hr : EventFd.read count with
  | some next => exact ⟨.ok (), next, by simp [readEvent, hr]⟩
  | none => exact ⟨.error eagain, count, by simp [readEvent, hr]⟩

/-! ## Environment threads -/

/-- What an environment thread waits for. -/
inductive EnvRests (P : Externals) (s : Daemon) (i : EnvId) (e : Env) : Prop
  | ended : e.pc = .ended → EnvRests P s i e
  | wait : e.pc = .wait → e.interrupted = false →
      (∀ ev, e.raisable ev = true → s.ready P ev = false) → EnvRests P s i e
  | client : s.EnvWaits P i → EnvRests P s i e

theorem env_restless {b : EnvAct} {e' : Env} {u : Daemon} (hrun : s.Alive) (hi : s.envs i = some e)
    (hs : e.step P b = some e') (hu : s.envEffect P i e e' b = some u)
    (hb : s.unprompted P (.env i b) = false) : s.Restless P (.env i) := by
  refine ⟨.env i b, { u with envs := Function.update s.envs i (some e') }, by simp [Act.isOf], ?_, hb⟩
  rw [hrun.step_eq]
  simp only [envStep, hi, hs, hu, Option.map_some]

theorem env_starts (hrun : s.Alive) (hi : s.envs i = some e) (ho : e.outbox = [])
    (hstart : e.pc.starting = true) : s.Restless P (.env i) := by
  have move {b : EnvAct} {e' : Env} {u : Daemon} (ha : e.act P b = some e') :=
    env_restless (u := u) hrun hi (Env.step_of_act ho ha)
  cases hpc : e.pc with
  | allocNew =>
    exact move (b := .allocNew (.error 0)) (by simp only [Env.act, hpc]; rfl)
      rfl rfl
  | epollNew =>
    exact move (b := .epollNew (.error 0)) (by simp only [Env.act, hpc]; rfl)
      rfl rfl
  | epollAdd left =>
    exact move (b := .epollAdd (.error 0)) (by simp only [Env.act, hpc]; rfl)
      rfl rfl
  | _ =>
    rw [hpc] at hstart
    cases hstart

theorem env_dispatches (hrun : s.Alive) (hi : s.envs i = some e) (ho : e.outbox = [])
    (hev : e.pc.dispatching = true) : s.Restless P (.env i) := by
  have move {b : EnvAct} {e' : Env} {u : Daemon} (ha : e.act P b = some e') :=
    env_restless (u := u) hrun hi (Env.step_of_act ho ha)
  cases hpc : e.pc with
  | batch events =>
    cases events with
    | nil =>
      exact move (b := .dispatch none) (by simp only [Env.act, hpc]; rfl)
        rfl rfl
    | cons ev rest =>
      have hs : e.act P (.dispatch (some ev)) = some (e.dispatch (some ev) rest) := by
        simp [Env.act, hpc]
      cases ev with
      | add | drop => exact move hs rfl rfl
      | conn data source hangup => cases hangup <;> exact move hs rfl rfl
  | addRead rest =>
    cases hr : EventFd.read e.addEvent with
    | some count =>
      exact move (b := .addRead) (by simp only [Env.act, hpc, hr]; rfl)
        rfl rfl
    | none =>
      exact move (b := .addRead) (by simp only [Env.act, hpc, hr]; rfl)
        rfl rfl
  | addDrain rest =>
    cases hr : e.addListener.tryRecv with
    | got listener =>
      exact move (b := .addTryRecv (.got listener))
        (by simp only [Env.act, hpc, hr]; rfl) rfl rfl
    | empty =>
      exact move (b := .addTryRecv .empty)
        (by simp only [Env.act, hpc, hr]; rfl) rfl rfl
    | disconnected =>
      exact move (b := .addTryRecv .disconnected)
        (by simp only [Env.act, hpc, hr]; rfl) rfl rfl
  | addEpoll listener rest =>
    exact move (b := .addEpoll listener (.error 0))
      (by simp only [Env.act, hpc]; rfl) rfl rfl
  | respond result rest =>
    cases hr : e.syncResponse.send result with
    | some chan =>
      exact move (b := .respond) (by simp only [Env.act, hpc, hr]; rfl)
        rfl rfl
    | none =>
      exact move (b := .respond) (by simp only [Env.act, hpc, hr]; rfl)
        rfl rfl
  | dropRead rest =>
    cases hr : EventFd.read e.dropEvent with
    | some count =>
      exact move (b := .dropRead) (by simp only [Env.act, hpc, hr]; rfl)
        rfl rfl
    | none =>
      exact move (b := .dropRead) (by simp only [Env.act, hpc, hr]; rfl)
        rfl rfl
  | _ =>
    rw [hpc] at hev
    cases hev

/-- A thread at a request goes on, or waits for the client to read. -/
theorem Driven.env_answers (h : s.Driven P) (hrun : s.Alive) (hi : s.envs i = some e) (ho : e.outbox = [])
    (hreq : e.pc.answering = true) : s.Restless P (.env i) ∨ s.EnvWaits P i := by
  have hset := h.owned.agreeing.settled
  have move {b : EnvAct} {e' : Env} {u : Daemon} (ha : e.act P b = some e') :=
    env_restless (u := u) hrun hi (Env.step_of_act ho ha)
  cases hpc : e.pc with
  | recv fd rest =>
    obtain ⟨c, -, hown⟩ := (hset.registered i e hi).serving fd (by rw [hpc]; rfl)
    have hfd := connAt_eq hown
    cases hheard : s.heard c with
    | false => exact .inr ⟨e, c, hi, .inl ⟨fd, rest, hpc, hfd, hheard⟩⟩
    | true =>
      obtain ⟨m, t, ht⟩ := recvFrom_of_heard hfd hheard
      exact .inl (move (b := .recv fd (.ok m) true)
        (by simp only [Env.act, hpc]; rfl)
        (by simp only [envEffect, ht, Option.map_some]; rfl) rfl)
  | openMutex fd name rest =>
    obtain ⟨shm, hshm⟩ :=
      Option.ne_none_iff_exists'.mp ((h.fit i e hi).equipped (by rw [hpc]; simp) (by rw [hpc]; rfl))
    have hs : e.act P (.openMutex .failing true) =
        some (e.openMutex P shm fd name rest .failing true) := by
      simp only [Env.act, hpc, hshm]
      rfl
    have hpages : pagesOf (e.openMutex P shm fd name rest .failing true) = pagesOf e := by
      rw [pagesOf, pagesOf, Env.openMutex_shm, hshm]
      exact Env.findOrConstruct_failing
    exact .inl (move hs (by simp [envEffect, hpages, Fds.addPages]; rfl) rfl)
  | send fd response errors rest =>
    obtain ⟨c, -, hown⟩ := (hset.registered i e hi).serving fd (by rw [hpc]; rfl)
    have hfd := connAt_eq hown
    cases hroom : s.hasRoom P c with
    | false => exact .inr ⟨e, c, hi, .inr ⟨fd, response, errors, rest, hpc, hfd, hroom⟩⟩
    | true =>
      rcases sendTo_of_room hfd hroom with ⟨t, ht⟩ | hrefused
      · exact .inl (move (b := .send fd response (.ok ()))
          (by simp only [Env.act, hpc, if_true, and_self]; rfl)
          (by simp only [envEffect, ht, Option.map_some]; rfl) rfl)
      · exact .inl (move (b := .send fd response (.error epipe))
          (by simp only [Env.act, hpc, if_true, and_self]; rfl) rfl
          (by simp only [unprompted, hrefused, Bool.not_true]))
  | _ =>
    rw [hpc] at hreq
    cases hreq

theorem Driven.env_leaves (h : s.Driven P) (hrun : s.Alive) (hi : s.envs i = some e) (ho : e.outbox = [])
    (hleft : e.pc.leaving = true) : s.Restless P (.env i) := by
  have move {b : EnvAct} {e' : Env} {u : Daemon} (ha : e.act P b = some e') :=
    env_restless (u := u) hrun hi (Env.step_of_act ho ha)
  cases hpc : e.pc with
  | closeSend =>
    cases hc : s.closeChan.send (e.name, i) with
    | some chan =>
      exact move (b := .closeSend true) (by simp only [Env.act, hpc]; rfl)
        (by simp only [envEffect, hc, if_true]; rfl) rfl
    | none =>
      exact move (b := .closeSend false) (by simp only [Env.act, hpc]; rfl)
        (by simp only [envEffect, hc]; rfl) rfl
  | closeWrite errors =>
    cases hc : EventFd.write s.closeEvent with
    | some count =>
      exact move (b := .closeWrite true) (by simp only [Env.act, hpc]; rfl)
        (by simp only [envEffect, hc, if_true]; rfl) rfl
    | none =>
      exact move (b := .closeWrite false) (by simp only [Env.act, hpc]; rfl)
        (by simp only [envEffect, hc]; rfl) rfl
  | leave =>
    exact move (b := .leave false) (by simp only [Env.act, hpc]; rfl)
      rfl rfl
  | captures =>
    by_cases hsend : e.syncResponse.senders = ∅
    · have hrx : e.addListener.receiver = true :=
        ((h.fit i e hi).captures hpc).resolve_left fun hne => hne hsend
      exact move (b := .dropListener) (by simp only [Env.act, hpc, hrx, if_true]; rfl)
        rfl rfl
    · exact move (b := .dropSync) (by simp only [Env.act, hpc, hsend, if_false]; rfl)
        rfl rfl
  | _ =>
    rw [hpc] at hleft
    cases hleft

/-- A thread in its loop goes on, or there is no event for it. -/
theorem env_waits (hrun : s.Alive) (hi : s.envs i = some e) (ho : e.outbox = []) (hpc : e.pc = .wait)
    (hst : ¬s.Restless P (.env i)) : s.EnvRests P i e := by
  have move {b : EnvAct} {e' : Env} {u : Daemon} (ha : e.act P b = some e') :=
    env_restless (u := u) hrun hi (Env.step_of_act ho ha)
  have hint : e.interrupted = false := by
    cases hint : e.interrupted with
    | false => rfl
    | true =>
      exact absurd (move (b := .wait (.error eintr)) (by simp only [Env.act, hpc]; rfl)
        (by simp only [envEffect, hint]; rfl) rfl) hst
  refine .wait hpc hint fun ev hr => ?_
  cases hready : s.ready P ev with
  | false => rfl
  | true =>
    exact absurd (move (b := .wait (.ok [ev])) (by simp [Env.act, hpc, hr]; rfl)
      (by simp [envEffect, hint, hready]; rfl) rfl) hst

theorem Driven.env_rests (h : s.Driven P) (hrun : s.Alive) (hi : s.envs i = some e)
    (hst : s.Stalled P (.env i)) : e.outbox = [] ∧ s.EnvRests P i e := by
  have ho : e.outbox = [] := by
    cases hout : e.outbox with
    | nil => rfl
    | cons err errors =>
      have hrx := h.orders.receiver (.inr ⟨i, e, hi, by rw [hout]; simp⟩)
      exact absurd (env_restless (b := .sendError err) hrun hi
        (by simp only [Env.step, hout, if_true]; rfl)
        (by simp only [envEffect, report, hrx, if_true]; rfl) rfl) hst.resting
  refine ⟨ho, ?_⟩
  cases hpc : e.pc with
  | wait => exact env_waits hrun hi ho hpc hst.resting
  | ended => exact .ended hpc
  | recv | openMutex | send =>
    exact .client ((h.env_answers hrun hi ho (by rw [hpc]; rfl)).resolve_left hst.resting)
  | allocNew | epollNew | epollAdd => exact absurd (env_starts hrun hi ho (by rw [hpc]; rfl)) hst.resting
  | batch | addRead | addDrain | addEpoll | respond | dropRead =>
    exact absurd (env_dispatches hrun hi ho (by rw [hpc]; rfl)) hst.resting
  | closeSend | closeWrite | leave | captures =>
    exact absurd (h.env_leaves hrun hi ho (by rw [hpc]; rfl)) hst.resting

/-! ## The welcome thread -/

/-- What the welcome thread waits for. -/
inductive WelcomeRests (P : Externals) (s : Daemon) : Prop
  | ended : s.welcome.pc = .ended → WelcomeRests P s
  | poll : s.welcome.pc = .poll → s.welcome.interrupted = false →
      s.shutdownEvent.getD 0 = 0 ∧ s.reloadEvent.getD 0 = 0 ∧ s.closeEvent = 0 → s.backlog = [] →
      WelcomeRests P s
  | client : s.WaitsOnClient P → WelcomeRests P s
  | response {a e} : s.welcome.pc = .insertRecv a → s.envs a.id = some e →
      e.syncResponse.queue = [] → e.syncResponse.senders ≠ ∅ → WelcomeRests P s
  | join {i k e} : s.welcome.pc = .join i k → s.envs i = some e → e.pc ≠ .ended → WelcomeRests P s

/-- What `poll` reports where exactly the counters are up that are. -/
def revents (s : Daemon) : PollResult where
  shutdown := ⟨0 < s.shutdownEvent.getD 0, false⟩
  reload := ⟨0 < s.reloadEvent.getD 0, false⟩
  closeEnv := ⟨0 < s.closeEvent, false⟩
  welcome := ⟨!s.backlog.isEmpty, false⟩

theorem welcome_restless {b : WelcomeAct} {w : Welcome} {u : Daemon} (hrun : s.Alive)
    (hs : s.welcome.step P b = some w) (hu : s.welcomeEffect P b = some u)
    (hb : s.unprompted P (.welcome b) = false) : s.Restless P .welcome := by
  refine ⟨.welcome b, { u with welcome := w }, rfl, ?_, hb⟩
  rw [hrun.step_eq]
  simp only [welcomeStep, hs, hu, Option.map_some]

/-- The connection behind a number the thread works on. -/
theorem Settled.working {x : RawFd} (h : s.Settled) (ho : s.welcome.outbox = [])
    (hx : x ∈ s.welcome.pc.fds) : ∃ c, s.connAt x = some c ∧ s.conns c ≠ none := by
  have hmem : x ∈ s.welcome.held := by
    rw [Welcome.held_eq ho]
    exact List.mem_append_left _ hx
  obtain ⟨c, hc⟩ := h.connected.conn_of_welcome ((h.held.welcome x).mp hmem)
  exact ⟨c, connAt_eq hc, h.connected.known x c _ hc⟩

theorem welcome_takes (hrun : s.Alive) (ho : s.welcome.outbox = [])
    (htake : s.welcome.pc.taking = true) : s.Restless P .welcome := by
  have move {b : WelcomeAct} {w : Welcome} {u : Daemon} (ha : s.welcome.act P b = some w) :=
    welcome_restless (u := u) hrun (Welcome.step_of_act ho ha)
  cases hpc : s.welcome.pc with
  | shutdownRead =>
    obtain ⟨r, count, hr⟩ := readEvent_returns (s.shutdownEvent.getD 0)
    exact move (b := .shutdownRead r)
      (by simp only [Welcome.act, hpc]; rfl)
      (by simp only [welcomeEffect, hr, Option.map_some]; rfl) rfl
  | reloadRead =>
    obtain ⟨r, count, hr⟩ := readEvent_returns (s.reloadEvent.getD 0)
    exact move (b := .reloadRead r)
      (by simp only [Welcome.act, hpc]; rfl)
      (by simp only [welcomeEffect, hr, Option.map_some]; rfl) rfl
  | closeRead r =>
    obtain ⟨r, count, hr⟩ := readEvent_returns s.closeEvent
    exact move (b := .closeRead r)
      (by simp only [Welcome.act, hpc]; rfl)
      (by simp only [welcomeEffect, hr, Option.map_some]; rfl) rfl
  | drain r =>
    cases hr : s.closeChan.tryRecv with
    | got p =>
      obtain ⟨name, j⟩ := p
      cases hl : s.welcome.environments.lookup name with
      | some k =>
        exact move (b := .tryRecv (.got name))
          (by simp only [Welcome.act, hpc, hl]; rfl)
          (by simp only [welcomeEffect, hr, if_true]; rfl) rfl
      | none =>
        exact move (b := .tryRecv (.got name))
          (by simp only [Welcome.act, hpc, hl]; rfl)
          (by simp only [welcomeEffect, hr, if_true]; rfl) rfl
    | empty =>
      exact move (b := .tryRecv .empty)
        (by simp only [Welcome.act, hpc]; rfl)
        (by simp only [welcomeEffect, hr]; rfl) rfl
    | disconnected =>
      exact move (b := .tryRecv .disconnected)
        (by simp only [Welcome.act, hpc]; rfl)
        (by simp only [welcomeEffect, hr]; rfl) rfl
  | _ =>
    rw [hpc] at htake
    cases htake

theorem Driven.welcome_fails (h : s.Driven P) (hrun : s.Alive) (ho : s.welcome.outbox = [])
    (hfail : s.welcome.pc.failing = true) : s.Restless P .welcome := by
  have move {b : WelcomeAct} {w : Welcome} {u : Daemon} (ha : s.welcome.act P b = some w) :=
    welcome_restless (u := u) hrun (Welcome.step_of_act ho ha)
  cases hpc : s.welcome.pc with
  | createEvent =>
    exact move (b := .createEvent (.error 0))
      (by simp only [Welcome.act, hpc]; rfl) rfl rfl
  | listen =>
    exact move (b := .listen (.error 0))
      (by simp only [Welcome.act, hpc]; rfl) rfl rfl
  | accept =>
    have hback := h.equipped.accepts hpc
    exact move (b := .accept (.error 0))
      (by simp only [Welcome.act, hpc]; rfl) rfl
      (by simpa [unprompted] using hback)
  | getsockopt fd =>
    exact move (b := .getsockopt (.error 0))
      (by simp only [Welcome.act, hpc]; rfl) rfl rfl
  | dup fd name =>
    exact move (b := .dup (.error 0))
      (by simp only [Welcome.act, hpc]; rfl) rfl rfl
  | envNew fd passed name =>
    exact move (b := .envNew (.error (.eventfd, 0)))
      (by simp only [Welcome.act, hpc]; rfl) rfl rfl
  | _ =>
    rw [hpc] at hfail
    cases hfail

/-- A thread at a request goes on, or waits for the client to send or to read. -/
theorem Driven.welcome_serves (h : s.Driven P) (hrun : s.Alive) (ho : s.welcome.outbox = [])
    (hreq : s.welcome.pc.serving = true) : s.Restless P .welcome ∨ s.WaitsOnClient P := by
  have hset := h.owned.agreeing.settled
  have move {b : WelcomeAct} {w : Welcome} {u : Daemon} (ha : s.welcome.act P b = some w) :=
    welcome_restless (u := u) hrun (Welcome.step_of_act ho ha)
  cases hpc : s.welcome.pc with
  | recv fd =>
    obtain ⟨c, hfd, -⟩ := hset.working (x := fd) ho (by rw [hpc]; exact List.mem_cons_self)
    cases hheard : s.heard c with
    | false => exact .inr (.inl ⟨fd, c, hpc, hfd, hheard⟩)
    | true =>
      obtain ⟨m, t, ht⟩ := recvFrom_of_heard hfd hheard
      exact .inl (move (b := .recv (.ok m) true)
        (by simp only [Welcome.act, hpc]; rfl)
        (by simp only [welcomeEffect, hpc, ht, Option.map_some]; rfl) rfl)
  | send fd response errors abandon fds =>
    have hmem := h.equipped.answers fd response errors abandon fds hpc
    obtain ⟨c, hfd, -⟩ := hset.working (x := fd) ho (by rw [hpc]; exact hmem)
    cases hroom : s.hasRoom P c with
    | false => exact .inr (.inr (.inl ⟨fd, response, errors, abandon, fds, c, hpc, hfd, hroom⟩))
    | true =>
      rcases sendTo_of_room hfd hroom with ⟨t, ht⟩ | hrefused
      · have hu : ∃ u, s.welcomeEffect P (.send (.ok ())) = some u :=
          ⟨_, by simp only [welcomeEffect, hpc, ht, Option.map_some]; rfl⟩
        obtain ⟨u, hu⟩ := hu
        cases abandon <;>
          exact .inl (move (b := .send (.ok ()))
            (by simp only [Welcome.act, hpc]; rfl) hu rfl)
      · have hb : s.unprompted P (.welcome (.send (.error epipe))) = false := by
          simp only [unprompted, hpc, hrefused, Bool.not_true]
        cases abandon <;>
          exact .inl (move (b := .send (.error epipe))
            (by simp only [Welcome.act, hpc]; rfl) rfl hb)
  | _ =>
    rw [hpc] at hreq
    cases hreq

/-- A thread that passes a connection on goes on, or waits for the instance to answer. -/
theorem Driven.welcome_inserts (h : s.Driven P) (hrun : s.Alive) (ho : s.welcome.outbox = [])
    (hins : s.welcome.pc.inserting = true) : s.Restless P .welcome ∨ s.WelcomeRests P := by
  have hinst := h.orders.instances
  have move {b : WelcomeAct} {w : Welcome} {u : Daemon} (ha : s.welcome.act P b = some w) :=
    welcome_restless (u := u) hrun (Welcome.step_of_act ho ha)
  cases hpc : s.welcome.pc with
  | insertSend a =>
    obtain ⟨⟨e, hi, -⟩, -⟩ := hinst.keeper.target a (by rw [hpc]; rfl)
    cases hr : e.insertSend a.passed with
    | some e' =>
      exact .inl (move (b := .insertSend true)
        (by simp only [Welcome.act, hpc]; rfl)
        (by simp only [welcomeEffect, hpc, hi, hr, if_true]; rfl) rfl)
    | none =>
      exact .inl (move (b := .insertSend false)
        (by simp only [Welcome.act, hpc]; rfl)
        (by simp only [welcomeEffect, hpc, hi, hr]; rfl) rfl)
  | insertWrite a =>
    obtain ⟨⟨e, hi, -⟩, -⟩ := hinst.keeper.target a (by rw [hpc]; rfl)
    cases hr : e.insertWrite with
    | some e' =>
      exact .inl (move (b := .insertWrite true)
        (by simp only [Welcome.act, hpc]; rfl)
        (by simp only [welcomeEffect, hpc, hi, hr, if_true]; rfl) rfl)
    | none =>
      exact .inl (move (b := .insertWrite false)
        (by simp only [Welcome.act, hpc]; rfl)
        (by simp only [welcomeEffect, hpc, hi, hr]; rfl) rfl)
  | insertRecv a =>
    obtain ⟨⟨e, hi, -⟩, -⟩ := hinst.keeper.target a (by rw [hpc]; rfl)
    cases hr : e.syncResponse.tryRecv with
    | got r =>
      obtain ⟨q, hq⟩ := Channel.tryRecv_eq_got.mp hr
      rcases (h.fit _ e hi).queued r (by rw [hq]; exact List.mem_cons_self) with rfl | ⟨call, errno, rfl⟩
      · exact .inl (move (b := .insertRecv (some (.ok ())) true)
          (by simp only [Welcome.act, hpc]; rfl)
          (by simp only [welcomeEffect, hpc, hi, answered, hr, if_true]; rfl) rfl)
      · exact .inl (move (b := .insertRecv (some (.error (call, errno))) true)
          (by simp only [Welcome.act, hpc]; rfl)
          (by simp only [welcomeEffect, hpc, hi, answered, hr, if_true]; rfl) rfl)
    | empty =>
      obtain ⟨hq, hsend⟩ := Channel.tryRecv_eq_empty.mp hr
      exact .inr (.response hpc hi hq hsend)
    | disconnected =>
      exact .inl (move (b := .insertRecv none true)
        (by simp only [Welcome.act, hpc]; rfl)
        (by simp only [welcomeEffect, hpc, hi, answered, hr, if_true]; rfl) rfl)
  | _ =>
    rw [hpc] at hins
    cases hins

/-- A thread that drops an instance goes on, or waits for the thread of the instance. -/
theorem Driven.welcome_drops (h : s.Driven P) (hrun : s.Alive) (ho : s.welcome.outbox = [])
    (hdrop : s.welcome.pc.dropping = true) : s.Restless P .welcome ∨ s.WelcomeRests P := by
  have hinst := h.orders.instances
  have move {b : WelcomeAct} {w : Welcome} {u : Daemon} (ha : s.welcome.act P b = some w) :=
    welcome_restless (u := u) hrun (Welcome.step_of_act ho ha)
  cases hpc : s.welcome.pc with
  | dropWrite i k =>
    obtain ⟨e, hi⟩ := hinst.dropping_known (i := i) (by rw [hpc]; rfl)
    cases hr : e.dropWrite with
    | some e' =>
      exact .inl (move (b := .dropWrite true)
        (by simp only [Welcome.act, hpc, Bool.true_or, if_true]; rfl)
        (by simp only [welcomeEffect, hpc, hi, hr, if_true]; rfl) rfl)
    | none => exact absurd hr (hinst.dropWrite_ok hpc hi)
  | dropFields i k =>
    obtain ⟨e, hi⟩ := hinst.dropping_known (i := i) (by rw [hpc]; rfl)
    exact .inl (move (b := .dropFields)
      (by simp only [Welcome.act, hpc]; rfl)
      (by simp only [welcomeEffect, hpc, hi, Option.map_some]; rfl) rfl)
  | join i k =>
    obtain ⟨e, hi⟩ := hinst.dropping_known (i := i) (by rw [hpc]; rfl)
    by_cases hend : e.pc = .ended
    · have hsane := h.sane i e hi
      exact .inl (move (b := .join false)
        (by simp only [Welcome.act, hpc, Bool.false_and]; rfl)
        (by simp only [welcomeEffect, hpc, hi, hend, hsane, if_true]; rfl) rfl)
    · exact .inr (.join hpc hi hend)
  | _ =>
    rw [hpc] at hdrop
    cases hdrop

theorem Driven.welcome_ends (h : s.Driven P) (hrun : s.Alive) (ho : s.welcome.outbox = [])
    (hend : s.welcome.pc.ending = true) : s.Restless P .welcome := by
  have move {b : WelcomeAct} {w : Welcome} {u : Daemon} (ha : s.welcome.act P b = some w) :=
    welcome_restless (u := u) hrun (Welcome.step_of_act ho ha)
  cases hpc : s.welcome.pc with
  | close fds errors =>
    cases fds with
    | nil => exact absurd hpc (h.equipped.closes errors)
    | cons fd fds =>
      exact move (b := .close fd)
        (by simp only [Welcome.act, hpc]; rfl) rfl rfl
  | ret drained =>
    exact move (b := .dropLocals)
      (by simp only [Welcome.act, hpc]; rfl) rfl rfl
  | teardown rest =>
    cases rest with
    | nil =>
      exact move (b := .teardown none)
        (by simp only [Welcome.act, hpc]; rfl) rfl rfl
    | cons j rest =>
      exact move (b := .teardown (some j))
        (by simp only [Welcome.act, hpc, List.mem_cons_self, if_true]; rfl)
        rfl rfl
  | _ =>
    rw [hpc] at hend
    cases hend

/-- A thread at its `poll` goes on, or there is nothing to report. -/
theorem welcome_polls (hrun : s.Alive) (ho : s.welcome.outbox = []) (hpc : s.welcome.pc = .poll)
    (hst : ¬s.Restless P .welcome) : s.WelcomeRests P := by
  have move {b : WelcomeAct} {w : Welcome} {u : Daemon} (ha : s.welcome.act P b = some w) :=
    welcome_restless (u := u) hrun (Welcome.step_of_act ho ha)
  have hint : s.welcome.interrupted = false := by
    cases hint : s.welcome.interrupted with
    | false => rfl
    | true =>
      exact absurd (move (b := .poll (.error eintr))
        (by simp only [Welcome.act, hpc]; rfl)
        (by simp only [welcomeEffect, hint]; rfl) rfl) hst
  have hnone : s.revents.shutdown.pollin = false ∧ s.revents.reload.pollin = false ∧
      s.revents.closeEnv.pollin = false ∧ s.revents.welcome.pollin = false := by
    by_contra hsome
    have hany : (s.revents.shutdown.pollin || s.revents.reload.pollin || s.revents.closeEnv.pollin ||
        s.revents.welcome.pollin) = true := by
      by_contra hn
      simp only [Bool.not_eq_true, Bool.or_eq_false_iff, and_assoc] at hn
      exact hsome hn
    have hpoll : s.pollable s.revents = true := by
      simpa [pollable, revents, Revents.any] using hany
    exact hst (move (b := .poll (.ok s.revents))
      (by simp only [Welcome.act, hpc]; rfl)
      (by simp only [welcomeEffect, hint, hpoll]; rfl)
      (by simp only [unprompted, hany]; rfl))
  simp only [revents, decide_eq_false_iff_not, Nat.not_lt, Nat.le_zero_eq, Bool.not_eq_false',
    List.isEmpty_iff] at hnone
  exact .poll hpc hint ⟨hnone.1, hnone.2.1, hnone.2.2.1⟩ hnone.2.2.2

theorem Driven.welcome_rests (h : s.Driven P) (hrun : s.Alive) (hst : s.Stalled P .welcome) :
    s.welcome.outbox = [] ∧ s.WelcomeRests P := by
  have ho : s.welcome.outbox = [] := by
    cases hout : s.welcome.outbox with
    | nil => rfl
    | cons err errors =>
      have hrx := h.orders.receiver (.inl (by rw [hout]; simp))
      exact absurd (welcome_restless (b := .sendError err) hrun
        (by simp only [Welcome.step, hout, if_true]; rfl)
        (by simp only [welcomeEffect, report, hrx, if_true]; rfl) rfl) hst.resting
  refine ⟨ho, ?_⟩
  cases hpc : s.welcome.pc with
  | poll => exact welcome_polls hrun ho hpc hst.resting
  | ended => exact .ended hpc
  | shutdownRead | reloadRead | closeRead | drain =>
    exact absurd (welcome_takes hrun ho (by rw [hpc]; rfl)) hst.resting
  | createEvent | listen | accept | getsockopt | dup | envNew =>
    exact absurd (h.welcome_fails hrun ho (by rw [hpc]; rfl)) hst.resting
  | recv | send =>
    exact .client ((h.welcome_serves hrun ho (by rw [hpc]; rfl)).resolve_left hst.resting)
  | insertSend | insertWrite | insertRecv =>
    exact (h.welcome_inserts hrun ho (by rw [hpc]; rfl)).resolve_left hst.resting
  | dropWrite | dropFields | join =>
    exact (h.welcome_drops hrun ho (by rw [hpc]; rfl)).resolve_left hst.resting
  | close | ret | teardown => exact absurd (h.welcome_ends hrun ho (by rw [hpc]; rfl)) hst.resting

/-! ## Nothing to do -/

/-- The daemon has nothing to do. `main` waits for errors and has logged all there were; the
welcome thread polls, and nothing is there to be read; every instance in the map has clients
and waits for them, and the other threads have ended; and of the connections that are open
each is attached to an instance, and its client has sent nothing that was not received, and
has not gone. -/
structure Idle (s : Daemon) : Prop where
  main : s.main = .recv
  errors : s.errors = [] ∧ s.history.logged = s.history.sent
  welcome : s.welcome.pc = .poll ∧ s.welcome.outbox = [] ∧ s.welcome.interrupted = false
  events : s.shutdownEvent.getD 0 = 0 ∧ s.reloadEvent.getD 0 = 0 ∧ s.closeEvent = 0
  accepted : s.backlog = []
  announced : s.closeChan.queue = []
  bound : ∀ n i, s.welcome.environments.lookup n = some i → ∃ e, s.envs i = some e ∧ e.pc = .wait
  serving : ∀ i e, s.envs i = some e → e.outbox = [] ∧ (e.pc = .ended ∨
    e.pc = .wait ∧ e.interrupted = false ∧ s.welcome.environments.lookup e.name = some i ∧
      e.sockets ≠ ∅)
  clients : ∀ x c h, s.fds x = some ⟨.conn c, h⟩ → (∃ i, h = .socket i) ∧ s.heard c = false

/-- A thread waits on a client. -/
def HeldUp (P : Externals) (s : Daemon) : Prop := s.WaitsOnClient P ∨ ∃ i, s.EnvWaits P i

/-- The event that tells of what a client has done may be reported. -/
theorem ready_of_heard {x : RawFd} {h' : Holder} (hlt : x < P.openMax)
    (hx : s.fds x = some ⟨.conn c, h'⟩) (hc : s.heard c = true) :
    ∃ hangup, s.ready P (.conn x c hangup) = true := by
  obtain ⟨conn, hconn, hh⟩ := (Option.any_eq_true _ _).mp hc
  have hopen : s.isOpen P (.conn c) = true := by
    refine List.any_eq_true.mpr ⟨x, List.mem_range.mpr hlt, ?_⟩
    simp [hx]
  refine ⟨conn.closed, ?_⟩
  simp only [ready, hconn, hopen, beq_self_eq_true, Bool.true_and]
  rw [Bool.or_comm]
  exact hh

/-- An event that may be reported tells of what a client has done. -/
theorem heard_of_ready {x : RawFd} {hangup : Bool} (hr : s.ready P (.conn x c hangup) = true) :
    (∃ y h', s.fds y = some ⟨.conn c, h'⟩) ∧ s.heard c = true := by
  simp only [ready] at hr
  split at hr
  · rename_i conn hconn
    simp only [Bool.and_eq_true, beq_iff_eq] at hr
    obtain ⟨⟨hopen, rfl⟩, hh⟩ := hr
    obtain ⟨y, -, hy⟩ := List.any_eq_true.mp hopen
    refine ⟨?_, ?_⟩
    · obtain ⟨⟨file, h'⟩, hd, hf⟩ := Option.map_eq_some_iff.mp (of_decide_eq_true hy)
      obtain rfl : file = .conn c := hf
      exact ⟨y, h', hd⟩
    · simp only [heard, hconn, Option.any_some]
      rw [Bool.or_comm]
      exact hh
  · cases hr

/-- An instance whose thread waits while the welcome thread polls is in the map, and has clients. -/
theorem Driven.waiting (h : s.Driven P) (hpoll : s.welcome.pc = .poll) (hi : s.envs i = some e)
    (hpc : e.pc = .wait) :
    s.welcome.environments.lookup e.name = some i ∧ e.sockets ≠ ∅ ∧ e.waiting = [] ∧
      e.addEvent = 0 ∧ e.dropEvent = 0 := by
  have hinst := h.orders.instances
  have halive : (s.registry.phase i).alive = true := by
    simp only [Daemon.registry, registryOf, hi, Option.map_some, Option.getD_some]
    exact Env.phase_alive (by rw [hpc]; simp)
  have hbound : s.welcome.environments.lookup e.name = some i := by
    rcases hinst.registry.owned h.orders.orderly.kept i halive with hb | hh | ht
    · simpa only [Daemon.registry, registryOf, hi, Option.map_some, Option.getD_some] using hb
    · simp only [Daemon.registry, registryOf, hpoll] at hh
      rcases hh with hh | hh <;> cases hh
    · simp only [Daemon.registry, registryOf, hpoll] at ht
      cases ht
  have hkept := hinst.kept i e hi (.inl ⟨_, hbound⟩)
  have hcall : s.welcome.pc.stage.call i = .idle := by rw [hpoll]; rfl
  refine ⟨hbound, (h.fit i e hi).peopled (hinst.served _ i e hbound hi) (by rw [hpc]; rfl),
    hinst.waiting_nil hi (by rw [hpc]; rfl) hcall, ?_, hkept.1.undropped⟩
  obtain ⟨-, -, mark, hatt⟩ := hinst.sound i e hi
  rw [Welcome.owner, if_neg hkept.2, hcall] at hatt
  have hlive := hatt.inv.live (s := e.rendezvous .idle mark)
    (by simp [Env.rendezvous, hpc, EnvPc.server, EnvPc.left])
  exact hlive.2.1

/-- The environment thread is over, or in its `epoll_wait` with nothing before it. -/
def Idling (P : Externals) (s : Daemon) (e : Env) : Prop :=
  e.outbox = [] ∧ (e.pc = .ended ∨ e.pc = .wait ∧
    e.interrupted = false ∧ ∀ ev, e.raisable ev = true → s.ready P ev = false)

theorem Idling.rests (h : s.Idling P e) : e.pc = .ended ∨ e.pc = .wait := h.2.imp_right And.left

/-- An announcement that waits has raised the event, or is still being made. -/
theorem Driven.unannounced (h : s.Driven P) (hpoll : s.welcome.pc = .poll) (hev : s.closeEvent = 0)
    (henvs : ∀ i e, s.envs i = some e → s.Idling P e) : s.closeChan.queue = [] := by
  refine List.eq_nil_iff_forall_not_mem.mpr fun p hp => ?_
  obtain ⟨n, i⟩ := p
  rcases h.orders.instances.heard hp with hup | ⟨e, errors, hi, hpc⟩ | hdrain
  · rw [hev] at hup
    cases hup
  · rcases (henvs i e hi).rests with hend | hwait
    · cases hpc.symm.trans hend
    · cases hpc.symm.trans hwait
  · rw [hpoll] at hdrain
    cases hdrain

/-- An instance that is named is there and waits: one that had gone would be announced. -/
theorem Driven.bound_idles {name : String} (h : s.Driven P) (hqueue : s.closeChan.queue = [])
    (henvs : ∀ i e, s.envs i = some e → s.Idling P e)
    (hn : s.welcome.environments.lookup name = some i) : ∃ e, s.envs i = some e ∧ e.pc = .wait := by
  have hinst := h.orders.instances
  obtain ⟨e, hi⟩ := Option.ne_none_iff_exists'.mp (hinst.bound_known hn)
  refine ⟨e, hi, ?_⟩
  rcases (henvs i e hi).rests with hend | hwait
  · rcases hinst.announced hn hi (by rw [hend]; rfl) with hq | hpc
    · rw [hqueue] at hq
      cases hq
    · cases hpc.symm.trans hend
  · exact hwait

/-- Nobody waits in the queue of an instance. -/
theorem Driven.unqueued {x : RawFd} (h : s.Driven P) (hpoll : s.welcome.pc = .poll)
    (henvs : ∀ i e, s.envs i = some e → s.Idling P e) : x ∉ waitingAt s.envs i := by
  intro hmem
  cases hi : s.envs i with
  | none => simp [waitingAt, hi] at hmem
  | some e =>
    rw [waitingAt_eq hi] at hmem
    rcases (henvs i e hi).rests with hend | hwait
    · have hshut := h.owned.agreeing.shut i e hi
      rw [Env.waiting, hend, hshut.empty (hshut.ended hend)] at hmem
      cases hmem
    · rw [(h.waiting hpoll hi hwait).2.2.1] at hmem
      cases hmem

/-- A client of an instance has sent nothing: the thread would have been told. -/
theorem Driven.unheard {x : RawFd} (h : s.Driven P) (henvs : ∀ i e, s.envs i = some e → s.Idling P e)
    (hx : s.fds.Own i x c) (hmem : x ∈ socketsAt s.envs i) : s.heard c = false := by
  cases hi : s.envs i with
  | none =>
    simp only [socketsAt, hi] at hmem
    exact absurd hmem (Finset.notMem_empty x)
  | some e =>
    rw [socketsAt_eq hi] at hmem
    obtain ⟨c', hreg, hmine⟩ := h.watched i e x hi hmem
    cases hx.symm.trans hmine
    rcases (henvs i e hi).2 with hend | ⟨-, -, hready⟩
    · rw [((h.orders.instances.sound i e hi).loc.empty (by rw [hend]; rfl)).1] at hmem
      exact absurd hmem (Finset.notMem_empty x)
    · cases hheard : s.heard c with
      | false => rfl
      | true =>
        obtain ⟨hangup, hr⟩ := ready_of_heard (h.bounded x c (connAt_eq hx)) hx hheard
        have hno := hready (.conn x c hangup) (decide_eq_true hreg)
        cases hr.symm.trans hno

/-- With `main` and the welcome thread at rest where they have nothing to do, and every
environment thread over or in its `epoll_wait`, the daemon is idle. -/
theorem Driven.idle (h : s.Driven P) (hmain : s.main = .recv) (herr : s.errors = [])
    (hpoll : s.welcome.pc = .poll) (ho : s.welcome.outbox = [])
    (hint : s.welcome.interrupted = false)
    (hev : s.shutdownEvent.getD 0 = 0 ∧ s.reloadEvent.getD 0 = 0 ∧ s.closeEvent = 0)
    (hback : s.backlog = []) (henvs : ∀ i e, s.envs i = some e → s.Idling P e) : s.Idle := by
  have hannounced := h.unannounced hpoll hev.2.2 henvs
  have hlogged : s.history.logged = s.history.sent := by
    have hqueue := h.orders.reporting.queue (by rw [hmain]; rfl)
    rw [herr, List.append_nil] at hqueue
    exact hqueue.symm
  refine ⟨hmain, ⟨herr, hlogged⟩, ⟨hpoll, ho, hint⟩, hev, hback, hannounced,
    fun n i hn => h.bound_idles hannounced henvs hn, fun i e hi => ?_, fun x c h' hx => ?_⟩
  · obtain ⟨hout, hend | ⟨hwait, huninterrupted, -⟩⟩ := henvs i e hi
    · exact ⟨hout, .inl hend⟩
    · obtain ⟨hbound, hsock, -⟩ := h.waiting hpoll hi hwait
      exact ⟨hout, .inr ⟨hwait, huninterrupted, hbound, hsock⟩⟩
  · have hown := h.owned.ownedBy hx
    cases h' with
    | welcome =>
      have hmem : x ∈ s.welcome.held := hown
      rw [Welcome.held_eq ho, hpoll] at hmem
      cases hmem
    | errors =>
      have hmem : x ∈ socketsOf s.errors := hown
      rw [herr] at hmem
      cases hmem
    | page i => exact absurd hx (h.owned.agreeing.settled.connected.sockets x c i)
    | queue i => exact absurd hown (h.unqueued hpoll henvs)
    | socket i => exact ⟨⟨i, rfl⟩, h.unheard henvs hx hown⟩

/-- Nothing happens of itself to a daemon that is idle. -/
theorem Driven.stalled (h : s.Driven P) (hidle : s.Idle) (thread : Thread) : s.Stalled P thread := by
  intro a t ha hs
  obtain ⟨-, hp⟩ := step_party hs
  cases hp with
  | main hm =>
    have hmain := hidle.main
    have herr := hidle.errors.1
    cases hm with
    | recv _ he | recvShutdown _ he | recvReload _ he | recvTripped _ he => cases herr.symm.trans he
    | fails hset | ahead hset =>
      rw [hmain] at hset
      cases hset
    | new hm | setupEvents hm | listen hm | notifyListening hm | notifyListeningFails hm | join hm
    | joinExits hm | drain hm | reload hm | success hm => cases hmain.symm.trans hm
  | welcome hm he =>
    obtain ⟨hpoll, ho, hint⟩ := hidle.welcome
    cases hm with
    | sendError hout => cases ho.symm.trans hout
    | poll =>
      cases he with
      | plain hb => cases hb
      | poll _ hr =>
        obtain ⟨h₁, h₂, h₃⟩ := hidle.events
        simp only [pollable, h₁, h₂, h₃, hidle.accepted, Bool.and_eq_true, beq_iff_eq] at hr
        obtain ⟨⟨⟨⟨hr₁, hr₂⟩, hr₃⟩, hr₄⟩, -⟩ := hr
        simp [unprompted, hr₁, hr₂, hr₃, hr₄]
    | pollFails =>
      cases he with
      | plain hb => cases hb
      | pollFails herrno =>
        refine decide_eq_true fun hintr => ?_
        rw [hint] at herrno
        cases herrno.mpr hintr
    | createEvent _ hpc | createEventFails _ hpc | listen _ hpc | listenFails _ hpc | shutdownRead _ hpc
    | reloadRead _ hpc | closeRead _ hpc | drainBound _ hpc | drainUnbound _ hpc | drainEmpty _ hpc
    | drainDisconnected _ hpc | accept _ hpc | acceptFails _ hpc | root _ hpc | notRoot _ hpc
    | getsockoptFails _ hpc | recvFails _ hpc | recv _ hpc | recvMalformed _ hpc
    | recvUnanswered _ hpc | occupied _ hpc | vacant _ hpc | dupFails _ hpc | envNew _ hpc
    | envNewFails _ hpc | insertSend _ hpc | insertSendFails _ hpc | insertWrite _ hpc
    | insertWriteFails _ hpc | inserted _ hpc | refused _ hpc | hungUp _ hpc | sendAbandon _ hpc
    | send _ hpc | dropWrite _ hpc | dropWritePanics _ hpc | dropFields _ hpc | join _ hpc
    | joinPanics _ hpc | close _ hpc | dropLocals _ hpc | teardown _ hpc | ended _ hpc =>
      cases hpoll.symm.trans hpc
  | @env i b e e' u hi hst he =>
    obtain ⟨ho, hrests⟩ := hidle.serving i e hi
    obtain ⟨hwait, r, rfl⟩ := Env.resting ho (hrests.symm.imp_left And.left) hst
    obtain ⟨-, hint, -⟩ := hrests.resolve_left (by rw [hwait]; simp)
    obtain ⟨-, -, -, hadd, hdrop⟩ := h.waiting hidle.welcome.1 hi hwait
    cases he with
    | plain hb => cases hb
    | waitFails herrno =>
      refine decide_eq_true fun hintr => ?_
      rw [hint] at herrno
      cases herrno.mpr hintr
    | @wait events _ hready =>
      exfalso
      cases Env.step_moves hst with
      | wait _ _ hne _ hraise =>
        obtain ⟨ev, hev⟩ := List.exists_mem_of_ne_nil events hne
        have hr := hraise ev hev
        cases ev with
        | add => simp [Env.raisable, hadd] at hr
        | drop => simp [Env.raisable, hdrop] at hr
        | conn x c hangup =>
          obtain ⟨⟨y, h', hy⟩, hheard⟩ := heard_of_ready (hready _ hev)
          cases hheard.symm.trans (hidle.clients y c h' hy).2
  | client => cases ha
  | signal => cases ha

/-- Whom the welcome thread waits for comes to it, unless that thread waits on a client: an
environment thread in its `epoll_wait` has an event before it. -/
theorem Driven.prompted (h : s.Driven P) (hw : s.WelcomeRests P) (hup : ¬s.HeldUp P)
    (henvs : ∀ i e, s.envs i = some e → s.EnvRests P i e) :
    s.welcome.pc = .ended ∨ s.welcome.pc = .poll := by
  have hinst := h.orders.instances
  cases hw with
  | ended hpc => exact .inl hpc
  | poll hpc => exact .inr hpc
  | client hwait => exact absurd (.inl hwait) hup
  | @response a e hpc hi hq hsend =>
    exfalso
    have hat : s.welcome.pc.attaching = some a := by rw [hpc]; rfl
    cases henvs a.id e hi with
    | ended hend => exact hsend ((h.fit _ e hi).spent hend)
    | client hwait => exact hup (.inr ⟨_, hwait⟩)
    | wait hwait _ hready =>
      obtain ⟨-, hopen⟩ := hinst.kept _ e hi (hinst.keeper.keeps hat)
      obtain ⟨-, -, mark, hatt⟩ := hinst.sound _ e hi
      have howner : s.welcome.owner a.id e = .waiting a.passed := by
        rw [Welcome.owner, if_neg hopen, hpc]
        exact if_pos rfl
      rw [howner] at hatt
      rcases hatt.due (by rw [hwait]; rfl) with hne | hup | hadd
      · exact hne hq
      · have hno := hready .add (decide_eq_true hup)
        cases hno
      · rw [hwait] at hadd
        cases hadd
  | @join i k e hpc hi hne =>
    exfalso
    cases henvs i e hi with
    | ended hend => exact hne hend
    | client hwait => exact hup (.inr ⟨_, hwait⟩)
    | wait hwait _ hready =>
      rcases h.told i k (.inr hpc) e hi with hdrop | hleft
      · have hno := hready .drop (decide_eq_true hdrop)
        cases hno
      · rw [hwait] at hleft
        cases hleft

/-- In every run in which no thread panics: if no thread can go on, but for calls that fail
without a cause, the daemon is idle, or a thread waits on a client, or `main` waits for a
welcome thread that polls. A daemon that is idle stays so until a client or a signal comes.
And `accept` is called only where a connection waits. -/
theorem quiescent {as : List Act} (hr : Run (Daemon.step P) NoPanics boot as s) :
    (s.Alive → (∀ thread, s.Stalled P thread) →
      s.Idle ∨ s.HeldUp P ∨ ∃ k, s.main = .join k ∧ s.welcome.pc = .poll) ∧
      (s.Idle → ∀ thread, s.Stalled P thread) ∧
      (s.welcome.pc = .accept → s.backlog ≠ []) := by
  have h : s.Driven P := .run hr
  refine ⟨fun hrun hst => ?_, fun hidle => h.stalled hidle, h.equipped.accepts⟩
  by_cases hup : s.HeldUp P
  · exact .inr (.inl hup)
  have hrests (i : EnvId) (e : Env) (hi : s.envs i = some e) := h.env_rests hrun hi (hst (.env i))
  obtain ⟨ho, hw⟩ := h.welcome_rests hrun (hst .welcome)
  have hm := main_rests hrun (hst .main)
  rcases h.prompted hw hup fun i e hi => (hrests i e hi).2 with hend | hpoll
  · exfalso
    cases hm with
    | recv hmain herr =>
      -- a welcome thread that is gone has told `main`
      have hsilent := h.announcing.neverSilent h.orders.reporting
      obtain ⟨err, hmem, -⟩ := (hsilent (by rw [hmain]; rfl) hend).2 hmain
      rw [herr] at hmem
      cases hmem
    | join _ hjoin => exact hjoin hend ho
  · cases hm with
    | join hmain => exact .inr (.inr ⟨_, hmain, hpoll⟩)
    | recv hmain herr =>
      cases hw with
      | poll _ hint hev hback =>
        refine .inl (h.idle hmain herr hpoll ho hint hev hback fun i e hi => ?_)
        obtain ⟨hout, hrest⟩ := hrests i e hi
        cases hrest with
        | ended hend => exact ⟨hout, .inl hend⟩
        | wait hwait hint hready => exact ⟨hout, .inr ⟨hwait, hint, hready⟩⟩
        | client hwait => exact absurd (.inr ⟨i, hwait⟩) hup
      | ended hpc | response hpc | join hpc => cases hpoll.symm.trans hpc
      | client hwait => exact absurd (.inl hwait) hup

/-- The instance a step makes. -/
def makes : Act → Option EnvId
  | .welcome (.envNew (.ok i)) => some i
  | _ => none

theorem unmade_run {ok : Daemon → Act → Prop} {as : List Act} (hr : Run (Daemon.step P) ok s as t)
    (hnot : i ∉ as.filterMap makes) (hi : s.envs i = none) : t.envs i = none := by
  induction hr with
  | nil => exact hi
  | @cons s u t a as _ hs _ ih =>
    rw [List.mem_filterMap] at hnot ih
    have hrest : ¬∃ b ∈ as, makes b = some i := by
      rintro ⟨b, hb, hm⟩
      exact hnot ⟨b, List.mem_cons_of_mem _ hb, hm⟩
    refine ih hrest ?_
    cases hu : u.envs i with
    | none => rfl
    | some e =>
      cases env_change hs hu with
      | same hj | thread hj => cases hi.symm.trans hj
      | made => exact absurd ⟨_, List.mem_cons_self, rfl⟩ hnot

/-- A client is attached, and everybody waits. -/
theorem quiescent_attached : ∃ as s, Run (Daemon.step .oneLetter) NoPanics boot as s ∧
    s.history.attached = [(0, 0)] ∧ s.Idle ∧ ∀ thread, s.Stalled .oneLetter thread := by
  have hexec : (exec (Daemon.step .oneLetter) (fun _ => Act.noPanic) boot
      (startUp ++ handsOver ++ adds ++ answers)).any (fun s =>
        s.main = .recv ∧ s.errors = [] ∧ s.welcome.pc = .poll ∧ s.welcome.outbox = [] ∧
        s.welcome.interrupted = false ∧ s.shutdownEvent = some 0 ∧ s.reloadEvent = some 0 ∧
        s.closeEvent = 0 ∧ s.backlog = [] ∧ s.history.attached = [(0, 0)] ∧
        s.ready .oneLetter (.conn 1 0 true) = false ∧ s.ready .oneLetter (.conn 1 0 false) = false ∧
        (s.envs 0).any fun e => e.outbox = [] ∧ e.pc = .wait ∧ e.interrupted = false ∧
          e.addEvent = 0 ∧ e.dropEvent = 0 ∧ e.interest = [(1, 0)]) := by decide
  obtain ⟨s, hr, hp⟩ := Run.of_exec_any (fun _ _ => id) hexec
  obtain ⟨hmain, herr, hpoll, ho, hint, hsd, hrl, hce, hback, hatt, hgone, hsent, henv⟩ :=
    of_decide_eq_true hp
  obtain ⟨e, hi, he⟩ := (Option.any_eq_true _ _).mp henv
  obtain ⟨hout, hwait, hie, hadd, hdrop, hreg⟩ := of_decide_eq_true he
  have h : s.Driven .oneLetter := .run hr
  have hidle : s.Idle := by
    refine h.idle hmain herr hpoll ho hint ⟨by rw [hsd]; rfl, by rw [hrl]; rfl, hce⟩ hback
      fun j f hj => ?_
    by_cases hj₀ : j = 0
    · subst hj₀
      cases hi.symm.trans hj
      refine ⟨hout, .inr ⟨hwait, hie, fun ev hev => ?_⟩⟩
      cases ev with
      | add => simp [Env.raisable, hadd] at hev
      | drop => simp [Env.raisable, hdrop] at hev
      | conn x c hangup =>
        simp only [Env.raisable, hreg, List.mem_singleton, Prod.mk.injEq, decide_eq_true_eq] at hev
        obtain ⟨rfl, rfl⟩ := hev
        cases hangup
        · exact hsent
        · exact hgone
    · have hmakes : (startUp ++ handsOver ++ adds ++ answers).filterMap makes = [0] := rfl
      cases hj.symm.trans (unmade_run hr (by rw [hmakes]; simpa using hj₀) rfl)
  exact ⟨_, s, hr, hatt, hidle, (quiescent hr).2.1 hidle⟩

end Daemon
end Garnd
