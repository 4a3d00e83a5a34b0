import Garnd.WelcomeMoves
import Garnd.Lib.Transition

/- The message that ends an incarnation. `main` stops receiving at the first
   `ShutdownSignal` or `ReloadRequest` and joins the welcome thread, so nothing but
   the return should follow one. `terminal_last` proves it of every run in which no
   `poll` finds the welcome socket broken down; there the thread sends its
   `ShutdownSignal` and goes on with the loop (`terminal_repeated`). -/
namespace Garnd
open Transition

/-- A step of the return of `welcome_thread_main`: the locals are dropped, and every
environment among them. -/
def WelcomeAct.returning : WelcomeAct → Bool
  | .dropLocals | .teardown _ | .dropWrite _ | .dropFields | .join _ => true
  | _ => false

/-- Nothing but the return follows a terminal message, so there is one at most. -/
def TerminalLast (as : List WelcomeAct) : Prop :=
  ∀ pre e post, as = pre ++ .sendError e :: post → e.isTerminal = true →
    ∀ a ∈ post, a.returning = true

/-- The `poll` finds the welcome socket broken down, and no shutdown or reload. -/
def PollResult.brokenDown (r : PollResult) : Bool :=
  !r.shutdown.any && !r.reload.any && r.welcome.any && !r.welcome.pollin

/-- The condition on a run: no `poll` finds the welcome socket broken down. -/
def SocketWorks (_ : Welcome) (a : WelcomeAct) : Prop :=
  ∀ r, a = .poll (.ok r) → r.brokenDown = false

/-- `SocketWorks`, decided. -/
def WelcomeAct.socketWorks : WelcomeAct → Bool
  | .poll (.ok r) => !r.brokenDown
  | _ => true

theorem socketWorks_of {w : Welcome} {a : WelcomeAct} (h : a.socketWorks = true) :
    SocketWorks w a := by
  rintro r rfl
  simpa [WelcomeAct.socketWorks] using h

/-- The errors the thread has collected and not put in the outbox. -/
def After.errors : After → List DetailedError
  | .finish _ errors => errors
  | _ => []

def WelcomePc.errors : WelcomePc → List DetailedError
  | .send _ _ errors _ _ | .close _ errors => errors
  | .dropWrite _ k | .dropFields _ k | .join _ k => k.errors
  | _ => []

/-- The welcome socket's `revents` while the close announcements are drained. -/
def After.revents : After → Option Revents
  | .drain r => some r
  | _ => none

def WelcomePc.revents : WelcomePc → Option Revents
  | .closeRead r | .drain r => some r
  | .dropWrite _ k | .dropFields _ k | .join _ k => k.revents
  | _ => none

/-- The thread is out of its loop: its locals are being dropped, or are to be. -/
def WelcomePc.returning : WelcomePc → Bool
  | .ret _ | .teardown _ | .ended => true
  | .dropWrite _ k | .dropFields _ k | .join _ k => k.isTeardown
  | _ => false

theorem After.panics_errors (k : After) : k.panics.errors = [] := by
  cases k <;> rfl

theorem After.panics_revents (k : After) : k.panics.revents = none := by
  cases k <;> rfl

namespace Welcome

/-- None of the errors is a terminal message. -/
def Quiet (errors : List DetailedError) : Prop := ∀ e ∈ errors, e.isTerminal = false

/-- No terminal message has been sent. If one is about to be, it is the last thing
in the outbox of a thread that returns. -/
structure Before (w : Welcome) : Prop where
  outbox : Quiet w.outbox ∨
    ∃ pre t, w.outbox = pre ++ [t] ∧ Quiet pre ∧ w.pc.returning = true
  errors : Quiet w.pc.errors
  revents : ∀ r, w.pc.revents = some r → r.any = true → r.pollin = true

/-- A terminal message has been sent. -/
structure Returning (w : Welcome) : Prop where
  outbox : w.outbox = []
  pc : w.pc.returning = true

variable {P : Externals} {w w' : Welcome} {a : WelcomeAct}

theorem before_new : Before new := ⟨.inl nofun, nofun, nofun⟩

/-! ## After the message -/

theorem Returning.resume {k : After} (ho : w.outbox = []) (h : k.isTeardown = true) :
    (w.resume k).Returning ∧ (w.resume k.panics).Returning := by
  obtain ⟨rest, rfl⟩ := After.teardown_of h
  exact ⟨⟨ho, rfl⟩, ⟨ho, rfl⟩⟩

theorem Returning.moves (h : w.Returning) (hm : Moves P w a w') :
    a.returning = true ∧ w'.Returning := by
  obtain ⟨ho, hpc⟩ := h
  cases hm with
  | sendError ho' =>
    rw [ho] at ho'
    cases ho'
  | dropWrite _ hp => exact ⟨rfl, ho, by rwa [hp] at hpc⟩
  | dropWritePanics _ hp =>
    rw [hp] at hpc
    obtain ⟨rest, rfl⟩ := After.teardown_of hpc
    exact ⟨rfl, ho, rfl⟩
  | dropFields _ hp => exact ⟨rfl, ho, by rwa [hp] at hpc⟩
  | join _ hp =>
    rw [hp] at hpc
    exact ⟨rfl, (Returning.resume ho hpc).1⟩
  | joinPanics _ hp =>
    rw [hp] at hpc
    exact ⟨rfl, (Returning.resume (w := w.panic _) ho hpc).2⟩
  | dropLocals | teardown | ended => exact ⟨rfl, ho, rfl⟩
  | _ => simp_all [WelcomePc.returning]

theorem Returning.run {ok : Welcome → WelcomeAct → Prop} {as : List WelcomeAct}
    (hr : Run (Welcome.step P) ok w as w') (h : w.Returning) : ∀ a ∈ as, a.returning = true := by
  induction hr with
  | nil _ => exact nofun
  | cons _ hs _ ih =>
    obtain ⟨ha, ht⟩ := h.moves (step_moves hs)
    intro b hb
    rcases List.mem_cons.mp hb with rfl | hb
    · exact ha
    · exact ih ht b hb

/-! ## Before the message -/

theorem Before.closing {fds : List RawFd} {errors : List DetailedError} (ho : w.outbox = [])
    (he : Quiet errors) : (w.closing fds errors).Before := by
  unfold Welcome.closing
  split
  · split
    · exact ⟨.inl (by simp [ho, Quiet]), nofun, nofun⟩
    · exact ⟨.inl he, nofun, nofun⟩
  · exact ⟨.inl (by simp [ho, Quiet]), he, nofun⟩

theorem Before.onWelcome {r : Revents} (ho : w.outbox = []) (hr : r.any = true → r.pollin = true) :
    (w.onWelcome r).Before := by
  unfold Welcome.onWelcome
  split
  · exact ⟨.inl (by simp [ho, Quiet]), nofun, nofun⟩
  · split
    · simp_all
    · exact ⟨.inl (by simp [ho, Quiet]), nofun, nofun⟩

theorem Before.onPoll {r : PollResult} (ho : w.outbox = []) (hr : r.brokenDown = false) :
    (w.onPoll r).Before := by
  have hq : Quiet w.outbox := by simp [ho, Quiet]
  unfold Welcome.onPoll
  split
  · exact ⟨.inl hq, nofun, nofun⟩
  · split
    · exact ⟨.inl hq, nofun, nofun⟩
    · have hw : r.welcome.any = true → r.welcome.pollin = true := by
        simp_all [PollResult.brokenDown]
      split
      · refine ⟨.inl hq, nofun, ?_⟩
        rintro _ ⟨⟩
        exact hw
      · exact .onWelcome ho hw

theorem Before.resume {k : After} (ho : w.outbox = []) (he : Quiet k.errors)
    (hr : ∀ r, k.revents = some r → r.any = true → r.pollin = true) : (w.resume k).Before := by
  cases k with
  | drain r =>
    refine ⟨.inl (by simp [Welcome.resume, ho, Quiet]), nofun, ?_⟩
    rintro _ ⟨⟩
    exact hr r rfl
  | finish fds errors => exact .closing ho he
  | returning => exact ⟨.inl (by simp [Welcome.resume, ho, Quiet]), nofun, nofun⟩
  | unwind fds => exact .closing ho nofun
  | teardown rest => exact ⟨.inl (by simp [Welcome.resume, ho, Quiet]), nofun, nofun⟩

theorem Before.panics {k : After} (ho : w.outbox = []) : (w.resume k.panics).Before :=
  .resume ho (by simp [k.panics_errors, Quiet]) (by simp [k.panics_revents])

theorem quiet_sendErrors {errors : List DetailedError} {r : Except Errno Unit} (h : Quiet errors) :
    Quiet (sendErrors errors r) := by
  cases r with
  | ok _ => exact h
  | error errno =>
    intro e he
    rcases List.mem_append.mp he with he | he
    · exact h e he
    · obtain rfl := List.mem_singleton.mp he
      rfl

theorem quiet_readErrors (r : Except Errno Unit) : Quiet (readErrors r) := by
  cases r <;> simp [readErrors, Quiet, DetailedError.isTerminal]

/-- The outbox of a thread that is about to return with a terminal message. -/
theorem Before.last {pre : List DetailedError} {t : DetailedError} (hp : Quiet pre)
    (hpc : w.pc = .ret false) (ho : w.outbox = pre ++ [t]) : w.Before :=
  ⟨.inr ⟨pre, t, ho, hp, by rw [hpc]; rfl⟩, by rw [hpc]; exact nofun, by rw [hpc]; exact nofun⟩

/-- Sending what is in the outbox. -/
theorem Before.sendError {err : DetailedError} {errors : List DetailedError} (h : w.Before)
    (ho : w.outbox = err :: errors) :
    err.isTerminal = true ∧ Returning { w with outbox := errors } ∨
      err.isTerminal = false ∧ Before { w with outbox := errors } := by
  obtain ⟨hout, herr, hrev⟩ := h
  rw [ho] at hout
  rcases hout with hq | ⟨pre, t, heq, hq, hpc⟩
  · exact .inr ⟨hq err List.mem_cons_self, .inl fun e he => hq e (List.mem_cons_of_mem _ he), herr, hrev⟩
  · cases pre with
    | nil =>
      cases heq
      cases ht : err.isTerminal with
      | true => exact .inl ⟨rfl, rfl, hpc⟩
      | false => exact .inr ⟨rfl, .inl nofun, herr, hrev⟩
    | cons e pre =>
      cases heq
      exact .inr ⟨hq err List.mem_cons_self,
        .inr ⟨pre, t, rfl, fun e he => hq e (List.mem_cons_of_mem _ he), hpc⟩, herr, hrev⟩

/-- The thread moves on with nothing to send and nothing collected. -/
theorem Before.clear {pc : WelcomePc} (ho : w.outbox = []) (hpc : w.pc = pc)
    (he : pc.errors = []) (hr : pc.revents = none) : w.Before := by
  subst hpc
  exact ⟨.inl (by simp [ho, Quiet]), by simp [he, Quiet], by simp [hr]⟩

theorem Before.fail {fd : RawFd} {err : DetailedError} {abandon : Option EnvId} {fds : List RawFd}
    (ho : w.outbox = []) (he : err.isTerminal = false) : (w.fail fd err abandon fds).Before :=
  ⟨.inl (by simp [Welcome.fail, ho, Quiet]), by simp [Welcome.fail, WelcomePc.errors, Quiet, he], nofun⟩

/-- A step that sends nothing leads from a state before the message to another. -/
theorem Before.moves (h : w.Before) (hok : SocketWorks w a) (ha : ∀ e, a ≠ .sendError e)
    (hm : Moves P w a w') : w'.Before := by
  obtain ⟨-, hpend, hrev⟩ := h
  cases hm with
  | sendError => exact absurd rfl (ha _)
  | poll ho => exact .onPoll ho (hok _ rfl)
  | createEventFails | listenFails | pollFails =>
    exact .last (by simp [Quiet, DetailedError.isTerminal]) rfl (List.singleton_append.symm)
  | shutdownRead | reloadRead => exact .last (quiet_readErrors _) rfl rfl
  | closeRead _ hpc =>
    rw [hpc] at hrev
    exact ⟨.inl (quiet_readErrors _), nofun, hrev⟩
  | drainBound ho hpc =>
    rw [hpc] at hrev
    exact ⟨.inl (by simp [ho, Quiet]), nofun, hrev⟩
  | drainUnbound ho => exact ⟨.inl (by simp [ho, Quiet]), hpend, hrev⟩
  | drainEmpty ho hpc =>
    rw [hpc] at hrev
    exact .onWelcome ho (hrev _ rfl)
  | drainDisconnected =>
    exact ⟨.inl (by simp [Quiet, DetailedError.isTerminal]), hpend, hrev⟩
  | acceptFails => exact ⟨.inl (by simp [Quiet, DetailedError.isTerminal]), nofun, nofun⟩
  | root ho | getsockoptFails ho | recvFails ho =>
    exact .closing ho (by simp [Quiet, DetailedError.isTerminal])
  | recvMalformed ho _ hm =>
    exact ⟨.inl (by simp [ho, Quiet]), by simp [WelcomePc.errors, Quiet, parseRequest_error hm], nofun⟩
  | recvUnanswered ho _ hm =>
    refine .closing ho fun e he => ?_
    rcases List.mem_cons.mp he with rfl | he
    · exact parseRequest_error hm
    · obtain rfl := List.mem_singleton.mp he
      rfl
  | dupFails ho | envNewFails ho | insertSendFails ho | insertWriteFails ho | refused ho
  | hungUp ho => exact .fail ho rfl
  | @inserted _ serializes ho =>
    unfold Welcome.inserted
    cases serializes with
    | true => exact .clear ho rfl rfl rfl
    | false => exact .fail ho rfl
  | sendAbandon ho hpc =>
    rw [hpc] at hpend
    exact ⟨.inl (by simp [ho, Quiet]), quiet_sendErrors hpend, nofun⟩
  | send ho hpc =>
    rw [hpc] at hpend
    exact .closing ho (quiet_sendErrors hpend)
  | dropWrite ho hpc | dropFields ho hpc =>
    rw [hpc] at hpend hrev
    exact ⟨.inl (by simp [ho, Quiet]), hpend, hrev⟩
  | @dropWritePanics i k ho hpc =>
    exact .clear ho rfl k.panics_errors k.panics_revents
  | join ho hpc =>
    rw [hpc] at hpend hrev
    exact .resume ho hpend hrev
  | joinPanics ho => exact .panics ho
  | close ho hpc =>
    rw [hpc] at hpend
    exact .closing ho hpend
  | createEvent ho | listen ho | accept ho | notRoot ho | recv ho | occupied ho | vacant ho | envNew ho
  | insertSend ho | insertWrite ho | dropLocals ho | teardown ho | ended ho =>
    exact .clear ho rfl rfl rfl

/-- A step before the message leads to a state before it, or sends the message and
leads to the return. -/
theorem Before.step (h : w.Before) (hok : SocketWorks w a) (hs : w.step P a = some w') :
    (∃ e, a = .sendError e ∧ e.isTerminal = true) ∧ w'.Returning ∨
    (∀ e, a = .sendError e → e.isTerminal = false) ∧ w'.Before := by
  have hm := step_moves hs
  by_cases ha : ∀ e, a ≠ .sendError e
  · exact .inr ⟨fun e he => absurd he (ha e), h.moves hok ha hm⟩
  · cases hm with
    | sendError ho =>
      rcases h.sendError ho with ⟨ht, hw⟩ | ⟨ht, hw⟩
      · exact .inl ⟨⟨_, rfl, ht⟩, hw⟩
      · refine .inr ⟨?_, hw⟩
        rintro _ ⟨⟩
        exact ht
    | _ => exact absurd nofun ha

theorem Before.run {as : List WelcomeAct} (hr : Run (Welcome.step P) SocketWorks w as w')
    (h : w.Before) : TerminalLast as := by
  induction hr with
  | nil _ => intro pre e post heq; simp at heq
  | @cons s t u a as hok hs hr ih =>
    intro pre e post heq ht
    rcases h.step hok hs with ⟨-, hret⟩ | ⟨hne, hbefore⟩
    · cases pre with
      | nil =>
        cases heq
        exact hret.run hr
      | cons b pre =>
        cases heq
        exact fun c hc => hret.run hr c (by simp [hc])
    · cases pre with
      | nil =>
        cases heq
        rw [hne e rfl] at ht
        cases ht
      | cons b pre =>
        cases heq
        exact ih hbefore pre e post rfl ht

/-- In every run in which no `poll` finds the welcome socket broken down, the thread
does nothing after a terminal message but return. -/
theorem terminal_last {as : List WelcomeAct} (hr : Run (Welcome.step P) SocketWorks new as w) :
    TerminalLast as :=
  before_new.run hr

/-! ## The condition is needed -/

/-- A thread that starts, serves nobody and is told to shut down. -/
def startAndStop : List WelcomeAct :=
  [.createEvent (.ok ()), .listen (.ok ()), .poll (.ok ⟨.readable, .none, .none, .none⟩),
    .shutdownRead (.ok ()), .sendError .shutdownSignal, .dropLocals, .teardown none]

theorem terminal_last_stop : TerminalLast startAndStop := by
  obtain ⟨w, hw⟩ : ∃ w, exec (Welcome.step .oneLetter) (fun _ a => a.socketWorks) new
      startAndStop = some w := Option.isSome_iff_exists.mp (by decide)
  exact terminal_last (.of_exec (fun _ _ => socketWorks_of) hw)

/-- The welcome socket hangs up, the thread reports it, asks for a shutdown and
polls again, with the same result. -/
def hangsUp : List WelcomeAct :=
  [.createEvent (.ok ()), .listen (.ok ()), .poll (.ok ⟨.none, .none, .none, .hangup⟩),
    .sendError (.runtime .welcomeSocketFailed), .sendError .shutdownSignal,
    .poll (.ok ⟨.none, .none, .none, .hangup⟩), .sendError (.runtime .welcomeSocketFailed),
    .sendError .shutdownSignal]

theorem terminal_repeated : ¬ ∀ as w, Run (Welcome.step .oneLetter) anyStep new as w →
    TerminalLast as := by
  intro h
  obtain ⟨w, hw⟩ : ∃ w, exec (Welcome.step .oneLetter) (fun _ _ => true) new hangsUp = some w :=
    Option.isSome_iff_exists.mp (by decide)
  have hlast := h hangsUp w (.of_exec (fun _ _ _ => trivial) hw)
    (hangsUp.take 4) .shutdownSignal (hangsUp.drop 5) rfl rfl
  have := hlast (.sendError .shutdownSignal) (by simp [hangsUp])
  simp [WelcomeAct.returning] at this

end Welcome
end Garnd
