import Garnd.Shutdown

/- What a signal handler does to the threads it runs on. Outside `poll` and
   `epoll_wait` it only writes an event, and then a signal is a request: the welcome
   thread says `ShutdownSignal`, and an environment thread leaves its loop because its
   owner drops it (`signals_are_requests`). A wait that a handler cuts short fails with
   `EINTR` in spite of `SA_RESTART`, and both loops take it for a failure
   (`interrupted_reloads`). -/
namespace Garnd
open Transition

/-- A system call of the thread fails, other than by an interrupted wait. -/
def WelcomeAct.fails : WelcomeAct → Bool
  | .createEvent (.error _) | .listen (.error _) | .shutdownRead (.error _)
  | .reloadRead (.error _) | .closeRead (.error _) | .accept (.error _) | .getsockopt (.error _)
  | .recv (.error _) _ | .dup (.error _) | .envNew (.error _) | .insertWrite false
  | .send (.error _) | .dropWrite false => true
  | .poll (.error errno) => errno != eintr
  | _ => false

/-- The same of an environment thread. `sysconf` also fails where it has no page size. -/
def EnvAct.fails : EnvAct → Bool
  | .epollNew (.error _) | .epollAdd (.error _) | .addEpoll _ (.error _) | .recv _ (.error _) _
  | .send _ _ (.error _) | .closeWrite false => true
  | .wait (.error errno) => errno != eintr
  | .allocNew sysconf =>
    match ShmAllocator.new sysconf with
    | .ok _ => false
    | _ => true
  | _ => false

def Act.fails : Act → Bool
  | .welcome a => a.fails
  | .env _ a => a.fails
  | _ => false

/-- The labels by which the welcome thread comes to ask for a reload. -/
def WelcomeAct.asksReload : WelcomeAct → Bool
  | .createEvent (.error _) | .listen (.error _) | .poll (.error _) | .reloadRead _ => true
  | _ => false

namespace Welcome
variable {P : Externals} {w w' : Welcome} {a : WelcomeAct}

theorem closing_outbox {fds : List RawFd} {errors : List DetailedError} {err : DetailedError}
    (h : err ∈ (w.closing fds errors).outbox) : err ∈ w.outbox ∨ err ∈ errors := by
  unfold Welcome.closing at h
  split at h
  · split at h
    · exact .inl h
    · exact .inr h
  · exact .inl h

theorem onWelcome_outbox {r : Revents} (h : .reloadRequest ∈ (w.onWelcome r).outbox) :
    .reloadRequest ∈ w.outbox := by
  unfold Welcome.onWelcome at h
  split at h
  · exact h
  · split at h
    · simp at h
    · exact h

theorem onPoll_outbox {r : PollResult} (h : .reloadRequest ∈ (w.onPoll r).outbox) :
    .reloadRequest ∈ w.outbox := by
  unfold Welcome.onPoll at h
  split at h
  · exact h
  · split at h
    · exact h
    · split at h
      · exact h
      · exact onWelcome_outbox h

theorem resume_outbox {k : After} {err : DetailedError} (h : err ∈ (w.resume k).outbox) :
    err ∈ w.outbox ∨ err ∈ k.errors := by
  cases k with
  | finish fds errors => exact closing_outbox h
  | unwind fds => exact (closing_outbox h).imp_right nofun
  | drain | returning | teardown => exact .inl h

/-- A `ReloadRequest` comes into the outbox by one of those labels only. -/
theorem Moves.asks (hm : Moves P w a w') (hpend : Quiet w.pc.errors)
    (h : .reloadRequest ∈ w'.outbox) : .reloadRequest ∈ w.outbox ∨ a.asksReload = true := by
  have hpend' {pc : WelcomePc} (hpc : w.pc = pc) : .reloadRequest ∉ pc.errors :=
    hpc ▸ hpend.no_reload
  cases hm with
  | sendError ho =>
    rw [ho]
    exact .inl (List.mem_cons_of_mem _ h)
  | createEventFails | listenFails | pollFails | reloadRead => exact .inr rfl
  | poll => exact .inl (onPoll_outbox h)
  | drainEmpty => exact .inl (onWelcome_outbox h)
  | shutdownRead =>
    rcases List.mem_append.mp h with h | h
    · exact absurd h (quiet_readErrors _).no_reload
    · cases List.mem_singleton.mp h
  | closeRead => exact absurd h (quiet_readErrors _).no_reload
  | drainDisconnected | acceptFails => cases List.mem_singleton.mp h
  | root | getsockoptFails | recvFails =>
    refine .inl ((closing_outbox h).resolve_right fun h => ?_)
    cases List.mem_singleton.mp h
  | recvUnanswered _ _ hm =>
    refine .inl ((closing_outbox h).resolve_right fun h => ?_)
    rcases List.mem_cons.mp h with h | h
    · have := parseRequest_error hm
      rw [← h] at this
      cases this
    · cases List.mem_singleton.mp h
  | send _ hpc =>
    have hq := hpend
    rw [hpc] at hq
    exact .inl ((closing_outbox h).resolve_right (quiet_sendErrors hq).no_reload)
  | close _ hpc => exact .inl ((closing_outbox h).resolve_right (hpend' hpc))
  | join _ hpc => exact .inl ((resume_outbox h).resolve_right (hpend' hpc))
  | @joinPanics i k =>
    exact .inl ((resume_outbox h).resolve_right (by rw [k.panics_errors]; exact nofun))
  | @inserted a serializes => cases serializes <;> exact .inl h
  | _ => exact .inl h

/-- A join that finds a panic makes the thread unwind. -/
theorem Moves.join_panicking (hm : Moves P w (.join true) w') : w'.panicking = true := by
  cases hm with
  | @join i k _ _ _ hp =>
    obtain ⟨pc, outbox, hw, -⟩ := w.resume_shape k
    rw [hw]
    simpa using hp
  | @joinPanics i k =>
    obtain ⟨pc, outbox, hw, -⟩ := (w.panic k).resume_shape k.panics
    rw [hw]
    rfl

end Welcome

namespace Daemon
variable {P : Externals} {s t : Daemon}

/-- The condition on a run: no handler runs on a thread that waits in `poll` or
`epoll_wait`. -/
def Uninterrupted (_ : Daemon) (a : Act) : Prop := ∀ sig thread, a ≠ .signal sig thread true

/-- A step of an incarnation in which no reload signal is handled and no other system
call fails. -/
def Calm (_ : Daemon) (a : Act) : Prop :=
  a.fails = false ∧ (∀ thread interrupts, a ≠ .signal .sighup thread interrupts) ∧
    a ≠ .main (.new true)

/-- The welcome thread's terminal message is `ShutdownSignal`. -/
structure ShutsDown (s : Daemon) : Prop where
  terminal : ∀ err ∈ s.history.sent, err.isTerminal = true → err = .shutdownSignal
  /-- A thread that has ended, and not by a panic, has sent it. -/
  ended : s.main.hasWelcome = true → s.welcome.pc = .ended → s.welcome.panicking = false →
    .shutdownSignal ∈ s.history.sent

/-- What an environment thread does not do because of a signal. -/
structure Undisturbed (P : Externals) (s : Daemon) : Prop where
  /-- It has no interrupted wait to report. -/
  reports : ∀ i, s.step P (.env i (.wait (.error eintr))) = none
  /-- A step by which it leaves its loop with clients attached is one on the drop event
  of an owner that has begun to drop it, a panic, or a failed system call. -/
  leaves : ∀ i b t e e', s.step P (.env i b) = some t → s.envs i = some e → t.envs i = some e' →
    e.pc.left = false → e'.pc.left = true → e'.sockets ≠ ∅ →
    b = .dropRead ∧ 0 < e.dropEvent ∧ ¬ s.welcome.Keeps i ∨ e'.panicked = true ∨ b.fails = true

/-! ## Nobody is interrupted -/

/-- No handler has run on a thread in its current wait. -/
structure SteadyOf (w : Welcome) (envs : EnvId → Option Env) : Prop where
  welcome : w.interrupted = false
  envs : ∀ i e, envs i = some e → e.interrupted = false

abbrev Steady (s : Daemon) : Prop := SteadyOf s.welcome s.envs

theorem SteadyOf.update {w : Welcome} {envs : EnvId → Option Env} {i : EnvId} {e : Env}
    (h : SteadyOf w envs) (he : e.interrupted = false) :
    SteadyOf w (Function.update envs i (some e)) := by
  refine ⟨h.welcome, fun j f hj => ?_⟩
  by_cases hji : j = i
  · subst hji
    rw [Function.update_self] at hj
    cases hj
    exact he
  · rw [Function.update_of_ne hji] at hj
    exact h.envs j f hj

theorem answered_interrupted {e e' : Env} {r : Option (Except (Call × Errno) Unit)}
    (h : answered e r = some e') : e'.interrupted = e.interrupted := by
  unfold answered at h
  split at h <;> split at h <;> cases h <;> rfl

theorem WelcomeEffect.steady {a : WelcomeAct} {u : Daemon} (he : WelcomeEffect P s a u)
    (h : s.Steady) : SteadyOf s.welcome u.envs := by
  cases he with
  | envNew => exact h.update rfl
  | insertSend _ hi hs | insertWrite _ hi hs | dropWrite _ hi hs =>
    have hold := h.envs _ _ hi
    obtain ⟨_, -, rfl⟩ := Option.map_eq_some_iff.mp hs
    exact h.update hold
  | insertRecv _ hi hs => exact h.update ((answered_interrupted hs).trans (h.envs _ _ hi))
  | dropFields _ hi =>
    have hold := h.envs _ _ hi
    exact h.update hold
  | recv _ hr =>
    obtain ⟨c, conn, -, -, ⟨rest, -, rfl⟩ | ⟨-, -, rfl⟩⟩ := recvFrom_eq_some hr <;> exact h
  | send _ hr =>
    obtain ⟨c, conn, -, -, -, rfl⟩ := sendTo_eq_some hr
    exact h
  | _ => exact h

end Daemon

theorem Welcome.Moves.interrupted {P : Externals} {w w' : Welcome} {a : WelcomeAct}
    (hm : Moves P w a w') (h : w.interrupted = false) : w'.interrupted = false := by
  cases hm with
  | poll =>
    obtain ⟨pc, outbox, ctl, hw, -⟩ := w.onPoll_shape _
    rw [hw]
    exact h
  | drainEmpty =>
    obtain ⟨pc, outbox, ctl, hw, -⟩ := w.onWelcome_shape _
    rw [hw]
    exact h
  | root | getsockoptFails | recvFails | recvUnanswered | send | close =>
    obtain ⟨pc, outbox, hw, -⟩ := w.closing_shape _ _
    rw [hw]
    exact h
  | @inserted a serializes => cases serializes <;> exact h
  | @join i k =>
    obtain ⟨pc, outbox, hw, -⟩ := w.resume_shape k
    rw [hw]
    exact h
  | @joinPanics i k =>
    obtain ⟨pc, outbox, hw, -⟩ := (w.panic k).resume_shape k.panics
    rw [hw]
    exact h
  | pollFails => rfl
  | _ => exact h

theorem Env.Moves.interrupted {P : Externals} {e e' : Env} {a : EnvAct} (hm : Moves P e a e')
    (h : e.interrupted = false) : e'.interrupted = false := by
  cases hm with
  | waitFails => rfl
  | _ => exact h

namespace Daemon
variable {P : Externals} {s t : Daemon}

theorem Steady.step {a : Act} (h : s.Steady) (hok : Uninterrupted s a) (hs : s.step P a = some t) :
    t.Steady := by
  obtain ⟨-, hp⟩ := step_party hs
  cases hp with
  | main hm =>
    cases hm with
    | listen => exact ⟨rfl, h.envs⟩
    | _ => exact h
  | welcome hm he => exact ⟨hm.interrupted h.welcome, (he.steady h).envs⟩
  | @env i _ e e' u hi hst he =>
    have hnew : SteadyOf s.welcome (Function.update s.envs i (some e')) :=
      h.update ((Env.step_moves hst).interrupted (h.envs i e hi))
    rw [← he.frame.2.1] at hnew
    exact hnew
  | client => exact h
  | @signal sig _ _ _ _ hm =>
    obtain ⟨shutdown, reload, terminated, reloaded, hshape⟩ := s.handler_shape sig
    cases hm with
    | handled =>
      rw [hshape]
      exact h
    | poll | wait => exact absurd rfl (hok _ _)

/-- An interrupted thread is one whose wait fails with `EINTR`. -/
theorem Steady.no_eintr (h : s.Steady) (i : EnvId) :
    s.step P (.env i (.wait (.error eintr))) = none := by
  cases hs : s.step P (.env i (.wait (.error eintr))) with
  | none => rfl
  | some t =>
    obtain ⟨-, hp⟩ := step_party hs
    cases hp with
    | env hi hst he =>
      cases he with
      | plain hp => cases hp
      | waitFails hintr =>
        have := hintr.mpr rfl
        rw [h.envs i _ hi] at this
        cases this

theorem Instances.leaves {i : EnvId} {b : EnvAct} {e e' : Env} (h : s.Instances)
    (hi : s.envs i = some e) (hs : e.step P b = some e') (hwait : b ≠ .wait (.error eintr))
    (hin : e.pc.left = false) (hout : e'.pc.left = true) (hne : e'.sockets ≠ ∅) :
    b = .dropRead ∧ 0 < e.dropEvent ∧ ¬ s.welcome.Keeps i ∨ e'.panicked = true ∨ b.fails = true := by
  obtain ⟨hl, -, -⟩ := h.sound i e hi
  have hdropped (hd : 0 < e.dropEvent) : ¬ s.welcome.Keeps i := by
    intro hk
    rw [(h.kept i e hi hk).1.undropped] at hd
    cases hd
  have hempty {pc : EnvPc} (hpc : e.pc = pc) (hstart : pc.starting = true) : e.sockets = ∅ :=
    (hl.start (hpc ▸ hstart)).2.1
  cases Env.step_moves hs with
  | allocFails _ hpc | epollNewFails _ hpc | epollAddFails _ hpc =>
    exact absurd (hempty hpc rfl) hne
  | allocPanics | addPanics | openMutexPanics => exact .inr (.inl rfl)
  | @waitFails errno =>
    refine .inr (.inr (bne_iff_ne.mpr fun he => ?_))
    subst he
    exact hwait rfl
  | lastGone => exact absurd rfl hne
  | dropRead _ hpc =>
    have hd := hl.drop (by rw [hpc]; trivial)
    exact .inl ⟨rfl, hd, hdropped hd⟩
  | dropReadFails _ hpc =>
    have hd := hl.drop (by rw [hpc]; trivial)
    exact .inl ⟨rfl, hd, hdropped hd⟩
  | sendError => exact absurd (hin.symm.trans hout) nofun
  | closeSend _ hpc | closeWrite _ hpc | leave _ hpc | dropSync _ hpc | dropListener _ hpc =>
    rw [hpc] at hin
    cases hin
  | epollAdd =>
    dsimp only at hout
    split at hout <;> cases hout
  | _ => cases hout

/-! ## Nobody asks for a reload -/

/-- What has not happened in an incarnation without a reload request. -/
structure UnaskedOf (event : Option ℕ) (sent : List DetailedError) (w : Welcome) : Prop where
  event : event.getD 0 = 0
  sent : .reloadRequest ∉ sent
  outbox : .reloadRequest ∉ w.outbox

abbrev Unasked (s : Daemon) : Prop := UnaskedOf s.reloadEvent s.history.sent s.welcome

theorem Unasked.main {a : MainAct} (h : s.Unasked) (hm : MainMoves s a t) (ha : a ≠ .new true) :
    t.Unasked := by
  obtain ⟨hev, hsent, ho⟩ := h
  cases hm with
  | new => exact absurd rfl ha
  | setupEvents => exact ⟨hev, hsent, ho⟩
  | listen => exact ⟨hev, hsent, nofun⟩
  | _ => exact ⟨hev, hsent, ho⟩

/-- The reload event is down, so the read of it fails. -/
theorem Unasked.welcome {a : WelcomeAct} {w : Welcome} {u : Daemon} (h : s.Unasked)
    (hst : s.Steady) (hask : s.welcome.Asking) (hm : Welcome.Moves P s.welcome a w)
    (he : WelcomeEffect P s a u) (ha : a.fails = false) :
    UnaskedOf u.reloadEvent u.history.sent w := by
  obtain ⟨hev, hsent, ho⟩ := h
  have hquiet : a.asksReload = false := by
    cases he with
    | reloadRead hr =>
      rename_i r _
      rw [hev] at hr
      cases r with
      | ok _ => cases hr
      | error errno => cases ha
    | pollFails hintr =>
      rw [hst.welcome] at hintr
      simp only [Bool.false_eq_true, false_iff] at hintr
      rw [WelcomeAct.fails, bne_eq_false_iff_eq] at ha
      exact absurd ha hintr
    | @plain a hp =>
      cases a with
      | createEvent r | listen r =>
        cases r with
        | ok _ => rfl
        | error _ => cases ha
      | poll | reloadRead => cases hp
      | _ => rfl
    | _ => rfl
  refine ⟨?_, ?_, fun hmem => ?_⟩
  · rcases he.events with hsame | ⟨r, -, rfl⟩ | ⟨r, rfl, -⟩
    · rw [hsame.reload, hev]
    · exact hev
    · cases hquiet
  · rw [he.reported.sent]
    intro hmem
    rcases List.mem_append.mp hmem with hmem | hmem
    · exact hsent hmem
    · cases hm with
      | sendError hout =>
        rw [hout, ← List.mem_singleton.mp hmem] at ho
        exact ho List.mem_cons_self
      | _ => cases hmem
  · rcases hm.asks hask.errors hmem with hmem | hasks
    · exact ho hmem
    · rw [hquiet] at hasks
      cases hasks

theorem Unasked.step {a : Act} (h : s.Unasked) (hst : s.Steady) (hc : s.Carries) (hok : Calm s a)
    (hs : s.step P a = some t) : t.Unasked := by
  obtain ⟨hfails, hsig, hnew⟩ := hok
  obtain ⟨-, hp⟩ := step_party hs
  cases hp with
  | main hm => exact h.main hm fun ha => hnew (congrArg Act.main ha)
  | welcome hm he =>
    have hnew' := h.welcome hst hc.carrying.asking hm he hfails
    exact hnew'
  | @env i b e e' u hj hst' he =>
    have hquiet := quiet_reports (hc.mute i e hj) hst'
    have hnew' : UnaskedOf u.reloadEvent u.history.sent s.welcome := by
      rw [he.events.reload, he.reported.sent]
      refine ⟨h.event, fun hmem => ?_, h.outbox⟩
      exact (List.mem_append.mp hmem).elim h.sent (Welcome.Quiet.no_reload hquiet)
    rw [← he.frame.2.1] at hnew'
    exact hnew'
  | client => exact h
  | @signal sig thread interrupts _ _ hm =>
    have hreload : (s.handler sig).reloadEvent = s.reloadEvent := by
      cases sig with
      | sighup => exact absurd rfl (hsig thread interrupts)
      | sigterm | sigint => rfl
    obtain ⟨shutdown, reload, terminated, reloaded, hshape⟩ := s.handler_shape sig
    rw [hshape] at hreload
    cases hm with
    | handled | poll | wait =>
      rw [hshape]
      exact ⟨hreload ▸ h.event, h.sent, h.outbox⟩

/-! ## What the thread says when it ends -/

/-- A welcome thread that is over has announced it, or has unwound. -/
def SaidOrUnwound (s : Daemon) : Prop :=
  s.Announcing ∨ s.welcome.panicking = true ∧ (s.main.settingUp = true → s.main = .start)

theorem SaidOrUnwound.step {a : Act} (h : s.SaidOrUnwound) (hi : s.Instances)
    (hnew : a ≠ .main (.new true)) (hs : s.step P a = some t) : t.SaidOrUnwound := by
  by_cases hok : CleanJoins s a
  · rcases h with h | ⟨hp, hmain⟩
    · exact .inl (h.step hi hok hs)
    · right
      obtain ⟨-, hparty⟩ := step_party hs
      cases hparty with
      | main hm =>
        cases hm with
        | new => exact absurd rfl hnew
        | ahead hset hne => exact absurd (hmain hset) hne
        | setupEvents hm | listen hm =>
          rw [hm] at hmain
          cases hmain rfl
        | drain hm =>
          rw [hm] at hmain
          exact ⟨hp, fun hset => by rw [hm] at hset; cases hset⟩
        | reload => exact ⟨hp, fun _ => rfl⟩
        | _ => exact ⟨hp, nofun⟩
      | welcome hm he =>
        rw [← he.main_eq] at hmain
        exact ⟨hm.panicking hp, hmain⟩
      | env _ _ he =>
        obtain ⟨hm, hw, -⟩ := he.frame
        rw [← hw] at hp
        rw [← hm] at hmain
        exact ⟨hp, hmain⟩
      | client => exact ⟨hp, hmain⟩
      | @signal sig _ _ _ _ hm =>
        obtain ⟨shutdown, reload, terminated, reloaded, hshape⟩ := s.handler_shape sig
        cases hm with
        | handled | poll | wait =>
          rw [hshape]
          exact ⟨hp, hmain⟩
  · -- a panicked thread is joined in the loop
    right
    simp only [CleanJoins, not_forall, not_or] at hok
    obtain ⟨panicked, i, k, e, rfl, hpc, hi', -, he⟩ := hok
    obtain ⟨hlive, hparty⟩ := step_party hs
    cases hparty with
    | welcome hm heff =>
      cases heff with
      | plain hp => cases hp
      | join hpc' hj _ hp =>
        obtain ⟨rfl, rfl⟩ := WelcomePc.join.inj (hpc.symm.trans hpc')
        obtain rfl := Option.some.inj (hi'.symm.trans hj)
        have hpan : panicked = true := by simpa [hp] using he
        subst hpan
        refine ⟨hm.join_panicking, fun hset => ?_⟩
        obtain ⟨-, hrun⟩ := welcome_runs hi hlive hm
        rw [hrun] at hset
        cases hset

/-! ## Signals are requests -/

/-- What holds in every run in which no wait is interrupted. -/
structure Uncut (s : Daemon) : Prop where
  carries : s.Carries
  steady : s.Steady

theorem Uncut.step {a : Act} (h : s.Uncut) (hok : Uninterrupted s a) (hs : s.step P a = some t) :
    t.Uncut := ⟨h.carries.step hs, h.steady.step hok hs⟩

theorem Uncut.run {as : List Act} (hr : Run (Daemon.step P) Uninterrupted boot as s) : s.Uncut := by
  refine hr.invariant (I := Uncut) (fun _ _ _ hok h hs => h.step hok hs) ?_
  exact ⟨Carries.run (P := P) (.nil boot), rfl, fun i e hi => by cases hi⟩

theorem Uncut.undisturbed (h : s.Uncut) : s.Undisturbed P := by
  refine ⟨h.steady.no_eintr, fun i b t e e' hs hi hi' hin hout hne => ?_⟩
  obtain ⟨-, hp⟩ := step_party hs
  cases hp with
  | env hj hst =>
    simp only [Function.update_self, Option.some.injEq] at hi'
    subst hi'
    obtain rfl := Option.some.inj (hi.symm.trans hj)
    refine h.carries.instances.leaves hi hst (fun hb => ?_) hin hout hne
    subst hb
    rw [h.steady.no_eintr] at hs
    cases hs

/-- What holds in such an incarnation. -/
structure Incarnation (s : Daemon) : Prop extends s.Uncut where
  unasked : s.Unasked
  said : s.SaidOrUnwound

theorem Uncut.incarnation (h : s.Uncut) (hmain : s.main = .notifyStarting)
    (hreload : s.reloadEvent.getD 0 = 0) : s.Incarnation := by
  obtain ⟨-, ho, -⟩ := h.carries.instances.keeper.alone (by rw [hmain]; rfl)
  have hsent := h.carries.carrying.fresh (by rw [hmain]; rfl) (by rw [hmain]; nofun)
  refine ⟨h, ⟨hreload, hsent.no_reload, by rw [ho]; nofun⟩, .inl ⟨fun hw => ?_, fun _ ht => ?_⟩⟩
  · rw [hmain] at hw
    cases hw
  · obtain ⟨err, hmem, hterm⟩ := ht
    rw [hsent err hmem] at hterm
    cases hterm

theorem Incarnation.step {a : Act} (h : s.Incarnation) (hok : Uninterrupted s a) (hc : Calm s a)
    (hs : s.step P a = some t) : t.Incarnation :=
  ⟨h.toUncut.step hok hs, h.unasked.step h.steady h.carries hc hs,
    h.said.step h.carries.instances hc.2.2 hs⟩

theorem Incarnation.shutsDown (h : s.Incarnation) : s.ShutsDown := by
  have hterm (err : DetailedError) (hmem : err ∈ s.history.sent) (ht : err.isTerminal = true) :
      err = .shutdownSignal := by
    cases err with
    | shutdownSignal => rfl
    | reloadRequest => exact absurd hmem h.unasked.sent
    | _ => cases ht
  refine ⟨hterm, fun hw hpc hp => ?_⟩
  rcases h.said with hann | ⟨hpan, -⟩
  · obtain ⟨err, hmem, ht⟩ := (hann.neverSilent h.carries.reporting hw hpc).1
    exact hterm err hmem ht ▸ hmem
  · rw [hp] at hpan
    cases hpan

/-- In every run in which no handler runs on a thread that waits in `poll` or
`epoll_wait`, no environment thread is disturbed by a signal; and in every incarnation
of such a run that starts with no reload request pending, and in which none is handled
and no other system call fails, the terminal message is `ShutdownSignal`. -/
theorem signals_are_requests {as : List Act} (hr : Run (Daemon.step P) Uninterrupted boot as s) :
    s.Undisturbed P ∧ (s.main = .notifyStarting → s.reloadEvent.getD 0 = 0 → ∀ bs t,
      Run (Daemon.step P) (fun s a => Uninterrupted s a ∧ Calm s a) s bs t → t.ShutsDown) := by
  refine ⟨(Uncut.run hr).undisturbed, fun hmain hreload bs t ht => ?_⟩
  exact (ht.invariant (I := Incarnation) (fun _ _ _ hok h hs => h.step hok.1 hok.2 hs)
    ((Uncut.run hr).incarnation hmain hreload)).shutsDown

/-- The conditions, decided. -/
def uninterrupted (_ : Daemon) : Act → Bool
  | .signal _ _ interrupts => !interrupts
  | _ => true

theorem uninterrupted_of {a : Act} (h : s.uninterrupted a = true) : Uninterrupted s a := by
  rintro sig thread rfl
  cases h

def calm (_ : Daemon) (a : Act) : Bool :=
  !a.fails && match a with
    | .signal .sighup _ _ | .main (.new true) => false
    | _ => true

theorem calm_of {a : Act} (h : s.calm a = true) : Calm s a := by
  obtain ⟨hfails, ha⟩ := Bool.and_eq_true_iff.mp h
  refine ⟨by simpa using hfails, ?_, ?_⟩
  · rintro thread interrupts rfl
    cases ha
  · rintro rfl
    cases ha

/-- A client is attached, and a `SIGTERM` is handled on an environment thread between
two waits. -/
def stopsCalmly : List Act :=
  startUp.tail ++ handsOver ++ adds.dropLast ++ [.signal .sigterm (.env 0) false] ++
    [.env 0 (.dispatch none)] ++ answers ++
    [.welcome (.poll (.ok ⟨.readable, .none, .none, .none⟩)), .welcome (.shutdownRead (.ok ())),
      .welcome (.sendError .shutdownSignal), .main (.recv false), .welcome .dropLocals,
      .welcome (.teardown (some 0)), .welcome (.dropWrite true), .welcome .dropFields,
      .env 0 (.wait (.ok [.drop])), .env 0 (.dispatch (some .drop)), .env 0 .dropRead,
      .env 0 (.leave false), .env 0 .dropSync, .env 0 .dropListener, .welcome (.join false),
      .welcome (.teardown none)]

theorem signals_are_requests_sigterm : ∃ s t,
    Run (Daemon.step .oneLetter) Uninterrupted boot [.main (.new true)] s ∧
      Run (Daemon.step .oneLetter) (fun s a => Uninterrupted s a ∧ Calm s a) s stopsCalmly t ∧
      t.history.terminated = true ∧ t.welcome.pc = .ended ∧ .shutdownSignal ∈ t.history.sent ∧
      s.Undisturbed .oneLetter ∧ t.ShutsDown := by
  have hstart : (exec (Daemon.step .oneLetter) uninterrupted boot [.main (.new true)]).any (fun s =>
      s.main = .notifyStarting ∧ s.reloadEvent.getD 0 = 0 ∧
        (exec (Daemon.step .oneLetter) (fun s a => s.uninterrupted a && s.calm a) s stopsCalmly).any
          (fun t => t.main.hasWelcome = true ∧ t.history.terminated = true ∧
            t.welcome.pc = .ended ∧ t.welcome.panicking = false)) := by decide
  obtain ⟨s, hr, hp⟩ := Run.of_exec_any (fun _ _ => uninterrupted_of) hstart
  obtain ⟨hmain, hreload, hrest⟩ := of_decide_eq_true hp
  have hok (s : Daemon) (a : Act) (h : (s.uninterrupted a && s.calm a) = true) :
      Uninterrupted s a ∧ Calm s a := (Bool.and_eq_true_iff.mp h).imp uninterrupted_of calm_of
  obtain ⟨t, ht, hq⟩ := Run.of_exec_any hok hrest
  obtain ⟨hw, hterm, hpc, hpan⟩ := of_decide_eq_true hq
  obtain ⟨hun, hdown⟩ := signals_are_requests hr
  have hshut := hdown hmain hreload _ t ht
  exact ⟨s, t, hr, ht, hterm, hpc, hshut.ended hw hpc hpan, hun, hshut⟩

/-- A `SIGTERM` that is handled on the welcome thread in its `poll`. -/
def cutShort : List Act :=
  startUp.tail ++ [.signal .sigterm .welcome true, .welcome (.poll (.error eintr)),
    .welcome (.sendError (.sys .poll eintr)), .welcome (.sendError .reloadRequest)]

theorem interrupted_reloads : ¬ ∀ P as s bs t, Run (Daemon.step P) anyStep boot as s →
    s.main = .notifyStarting → s.reloadEvent.getD 0 = 0 → Run (Daemon.step P) Calm s bs t →
      t.history.terminated = true → t.ShutsDown := by
  intro h
  have hstart : (exec (Daemon.step .oneLetter) (fun _ _ => true) boot [.main (.new true)]).any
      (fun s => s.main = .notifyStarting ∧ s.reloadEvent.getD 0 = 0 ∧
        (exec (Daemon.step .oneLetter) calm s cutShort).any
          (fun t => t.history.terminated = true ∧ .reloadRequest ∈ t.history.sent)) := by decide
  obtain ⟨s, hr, hp⟩ := Run.of_exec_any (fun _ _ _ => trivial) hstart
  obtain ⟨hmain, hreload, hrest⟩ := of_decide_eq_true hp
  obtain ⟨t, ht, hq⟩ := Run.of_exec_any (fun _ _ => calm_of) hrest
  obtain ⟨hterm, hmem⟩ := of_decide_eq_true hq
  cases (h _ _ s _ t hr hmain hreload ht hterm).terminal _ hmem rfl

end Daemon
end Garnd
