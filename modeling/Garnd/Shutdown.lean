import Garnd.Silent

/- The way of a shutdown request. It is in the shutdown eventfd, then in the hands of
   the welcome thread that has read it, then a `ShutdownSignal` in the error channel of
   the incarnation, then with `main`. A reload throws the thread and the channel away,
   but a `ReloadRequest` is the last thing a welcome thread says, so what is in the
   eventfd then is still there for the next incarnation (`shutdown_kept`). -/
namespace Garnd
open Transition

/-- A `ShutdownSignal` is queued, and no `ReloadRequest` before it. -/
def ShutdownQueued (errors : List DetailedError) : Prop :=
  ∃ pre post, errors = pre ++ .shutdownSignal :: post ∧ .reloadRequest ∉ pre

/-- `main` has taken no terminal message of the incarnation. -/
def MainPc.untaken : MainPc → Bool
  | .start | .join (.drain _) | .drain _ | .exited _ => false
  | _ => true

/-- `main` has taken a `ReloadRequest`, or a `ShutdownSignal`, and ends the
incarnation. -/
def MainPc.ending (reload : Bool) : MainPc → Bool
  | .join (.drain r) | .drain r => r == reload
  | _ => false

theorem MainPc.no_ending {m : MainPc} {reload : Bool} (h : m.settingUp = true) :
    m.ending reload = false := by
  cases m <;> first | rfl | cases h

theorem MainPc.untaken_of_settingUp {m : MainPc} (h : m.settingUp = true) (hne : m ≠ .start) :
    m.untaken = true := by
  cases m <;> first | rfl | exact absurd rfl hne | cases h

theorem MainPc.live_of_ending {m : MainPc} {reload : Bool} (h : m.ending reload = true) :
    m.live = true := by
  cases m <;> first | rfl | cases h

theorem MainPc.of_hasWelcome {m : MainPc} (h : m.hasWelcome = true) :
    m.untaken = true ∨ m.ending false = true ∨ m.ending true = true := by
  cases m with
  | notifyListening | recv => exact .inl rfl
  | drain r => cases r <;> simp [ending]
  | join k =>
    cases k with
    | exitFailure => exact .inl rfl
    | drain r => cases r <;> simp [ending]
  | _ => cases h

theorem MainPc.live_of_untaken {m : MainPc} (h : m.untaken = true) : m.live = true := by
  cases m <;> first | rfl | cases h

namespace Welcome
variable {P : Externals} {w w' : Welcome} {a : WelcomeAct}

/-- The thread has seen the shutdown event and not yet sent its `ShutdownSignal`. -/
def ShuttingDown (w : Welcome) : Prop :=
  w.pc = .shutdownRead ∨ w.pc = .ret false ∧ .shutdownSignal ∈ w.outbox

/-- A `ReloadRequest` that is to be sent is the last thing in the outbox of a thread
that returns. -/
structure Asking (w : Welcome) : Prop where
  outbox : .reloadRequest ∉ w.outbox ∨
    ∃ pre, w.outbox = pre ++ [.reloadRequest] ∧ Quiet pre ∧ w.pc.returning = true
  errors : Quiet w.pc.errors

theorem asking_new : new.Asking := ⟨.inl nofun, nofun⟩

theorem Quiet.no_reload {errors : List DetailedError} (h : Quiet errors) :
    .reloadRequest ∉ errors := fun hm => nomatch h _ hm

/-- The thread goes on with errors that are none of the two messages. -/
theorem Asking.quiet (ho : Quiet w.outbox) (he : Quiet w.pc.errors) : w.Asking :=
  ⟨.inl ho.no_reload, he⟩

theorem Asking.clear (ho : w.outbox = []) (he : w.pc.errors = []) : w.Asking :=
  .quiet (by simp [ho, Quiet]) (by simp [he, Quiet])

/-- The thread has something to send, and nothing collected. -/
theorem Asking.sends (ho : Quiet w.outbox) (he : w.pc.errors = []) : w.Asking :=
  .quiet ho (by simp [he, Quiet])

theorem Asking.closing {fds : List RawFd} {errors : List DetailedError} (ho : w.outbox = [])
    (he : Quiet errors) : (w.closing fds errors).Asking := by
  unfold Welcome.closing
  split
  · split
    · exact .clear ho rfl
    · exact .sends he rfl
  · exact .quiet (by simp [ho, Quiet]) he

theorem Asking.onWelcome {r : Revents} (ho : w.outbox = []) : (w.onWelcome r).Asking := by
  unfold Welcome.onWelcome
  split
  · exact .clear ho rfl
  · split
    · exact ⟨.inl (by simp), nofun⟩
    · exact .clear ho rfl

theorem Asking.onPoll {r : PollResult} (ho : w.outbox = []) : (w.onPoll r).Asking := by
  unfold Welcome.onPoll
  split
  · exact .clear ho rfl
  · split
    · exact .clear ho rfl
    · split
      · exact .clear ho rfl
      · exact .onWelcome ho

theorem Asking.resume {k : After} (ho : w.outbox = []) (he : Quiet k.errors) :
    (w.resume k).Asking := by
  cases k with
  | finish fds errors => exact .closing ho he
  | unwind fds => exact .closing ho nofun
  | drain | returning | teardown => exact .clear ho rfl

/-- The thread is about to return with a `ReloadRequest`. -/
theorem Asking.last {pre : List DetailedError} (hp : Quiet pre) (hpc : w.pc = .ret false)
    (ho : w.outbox = pre ++ [.reloadRequest]) : w.Asking :=
  ⟨.inr ⟨pre, ho, hp, by rw [hpc]; rfl⟩, by rw [hpc]; exact nofun⟩

theorem Asking.fail {fd : RawFd} {err : DetailedError} {abandon : Option EnvId} {fds : List RawFd}
    (ho : w.outbox = []) (he : err.isTerminal = false) : (w.fail fd err abandon fds).Asking :=
  .quiet (by simp [Welcome.fail, ho, Quiet]) (by simp [Welcome.fail, WelcomePc.errors, Quiet, he])

/-- A step that sends nothing. -/
theorem Asking.moves (h : w.Asking) (ha : ∀ e, a ≠ .sendError e) (hm : Moves P w a w') :
    w'.Asking := by
  have hpend := h.errors
  cases hm with
  | sendError => exact absurd rfl (ha _)
  | poll ho => exact .onPoll ho
  | createEventFails | listenFails | pollFails =>
    exact .last (by simp [Quiet, DetailedError.isTerminal]) rfl List.singleton_append.symm
  | reloadRead => exact .last (quiet_readErrors _) rfl rfl
  | shutdownRead =>
    refine ⟨.inl fun hr => ?_, by rintro - ⟨⟩⟩
    rcases List.mem_append.mp hr with hr | hr
    · exact (quiet_readErrors _).no_reload hr
    · cases List.mem_singleton.mp hr
  | closeRead => exact .sends (quiet_readErrors _) rfl
  | drainUnbound ho => exact .quiet (by simp [ho, Quiet]) hpend
  | drainEmpty ho => exact .onWelcome ho
  | drainDisconnected => exact .quiet (by simp [Quiet, DetailedError.isTerminal]) hpend
  | acceptFails => exact .sends (by simp [Quiet, DetailedError.isTerminal]) rfl
  | root ho | getsockoptFails ho | recvFails ho =>
    exact .closing ho (by simp [Quiet, DetailedError.isTerminal])
  | recvMalformed ho _ hm =>
    exact .quiet (by simp [ho, Quiet]) (by simp [WelcomePc.errors, Quiet, parseRequest_error hm])
  | recvUnanswered ho _ hm =>
    refine .closing ho fun e he => ?_
    rcases List.mem_cons.mp he with rfl | he
    · exact parseRequest_error hm
    · rw [List.mem_singleton.mp he]
      rfl
  | dupFails ho | envNewFails ho | insertSendFails ho | insertWriteFails ho | refused ho
  | hungUp ho => exact .fail ho rfl
  | @inserted _ serializes ho =>
    unfold Welcome.inserted
    cases serializes with
    | true => exact .clear ho rfl
    | false => exact .fail ho rfl
  | sendAbandon ho hpc =>
    rw [hpc] at hpend
    exact .quiet (by simp [ho, Quiet]) (quiet_sendErrors hpend)
  | send ho hpc =>
    rw [hpc] at hpend
    exact .closing ho (quiet_sendErrors hpend)
  | dropWrite ho hpc | dropFields ho hpc =>
    rw [hpc] at hpend
    exact .quiet (by simp [ho, Quiet]) hpend
  | @dropWritePanics i k ho hpc =>
    exact .clear ho k.panics_errors
  | join ho hpc =>
    rw [hpc] at hpend
    exact .resume ho hpend
  | @joinPanics i k ho => exact .resume ho (by simp [k.panics_errors, Quiet])
  | close ho hpc =>
    rw [hpc] at hpend
    exact .closing ho hpend
  | createEvent ho | listen ho | drainBound ho | accept ho | notRoot ho | recv ho | occupied ho
  | vacant ho | envNew ho | insertSend ho | insertWrite ho | dropLocals ho | teardown ho | ended ho =>
    exact .clear ho rfl

/-- A `ReloadRequest` is sent last. -/
theorem Asking.step (h : w.Asking) (hm : Moves P w a w') :
    w'.Asking ∧ (.reloadRequest ∈ a.reports → w'.Returning) := by
  by_cases ha : ∀ e, a ≠ .sendError e
  · refine ⟨h.moves ha hm, fun hr => ?_⟩
    cases a with
    | sendError e => exact absurd rfl (ha e)
    | _ => cases hr
  · cases hm with
    | @sendError err errors ho =>
      rcases h.outbox with hn | ⟨pre, heq, hq, hpc⟩
      · rw [ho, List.mem_cons, not_or] at hn
        refine ⟨⟨.inl hn.2, h.errors⟩, fun hr => ?_⟩
        exact absurd (List.mem_singleton.mp hr) hn.1
      · rw [ho] at heq
        cases pre with
        | nil =>
          cases heq
          exact ⟨⟨.inl nofun, h.errors⟩, fun _ => ⟨rfl, hpc⟩⟩
        | cons e pre =>
          cases heq
          have hpre : Quiet pre := fun e' he' => hq e' (List.mem_cons_of_mem _ he')
          refine ⟨⟨.inr ⟨pre, rfl, hpre, hpc⟩, h.errors⟩, fun hr => ?_⟩
          have := hq err List.mem_cons_self
          rw [← List.mem_singleton.mp hr] at this
          cases this
    | _ => exact absurd nofun ha

end Welcome
namespace Daemon
variable {P : Externals} {s t : Daemon}

/-- No terminal message comes after a `ReloadRequest`. -/
def ReloadLast (errors : List DetailedError) : Prop :=
  errors.Pairwise fun a b => a = .reloadRequest → b.isTerminal = false

theorem ReloadLast.append {errors new : List DetailedError} (h : ReloadLast errors)
    (hnew : new.length ≤ 1) (hq : .reloadRequest ∈ errors → Welcome.Quiet new) :
    ReloadLast (errors ++ new) := by
  refine List.pairwise_append.mpr ⟨h, ?_, ?_⟩
  · cases new with
    | nil => exact .nil
    | cons e rest =>
      obtain rfl := List.eq_nil_of_length_eq_zero (Nat.le_zero.mp (Nat.le_of_succ_le_succ hnew))
      exact List.pairwise_singleton _ _
  · rintro a ha b hb rfl
    exact hq ha b hb

/-- What holds of a shutdown request and of the messages on its way. `sent` and
`logged` are those of the incarnation. -/
structure CarryingOf (main : MainPc) (event : Option ℕ) (terminated : Bool)
    (sent logged received : List DetailedError) (w : Welcome) : Prop where
  asking : w.Asking
  fresh : main.settingUp = true → main ≠ .start → Welcome.Quiet sent
  returning : main.hasWelcome = true → .reloadRequest ∈ sent → w.Returning
  order : ReloadLast sent
  untaken : main.untaken = true → Welcome.Quiet logged
  reloading : main.ending true = true → .reloadRequest ∈ logged
  stopping : main.ending false = true → .shutdownSignal ∈ received
  stopped : .shutdownSignal ∈ received → main.ending false = true ∨ ∃ e, main = .exited e
  kept : terminated = true → (∀ e, main ≠ .exited e) → 0 < event.getD 0 ∨ w.ShuttingDown ∨
    (.shutdownSignal ∈ sent ∧ main.untaken = true) ∨ .shutdownSignal ∈ received

abbrev Carrying (s : Daemon) : Prop :=
  CarryingOf s.main s.shutdownEvent s.history.terminated s.history.sent s.history.logged
    s.history.received s.welcome

theorem carrying_boot : boot.Carrying where
  asking := .quiet nofun nofun
  fresh _ hne := absurd rfl hne
  returning := nofun
  order := .nil
  untaken := nofun
  reloading := nofun
  stopping := nofun
  stopped := nofun
  kept := nofun

/-- `main` has taken no terminal message, so what it has not logged is queued. -/
theorem Carrying.queued (h : s.Carrying) (hrep : s.Reporting) (hmain : s.main.untaken = true)
    (hs : .shutdownSignal ∈ s.history.sent) : ShutdownQueued s.errors := by
  have hlogged := h.untaken hmain
  have hsent := hrep.queue (MainPc.live_of_untaken hmain)
  rw [hsent, List.mem_append] at hs
  rcases hs with hs | hs
  · cases hlogged _ hs
  · obtain ⟨pre, post, he⟩ := List.append_of_mem hs
    refine ⟨pre, post, he, fun hr => ?_⟩
    have horder := h.order
    rw [hsent, he, ReloadLast, List.pairwise_append, List.pairwise_append] at horder
    have := horder.2.1.2.2 _ hr _ List.mem_cons_self rfl
    cases this

/-- A `ReloadRequest` that `main` takes has no `ShutdownSignal` behind it. -/
theorem Carrying.reload_last (h : s.Carrying) (hrep : s.Reporting) (hmain : s.main = .recv)
    {rest : List DetailedError} (he : s.errors = .reloadRequest :: rest) :
    .shutdownSignal ∉ s.history.sent := by
  have hlogged := h.untaken (by rw [hmain]; rfl)
  have hsent := hrep.queue (by rw [hmain]; rfl)
  have horder := h.order
  rw [hsent, he, ReloadLast, List.pairwise_append, List.pairwise_cons] at horder
  rw [hsent, he]
  intro hs
  rcases List.mem_append.mp hs with hs | hs
  · cases hlogged _ hs
  · rcases List.mem_cons.mp hs with hs | hs
    · cases hs
    · cases horder.2.1.1 _ hs rfl

theorem Carrying.main {a : MainAct} (h : s.Carrying) (hi : s.Instances) (hrep : s.Reporting)
    (hm : MainMoves s a t) : t.Carrying := by
  have hclosed (hal : s.main.alone = true) : ¬ s.welcome.ShuttingDown := by
    have hpc := (hi.keeper.alone hal).1
    rintro (hs | ⟨hs, -⟩) <;> rw [hpc] at hs <;> cases hs
  have hnever (hp : s.main.ending false = false) (hne : ∀ e, s.main ≠ .exited e) :
      .shutdownSignal ∉ s.history.received := by
    intro hr
    rcases h.stopped hr with hs | ⟨e, hs⟩
    · rw [hp] at hs
      cases hs
    · exact hne e hs
  have h' := h
  obtain ⟨hask, hfresh, hret, hord, hunt, hrel, hstop, hstd, hkept⟩ := h
  cases hm with
  | new hmain =>
    refine ⟨hask, fun _ _ => nofun, nofun, .nil, fun _ => nofun, nofun, nofun, ?_, fun ht _ => ?_⟩
    · exact fun hr => absurd hr (hnever (by rw [hmain]; rfl) (by rw [hmain]; nofun))
    · rcases hkept ht (by rw [hmain]; nofun) with hk | hk | ⟨-, hk⟩ | hk
      · exact .inl hk
      · exact absurd hk (hclosed (by rw [hmain]; rfl))
      · rw [hmain] at hk
        cases hk
      · exact .inr (.inr (.inr hk))
  | ahead hset hne hset' hne' =>
    have hunt' := hunt (MainPc.untaken_of_settingUp hset hne)
    refine ⟨hask, fun _ _ => hfresh hset hne, fun hw => ?_, hord, fun _ => hunt', fun he => ?_,
      fun he => ?_, fun hr => ?_, fun ht _ => ?_⟩
    · rw [MainPc.no_welcome hset'] at hw
      cases hw
    · rw [MainPc.no_ending hset'] at he
      cases he
    · rw [MainPc.no_ending hset'] at he
      cases he
    · refine absurd hr (hnever (MainPc.no_ending hset) ?_)
      rintro e he
      rw [he] at hset
      cases hset
    · have hk := hkept ht (by rintro e he; rw [he] at hset; cases hset)
      exact hk.imp_right (Or.imp_right (Or.imp_left fun hs =>
        ⟨hs.1, MainPc.untaken_of_settingUp hset' hne'⟩))
  | setupEvents hmain =>
    rw [hmain] at hfresh hunt hkept hnever
    exact ⟨hask, fun _ _ => hfresh rfl nofun, nofun, hord, fun _ => hunt rfl, nofun, nofun,
      fun hr => absurd hr (hnever rfl nofun), fun ht _ => hkept ht nofun⟩
  | listen hmain =>
    have hquiet := hfresh (by rw [hmain]; rfl) (by rw [hmain]; nofun)
    have hclosed' := hclosed (by rw [hmain]; rfl)
    rw [hmain] at hunt hkept hnever
    refine ⟨Welcome.asking_new, nofun, fun _ hr => absurd hr hquiet.no_reload, hord,
      fun _ => hunt rfl, nofun, nofun, fun hr => absurd hr (hnever rfl nofun), fun ht _ => ?_⟩
    exact (hkept ht nofun).imp_right (Or.imp_left fun hs => absurd hs hclosed')
  | notifyListening hmain | notifyListeningFails hmain =>
    rw [hmain] at hret hunt hkept hnever
    exact ⟨hask, nofun, fun _ => hret rfl, hord, fun _ => hunt rfl, nofun, nofun,
      fun hr => absurd hr (hnever rfl nofun), fun ht _ => hkept ht nofun⟩
  | @recv _ err rest hmain he hterm =>
    rw [hmain] at hret hunt hkept hnever
    refine ⟨hask, nofun, fun _ => hret rfl, hord, fun _ e hmem => ?_, nofun, nofun, fun hr => ?_,
      fun ht _ => ?_⟩
    · rcases List.mem_append.mp hmem with hmem | hmem
      · exact hunt rfl e hmem
      · rwa [List.mem_singleton.mp hmem]
    · rcases List.mem_append.mp hr with hr | hr
      · exact absurd hr (hnever rfl nofun)
      · rw [← List.mem_singleton.mp hr] at hterm
        cases hterm
    · exact (hkept ht nofun).imp_right (Or.imp_right (Or.imp_right (List.mem_append_left _)))
  | recvShutdown hmain =>
    rw [hmain] at hret
    have hgot : .shutdownSignal ∈ s.history.received ++ [.shutdownSignal] :=
      List.mem_append_right _ List.mem_cons_self
    exact ⟨hask, nofun, fun _ => hret rfl, hord, nofun, nofun, fun _ => hgot, fun _ => .inl rfl,
      fun _ _ => .inr (.inr (.inr hgot))⟩
  | @recvReload rest hmain he =>
    have hlast := h'.reload_last hrep hmain he
    rw [hmain] at hret hkept hnever
    refine ⟨hask, nofun, fun _ => hret rfl, hord, nofun,
      fun _ => List.mem_append_right _ List.mem_cons_self, nofun, fun hr => ?_, fun ht _ => ?_⟩
    · rcases List.mem_append.mp hr with hr | hr
      · exact absurd hr (hnever rfl nofun)
      · cases List.mem_singleton.mp hr
    · rcases hkept ht nofun with hk | hk | ⟨hk, -⟩ | hk
      · exact .inl hk
      · exact .inr (.inl hk)
      · exact absurd hk hlast
      · exact .inr (.inr (.inr (List.mem_append_left _ hk)))
  | @join r hmain =>
    rw [hmain] at hret hrel hstop hstd hkept
    refine ⟨hask, nofun, fun _ => hret rfl, hord, nofun, hrel, hstop, fun hr => ?_, fun ht _ => ?_⟩
    · rcases hstd hr with hs | ⟨e, hs⟩
      · exact .inl hs
      · cases hs
    · exact hkept ht nofun
  | drain hmain =>
    rw [hmain] at hret hrel hstop hstd hkept
    refine ⟨hask, ?_, fun _ => hret rfl, hord, ?_, ?_, ?_, ?_, ?_⟩ <;> dsimp only <;> rw [hmain]
    · nofun
    · nofun
    · exact fun hr => List.mem_append_left _ (hrel hr)
    · exact hstop
    · exact hstd
    · exact hkept
  | reload hmain =>
    rw [hmain] at hkept hnever
    refine ⟨hask, fun _ hne => absurd rfl hne, nofun, hord, nofun, nofun, nofun,
      fun hr => absurd hr (hnever rfl nofun), fun ht _ => ?_⟩
    exact hkept ht nofun
  | fails | recvTripped | joinExits | success =>
    exact ⟨hask, nofun, nofun, hord, nofun, nofun, nofun, fun _ => .inr ⟨_, rfl⟩,
      fun _ hne => absurd rfl (hne _)⟩

/-- While the welcome thread runs, `main` is with its incarnation. -/
theorem welcome_runs {a : WelcomeAct} {w : Welcome} (hi : s.Instances)
    (hlive : ∀ e, s.main ≠ .exited e) (hm : Welcome.Moves P s.welcome a w) :
    s.main.hasWelcome = true ∧ s.main.settingUp = false := by
  have hal : s.main.alone = false := by
    cases hal : s.main.alone with
    | false => rfl
    | true =>
      obtain ⟨hpc, ho, -⟩ := hi.keeper.alone hal
      exact absurd hm (Welcome.ended_over hpc ho)
  revert hal hlive
  cases s.main with
  | exited e => exact fun hlive => absurd rfl (hlive e)
  | notifyListening | recv | join | drain => exact fun _ _ => ⟨rfl, rfl⟩
  | _ => exact fun _ hal => nomatch hal

/-- A request that the thread has in its hands is passed on. -/
theorem Carrying.shuttingDown {a : WelcomeAct} {w : Welcome} (h : s.Carrying) (hi : s.Instances)
    (hrep : s.Reporting) (hlive : ∀ e, s.main ≠ .exited e) (hm : Welcome.Moves P s.welcome a w)
    (hs : s.welcome.ShuttingDown) : w.ShuttingDown ∨
      (.shutdownSignal ∈ a.reports ∧ s.main.untaken = true) ∨
      .shutdownSignal ∈ s.history.received := by
  have hat := hm.at
  rcases hs with hpc | ⟨hpc, hmem⟩ <;> rw [hpc] at hat
  · cases a with
    | sendError =>
      cases hm
      exact .inl (.inl hpc)
    | shutdownRead =>
      cases hm
      exact .inl (.inr ⟨rfl, List.mem_append_right _ List.mem_cons_self⟩)
    | _ => cases hat
  · cases a with
    | sendError =>
      cases hm with
      | @sendError err errors ho =>
        rw [ho] at hmem
        rcases List.mem_cons.mp hmem with rfl | hmem
        · right
          obtain ⟨hw, -⟩ := welcome_runs (P := P) hi hlive (.sendError ho)
          rcases MainPc.of_hasWelcome hw with hunt | hend | hend
          · exact .inl ⟨List.mem_cons_self, hunt⟩
          · exact .inr (h.stopping hend)
          · -- a thread that has sent a `ReloadRequest` has nothing left to send
            have hsent : .reloadRequest ∈ s.history.sent := by
              rw [hrep.queue (MainPc.live_of_ending hend)]
              exact List.mem_append_left _ (h.reloading hend)
            have hnone := (h.returning hw hsent).outbox
            rw [ho] at hnone
            cases hnone
        · exact .inl (.inr ⟨hpc, hmem⟩)
    | dropLocals =>
      cases hm with
      | dropLocals ho =>
        rw [ho] at hmem
        cases hmem
    | _ => cases hat

theorem Carrying.welcome {a : WelcomeAct} {w : Welcome} {u : Daemon} (h : s.Carrying)
    (hi : s.Instances) (hrep : s.Reporting) (hlive : ∀ e, s.main ≠ .exited e)
    (hm : Welcome.Moves P s.welcome a w) (he : WelcomeEffect P s a u) :
    CarryingOf s.main u.shutdownEvent u.history.terminated u.history.sent u.history.logged
      u.history.received w := by
  obtain ⟨hw, hset⟩ := welcome_runs hi hlive hm
  have hr := he.reported
  obtain ⟨hask, hlast⟩ := h.asking.step hm
  -- after a `ReloadRequest` the thread only returns
  have hgone (hmem : .reloadRequest ∈ s.history.sent) : a.reports = [] ∧ w.Returning := by
    obtain ⟨ha, hret⟩ := (h.returning hw hmem).moves hm
    refine ⟨?_, hret⟩
    cases a with
    | sendError => cases ha
    | _ => rfl
  have hterm : u.history.terminated = s.history.terminated := by
    rcases he.events with hsame | ⟨r, -, rfl⟩ | ⟨r, -, rfl⟩
    · exact hsame.terminated
    · rfl
    · rfl
  rw [hr.sent, hr.logged, hr.received, hterm]
  refine ⟨hask, fun hf => ?_, fun _ hmem => ?_, h.order.append (a.reports_length) fun hmem => ?_,
    h.untaken, h.reloading, h.stopping, h.stopped, fun ht hne => ?_⟩
  · rw [hset] at hf
    cases hf
  · rcases List.mem_append.mp hmem with hmem | hmem
    · exact (hgone hmem).2
    · exact hlast hmem
  · rw [(hgone hmem).1]
    exact nofun
  · rcases h.kept ht hne with hk | hk | ⟨hk, hunt⟩ | hk
    · rcases he.events with hsame | ⟨r, rfl, rfl⟩ | ⟨r, rfl, rfl⟩
      · exact .inl (by rw [hsame.shutdown]; exact hk)
      · cases hm with
        | shutdownRead =>
          exact .inr (.inl (.inr ⟨rfl, List.mem_append_right _ List.mem_cons_self⟩))
      · exact .inl hk
    · rcases h.shuttingDown hi hrep hlive hm hk with hk | ⟨hk, hunt⟩ | hk
      · exact .inr (.inl hk)
      · exact .inr (.inr (.inl ⟨List.mem_append_right _ hk, hunt⟩))
      · exact .inr (.inr (.inr hk))
    · exact .inr (.inr (.inl ⟨List.mem_append_left _ hk, hunt⟩))
    · exact .inr (.inr (.inr hk))

/-- A report of an environment thread is none of the two messages. -/
theorem quiet_reports {e e' : Env} {b : EnvAct} (h : e.Mute) (hs : e.step P b = some e') :
    Welcome.Quiet b.reports := by
  cases Env.step_moves hs with
  | sendError ho =>
    intro err hmem
    rw [List.mem_singleton.mp hmem]
    exact h _ (List.mem_append_left _ (by rw [ho]; exact List.mem_cons_self))
  | _ => exact nofun

theorem Carrying.env {i : EnvId} {e e' : Env} {b : EnvAct} {u : Daemon} (h : s.Carrying)
    (hq : Welcome.Quiet b.reports) (he : EnvEffect P s i e e' b u) :
    CarryingOf s.main u.shutdownEvent u.history.terminated u.history.sent u.history.logged
      u.history.received s.welcome := by
  have hr := he.reported
  have hev := he.events
  rw [hr.sent, hr.logged, hr.received, hev.shutdown, hev.terminated]
  have hold {err : DetailedError} (ht : err.isTerminal = true)
      (hmem : err ∈ s.history.sent ++ b.reports) : err ∈ s.history.sent := by
    rcases List.mem_append.mp hmem with hmem | hmem
    · exact hmem
    · rw [hq err hmem] at ht
      cases ht
  refine ⟨h.asking, fun hset hne e hmem => ?_, fun hw hmem => h.returning hw (hold rfl hmem),
    h.order.append b.reports_length fun _ => hq, h.untaken, h.reloading, h.stopping, h.stopped,
    fun ht hne => ?_⟩
  · rcases List.mem_append.mp hmem with hmem | hmem
    · exact h.fresh hset hne e hmem
    · exact hq e hmem
  · exact (h.kept ht hne).imp_right (Or.imp_right (Or.imp_left fun hs =>
      ⟨List.mem_append_left _ hs.1, hs.2⟩))

/-- After a termination handler the event is up. -/
theorem handler_raises (sig : Signal) (hev : s.shutdownEvent ≠ none)
    (ht : (s.handler sig).history.terminated = true) :
    s.history.terminated = true ∨ 0 < (s.handler sig).shutdownEvent.getD 0 := by
  have hup {count : ℕ} (hs : s.shutdownEvent = some count) : 0 <
      (s.shutdownEvent.map fun count => (EventFd.write count).getD count).getD 0 := by
    simp only [hs, Option.map_some, Option.getD_some]
    cases hw : EventFd.write count with
    | none =>
      refine Nat.pos_of_ne_zero fun hz => ?_
      simp only [Option.getD_none] at hz
      rw [hz, EventFd.write_zero] at hw
      cases hw
    | some next =>
      obtain ⟨-, rfl⟩ := EventFd.write_eq_some.mp hw
      exact Nat.succ_pos count
  obtain ⟨count, hs⟩ := Option.ne_none_iff_exists'.mp hev
  cases sig with
  | sighup => exact .inl ht
  | sigterm | sigint => exact .inr (hup hs)

theorem Carrying.signal {sig : Signal} {thread : Thread} {interrupts : Bool} (h : s.Carrying)
    (hev : s.shutdownEvent ≠ none) (hm : SignalMoves s sig thread interrupts t) : t.Carrying := by
  have hraise := handler_raises sig hev
  have hup := (handler_up (s := s) sig).1
  obtain ⟨shutdown, reload, terminated, reloaded, hshape⟩ := s.handler_shape sig
  have hkept (w : Welcome) (hw : s.welcome.ShuttingDown → w.ShuttingDown) (hask : w.Asking)
      (hret : s.welcome.Returning → w.Returning) :
      CarryingOf s.main shutdown terminated s.history.sent s.history.logged s.history.received w := by
    rw [hshape] at hraise hup
    refine ⟨hask, h.fresh, fun hw hm => hret (h.returning hw hm), h.order, h.untaken, h.reloading,
      h.stopping, h.stopped, fun ht hne => ?_⟩
    rcases hraise ht with ht | hup'
    · exact (h.kept ht hne).imp hup (Or.imp_left hw)
    · exact .inl hup'
  cases hm with
  | handled | wait =>
    rw [hshape]
    exact hkept s.welcome id h.asking id
  | poll =>
    rw [hshape]
    exact hkept { s.welcome with interrupted := true } id ⟨h.asking.outbox, h.asking.errors⟩
      fun hr => ⟨hr.outbox, hr.pc⟩

/-- What holds in every run. -/
structure Carries (s : Daemon) : Prop where
  instances : s.Instances
  reporting : s.Reporting
  mute : ∀ i e, s.envs i = some e → e.Mute
  carrying : s.Carrying

theorem Carries.step {a : Act} (h : s.Carries) (hs : s.step P a = some t) : t.Carries := by
  obtain ⟨hi, hrep, hmute, hc⟩ := h
  have hmute' : ∀ i e, t.envs i = some e → e.Mute :=
    forall_env Env.mute_new (fun e e' hsame he => by
      rw [Env.Mute, hsame.outbox, hsame.pc]
      exact he) (fun _ _ _ hst he => he.step hst) hs hmute
  refine ⟨hi.step hs, hrep.step hi hs, hmute', ?_⟩
  obtain ⟨hlive, hp⟩ := step_party hs
  cases hp with
  | main hm => exact hc.main hi hrep hm
  | @welcome b w u hm he =>
    have hnew := hc.welcome hi hrep hlive hm he
    rw [← he.main_eq] at hnew
    exact hnew
  | @env i b e e' u hj hst he =>
    obtain ⟨hmain, hw, -⟩ := he.frame
    have hnew := hc.env (quiet_reports (hmute i e hj) hst) he
    rw [← hmain, ← hw] at hnew
    exact hnew
  | client => exact hc
  | signal hev hm => exact hc.signal hev hm

theorem Carries.run {as : List Act} (hr : Run (Daemon.step P) anyStep boot as s) : s.Carries :=
  hr.invariant (I := Carries) (fun _ _ _ _ h hs => h.step hs)
    ⟨instances_boot, reporting_boot, (fun i e hi => by cases hi), carrying_boot⟩

/-- Where a request for a shutdown is, and what `main` makes of it. -/
structure ShutdownKept (s : Daemon) : Prop where
  /-- Until the process ends it is in the eventfd, with the welcome thread, in the error
  channel of an incarnation that `main` has not given up, or with `main`. -/
  kept : s.history.terminated = true → (∀ e, s.main ≠ .exited e) →
    0 < s.shutdownEvent.getD 0 ∨ s.welcome.ShuttingDown ∨
      (ShutdownQueued s.errors ∧ s.main.untaken = true) ∨ .shutdownSignal ∈ s.history.received
  /-- After `main` has taken it, it ends the incarnation and the process. -/
  last : .shutdownSignal ∈ s.history.received →
    s.main.ending false = true ∨ ∃ e, s.main = .exited e

/-- In every run, with any number of reloads, a shutdown request is not lost, and
after a `ShutdownSignal` no incarnation is started. -/
theorem shutdown_kept {as : List Act} (hr : Run (Daemon.step P) anyStep boot as s) :
    s.ShutdownKept := by
  obtain ⟨hi, hrep, -, hc⟩ := Carries.run hr
  refine ⟨fun ht hne => ?_, hc.stopped⟩
  rcases hc.kept ht hne with hk | hk | ⟨hk, hunt⟩ | hk
  · exact .inl hk
  · exact .inr (.inl hk)
  · exact .inr (.inr (.inl ⟨hc.queued hrep hunt hk, hunt⟩))
  · exact .inr (.inr (.inr hk))

/-- A `SIGTERM` while the welcome thread is about to say `ReloadRequest`. -/
def reloadsFirst : List Act :=
  startUp ++ [.signal .sighup .main false,
    .welcome (.poll (.ok ⟨.none, .readable, .none, .none⟩)), .signal .sigterm .main false,
    .welcome (.reloadRead (.ok ())), .welcome (.sendError .reloadRequest), .main (.recv false),
    .welcome .dropLocals, .welcome (.teardown none), .main .join, .main .drain, .main (.new true)]

theorem shutdown_kept_reload : ∃ s, Run (Daemon.step .oneLetter) anyStep boot reloadsFirst s ∧
    s.history.terminated = true ∧ s.main = .notifyStarting ∧ s.errors = [] ∧ s.ShutdownKept := by
  have hexec : (exec (Daemon.step .oneLetter) (fun _ _ => true) boot reloadsFirst).any (fun s =>
      s.history.terminated = true ∧ s.main = .notifyStarting ∧ s.errors = []) := by decide
  obtain ⟨s, hr, hp⟩ := Run.of_exec_any (fun _ _ _ => trivial) hexec
  obtain ⟨hterm, hmain, herr⟩ := of_decide_eq_true hp
  exact ⟨s, hr, hterm, hmain, herr, shutdown_kept hr⟩

end Daemon
end Garnd
