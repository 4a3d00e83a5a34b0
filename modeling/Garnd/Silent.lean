import Garnd.Reports
import Garnd.Terminal

/- Who tells whom that an incarnation is over. `main` waits in two places for the
   welcome thread: in its receive loop for a terminal message, and in the drop of the
   runtime for the end of the thread. The first is answered unless the drop of an
   environment panics in the event loop, which ends the thread without a word
   (`terminal_announced`, `dies_silently`). The second is answered unless the
   notification that follows the start of the thread fails, since the runtime is then
   dropped and nobody has asked the thread to stop (`told_to_stop`, `never_told`). -/
namespace Garnd
open Transition

/-- The drop is one after which the event loop is left by a panic. -/
def After.unwinding : After → Bool
  | .returning | .unwind _ => true
  | _ => false

def WelcomePc.unwinding : WelcomePc → Bool
  | .dropWrite _ k | .dropFields _ k | .join _ k => k.unwinding
  | _ => false

/-- The welcome thread of the incarnation has been started. -/
def MainPc.hasWelcome : MainPc → Bool
  | .notifyListening | .recv | .join _ | .drain _ => true
  | _ => false

/-- `main` has not taken a terminal message of the incarnation. -/
def MainPc.receiving : MainPc → Bool
  | .start | .join _ | .drain _ | .exited _ => false
  | _ => true

theorem MainPc.no_welcome {m : MainPc} (h : m.settingUp = true) : m.hasWelcome = false := by
  cases m <;> first | rfl | cases h

theorem MainPc.receiving_of_settingUp {m : MainPc} (h : m.settingUp = true) (hne : m ≠ .start) :
    m.receiving = true := by
  cases m <;> first | rfl | exact absurd rfl hne | cases h

/-- There is a `ShutdownSignal` or a `ReloadRequest` among them. -/
def HasTerminal (errors : List DetailedError) : Prop := ∃ e ∈ errors, e.isTerminal = true

instance (errors : List DetailedError) : Decidable (HasTerminal errors) :=
  inferInstanceAs (Decidable (∃ e ∈ errors, e.isTerminal = true))

theorem HasTerminal.append {xs ys : List DetailedError} :
    HasTerminal (xs ++ ys) ↔ HasTerminal xs ∨ HasTerminal ys := by
  simp only [HasTerminal, List.mem_append, or_and_right, exists_or]

namespace Welcome
variable {P : Externals} {w w' : Welcome} {a : WelcomeAct}

/-- A thread that is out of its loop has sent a terminal message, or it is in the
outbox. No panic has led out of the loop. `sent` is what was sent. -/
structure Told (w : Welcome) (sent : List DetailedError) : Prop where
  returning : w.pc.returning = true → HasTerminal (sent ++ w.outbox)
  panicking : w.panicking = true → w.pc.returning = true
  unwinding : w.pc.unwinding = false

/-- The thread is in its loop and goes on with it. -/
theorem Told.loop {sent : List DetailedError} (hp : w.panicking = false)
    (hr : w.pc.returning = false) (hu : w.pc.unwinding = false) : w.Told sent :=
  ⟨fun h => absurd h (by simp [hr]), fun h => absurd h (by simp [hp]), hu⟩

theorem Told.closing {fds : List RawFd} {errors sent : List DetailedError}
    (hp : w.panicking = false) : (w.closing fds errors).Told sent := by
  unfold Welcome.closing
  split
  · rw [if_neg (by simp [hp])]
    exact .loop hp rfl rfl
  · exact .loop hp rfl rfl

theorem Told.onWelcome {r : Revents} {sent : List DetailedError} (hp : w.panicking = false) :
    (w.onWelcome r).Told sent := by
  unfold Welcome.onWelcome
  split
  · exact .loop hp rfl rfl
  · split <;> exact .loop hp rfl rfl

theorem Told.onPoll {r : PollResult} {sent : List DetailedError} (hp : w.panicking = false) :
    (w.onPoll r).Told sent := by
  unfold Welcome.onPoll
  split
  · exact .loop hp rfl rfl
  · split
    · exact .loop hp rfl rfl
    · split
      · exact .loop hp rfl rfl
      · exact .onWelcome hp

/-- A step that is not a panicking drop in the loop. -/
theorem Told.step {sent : List DetailedError} (h : w.Told sent) (hm : Moves P w a w')
    (hjoin : ∀ i k, a = .join true → w.pc = .join i k → k.isTeardown = true)
    (hwrite : a ≠ .dropWrite false) : w'.Told (sent ++ a.reports) := by
  obtain ⟨hret, hpan, hun⟩ := h
  have hcalm {pc : WelcomePc} (hpc : w.pc = pc) (hr : pc.returning = false) :
      w.panicking = false := by
    cases hp : w.panicking with
    | false => rfl
    | true =>
      rw [← hpc, hpan hp] at hr
      cases hr
  have hlast (pre : List DetailedError) {e : DetailedError} (he : e.isTerminal = true) :
      HasTerminal (sent ++ [] ++ (pre ++ [e])) :=
    ⟨e, by simp, he⟩
  -- a thread that returns stays on its way, and what it has sent has been sent
  have hstay {pc : WelcomePc} (hpc : w.pc = pc) (hr : pc.returning = true) :
      HasTerminal (sent ++ [] ++ w.outbox) := by
    rw [List.append_nil]
    exact hret (hpc ▸ hr)
  cases hm with
  | sendError ho =>
    refine ⟨fun hr => ?_, hpan, hun⟩
    have := hret hr
    rwa [ho, List.append_cons] at this
  | createEventFails _ hpc | listenFails _ hpc | pollFails _ hpc =>
    exact ⟨fun _ => hlast [_] rfl, fun _ => rfl, rfl⟩
  | shutdownRead _ hpc | reloadRead _ hpc =>
    exact ⟨fun _ => hlast _ rfl, fun _ => rfl, rfl⟩
  | poll _ hpc => exact .onPoll (hcalm hpc rfl)
  | drainEmpty _ hpc => exact .onWelcome (hcalm hpc rfl)
  | root _ hpc | getsockoptFails _ hpc | recvFails _ hpc | recvUnanswered _ hpc | send _ hpc
  | close _ hpc => exact .closing (hcalm hpc rfl)
  | drainUnbound _ hpc | drainDisconnected _ hpc =>
    exact .loop (hcalm hpc rfl) (by rw [hpc]; rfl) (by rw [hpc]; rfl)
  | @inserted at' serializes _ hpc =>
    cases serializes <;> exact .loop (hcalm hpc rfl) rfl rfl
  | dropWrite _ hpc | dropFields _ hpc =>
    rw [hpc] at hun
    exact ⟨fun hr => hstay hpc hr, fun hp => by rw [← hpan hp, hpc]; rfl, hun⟩
  | dropWritePanics => exact absurd rfl hwrite
  | @join i k _ _ hpc =>
    rw [hpc] at hun
    cases k with
    | drain => exact .loop (hcalm hpc rfl) rfl rfl
    | finish => exact .closing (hcalm hpc rfl)
    | returning | unwind => cases hun
    | teardown => exact ⟨fun _ => hstay hpc rfl, fun _ => rfl, rfl⟩
  | @joinPanics i k _ hpc =>
    obtain ⟨rest, rfl⟩ := After.teardown_of (hjoin i k rfl hpc)
    exact ⟨fun _ => hstay hpc rfl, fun _ => rfl, rfl⟩
  | dropLocals _ hpc | teardown _ hpc | ended _ hpc =>
    exact ⟨fun _ => hstay hpc rfl, fun _ => rfl, rfl⟩
  | createEvent _ hpc | listen _ hpc | closeRead _ hpc | drainBound _ hpc | accept _ hpc
  | acceptFails _ hpc | notRoot _ hpc | recv _ hpc | recvMalformed _ hpc | occupied _ hpc
  | vacant _ hpc | dupFails _ hpc | envNew _ hpc | envNewFails _ hpc | insertSend _ hpc
  | insertSendFails _ hpc | insertWrite _ hpc | insertWriteFails _ hpc | refused _ hpc
  | hungUp _ hpc | sendAbandon _ hpc =>
    exact .loop (hcalm hpc rfl) rfl rfl

theorem Told.mono {sent new : List DetailedError} (h : w.Told sent) : w.Told (sent ++ new) := by
  refine ⟨fun hr => ?_, h.panicking, h.unwinding⟩
  obtain ⟨e, he, ht⟩ := h.returning hr
  refine ⟨e, ?_, ht⟩
  simp only [List.mem_append] at he ⊢
  rcases he with he | he
  · exact .inl (.inl he)
  · exact .inr he

end Welcome

namespace Daemon
variable {P : Externals} {s t : Daemon}

/-- The condition on a run: no environment thread has panicked that the welcome
thread joins before its return. -/
def CleanJoins (s : Daemon) (a : Act) : Prop :=
  ∀ panicked i k e, a = .welcome (.join panicked) → s.welcome.pc = .join i k →
    s.envs i = some e → k.isTeardown = true ∨ e.panicked = false

/-- A welcome thread that is gone has sent a terminal message, and `main` does not
wait for one in vain. -/
def NeverSilent (s : Daemon) : Prop :=
  s.main.hasWelcome = true → s.welcome.pc = .ended →
    HasTerminal s.history.sent ∧ (s.main = .recv → HasTerminal s.errors)

instance : DecidablePred NeverSilent := fun _ =>
  inferInstanceAs (Decidable (_ → _ → _))

/-- What was sent on the error channel, as far as it concerns the end of the
incarnation. -/
structure AnnouncingOf (main : MainPc) (errors sent : List DetailedError) (w : Welcome) : Prop where
  told : main.hasWelcome = true → w.Told sent
  queued : main.receiving = true → HasTerminal sent → HasTerminal errors

abbrev Announcing (s : Daemon) : Prop :=
  AnnouncingOf s.main s.errors s.history.sent s.welcome

theorem announcing_boot : boot.Announcing := ⟨nofun, nofun⟩

/-- A report is queued as well as sent. -/
theorem queued_append {main : MainPc} {errors sent new : List DetailedError}
    (h : main.receiving = true → HasTerminal sent → HasTerminal errors)
    (hm : main.receiving = true) (ht : HasTerminal (sent ++ new)) : HasTerminal (errors ++ new) := by
  rw [HasTerminal.append] at ht ⊢
  exact ht.imp_left (h hm)

theorem Announcing.main {a : MainAct} (h : s.Announcing) (hm : MainMoves s a t) : t.Announcing := by
  obtain ⟨htold, hqueued⟩ := h
  cases hm with
  | new => exact ⟨nofun, fun _ ht => ht⟩
  | ahead hset hne hset' =>
    refine ⟨fun hw => ?_, fun _ => hqueued ?_⟩
    · exact absurd hw (by rw [MainPc.no_welcome hset']; nofun)
    · exact MainPc.receiving_of_settingUp hset hne
  | setupEvents hmain => exact ⟨nofun, fun _ => hqueued (by rw [hmain]; rfl)⟩
  | listen hmain => exact ⟨fun _ => .loop rfl rfl rfl, fun _ => hqueued (by rw [hmain]; rfl)⟩
  | notifyListening hmain =>
    exact ⟨fun _ => htold (by rw [hmain]; rfl), fun _ => hqueued (by rw [hmain]; rfl)⟩
  | notifyListeningFails hmain | recvShutdown hmain | recvReload hmain | join hmain =>
    exact ⟨fun _ => htold (by rw [hmain]; rfl), nofun⟩
  | drain hmain =>
    exact ⟨fun _ => htold (by rw [hmain]; rfl), fun hm => by rw [hmain] at hm; cases hm⟩
  | recv hmain he hterm =>
    refine ⟨fun _ => htold (by rw [hmain]; rfl), fun _ ht => ?_⟩
    have hrest := hqueued (by rw [hmain]; rfl) ht
    rw [he] at hrest
    obtain ⟨e, hmem, he'⟩ := hrest
    rcases List.mem_cons.mp hmem with rfl | hmem
    · rw [hterm] at he'
      cases he'
    · exact ⟨e, hmem, he'⟩
  | fails | recvTripped | joinExits | reload | success => exact ⟨nofun, nofun⟩

theorem Announcing.step {a : Act} (h : s.Announcing) (hi : s.Instances) (hok : CleanJoins s a)
    (hs : s.step P a = some t) : t.Announcing := by
  obtain ⟨-, hp⟩ := step_party hs
  cases hp with
  | main hm => exact h.main hm
  | @welcome a w u hm he =>
    have hr := he.reported
    have hmain : u.main = s.main := he.main_eq
    have htold (hw : s.main.hasWelcome = true) : w.Told (s.history.sent ++ a.reports) := by
      refine (h.told hw).step hm ?_ ?_
      · rintro i k rfl hpc
        cases he with
        | plain hp => cases hp
        | join hpc' hj _ hp =>
          rcases hok _ _ _ _ rfl hpc' hj with hk | hk
          · obtain ⟨rfl, rfl⟩ := WelcomePc.join.inj (hpc.symm.trans hpc')
            exact hk
          · rw [← hp] at hk
            cases hk
      · rintro rfl
        cases he with
        | plain hp => cases hp
        | dropWriteFails hpc hj hf => exact hi.dropWrite_ok hpc hj hf
    have hnew : AnnouncingOf s.main u.errors u.history.sent w := by
      rw [hr.errors, hr.sent]
      exact ⟨htold, queued_append h.queued⟩
    exact hmain ▸ hnew
  | @env i a e e' u _ _ he =>
    have hr := he.reported
    obtain ⟨hmain, hw, -⟩ := he.frame
    have hnew : AnnouncingOf s.main u.errors u.history.sent s.welcome := by
      rw [hr.errors, hr.sent]
      exact ⟨fun hw => (h.told hw).mono, queued_append h.queued⟩
    exact hw ▸ hmain ▸ hnew
  | client => exact ⟨h.told, h.queued⟩
  | @signal sig _ _ _ _ hm =>
    obtain ⟨shutdown, reload, terminated, reloaded, hshape⟩ := s.handler_shape sig
    cases hm with
    | handled | wait =>
      rw [hshape]
      exact ⟨h.told, h.queued⟩
    | poll =>
      rw [hshape]
      have htold (hw : s.main.hasWelcome = true) :
          Welcome.Told { s.welcome with interrupted := true } s.history.sent := by
        have := h.told hw
        exact ⟨this.returning, this.panicking, this.unwinding⟩
      exact ⟨htold, h.queued⟩

theorem Announcing.neverSilent (h : s.Announcing) (hrep : s.Reporting) : s.NeverSilent := by
  intro hw hpc
  have hsent : HasTerminal s.history.sent := by
    have := (h.told hw).returning (by rw [hpc]; rfl)
    rwa [hrep.done hpc, List.append_nil] at this
  exact ⟨hsent, fun hmain => h.queued (by rw [hmain]; rfl) hsent⟩

/-- What every such run keeps. -/
structure Announced (s : Daemon) : Prop where
  instances : s.Instances
  reporting : s.Reporting
  announcing : s.Announcing

theorem Announced.run {as : List Act} (hr : Run (Daemon.step P) CleanJoins boot as s) :
    s.Announced :=
  hr.invariant (I := Announced) (fun _ _ _ hok h hs =>
    ⟨h.instances.step hs, h.reporting.step h.instances hs, h.announcing.step h.instances hok hs⟩)
    ⟨instances_boot, reporting_boot, announcing_boot⟩

/-- In every run in which no environment thread has panicked that the welcome thread
joins before its return, a welcome thread that is gone has sent a `ShutdownSignal`
or a `ReloadRequest`, and as long as `main` is in its receive loop the message is
queued. -/
theorem terminal_announced {as : List Act} (hr : Run (Daemon.step P) CleanJoins boot as s) :
    s.NeverSilent := by
  obtain ⟨-, hrep, hann⟩ := Announced.run hr
  exact hann.neverSilent hrep

/-- The condition, decided. -/
def joinsClean (s : Daemon) : Act → Bool
  | .welcome (.join _) =>
    match s.welcome.pc with
    | .join i k => k.isTeardown || (s.envs i).all fun e => !e.panicked
    | _ => true
  | _ => true

theorem cleanJoins_of {a : Act} (h : s.joinsClean a = true) : CleanJoins s a := by
  rintro panicked i k e rfl hpc he
  simpa [joinsClean, hpc, he] using h

/-- The destructor of the mutex panics, and the thread is joined in the drop of the map. -/
def panicsAtEnd : List Act :=
  ownsMutex ++ [.signal .sigterm .main false,
    .welcome (.poll (.ok ⟨.readable, .none, .none, .none⟩)), .welcome (.shutdownRead (.ok ())),
    .welcome (.sendError .shutdownSignal), .welcome .dropLocals, .welcome (.teardown (some 0)),
    .welcome (.dropWrite true), .welcome .dropFields, .env 0 (.wait (.ok [.drop])),
    .env 0 (.dispatch (some .drop)), .env 0 .dropRead, .env 0 (.leave true), .env 0 .dropSync,
    .env 0 .dropListener, .welcome (.join true), .welcome (.teardown none)]

theorem terminal_announced_panic : ∃ s, Run (Daemon.step .oneLetter) CleanJoins boot panicsAtEnd s ∧
    s.main = .recv ∧ s.welcome.pc = .ended ∧ s.welcome.panicking = true ∧ HasTerminal s.errors := by
  have hexec : (exec (Daemon.step .oneLetter) joinsClean boot panicsAtEnd).any (fun s =>
      s.main = .recv ∧ s.welcome.pc = .ended ∧ s.welcome.panicking = true) := by decide
  obtain ⟨s, hr, hp⟩ := Run.of_exec_any (fun _ _ => cleanJoins_of) hexec
  obtain ⟨hmain, hpc, hpanic⟩ := of_decide_eq_true hp
  exact ⟨s, hr, hmain, hpc, hpanic, (terminal_announced hr (by rw [hmain]; rfl) hpc).2 hmain⟩

/-- The last client of an environment leaves, the destructor of the mutex panics, and so
does the drop of the environment in the drain loop. -/
def panicsInLoop : List Act :=
  ownsMutex ++ leaves true ++
    [.welcome (.poll (.ok ⟨.none, .none, .readable, .none⟩)), .welcome (.closeRead (.ok ())),
      .welcome (.tryRecv (.got "a")), .welcome (.dropWrite true), .welcome .dropFields,
      .welcome (.join true), .welcome .dropLocals, .welcome (.teardown none)]

theorem dies_silently :
    ¬ ∀ P as s, Run (Daemon.step P) anyStep boot as s → s.NeverSilent := by
  intro h
  have hexec : (exec (Daemon.step .oneLetter) (fun _ _ => true) boot panicsInLoop).any (fun s =>
      ¬ s.NeverSilent) := by decide
  obtain ⟨s, hr, hp⟩ := Run.of_exec_any (fun _ _ _ => trivial) hexec
  exact of_decide_eq_true hp (h _ _ _ hr)

/-! ## The join of the welcome thread -/

/-- Somebody has told the welcome thread to stop: it has ended, it has sent a terminal
message, or one of the events is up. -/
def ToldToStop (s : Daemon) : Prop :=
  s.welcome.pc = .ended ∨ HasTerminal s.history.sent ∨
    0 < s.shutdownEvent.getD 0 ∨ 0 < s.reloadEvent.getD 0

instance : DecidablePred ToldToStop := fun _ => inferInstanceAs (Decidable (_ ∨ _ ∨ _ ∨ _))

/-- `main` drops the runtime, and does not wait for a thread that nobody has told. -/
def JoinsTold (s : Daemon) : Prop := ∀ k, s.main = .join k → s.ToldToStop

/-- The condition on a run. The notification fails only where the thread has been told
to stop. While `main` waits because of that failure, the thread takes down the last
event that is up only if it has sent a terminal message before. -/
structure StopsTold (s : Daemon) (a : Act) : Prop where
  notify : a = .main (.notifyListening false) → s.ToldToStop
  shutdown : ∀ r, a = .welcome (.shutdownRead r) → s.main = .join .exitFailure →
    HasTerminal s.history.sent ∨ 0 < s.reloadEvent.getD 0
  reload : ∀ r, a = .welcome (.reloadRead r) → s.main = .join .exitFailure →
    HasTerminal s.history.sent ∨ 0 < s.shutdownEvent.getD 0

/-- `main` joins because it has taken a terminal message, or the thread has been
told. -/
structure Joining (s : Daemon) : Prop where
  drained : ∀ reload, s.main = .join (.drain reload) → HasTerminal s.history.sent
  told : s.JoinsTold

/-- A handler leaves an event up. -/
theorem handler_up (sig : Signal) :
    (0 < s.shutdownEvent.getD 0 → 0 < (s.handler sig).shutdownEvent.getD 0) ∧
      (0 < s.reloadEvent.getD 0 → 0 < (s.handler sig).reloadEvent.getD 0) := by
  have hup (event : Option ℕ) (h : 0 < event.getD 0) :
      0 < (event.map fun count => (EventFd.write count).getD count).getD 0 := by
    cases event with
    | none => exact h
    | some count =>
      simp only [Option.map_some, Option.getD_some] at h ⊢
      cases hw : EventFd.write count with
      | none => exact h
      | some next =>
        obtain ⟨-, rfl⟩ := EventFd.write_eq_some.mp hw
        exact Nat.succ_pos count
  cases sig with
  | sighup => exact ⟨id, hup _⟩
  | sigterm | sigint => exact ⟨hup _, id⟩

/-- What the thread was told stays told: reports only add to what was sent. -/
theorem ToldToStop.mono (hs : s.ToldToStop) (hw : s.welcome.pc = .ended → t.welcome.pc = .ended)
    (hsent : HasTerminal s.history.sent → HasTerminal t.history.sent)
    (hev : 0 < s.shutdownEvent.getD 0 ∨ 0 < s.reloadEvent.getD 0 →
      HasTerminal t.history.sent ∨ 0 < t.shutdownEvent.getD 0 ∨ 0 < t.reloadEvent.getD 0) :
    t.ToldToStop := by
  rcases hs with h | h | h
  · exact .inl (hw h)
  · exact .inr (.inl (hsent h))
  · exact .inr (hev h)

theorem joining_main {a : MainAct} (hrep : s.Reporting)
    (hok : StopsTold s (.main a)) (hm : MainMoves s a t) : t.Joining := by
  -- a terminal message that is taken was sent
  have hsent {err : DetailedError} {rest : List DetailedError} (hmain : s.main = .recv)
      (he : s.errors = err :: rest) (ht : err.isTerminal = true) : HasTerminal s.history.sent := by
    refine ⟨err, ?_, ht⟩
    rw [hrep.queue (by rw [hmain]; rfl), he]
    simp
  cases hm with
  | recvShutdown hmain he | recvReload hmain he =>
    have hterm := hsent hmain he rfl
    exact ⟨fun _ _ => hterm, fun _ _ => .inr (.inl hterm)⟩
  | notifyListeningFails =>
    have htold := hok.notify rfl
    exact ⟨nofun, fun _ _ => htold⟩
  | ahead _ _ hset' =>
    refine ⟨fun _ hm => ?_, fun _ hm => ?_⟩ <;>
    · dsimp only at hm
      rw [hm] at hset'
      cases hset'
  | drain hmain =>
    refine ⟨fun _ hm => ?_, fun _ hm => ?_⟩ <;>
    · dsimp only at hm
      rw [hmain] at hm
      cases hm
  | _ => exact ⟨nofun, nofun⟩

theorem Joining.step {a : Act} (h : s.Joining) (hrep : s.Reporting) (hok : StopsTold s a)
    (hs : s.step P a = some t) : t.Joining := by
  obtain ⟨-, hp⟩ := step_party hs
  cases hp with
  | main hm => exact joining_main hrep hok hm
  | @welcome a w u hm he =>
    have hr := he.reported
    have hgrow (ht : HasTerminal s.history.sent) : HasTerminal u.history.sent := by
      rw [hr.sent]
      exact HasTerminal.append.mpr (.inl ht)
    refine ⟨fun r hmain => hgrow (h.drained r (he.main_eq ▸ hmain)), fun k hmain => ?_⟩
    have hmain' : s.main = .join k := he.main_eq ▸ hmain
    refine (h.told k hmain').mono (fun hpc => ?_) hgrow fun hev => ?_
    · exact absurd hm (Welcome.ended_over hpc (hrep.done hpc))
    · cases k with
      | drain r => exact .inl (hgrow (h.drained r hmain'))
      | exitFailure =>
        rcases he.events with hsame | ⟨r, rfl, rfl⟩ | ⟨r, rfl, rfl⟩
        · right
          dsimp only
          rw [hsame.shutdown, hsame.reload]
          exact hev
        · exact (hok.shutdown r rfl hmain').imp_right .inr
        · exact (hok.reload r rfl hmain').imp_right .inl
  | @env i a e e' u _ _ he =>
    have hr := he.reported
    have hev := he.events
    obtain ⟨hmain, hw, -⟩ := he.frame
    have hgrow (ht : HasTerminal s.history.sent) : HasTerminal u.history.sent := by
      rw [hr.sent]
      exact HasTerminal.append.mpr (.inl ht)
    refine ⟨fun r hm => hgrow (h.drained r (hmain ▸ hm)), fun k hm => ?_⟩
    refine (h.told k (hmain ▸ hm)).mono (fun hpc => ?_) hgrow fun hup => ?_
    · dsimp only
      rw [hw]
      exact hpc
    · right
      dsimp only
      rw [hev.shutdown, hev.reload]
      exact hup
  | client => exact ⟨h.drained, h.told⟩
  | @signal sig _ _ _ _ hm =>
    obtain ⟨hup, hup'⟩ := handler_up (s := s) sig
    obtain ⟨shutdown, reload, terminated, reloaded, hshape⟩ := s.handler_shape sig
    rw [hshape] at hup hup'
    cases hm with
    | handled | poll | wait =>
      rw [hshape]
      exact ⟨h.drained, fun k hmain => (h.told k hmain).mono id id fun hev => .inr (hev.imp hup hup')⟩

theorem Joining.run {as : List Act} (hr : Run (Daemon.step P) StopsTold boot as s) : s.Joining := by
  have hinv : (s.Instances ∧ s.Reporting) ∧ s.Joining :=
    hr.invariant (I := fun s => (s.Instances ∧ s.Reporting) ∧ s.Joining)
      (fun _ _ _ hok h hs => ⟨⟨h.1.1.step hs, h.1.2.step h.1.1 hs⟩, h.2.step h.1.2 hok hs⟩)
      ⟨⟨instances_boot, reporting_boot⟩, nofun, nofun⟩
  exact hinv.2

/-- A step after which `main` waits for a thread that nobody has told is one the
condition excludes. -/
theorem stopsTold_of {a : Act} (hs : s.step P a = some t) (h : t.JoinsTold) : StopsTold s a := by
  refine ⟨?_, ?_, ?_⟩
  · rintro rfl
    have hmain : s.main = .notifyListening := by
      by_contra hne
      simp only [Daemon.step, mainStep, hne, if_false] at hs
      split at hs <;> cases hs
    obtain ⟨-, hp⟩ := step_party hs
    cases hp with
    | main hm =>
      cases hm with
      | notifyListeningFails => exact h .exitFailure rfl
      | ahead hset | fails hset =>
        rw [hmain] at hset
        cases hset
  · rintro r rfl hmain
    obtain ⟨-, hp⟩ := step_party hs
    cases hp with
    | welcome hm he =>
      cases hm with
      | shutdownRead =>
        cases he with
        | plain hp => cases hp
        | shutdownRead hr =>
          obtain rfl := readEvent_zero hr
          rcases h .exitFailure hmain with hw | hw | hw | hw
          · cases hw
          · exact .inl hw
          · cases hw
          · exact .inr hw
  · rintro r rfl hmain
    obtain ⟨-, hp⟩ := step_party hs
    cases hp with
    | welcome hm he =>
      cases hm with
      | reloadRead =>
        cases he with
        | plain hp => cases hp
        | reloadRead hr =>
          obtain rfl := readEvent_zero hr
          rcases h .exitFailure hmain with hw | hw | hw | hw
          · cases hw
          · exact .inl hw
          · exact .inr hw
          · cases hw

/-- In every state of a run `main` drops the runtime only if the welcome thread has
been told to stop, exactly if the run meets the condition. -/
theorem told_to_stop {as : List Act} (hr : Run (Daemon.step P) anyStep boot as s) :
    (∀ pre t, pre <+: as → Run (Daemon.step P) anyStep boot pre t → t.JoinsTold) ↔
      Run (Daemon.step P) StopsTold boot as s := by
  constructor
  · induction as using List.reverseRecOn generalizing s with
    | nil =>
      intro _
      cases hr
      exact .nil boot
    | append_singleton as a ih =>
      intro h
      obtain ⟨u, hru, hlast⟩ := hr.split
      cases hlast with
      | cons _ hs hnil =>
        cases hnil
        have hpre := ih hru fun pre t hp => h pre t (hp.trans (List.prefix_append as [a]))
        exact hpre.snoc (stopsTold_of hs (h _ _ List.prefix_rfl hr)) hs
  · rintro h pre t ⟨rest, rfl⟩ ht
    obtain ⟨u, hu, -⟩ := h.split
    obtain rfl := hu.unique ht
    exact (Joining.run hu).told

/-- The notification fails after the thread was told by a `SIGTERM`. -/
def failsTold : List Act :=
  startUp.dropLast ++ [.signal .sigterm .main false,
    .welcome (.poll (.ok ⟨.readable, .none, .none, .none⟩)), .welcome (.shutdownRead (.ok ())),
    .welcome (.sendError .shutdownSignal), .main (.notifyListening false)]

/-- The condition, decided. -/
def stopTold (s : Daemon) : Act → Bool
  | .main (.notifyListening false) => s.ToldToStop
  | .welcome (.shutdownRead _) =>
    s.main ≠ .join .exitFailure || HasTerminal s.history.sent || 0 < s.reloadEvent.getD 0
  | .welcome (.reloadRead _) =>
    s.main ≠ .join .exitFailure || HasTerminal s.history.sent || 0 < s.shutdownEvent.getD 0
  | _ => true

theorem stopsTold_of_stopTold {a : Act} (h : s.stopTold a = true) : StopsTold s a := by
  refine ⟨?_, ?_, ?_⟩
  · rintro rfl
    exact of_decide_eq_true h
  · rintro r rfl hmain
    simpa [stopTold, hmain] using h
  · rintro r rfl hmain
    simpa [stopTold, hmain] using h

theorem told_to_stop_sigterm : ∃ s, Run (Daemon.step .oneLetter) anyStep boot failsTold s ∧
    s.main = .join .exitFailure ∧ s.welcome.pc ≠ .ended ∧ s.ToldToStop := by
  have hexec : (exec (Daemon.step .oneLetter) stopTold boot failsTold).any (fun s =>
      s.main = .join .exitFailure ∧ s.welcome.pc ≠ .ended) := by decide
  obtain ⟨s, hr, hp⟩ := Run.of_exec_any (fun _ _ => stopsTold_of_stopTold) hexec
  obtain ⟨hmain, hpc⟩ := of_decide_eq_true hp
  have hany := hr.mono fun _ _ _ => trivial
  exact ⟨s, hany, hmain, hpc, (told_to_stop hany).mpr hr _ _ List.prefix_rfl hany _ hmain⟩

/-- The notification fails, and nobody has told the thread. -/
def failsUntold : List Act := startUp.dropLast ++ [.main (.notifyListening false)]

theorem never_told : ¬ ∀ P as s, Run (Daemon.step P) anyStep boot as s → s.JoinsTold := by
  intro h
  have hexec : (exec (Daemon.step .oneLetter) (fun _ _ => true) boot failsUntold).any (fun s =>
      s.main = .join .exitFailure ∧ ¬ s.ToldToStop) := by decide
  obtain ⟨s, hr, hp⟩ := Run.of_exec_any (fun _ _ _ => trivial) hexec
  obtain ⟨hmain, hnot⟩ := of_decide_eq_true hp
  exact hnot (h _ _ _ hr _ hmain)

end Daemon
end Garnd
