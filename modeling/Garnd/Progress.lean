import Garnd.Ownership
import Garnd.Silent
import Garnd.Staying
import Garnd.Waiting

/- What a thread that can do nothing is doing. A call that does not wait returns one way
   or the other, so a thread stands still in a wait only: `main` for an error or for the
   welcome thread, the welcome thread in its `poll`, for a client, for the answer of an
   environment thread or for its end, and an environment thread in its `epoll_wait` or for
   a client (`Daemon.MainRests`, `Daemon.WelcomeRests`, `Daemon.EnvRests`). That takes what
   the calls rest on: the error channel has its receiver, numbers and instances are what
   they were, and `accept` is called only where a connection waits. -/
namespace Garnd
open Transition

/-! ## What the others do to an environment -/

/-- What its owner, or a signal handler, does to an environment. -/
inductive Env.OwnerMoves (e : Env) : Env → Prop
  | none : e.OwnerMoves e
  | insertSend {x e'} : e.insertSend x = some e' → e.OwnerMoves e'
  | insertWrite {e'} : e.insertWrite = some e' → e.OwnerMoves e'
  | insertRecv : e.OwnerMoves e.insertRecv
  | dropWrite {e'} : e.dropWrite = some e' → e.OwnerMoves e'
  | dropFields : e.OwnerMoves e.dropFields
  | interrupt : e.OwnerMoves { e with interrupted := true }

namespace Daemon
variable {P : Externals} {s t u : Daemon} {i : EnvId} {e e' : Env}

theorem answered_moves {r : Option (Except (Call × Errno) Unit)} (h : answered e r = some e') :
    e.OwnerMoves e' := by
  unfold answered at h
  split at h <;> split at h <;> cases h
  · exact .insertRecv
  · exact .insertRecv
  · exact .none

theorem WelcomeEffect.owner_moves {a : WelcomeAct} (he : WelcomeEffect P s a u)
    (hi : u.envs i = some e') :
    (∃ e, s.envs i = some e ∧ e.OwnerMoves e') ∨
      s.envs i = none ∧ ∃ name, e' = .new name i := by
  have replaced {j : EnvId} {f g : Env} (hj : s.envs j = some f) (hm : f.OwnerMoves g)
      (hi : Function.update s.envs j (some g) i = some e') : ∃ e, s.envs i = some e ∧ e.OwnerMoves e' := by
    by_cases hij : i = j
    · subst hij
      cases (Function.update_self ..).symm.trans hi
      exact ⟨f, hj, hm⟩
    · rw [Function.update_of_ne hij] at hi
      exact ⟨e', hi, .none⟩
  cases he with
  | @envNew _ _ name j _ hj =>
    by_cases hij : i = j
    · subst hij
      cases (Function.update_self ..).symm.trans hi
      exact .inr ⟨hj, name, rfl⟩
    · dsimp only at hi
      rw [Function.update_of_ne hij] at hi
      exact .inl ⟨e', hi, .none⟩
  | insertSend _ hj hs => exact .inl (replaced hj (.insertSend hs) hi)
  | insertWrite _ hj hs => exact .inl (replaced hj (.insertWrite hs) hi)
  | insertRecv _ hj hs => exact .inl (replaced hj (answered_moves hs) hi)
  | dropWrite _ hj hs => exact .inl (replaced hj (.dropWrite hs) hi)
  | dropFields _ hj => exact .inl (replaced hj .dropFields hi)
  | recv _ hr =>
    obtain ⟨c, conn, -, -, ⟨rest, -, rfl⟩ | ⟨-, -, rfl⟩⟩ := recvFrom_eq_some hr <;>
      exact .inl ⟨e', hi, .none⟩
  | send _ hr =>
    obtain ⟨c, conn, -, -, -, rfl⟩ := sendTo_eq_some hr
    exact .inl ⟨e', hi, .none⟩
  | _ => exact .inl ⟨e', hi, .none⟩

/-- How an environment came to be what it is. -/
theorem env_moved {a : Act} (hs : s.step P a = some t) (hi : t.envs i = some e') :
    (∃ e, s.envs i = some e ∧ e.OwnerMoves e') ∨
      (∃ e b, a = .env i b ∧ s.envs i = some e ∧ e.step P b = some e') ∨
      s.envs i = none ∧ ∃ name, e' = .new name i := by
  obtain ⟨-, hp⟩ := step_party hs
  cases hp with
  | main hm =>
    rw [hm.envs_eq] at hi
    exact .inl ⟨e', hi, .none⟩
  | welcome _ he => exact (he.owner_moves hi).imp_right .inr
  | @env j b f g u hj hst he =>
    by_cases hij : i = j
    · subst hij
      cases (Function.update_self ..).symm.trans hi
      exact .inr (.inl ⟨f, b, rfl, hj, hst⟩)
    · dsimp only at hi
      rw [Function.update_of_ne hij] at hi
      exact .inl ⟨e', hi, .none⟩
  | client => exact .inl ⟨e', hi, .none⟩
  | @signal sig _ _ _ _ hm =>
    obtain ⟨shutdown, reload, terminated, reloaded, hshape⟩ := s.handler_shape sig
    cases hm with
    | handled | poll =>
      rw [hshape] at hi
      exact .inl ⟨e', hi, .none⟩
    | @wait j f hj =>
      by_cases hij : i = j
      · subst hij
        cases (Function.update_self ..).symm.trans hi
        exact .inl ⟨f, hj, .interrupt⟩
      · dsimp only at hi
        rw [Function.update_of_ne hij] at hi
        exact .inl ⟨e', hi, .none⟩

end Daemon

/-! ## What a thread can rely on -/

/-- What the thread answers with: `Ok`, or a call that failed. -/
def Answer (r : Except DetailedError Unit) : Prop :=
  r = .ok () ∨ ∃ call errno, r = .error (.sys call errno)

/-- The thread has what its next call takes. -/
structure Env.Fit (e : Env) : Prop where
  queued : ∀ r ∈ e.syncResponse.queue, Answer r
  answers : ∀ r rest, e.pc = .respond r rest → Answer r
  equipped : e.pc ≠ .allocNew → e.pc.left = false → e.shm ≠ none
  ends : e.pc.emptied = false → e.syncResponse.senders ≠ ∅ ∧ e.addListener.receiver = true
  captures : e.pc = .captures → e.syncResponse.senders ≠ ∅ ∨ e.addListener.receiver = true
  spent : e.pc = .ended → e.syncResponse.senders = ∅
  peopled : e.added ≠ [] → e.pc.left = false → e.sockets ≠ ∅

namespace Env.Fit
variable {P : Externals} {e e' : Env} {b : EnvAct}

theorem of_new (name : String) (i : EnvId) : (Env.new name i).Fit where
  queued := by rintro r ⟨⟩
  answers := by rintro r rest ⟨⟩
  equipped h := absurd rfl h
  ends _ := ⟨Finset.singleton_ne_empty _, rfl⟩
  captures := by rintro ⟨⟩
  spent := by rintro ⟨⟩
  peopled h := absurd rfl h

/-- The thread goes on in its loop, and has what it had. -/
theorem goto {pc : EnvPc} (h : e.Fit) (hpc : e.pc = pc) (hl : pc.left = false) (hnew : pc ≠ .allocNew)
    (hemp : pc.emptied = false) (hq : e'.syncResponse = e.syncResponse)
    (hrx : e'.addListener.receiver = e.addListener.receiver) (hshm : e'.shm = e.shm)
    (hadd : e'.added = e.added) (hsock : e'.sockets = e.sockets)
    (hans : ∀ r rest, e'.pc = .respond r rest → Answer r) (hemp' : e'.pc.emptied = false) :
    e'.Fit := by
  subst hpc
  refine ⟨by rw [hq]; exact h.queued, hans, fun _ _ => by rw [hshm]; exact h.equipped hnew hl,
    fun _ => by rw [hq, hrx]; exact h.ends hemp, fun hc => ?_, fun hc => ?_, fun hne _ => ?_⟩
  · rw [hc] at hemp'
    cases hemp'
  · rw [hc] at hemp'
    cases hemp'
  rw [hsock]
  exact h.peopled (hadd ▸ hne) hl

/-- The thread is out of its loop, and has its ends of the channels. -/
theorem gone {pc : EnvPc} (h : e.Fit) (hpc : e.pc = pc) (hemp : pc.emptied = false)
    (hl : e'.pc.left = true) (hend : e'.pc ≠ .ended) (hq : e'.syncResponse = e.syncResponse)
    (hrx : e'.addListener.receiver = e.addListener.receiver) : e'.Fit := by
  subst hpc
  have hends := h.ends hemp
  rw [← hq, ← hrx] at hends
  refine ⟨by rw [hq]; exact h.queued, fun r rest hpc => ?_, fun _ hl' => ?_, fun _ => hends,
    fun _ => .inl hends.1, fun hc => absurd hc hend, fun _ hl' => ?_⟩
  · rw [hpc] at hl
    cases hl
  · rw [hl] at hl'
    cases hl'
  · rw [hl] at hl'
    cases hl'

theorem thread (h : e.Fit) (hs : e.step P b = some e') : e'.Fit := by
  cases step_moves hs with
  | sendError => exact ⟨h.queued, h.answers, h.equipped, h.ends, h.captures, h.spent, h.peopled⟩
  | allocNew _ hpc =>
    exact ⟨h.queued, by rintro r rest ⟨⟩, by simp, fun _ => h.ends (by rw [hpc]; rfl), by rintro ⟨⟩,
      by rintro ⟨⟩, fun hne _ => h.peopled hne (by rw [hpc]; rfl)⟩
  | epollAdd _ hpc =>
    refine h.goto hpc rfl (by simp) rfl rfl rfl rfl rfl rfl (fun r rest => ?_) ?_ <;> dsimp only <;>
      split
    · rintro ⟨⟩
    · rintro ⟨⟩
    · rfl
    · rfl
  | epollNew _ hpc | wait _ hpc | batchOver _ hpc | addEvent _ hpc | dropEvent _ hpc | readable _ hpc
  | addRead _ hpc | addTake _ hpc | respondFails _ hpc | recvFails _ hpc | recv _ hpc
  | recvMalformed _ hpc | recvUnanswered _ hpc | send _ hpc | sendFails _ hpc =>
    exact h.goto hpc rfl (by simp) rfl rfl rfl rfl rfl rfl (by rintro r rest ⟨⟩) rfl
  | addReadFails _ hpc | addEpollFails _ hpc =>
    refine h.goto hpc rfl (by simp) rfl rfl rfl rfl rfl rfl ?_ rfl
    rintro r rest ⟨⟩
    exact .inr ⟨_, _, rfl⟩
  | addEmpty _ hpc =>
    refine h.goto hpc rfl (by simp) rfl rfl rfl rfl rfl rfl ?_ rfl
    rintro r rest ⟨⟩
    exact .inl rfl
  | oneGone _ hpc hne =>
    exact ⟨h.queued, by rintro r rest ⟨⟩, fun _ _ => h.equipped (by rw [hpc]; simp) (by rw [hpc]; rfl),
      fun _ => h.ends (by rw [hpc]; rfl), by rintro ⟨⟩, by rintro ⟨⟩, fun _ _ => hne⟩
  | addEpoll _ hpc =>
    exact ⟨h.queued, by rintro r rest ⟨⟩, fun _ _ => h.equipped (by rw [hpc]; simp) (by rw [hpc]; rfl),
      fun _ => h.ends (by rw [hpc]; rfl), by rintro ⟨⟩, by rintro ⟨⟩,
      fun _ _ => Finset.insert_ne_empty _ _⟩
  | respond _ hpc hsend =>
    obtain ⟨-, rfl⟩ := Channel.send_eq_some.mp hsend
    refine ⟨fun r hr => ?_, by rintro r rest ⟨⟩,
      fun _ _ => h.equipped (by rw [hpc]; simp) (by rw [hpc]; rfl),
      fun _ => h.ends (by rw [hpc]; rfl), by rintro ⟨⟩, by rintro ⟨⟩,
      fun hne _ => h.peopled hne (by rw [hpc]; rfl)⟩
    rcases List.mem_append.mp hr with hr | hr
    · exact h.queued r hr
    · obtain rfl := List.mem_singleton.mp hr
      exact h.answers _ _ hpc
  | openMutex _ hpc =>
    exact ⟨h.queued, by rintro r rest ⟨⟩, by simp, fun _ => h.ends (by rw [hpc]; rfl), by rintro ⟨⟩,
      by rintro ⟨⟩, fun hne _ => h.peopled hne (by rw [hpc]; rfl)⟩
  | dropSync _ hpc =>
    refine ⟨h.queued, ?_, ?_, ?_, ?_, ?_, ?_⟩ <;> dsimp only <;> split <;> simp_all [EnvPc.left, EnvPc.emptied]
  | dropListener _ hpc =>
    refine ⟨h.queued, ?_, ?_, ?_, ?_, ?_, ?_⟩ <;> dsimp only <;> split <;> simp_all [EnvPc.left, EnvPc.emptied]
  | allocFails _ hpc | allocPanics _ hpc | epollNewFails _ hpc | epollAddFails _ hpc
  | waitFails _ hpc | lastGone _ hpc | addPanics _ hpc | openMutexPanics _ hpc | dropRead _ hpc
  | dropReadFails _ hpc | closeSend _ hpc | closeWrite _ hpc | leave _ hpc =>
    exact h.gone hpc rfl rfl (by simp [reportAndClose]) rfl rfl

theorem owner (h : e.Fit) (hm : e.OwnerMoves e') : e'.Fit := by
  cases hm with
  | none => exact h
  | insertSend hs =>
    obtain ⟨chan, hc, rfl⟩ := Option.map_eq_some_iff.mp hs
    obtain ⟨-, rfl⟩ := Channel.send_eq_some.mp hc
    exact ⟨h.queued, h.answers, h.equipped, h.ends, h.captures, h.spent, h.peopled⟩
  | insertWrite hs | dropWrite hs =>
    obtain ⟨count, -, rfl⟩ := Option.map_eq_some_iff.mp hs
    exact ⟨h.queued, h.answers, h.equipped, h.ends, h.captures, h.spent, h.peopled⟩
  | insertRecv =>
    exact ⟨fun r hr => h.queued r (List.mem_of_mem_tail hr), h.answers, h.equipped, h.ends,
      h.captures, h.spent, h.peopled⟩
  | dropFields =>
    exact ⟨by rintro r ⟨⟩, h.answers, h.equipped, h.ends, h.captures, h.spent, h.peopled⟩
  | interrupt => exact ⟨h.queued, h.answers, h.equipped, h.ends, h.captures, h.spent, h.peopled⟩

end Env.Fit

/-! ## No thread panics -/

theorem ShmAllocator.new_panic {sysconf : Except Errno (Option Int64)}
    (h : ShmAllocator.new sysconf = .panic) : ∃ res, sysconf = .ok (some res) ∧ res.toInt < 0 := by
  unfold ShmAllocator.new at h
  split at h
  · cases h
  · split at h
    · cases h
    · split at h
      · rename_i res _ hneg
        exact ⟨res, rfl, hneg⟩
      · cases h
  · cases h

/-- The thread panics where no invariant can keep it from that: on a negative page size, or
in a destructor of a shared resource. -/
def EnvAct.panics : EnvAct → Bool
  | .allocNew (.ok (some res)) => res.toInt < 0
  | .leave panics => panics
  | _ => false

/-- The step is no such panic. -/
def Act.noPanic : Act → Bool
  | .env _ b => !b.panics
  | _ => true

/-- Then the thread does not panic. -/
theorem Env.sane_step {P : Externals} {e e' : Env} {b : EnvAct} {c : Owner} {mark : ℕ}
    (h : e.panicked = false) (hm : e.Mutexes) (ha : e.Attached c mark) (hb : b.panics = false)
    (hs : e.step P b = some e') : e'.panicked = false := by
  cases step_moves hs with
  | allocPanics _ _ hnew =>
    obtain ⟨res, rfl, hneg⟩ := ShmAllocator.new_panic hnew
    rw [EnvAct.panics, decide_eq_false_iff_not] at hb
    exact absurd hneg hb
  | addPanics _ hpc hr =>
    have hclosed := ha.wired.owner.mp (Channel.tryRecv_eq_disconnected.mp hr).2
    exact absurd hclosed (ha.open_of_busy (by rw [hpc]; rfl))
  | openMutexPanics _ _ hshm hr => exact absurd hr (hm.no_panic hshm)
  | @leave panics =>
    obtain rfl : panics = false := hb
    rw [h]
    rfl
  | _ => exact h

/-! ## What the welcome thread comes to -/

/-- The call rests on nothing. -/
def WelcomePc.light : WelcomePc → Bool
  | .closeRead _ | .drain _ | .accept | .send .. | .dropWrite .. | .dropFields .. | .join .. | .close .. =>
    false
  | _ => true

/-- What the next call takes is there: a `close` has a number to close, a response goes out
on a socket that is still to be closed, and for `accept`, or a drain that it may follow, a
connection waits. -/
structure WelcomePc.Equipped (pc : WelcomePc) (backlog : List ConnId) : Prop where
  closes : ∀ errors, pc ≠ .close [] errors
  answers : ∀ fd response errors abandon fds, pc = .send fd response errors abandon fds → fd ∈ fds
  accepts : pc = .accept → backlog ≠ []
  drains : ∀ r, pc.revents = some r → r.pollin = true → backlog ≠ []

theorem WelcomePc.Equipped.of_light {pc : WelcomePc} {backlog : List ConnId}
    (h : pc.light = true) : pc.Equipped backlog := by
  refine ⟨?_, ?_, ?_, ?_⟩
  · rintro errors rfl
    cases h
  · rintro fd response errors abandon fds rfl
    cases h
  · rintro rfl
    cases h
  · intro r hr
    cases pc with
    | closeRead | drain | dropWrite | dropFields | join => cases h
    | _ => cases hr

namespace Welcome
variable {P : Externals} {w w' : Welcome} {a : WelcomeAct} {backlog : List ConnId}

theorem equipped_closing {fds : List RawFd} {errors : List DetailedError} :
    (w.closing fds errors).pc.Equipped backlog := by
  unfold closing
  split
  · split <;> exact .of_light rfl
  · rename_i hne
    refine ⟨?_, by rintro _ _ _ _ _ ⟨⟩, by rintro ⟨⟩, by rintro _ ⟨⟩⟩
    rintro errors' ⟨⟩
    exact hne rfl

theorem equipped_onWelcome {r : Revents} (h : r.pollin = true → backlog ≠ []) :
    (w.onWelcome r).pc.Equipped backlog := by
  unfold onWelcome
  split
  · exact .of_light rfl
  · split
    · exact .of_light rfl
    · rename_i hin
      exact ⟨by rintro _ ⟨⟩, by rintro _ _ _ _ _ ⟨⟩, fun _ => h (by simpa using hin), by rintro _ ⟨⟩⟩

/-- The `revents` of the welcome socket are kept while something else is done first. -/
theorem equipped_drains {pc : WelcomePc} (hclose : ∀ fds errors, pc ≠ .close fds errors)
    (hsend : ∀ fd response errors abandon fds, pc ≠ .send fd response errors abandon fds)
    (haccept : pc ≠ .accept) (h : ∀ r, pc.revents = some r → r.pollin = true → backlog ≠ []) :
    pc.Equipped backlog :=
  ⟨fun _ => hclose _ _, fun _ _ _ _ _ hpc => absurd hpc (hsend _ _ _ _ _),
    fun hpc => absurd hpc haccept, h⟩

theorem equipped_onPoll {r : PollResult} (h : r.welcome.pollin = true → backlog ≠ []) :
    (w.onPoll r).pc.Equipped backlog := by
  unfold onPoll
  split
  · exact .of_light rfl
  · split
    · exact .of_light rfl
    · split
      · refine equipped_drains (by simp) (by simp) (by simp) ?_
        rintro _ ⟨⟩
        exact h
      · exact equipped_onWelcome h

theorem equipped_resume {k : After} (h : ∀ r, k.revents = some r → r.pollin = true → backlog ≠ []) :
    (w.resume k).pc.Equipped backlog := by
  cases k with
  | drain r => exact equipped_drains (by simp [resume]) (by simp [resume]) (by simp [resume]) h
  | finish | unwind => exact equipped_closing
  | returning | teardown => exact .of_light rfl

/-- A response is to go out. -/
theorem equipped_send {fd : RawFd} {response : WelcomeResponse} {errors : List DetailedError}
    {abandon : Option EnvId} {fds : List RawFd} (h : fd ∈ fds) :
    (WelcomePc.send fd response errors abandon fds).Equipped backlog := by
  refine ⟨by rintro _ ⟨⟩, ?_, by rintro ⟨⟩, by rintro _ ⟨⟩⟩
  rintro _ _ _ _ _ ⟨⟩
  exact h

theorem Moves.equipped (hm : Moves P w a w') (h : w.pc.Equipped backlog)
    (hpoll : ∀ r, a = .poll (.ok r) → r.welcome.pollin = true → backlog ≠ []) :
    w'.pc.Equipped backlog := by
  have hdrain {pc : WelcomePc} (hpc : w.pc = pc) :
      ∀ r, pc.revents = some r → r.pollin = true → backlog ≠ [] := hpc ▸ h.drains
  cases hm with
  | sendError | drainUnbound | drainDisconnected => exact h
  | poll => exact equipped_onPoll (hpoll _ rfl)
  | closeRead _ hpc | drainBound _ hpc | dropWrite _ hpc | dropFields _ hpc =>
    have hd := hdrain hpc
    exact equipped_drains (by simp) (by simp) (by simp) hd
  | drainEmpty _ hpc => exact equipped_onWelcome (hdrain hpc _ rfl)
  | sendAbandon => exact equipped_drains (by simp) (by simp) (by simp) (by rintro _ ⟨⟩)
  | dropWritePanics =>
    refine equipped_drains (by simp) (by simp) (by simp) fun r hr => ?_
    cases (After.panics_revents _).symm.trans hr
  | join _ hpc => exact equipped_resume (hdrain hpc)
  | joinPanics =>
    refine equipped_resume fun r hr => ?_
    cases (After.panics_revents _).symm.trans hr
  | teardown => exact equipped_drains (by simp) (by simp) (by simp) (by rintro _ ⟨⟩)
  | root | getsockoptFails | recvFails | recvUnanswered | send | close => exact equipped_closing
  | recvMalformed | dupFails | envNewFails | insertSendFails | insertWriteFails | refused | hungUp =>
    exact equipped_send (by simp)
  | @inserted at' serializes => cases serializes <;> exact equipped_send List.mem_cons_self
  | _ => exact .of_light rfl

end Welcome

/-- The drop event is up, or the thread is on its way out. -/
def Env.Doomed (e : Env) : Prop := 0 < e.dropEvent ∨ e.pc.left = true

theorem Env.Doomed.thread {P : Externals} {e e' : Env} {b : EnvAct} (h : e.Doomed)
    (hs : e.step P b = some e') : e'.Doomed := by
  rcases h with hd | hl
  · cases step_moves hs with
    | dropRead | dropReadFails => exact .inr rfl
    | _ => exact .inl hd
  · exact .inr (left_step hl hs)

theorem Env.Doomed.owner {e e' : Env} (h : e.Doomed) (hm : e.OwnerMoves e') : e'.Doomed := by
  cases hm with
  | insertSend hs | insertWrite hs =>
    obtain ⟨_, -, rfl⟩ := Option.map_eq_some_iff.mp hs
    exact h
  | dropWrite hs =>
    obtain ⟨count, hc, rfl⟩ := Option.map_eq_some_iff.mp hs
    obtain ⟨-, rfl⟩ := EventFd.write_eq_some.mp hc
    exact .inl (Nat.succ_pos _)
  | _ => exact h

/-- What is in the `SocketSet` was in it, or has been registered now. -/
theorem Env.Moves.watched {P : Externals} {e e' : Env} {b : EnvAct} {x : RawFd} (hm : Env.Moves P e b e')
    (hx : x ∈ e'.sockets) :
    x ∈ e.sockets ∧ e.interest ⊆ e'.interest ∨
      ∃ source, b = .addEpoll x (.ok source) ∧ (x, source) ∈ e'.interest := by
  cases hm with
  | @addEpoll listener source =>
    rcases Finset.mem_insert.mp hx with rfl | hx
    · exact .inr ⟨source, rfl, List.mem_cons_self⟩
    · exact .inl ⟨hx, List.subset_cons_self _ _⟩
  | lastGone | leave => exact absurd hx (Finset.notMem_empty x)
  | oneGone => exact .inl ⟨Finset.mem_of_mem_erase hx, List.Subset.refl _⟩
  | _ => exact .inl ⟨hx, List.Subset.refl _⟩

namespace Daemon
variable {P : Externals} {s t u : Daemon} {i : EnvId} {e e' : Env} {x : RawFd} {c : ConnId}

/-- The condition on a run: no thread panics. -/
def NoPanics (_ : Daemon) (a : Act) : Prop := a.noPanic = true

/-- No thread has panicked. -/
def Sane (s : Daemon) : Prop := ∀ i e, s.envs i = some e → e.panicked = false

theorem Sane.step {a : Act} (h : s.Sane) (hi : s.Instances) (hok : NoPanics s a)
    (hs : s.step P a = some t) : t.Sane := by
  intro i e' he
  cases env_change hs he with
  | same hj hsame => exact hsame.panicked.trans (h i _ hj)
  | @thread b e hj hst =>
    obtain ⟨-, hm, mark, ha⟩ := hi.sound i e hj
    exact Env.sane_step (h i e hj) hm ha (by simpa [NoPanics, Act.noPanic] using hok) hst
  | made _ hnew =>
    rw [hnew]
    rfl

theorem NoPanics.cleanDrops {a : Act} (h : NoPanics s a) : CleanDrops s a := by
  rintro i rfl
  cases h

theorem Sane.cleanJoins (h : s.Sane) (a : Act) : CleanJoins s a :=
  fun _ i _ e _ _ hi => .inr (h i e hi)

/-! ## Numbers -/

/-- The numbers of connections are numbers the kernel gives. -/
def Bounded (P : Externals) (s : Daemon) : Prop := ∀ x c, s.connAt x = some c → x < P.openMax

theorem opened_lt {b : WelcomeAct} (hs : s.step P (.welcome b) = some t)
    (hb : b = .accept (.ok x) ∨ b = .dup (.ok x)) : x < P.openMax := by
  have hstep : s.welcomeStep P b = some t := by
    unfold Daemon.step at hs
    split at hs
    · cases hs
    · exact hs
  unfold welcomeStep at hstep
  split at hstep
  · obtain ⟨u, hu, -⟩ := Option.map_eq_some_iff.mp hstep
    have opens {f : Fds} {d : Descriptor} {k : Fds → Daemon}
        (hu : (f.openAt P x d).map k = some u) : x < P.openMax := by
      obtain ⟨g, hg, -⟩ := Option.map_eq_some_iff.mp hu
      exact (Fds.openAt_eq_some.mp hg).1
    rcases hb with rfl | rfl <;> simp only [welcomeEffect] at hu
    · split at hu
      · exact opens hu
      · cases hu
    · split at hu
      · split at hu
        · exact opens hu
        · cases hu
      · cases hu
  · cases hstep

theorem Bounded.step {a : Act} (h : s.Bounded P) (hs : s.step P a = some t) : t.Bounded P := by
  intro x c hx
  rcases connAt_before hs hx with hold | ⟨rfl, -⟩ | ⟨fd, name, hpc, rfl, -, -⟩
  · exact h x c hold
  · exact opened_lt hs (.inl rfl)
  · exact opened_lt hs (.inr rfl)

/-! ## Sockets -/

/-- A socket of the set is registered as the connection it is. -/
def Watched (s : Daemon) : Prop := ∀ i e x, s.envs i = some e → x ∈ e.sockets →
  ∃ c, (x, c) ∈ e.interest ∧ s.fds.Own i x c

theorem Watched.step {a : Act} (h : s.Watched) (hacc : s.Accounted) (hs : s.step P a = some t) :
    t.Watched := by
  intro i e' x hi' hx
  suffices hc : ∃ c, (x, c) ∈ e'.interest ∧ s.connAt x = some c by
    obtain ⟨c, hmem, hc⟩ := hc
    exact ⟨c, hmem, own_of_mem hacc hs hi' hx hc⟩
  cases env_change hs hi' with
  | same hi hsame =>
    obtain ⟨c, hmem, hown⟩ := h i _ x hi (hsame.sockets ▸ hx)
    exact ⟨c, hsame.interest.symm ▸ hmem, connAt_eq hown⟩
  | @thread b e hi hst =>
    rcases (Env.step_moves hst).watched hx with ⟨hold, hsub⟩ | ⟨source, rfl, hmem⟩
    · obtain ⟨c, hmem, hown⟩ := h i e x hi hold
      exact ⟨c, hsub hmem, connAt_eq hown⟩
    · obtain ⟨-, hp⟩ := step_party hs
      cases hp with
      | env _ _ he =>
        cases he with
        | plain hb => cases hb
        | addEpoll hc => exact ⟨source, hmem, hc⟩
  | made _ hnew =>
    rw [hnew] at hx
    exact absurd hx (Finset.notMem_empty x)

/-! ## Connections that wait -/

def Equipped (s : Daemon) : Prop := s.welcome.pc.Equipped s.backlog

theorem Equipped.grown {backlog : List ConnId} (h : s.Equipped)
    (hb : s.backlog ≠ [] → backlog ≠ []) : s.welcome.pc.Equipped backlog :=
  ⟨h.closes, h.answers, fun hpc => hb (h.accepts hpc), fun r hr hin => hb (h.drains r hr hin)⟩

theorem Equipped.step {a : Act} (h : s.Equipped) (hs : s.step P a = some t) : t.Equipped := by
  obtain ⟨-, hp⟩ := step_party hs
  cases hp with
  | main hm =>
    cases hm with
    | listen => exact .of_light rfl
    | _ => exact h
  | @welcome a w u hm he =>
    have hmoved : w.pc.Equipped s.backlog := by
      refine hm.equipped h ?_
      rintro r rfl hin
      cases he with
      | plain hb => cases hb
      | poll _ hpoll =>
        have hsame : r.welcome.pollin = !s.backlog.isEmpty := by
          simp only [pollable, Bool.and_eq_true, beq_iff_eq] at hpoll
          exact hpoll.1.2
        rw [hin] at hsame
        simpa using hsame.symm
    have hpc : w.pc.Equipped u.backlog := by
      cases he with
      | accept =>
        cases hm with
        | accept => exact .of_light rfl
      | ended =>
        cases hm with
        | ended => exact .of_light rfl
      | recv _ hr =>
        rw [(recvFrom_frame hr).2]
        exact hmoved
      | send _ hr =>
        rw [(sendTo_frame hr).2]
        exact hmoved
      | _ => exact hmoved
    exact hpc
  | @env i b e e' u _ _ he =>
    have hpc : u.welcome.pc.Equipped u.backlog := by
      cases he with
      | recv hr =>
        rw [(recvFrom_frame hr).2]
        obtain ⟨c, conn, -, -, ⟨rest, -, rfl⟩ | ⟨-, -, rfl⟩⟩ := recvFrom_eq_some hr <;> exact h
      | send hr =>
        rw [(sendTo_frame hr).2]
        obtain ⟨c, conn, -, -, -, rfl⟩ := sendTo_eq_some hr
        exact h
      | _ => exact h
    exact hpc
  | @client c b conns backlog hc =>
    refine h.grown fun hne => ?_
    cases b <;> simp only [clientStep] at hc <;> repeat' split at hc
    all_goals cases hc
    · simp
    all_goals exact hne
  | @signal sig _ _ _ _ hm =>
    obtain ⟨shutdown, reload, terminated, reloaded, hshape⟩ := s.handler_shape sig
    cases hm <;> rw [hshape] <;> exact h

/-! ## Drops -/

/-- The instance in hand to be dropped is there. -/
theorem Instances.dropping_known (h : s.Instances)
    (hst : s.welcome.pc.stage.hand = .dropping i) : ∃ e, s.envs i = some e := by
  have howns : s.registry.Owns i := .inr (.inl (.inr hst))
  exact Option.ne_none_iff_exists'.mp fun hn => h.registry.known i howns (registry_absent hn)

/-- The thread that is to be joined has been told. -/
def Told (s : Daemon) : Prop :=
  ∀ i k, s.welcome.pc = .dropFields i k ∨ s.welcome.pc = .join i k →
    ∀ e, s.envs i = some e → e.Doomed

/-- Where the thread was on its way to the join before the step. -/
theorem Told.kept {a : Act} {k : After} (h : s.Told) (hinst : s.Instances)
    (hs : s.step P a = some t) (hpc : s.welcome.pc = .dropFields i k ∨ s.welcome.pc = .join i k)
    (hi : t.envs i = some e') : e'.Doomed := by
  obtain ⟨e, hj⟩ := hinst.dropping_known (i := i) (by rcases hpc with hpc | hpc <;> rw [hpc] <;> rfl)
  have hd := h i k hpc e hj
  rcases env_moved hs hi with ⟨e₀, hi₀, hm⟩ | ⟨e₀, b, rfl, hi₀, hst⟩ | ⟨hnone, -⟩
  · cases hj.symm.trans hi₀
    exact hd.owner hm
  · cases hj.symm.trans hi₀
    exact hd.thread hst
  · rw [hj] at hnone
    cases hnone

theorem Told.step {a : Act} (h : s.Told) (hinst : s.Instances) (hs : s.step P a = some t) :
    t.Told := by
  intro i k hpc e' hi
  by_cases ha : ∃ b, a = .welcome b
  · obtain ⟨b, rfl⟩ := ha
    have hkept (k : After) (hpc : s.welcome.pc = .dropFields i k ∨ s.welcome.pc = .join i k)
        (hi : t.envs i = some e') : e'.Doomed := h.kept hinst hs hpc hi
    obtain ⟨-, hp⟩ := step_party hs
    cases hp with
    | @welcome _ w u hm he =>
      have hpc : w.pc = .dropFields i k ∨ w.pc = .join i k := hpc
      have done (hd : w.pc.aside = true) : e'.Doomed := by
        rcases hpc with hpc | hpc <;> rw [hpc] at hd <;> cases hd
      cases hm with
      | sendError | drainUnbound | drainDisconnected => exact hkept k hpc hi
      | dropFields _ hpc₀ =>
        rcases hpc with hpc | hpc <;> cases hpc
        exact hkept k (.inl hpc₀) hi
      | @dropWrite _ _ written _ hpc₀ =>
        rcases hpc with hpc | hpc <;> cases hpc
        cases he with
        | plain hb => cases hb
        | dropWrite hpc₁ _ hw =>
          cases hpc₀.symm.trans hpc₁
          cases (Function.update_self ..).symm.trans hi
          obtain ⟨count, hc, rfl⟩ := Option.map_eq_some_iff.mp hw
          obtain ⟨-, rfl⟩ := EventFd.write_eq_some.mp hc
          exact .inl (Nat.succ_pos _)
        | dropWriteFails hpc₁ hj hf => exact absurd hf (hinst.dropWrite_ok hpc₁ hj)
      | dropWritePanics =>
        cases he with
        | plain hb => cases hb
        | dropWriteFails hpc₁ hj hf => exact absurd hf (hinst.dropWrite_ok hpc₁ hj)
      | poll => exact done Welcome.onPoll_aside
      | drainEmpty => exact done Welcome.onWelcome_aside
      | root | getsockoptFails | recvFails | recvUnanswered | send | close =>
        exact done Welcome.closing_aside
      | join | joinPanics => exact done Welcome.resume_aside
      | @inserted at' serializes =>
        cases serializes <;> rcases hpc with hpc | hpc <;> cases hpc
      | _ => rcases hpc with hpc | hpc <;> cases hpc
  · rcases welcome_other hs fun b hb => ha ⟨b, hb⟩ with hw | hw
    · rw [hw] at hpc
      exact h.kept hinst hs hpc hi
    · rw [hw] at hpc
      rcases hpc with hpc | hpc <;> cases hpc

/-! ## What holds in every run in which no thread panics -/

/-- What the threads rely on. -/
structure Driven (P : Externals) (s : Daemon) : Prop where
  owned : s.Owned P
  orders : s.Orders
  announcing : s.Announcing
  sane : s.Sane
  fit : ∀ i e, s.envs i = some e → e.Fit
  bounded : s.Bounded P
  watched : s.Watched
  equipped : s.Equipped
  told : s.Told

theorem driven_boot (P : Externals) : boot.Driven P where
  owned := owned_boot P
  orders := orders_boot
  announcing := announcing_boot
  sane := by rintro i e ⟨⟩
  fit := by rintro i e ⟨⟩
  bounded := by rintro x c ⟨⟩
  watched := by rintro i e x ⟨⟩
  equipped := .of_light rfl
  told i k hpc := by rcases hpc with hpc | hpc <;> cases hpc

theorem Driven.step {a : Act} (h : s.Driven P) (hok : NoPanics s a) (hs : s.step P a = some t) :
    t.Driven P where
  owned := h.owned.step hs
  orders := ⟨h.orders.instances.step hs, h.orders.orderly.step h.orders.instances hok.cleanDrops hs,
    h.orders.reporting.step h.orders.instances hs⟩
  announcing := h.announcing.step h.orders.instances (h.sane.cleanJoins a) hs
  sane := h.sane.step h.orders.instances hok hs
  fit i e' hi := by
    rcases env_moved hs hi with ⟨e, hj, hm⟩ | ⟨e, b, -, hj, hst⟩ | ⟨-, name, rfl⟩
    · exact (h.fit i e hj).owner hm
    · exact (h.fit i e hj).thread hst
    · exact .of_new name i
  bounded := h.bounded.step hs
  watched := h.watched.step h.owned.agreeing.settled.toAccounted hs
  equipped := h.equipped.step hs
  told := h.told.step h.orders.instances hs

theorem Driven.run {as : List Act} (hr : Run (Daemon.step P) NoPanics boot as s) : s.Driven P :=
  hr.invariant (I := Driven P) (fun _ _ _ hok h hs => h.step hok hs) (driven_boot P)

end Daemon
end Garnd
