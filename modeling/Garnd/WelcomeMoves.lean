import Garnd.WelcomeThread

/- What one step of the welcome thread can do, branch by branch
   (`Welcome.Moves`, `Welcome.step_moves`). -/
namespace Garnd

theorem After.teardown_of {k : After} (h : k.isTeardown = true) : ∃ rest, k = .teardown rest := by
  cases k <;> simp_all [After.isTeardown]

/-- The step can be taken where the thread is. -/
def WelcomeAct.at : WelcomeAct → WelcomePc → Bool
  | .createEvent _, .createEvent | .listen _, .listen | .poll _, .poll
  | .shutdownRead _, .shutdownRead | .reloadRead _, .reloadRead | .closeRead _, .closeRead _
  | .tryRecv _, .drain _ | .accept _, .accept | .getsockopt _, .getsockopt _
  | .recv _ _, .recv _ | .dup _, .dup _ _ | .envNew _, .envNew _ _ _
  | .insertSend _, .insertSend _ | .insertWrite _, .insertWrite _
  | .insertRecv _ _, .insertRecv _ | .send _, .send _ _ _ _ _ | .dropWrite _, .dropWrite _ _
  | .dropFields, .dropFields _ _ | .join _, .join _ _ | .close _, .close _ _
  | .dropLocals, .ret _ | .teardown _, .teardown _ | .sendError _, _ => true
  | _, _ => false

namespace Welcome

/-- The steps of the thread, one constructor for each branch. -/
inductive Moves (P : Externals) (w : Welcome) : WelcomeAct → Welcome → Prop
  | sendError {err errors} : w.outbox = err :: errors →
      Moves P w (.sendError err) { w with outbox := errors }
  | createEvent : w.outbox = [] → w.pc = .createEvent →
      Moves P w (.createEvent (.ok ())) { w with pc := .listen }
  | createEventFails {errno} : w.outbox = [] → w.pc = .createEvent →
      Moves P w (.createEvent (.error errno))
        { w with outbox := [.sys .eventfd errno, .reloadRequest], pc := .ret false }
  | listen : w.outbox = [] → w.pc = .listen → Moves P w (.listen (.ok ())) { w with pc := .poll }
  | listenFails {errno} : w.outbox = [] → w.pc = .listen →
      Moves P w (.listen (.error errno))
        { w with outbox := [.sys .listen errno, .reloadRequest], pc := .ret false }
  | poll {r} : w.outbox = [] → w.pc = .poll → Moves P w (.poll (.ok r)) (w.onPoll r)
  | pollFails {errno} : w.outbox = [] → w.pc = .poll →
      Moves P w (.poll (.error errno))
        { w with interrupted := false, outbox := [.sys .poll errno, .reloadRequest], pc := .ret false }
  | shutdownRead {r} : w.outbox = [] → w.pc = .shutdownRead →
      Moves P w (.shutdownRead r)
        { w with outbox := readErrors r ++ [.shutdownSignal], pc := .ret false }
  | reloadRead {r} : w.outbox = [] → w.pc = .reloadRead →
      Moves P w (.reloadRead r)
        { w with outbox := readErrors r ++ [.reloadRequest], pc := .ret false }
  | closeRead {r welcome} : w.outbox = [] → w.pc = .closeRead welcome →
      Moves P w (.closeRead r) { w with outbox := readErrors r, pc := .drain welcome }
  | drainBound {name welcome i} : w.outbox = [] → w.pc = .drain welcome →
      w.environments.lookup name = some i → Moves P w (.tryRecv (.got name))
        { w with environments := w.environments.erase name, pc := .dropWrite i (.drain welcome) }
  | drainUnbound {name welcome} : w.outbox = [] → w.pc = .drain welcome →
      w.environments.lookup name = none → Moves P w (.tryRecv (.got name)) w
  | drainEmpty {welcome} : w.outbox = [] → w.pc = .drain welcome →
      Moves P w (.tryRecv .empty) (w.onWelcome welcome)
  | drainDisconnected {welcome} : w.outbox = [] → w.pc = .drain welcome →
      Moves P w (.tryRecv .disconnected) { w with outbox := [.tryRecvDisconnected] }
  | accept {fd} : w.outbox = [] → w.pc = .accept →
      Moves P w (.accept (.ok fd)) { w with pc := .getsockopt fd }
  | acceptFails {errno} : w.outbox = [] → w.pc = .accept →
      Moves P w (.accept (.error errno)) { w with outbox := [.sys .accept errno], pc := .poll }
  | root {fd} : w.outbox = [] → w.pc = .getsockopt fd →
      Moves P w (.getsockopt (.ok 0)) (w.closing [fd] [.ignoredRootRequest])
  | notRoot {fd uid} : w.outbox = [] → w.pc = .getsockopt fd → uid ≠ 0 →
      Moves P w (.getsockopt (.ok uid)) { w with pc := .recv fd }
  | getsockoptFails {fd errno} : w.outbox = [] → w.pc = .getsockopt fd →
      Moves P w (.getsockopt (.error errno)) (w.closing [fd] [.sys .getsockopt errno])
  | recvFails {fd errno serializes} : w.outbox = [] → w.pc = .recv fd →
      Moves P w (.recv (.error errno) serializes) (w.closing [fd] [.sys .recv errno])
  | recv {fd m name serializes} : w.outbox = [] → w.pc = .recv fd → P.welcomeRequest m = .ok name →
      Moves P w (.recv (.ok m) serializes) { w with pc := .dup fd name }
  | recvMalformed {fd m err} : w.outbox = [] → w.pc = .recv fd → P.welcomeRequest m = .error err →
      Moves P w (.recv (.ok m) true) { w with pc := .send fd .malformedRequest [err] none [fd] }
  | recvUnanswered {fd m err} : w.outbox = [] → w.pc = .recv fd → P.welcomeRequest m = .error err →
      Moves P w (.recv (.ok m) false) (w.closing [fd] [err, .serialize])
  | occupied {fd name passed i} : w.outbox = [] → w.pc = .dup fd name →
      w.environments.lookup name = some i →
      Moves P w (.dup (.ok passed)) { w with pc := .insertSend ⟨fd, passed, name, i, false⟩ }
  | vacant {fd name passed} : w.outbox = [] → w.pc = .dup fd name →
      w.environments.lookup name = none →
      Moves P w (.dup (.ok passed)) { w with pc := .envNew fd passed name }
  | dupFails {fd name errno} : w.outbox = [] → w.pc = .dup fd name →
      Moves P w (.dup (.error errno)) (w.fail fd (.sys .dup errno) none [fd])
  | envNew {fd passed name i} : w.outbox = [] → w.pc = .envNew fd passed name →
      Moves P w (.envNew (.ok i)) { w with pc := .insertSend ⟨fd, passed, name, i, true⟩ }
  | envNewFails {fd passed name call errno} : w.outbox = [] → w.pc = .envNew fd passed name →
      Moves P w (.envNew (.error (call, errno))) (w.fail fd (.sys call errno) none [passed, fd])
  | insertSend {a} : w.outbox = [] → w.pc = .insertSend a →
      Moves P w (.insertSend true) { w with pc := .insertWrite a }
  | insertSendFails {a} : w.outbox = [] → w.pc = .insertSend a →
      Moves P w (.insertSend false) (w.failInsert a (.socketSendFailed a.passed))
  | insertWrite {a} : w.outbox = [] → w.pc = .insertWrite a →
      Moves P w (.insertWrite true) { w with pc := .insertRecv a }
  | insertWriteFails {a} : w.outbox = [] → w.pc = .insertWrite a →
      Moves P w (.insertWrite false) (w.failInsert a (.sys .eventWrite eagain))
  | inserted {a serializes} : w.outbox = [] → w.pc = .insertRecv a →
      Moves P w (.insertRecv (some (.ok ())) serializes) (w.inserted a serializes)
  | refused {a call errno serializes} : w.outbox = [] → w.pc = .insertRecv a →
      Moves P w (.insertRecv (some (.error (call, errno))) serializes)
        (w.failInsert a (.sys call errno))
  | hungUp {a serializes} : w.outbox = [] → w.pc = .insertRecv a →
      Moves P w (.insertRecv none serializes) (w.failInsert a .recvFailed)
  | sendAbandon {fd response errors i fds r} : w.outbox = [] →
      w.pc = .send fd response errors (some i) fds →
      Moves P w (.send r) { w with pc := .dropWrite i (.finish fds (sendErrors errors r)) }
  | send {fd response errors fds r} : w.outbox = [] → w.pc = .send fd response errors none fds →
      Moves P w (.send r) (w.closing fds (sendErrors errors r))
  | dropWrite {i k written} : w.outbox = [] → w.pc = .dropWrite i k →
      (written || w.panicking) = true → Moves P w (.dropWrite written) { w with pc := .dropFields i k }
  | dropWritePanics {i k} : w.outbox = [] → w.pc = .dropWrite i k → w.panicking = false →
      Moves P w (.dropWrite false) { w.panic k with pc := .dropFields i k.panics }
  | dropFields {i k} : w.outbox = [] → w.pc = .dropFields i k →
      Moves P w .dropFields { w with pc := .join i k }
  | join {i k panicked} : w.outbox = [] → w.pc = .join i k → (panicked && !w.panicking) = false →
      Moves P w (.join panicked) (w.resume k)
  | joinPanics {i k} : w.outbox = [] → w.pc = .join i k → w.panicking = false →
      Moves P w (.join true) ((w.panic k).resume k.panics)
  | close {fd fds errors} : w.outbox = [] → w.pc = .close (fd :: fds) errors →
      Moves P w (.close fd) (w.closing fds errors)
  | dropLocals {drained} : w.outbox = [] → w.pc = .ret drained →
      Moves P w .dropLocals
        { w with environments := ∅, pc := .teardown (w.environments.entries.map Sigma.snd) }
  | teardown {rest i} : w.outbox = [] → w.pc = .teardown rest → i ∈ rest →
      Moves P w (.teardown (some i)) { w with pc := .dropWrite i (.teardown (rest.erase i)) }
  | ended : w.outbox = [] → w.pc = .teardown [] →
      Moves P w (.teardown none) { w with pc := .ended }

variable {P : Externals} {w w' : Welcome} {a : WelcomeAct}

theorem parse_moves {fd : RawFd} {r : Except Errno Message} {serializes : Bool}
    (ho : w.outbox = []) (hpc : w.pc = .recv fd) :
    Moves P w (.recv r serializes) (w.parse P fd serializes r) := by
  cases r with
  | error errno => exact .recvFails ho hpc
  | ok m =>
    simp only [parse]
    split
    · rename_i name hm
      exact .recv ho hpc hm
    · rename_i err hm
      cases serializes with
      | true => exact .recvMalformed ho hpc hm
      | false => exact .recvUnanswered ho hpc hm

theorem act_moves (ho : w.outbox = []) (h : w.act P a = some w') : Moves P w a w' := by
  cases a with
  | sendError err => simp [act] at h
  | createEvent r =>
    simp only [act] at h
    split at h
    · rename_i hpc
      split at h <;> cases h
      · exact .createEvent ho hpc
      · exact .createEventFails ho hpc
    · cases h
  | listen r =>
    simp only [act] at h
    split at h
    · rename_i hpc
      split at h <;> cases h
      · exact .listen ho hpc
      · exact .listenFails ho hpc
    · cases h
  | poll r =>
    simp only [act] at h
    split at h
    · rename_i hpc
      split at h <;> cases h
      · exact .poll ho hpc
      · exact .pollFails ho hpc
    · cases h
  | shutdownRead r =>
    simp only [act] at h
    split at h
    · rename_i hpc
      cases h
      exact .shutdownRead ho hpc
    · cases h
  | reloadRead r =>
    simp only [act] at h
    split at h
    · rename_i hpc
      cases h
      exact .reloadRead ho hpc
    · cases h
  | closeRead r =>
    simp only [act] at h
    split at h
    · rename_i welcome hpc
      cases h
      exact .closeRead ho hpc
    · cases h
  | tryRecv r =>
    simp only [act] at h
    split at h
    · rename_i welcome hpc
      split at h
      · split at h <;> rename_i hl <;> cases h
        · exact .drainBound ho hpc hl
        · exact .drainUnbound ho hpc hl
      · cases h
        exact .drainEmpty ho hpc
      · cases h
        exact .drainDisconnected ho hpc
    · cases h
  | accept r =>
    simp only [act] at h
    split at h
    · rename_i hpc
      split at h <;> cases h
      · exact .accept ho hpc
      · exact .acceptFails ho hpc
    · cases h
  | getsockopt uid =>
    simp only [act] at h
    split at h
    · rename_i fd hpc
      split at h
      · cases h
        exact .root ho hpc
      · rename_i uid hne
        cases h
        exact .notRoot ho hpc (fun hz => hne (by rw [hz]))
      · cases h
        exact .getsockoptFails ho hpc
    · cases h
  | recv r serializes =>
    simp only [act] at h
    split at h
    · rename_i fd hpc
      cases h
      exact parse_moves ho hpc
    · cases h
  | dup r =>
    simp only [act] at h
    split at h
    · rename_i fd name hpc
      split at h
      · split at h <;> rename_i hl <;> cases h
        · exact .occupied ho hpc hl
        · exact .vacant ho hpc hl
      · cases h
        exact .dupFails ho hpc
    · cases h
  | envNew r =>
    simp only [act] at h
    split at h
    · rename_i fd passed name hpc
      split at h <;> cases h
      · exact .envNew ho hpc
      · exact .envNewFails ho hpc
    · cases h
  | insertSend sent =>
    simp only [act] at h
    split at h
    · rename_i at' hpc
      cases sent <;> cases h
      · exact .insertSendFails ho hpc
      · exact .insertSend ho hpc
    · cases h
  | insertWrite written =>
    simp only [act] at h
    split at h
    · rename_i at' hpc
      cases written <;> cases h
      · exact .insertWriteFails ho hpc
      · exact .insertWrite ho hpc
    · cases h
  | insertRecv r serializes =>
    simp only [act] at h
    split at h
    · rename_i at' hpc
      split at h <;> cases h
      · exact .inserted ho hpc
      · exact .refused ho hpc
      · exact .hungUp ho hpc
    · cases h
  | send r =>
    simp only [act] at h
    split at h
    · rename_i fd response errors abandon fds hpc
      split at h <;> cases h
      · exact .sendAbandon ho hpc
      · exact .send ho hpc
    · cases h
  | dropWrite written =>
    simp only [act] at h
    split at h
    · rename_i i k hpc
      split at h
      · rename_i hw
        cases h
        exact .dropWrite ho hpc hw
      · rename_i hw
        simp only [Bool.or_eq_true, not_or, Bool.not_eq_true] at hw
        obtain ⟨rfl, hp⟩ := hw
        cases h
        exact .dropWritePanics ho hpc hp
    · cases h
  | dropFields =>
    simp only [act] at h
    split at h
    · rename_i i k hpc
      cases h
      exact .dropFields ho hpc
    · cases h
  | join panicked =>
    simp only [act] at h
    split at h
    · rename_i i k hpc
      split at h
      · rename_i hp
        simp only [Bool.and_eq_true, Bool.not_eq_true'] at hp
        obtain ⟨rfl, hp⟩ := hp
        cases h
        exact .joinPanics ho hpc hp
      · rename_i hp
        cases h
        exact .join ho hpc (by simpa only [Bool.not_eq_true] using hp)
    · cases h
  | close fd =>
    simp only [act] at h
    split at h
    · rename_i fd' fds errors hpc
      split at h
      · rename_i hfd
        subst hfd
        cases h
        exact .close ho hpc
      · cases h
    · cases h
  | dropLocals =>
    simp only [act] at h
    split at h
    · rename_i drained hpc
      cases h
      exact .dropLocals ho hpc
    · cases h
  | teardown next =>
    simp only [act] at h
    split at h
    · rename_i rest hpc
      split at h
      · split at h
        · rename_i hi
          cases h
          exact .teardown ho hpc hi
        · cases h
      · split at h
        · rename_i hr
          subst hr
          cases h
          exact .ended ho hpc
        · cases h
    · cases h

/-- Everything a step can do. -/
theorem step_moves (h : w.step P a = some w') : Moves P w a w' := by
  unfold step at h
  split at h
  · rename_i err
    split at h
    · rename_i err' errors ho
      split at h
      · rename_i heq
        subst heq
        cases h
        exact .sendError ho
      · cases h
    · cases h
  · split at h
    · rename_i ho
      exact act_moves ho h
    · cases h

theorem Moves.at (hm : Moves P w a w') : a.at w.pc = true := by
  cases hm with
  | sendError => rfl
  | _ =>
    rw [‹w.pc = _›]
    rfl

/-- A thread that has ended and has sent everything does nothing. -/
theorem ended_over (hpc : w.pc = .ended) (ho : w.outbox = []) : ¬ Moves P w a w' := by
  intro hm
  have hat := hm.at
  rw [hpc] at hat
  cases a with
  | sendError =>
    cases hm with
    | sendError ho' =>
      rw [ho] at ho'
      cases ho'
  | _ => cases hat

end Welcome
end Garnd
