import Garnd.Daemon
import Garnd.EnvironmentMoves
import Garnd.WelcomeMoves

/- What a step of a thread does to the rest of the daemon, branch by branch
   (`Daemon.WelcomeEffect`, `Daemon.EnvEffect`), what `main` and the signal handlers
   do, and a step of the daemon by party (`Daemon.step_party`). -/
namespace Garnd

theorem Fds.openAt_eq_some {P : Externals} {f g : Fds} {x : RawFd} {d : Descriptor} :
    f.openAt P x d = some g ↔ x < P.openMax ∧ f x = none ∧ g = Function.update f x (some d) := by
  unfold Fds.openAt
  split <;> rename_i h <;> simp_all [eq_comm]

/-- The labels of the welcome thread whose steps change nothing else. -/
def WelcomeAct.plain : WelcomeAct → Bool
  | .createEvent (.error _) | .listen (.error _) | .accept (.error _) | .getsockopt (.error _)
  | .recv (.error _) _ | .dup (.error _) | .envNew (.error _) | .send (.error _)
  | .teardown (some _) => true
  | _ => false

/-- The labels of an environment thread whose steps change nothing else. -/
def EnvAct.plain : EnvAct → Bool
  | .allocNew _ | .epollNew _ | .epollAdd _ | .dispatch none | .dispatch (some .add)
  | .dispatch (some .drop) | .dispatch (some (.conn _ _ false)) | .addRead | .addTryRecv _
  | .respond | .dropRead | .recv _ (.error _) _ | .send _ _ (.error _) => true
  | _ => false

/-- `main` sets an incarnation up. -/
def MainPc.settingUp : MainPc → Bool
  | .start | .notifyStarting | .checkPrivileges | .setupSocket | .setupEvents | .listen => true
  | _ => false

namespace Daemon
variable {P : Externals} {s t : Daemon}

/-- A receive takes the first message, or returns nothing at the end. -/
theorem recvFrom_eq_some {x : RawFd} {m : Message} (h : s.recvFrom x m = some t) :
    ∃ c conn, s.connAt x = some c ∧ s.conns c = some conn ∧
      ((∃ rest, conn.inbox = m :: rest ∧
          t = { s with conns := Function.update s.conns c (some { conn with inbox := rest }) }) ∨
        conn.inbox = [] ∧ conn.closed = true ∧ t = s) := by
  unfold recvFrom at h
  split at h
  · cases h
  · rename_i c hc
    split at h
    · cases h
    · rename_i conn hconn
      refine ⟨c, conn, hc, hconn, ?_⟩
      split at h
      · rename_i m' rest hin
        split at h
        · rename_i hm
          subst hm
          exact .inl ⟨rest, hin, (Option.some.inj h).symm⟩
        · cases h
      · rename_i hin
        split at h
        · rename_i hcl
          exact .inr ⟨hin, hcl.1, (Option.some.inj h).symm⟩
        · cases h

/-- A send adds one message to what the peer has not read. -/
theorem sendTo_eq_some {x : RawFd} (h : s.sendTo P x = some t) :
    ∃ c conn, s.connAt x = some c ∧ s.conns c = some conn ∧
      (conn.unread < P.peerQueue ∧ conn.refuses = false) ∧
      t = { s with
        conns := Function.update s.conns c (some { conn with unread := conn.unread + 1 }) } := by
  unfold sendTo at h
  split at h
  · cases h
  · rename_i c hc
    split at h
    · cases h
    · rename_i conn hconn
      split at h
      · rename_i hr
        exact ⟨c, conn, hc, hconn, hr, (Option.some.inj h).symm⟩
      · cases h

/-- A report goes to the error channel, as long as there is a receiver. -/
theorem report_eq_some {err : DetailedError} (h : s.report err = some t) :
    s.errorRx = true ∧ t = { s with
      errors := s.errors ++ [err]
      history := { s.history with sent := s.history.sent ++ [err] } } := by
  unfold report at h
  split at h
  · rename_i hrx
    exact ⟨hrx, (Option.some.inj h).symm⟩
  · cases h

/-- What a step of the welcome thread does to the rest, one constructor for each
branch. -/
inductive WelcomeEffect (P : Externals) (s : Daemon) : WelcomeAct → Daemon → Prop
  | plain {a} : a.plain = true → WelcomeEffect P s a s
  | createEvent : WelcomeEffect P s (.createEvent (.ok ()))
      { s with closeEvent := 0, closeChan := .new {.welcome} }
  | listen : WelcomeEffect P s (.listen (.ok ())) { s with listening := true }
  | poll {r} : s.welcome.interrupted = false → s.pollable r = true →
      WelcomeEffect P s (.poll (.ok r)) s
  | pollFails {errno} : (s.welcome.interrupted = true ↔ errno = eintr) →
      WelcomeEffect P s (.poll (.error errno)) s
  | shutdownRead {r count} : readEvent (s.shutdownEvent.getD 0) r = some count →
      WelcomeEffect P s (.shutdownRead r) { s with shutdownEvent := some count }
  | reloadRead {r count} : readEvent (s.reloadEvent.getD 0) r = some count →
      WelcomeEffect P s (.reloadRead r) { s with reloadEvent := some count }
  | closeRead {r} : WelcomeEffect P s (.closeRead r) { s with closeEvent := 0 }
  | tryRecv {name j rest} : s.closeChan.queue = (name, j) :: rest →
      WelcomeEffect P s (.tryRecv (.got name))
        { s with closeChan := { s.closeChan with queue := rest } }
  | drainEmpty : s.closeChan.queue = [] → WelcomeEffect P s (.tryRecv .empty) s
  | drainDisconnected : s.closeChan.queue = [] → s.closeChan.senders = ∅ →
      WelcomeEffect P s (.tryRecv .disconnected) s
  | accept {fd c rest} : s.backlog = c :: rest → s.fds fd = none →
      WelcomeEffect P s (.accept (.ok fd))
        { s with fds := Function.update s.fds fd (some ⟨.conn c, .welcome⟩), backlog := rest }
  | getsockopt {uid fd c conn} : s.welcome.pc = .getsockopt fd → s.connAt fd = some c →
      s.conns c = some conn → uid = conn.uid → WelcomeEffect P s (.getsockopt (.ok uid)) s
  | recv {fd m serializes t} : s.welcome.pc = .recv fd → s.recvFrom fd m = some t →
      WelcomeEffect P s (.recv (.ok m) serializes)
        { t with
          history := { s.history with
            traffic := s.history.traffic ++ s.passing fd (.request .welcome)
            opened := s.history.opened ++ s.opening P fd m } }
  | dup {fd name passed d} : s.welcome.pc = .dup fd name → s.fds fd = some d →
      s.fds passed = none → WelcomeEffect P s (.dup (.ok passed))
        { s with fds := Function.update s.fds passed (some ⟨d.file, .welcome⟩) }
  | envNew {fd passed name i} : s.welcome.pc = .envNew fd passed name → s.envs i = none →
      WelcomeEffect P s (.envNew (.ok i))
        { s with
          envs := Function.update s.envs i (some (.new name i))
          closeChan := s.closeChan.addSender (.env i) }
  | insertSend {a e e'} : s.welcome.pc = .insertSend a → s.envs a.id = some e →
      e.insertSend a.passed = some e' → WelcomeEffect P s (.insertSend true)
        { s with
          fds := s.fds.pass a.passed .welcome (.queue a.id)
          envs := Function.update s.envs a.id (some e')
          conns := fun c =>
            if s.connAt a.passed = some c then
              (s.conns c).map fun conn => { conn with home := some a.id }
            else s.conns c }
  | insertSendFails {a e} : s.welcome.pc = .insertSend a → s.envs a.id = some e →
      e.insertSend a.passed = none → WelcomeEffect P s (.insertSend false) s
  | insertWrite {a e e'} : s.welcome.pc = .insertWrite a → s.envs a.id = some e →
      e.insertWrite = some e' → WelcomeEffect P s (.insertWrite true)
        { s with envs := Function.update s.envs a.id (some e') }
  | insertWriteFails {a e} : s.welcome.pc = .insertWrite a → s.envs a.id = some e →
      e.insertWrite = none → WelcomeEffect P s (.insertWrite false) s
  | insertRecv {a e e' r serializes} : s.welcome.pc = .insertRecv a → s.envs a.id = some e →
      answered e r = some e' → WelcomeEffect P s (.insertRecv r serializes)
        { s with
          envs := Function.update s.envs a.id (some e')
          history := { s.history with attached := s.history.attached ++ s.attaching a r } }
  | send {fd response errors abandon fds t} : s.welcome.pc = .send fd response errors abandon fds →
      s.sendTo P fd = some t → WelcomeEffect P s (.send (.ok ()))
        { t with
          history := { s.history with
            traffic := s.history.traffic ++ s.passing fd (.response .welcome)
            answers := s.history.answers ++ s.answering fd response } }
  | dropWrite {i k e e'} : s.welcome.pc = .dropWrite i k → s.envs i = some e →
      e.dropWrite = some e' →
      WelcomeEffect P s (.dropWrite true) { s with envs := Function.update s.envs i (some e') }
  | dropWriteFails {i k e} : s.welcome.pc = .dropWrite i k → s.envs i = some e →
      e.dropWrite = none → WelcomeEffect P s (.dropWrite false) s
  | dropFields {i k e} : s.welcome.pc = .dropFields i k → s.envs i = some e →
      WelcomeEffect P s .dropFields { s with envs := Function.update s.envs i (some e.dropFields) }
  | join {i k e panicked} : s.welcome.pc = .join i k → s.envs i = some e → e.pc = .ended →
      panicked = e.panicked → WelcomeEffect P s (.join panicked) s
  | close {fd} : WelcomeEffect P s (.close fd) { s with fds := s.fds.closeHeld fd .welcome }
  | dropLocals : WelcomeEffect P s .dropLocals
      { s with closeChan := (s.closeChan.dropReceiver).dropSender .welcome }
  | ended : WelcomeEffect P s (.teardown none) { s with listening := false, backlog := [] }
  | sendError {err} : s.errorRx = true → WelcomeEffect P s (.sendError err)
      { s with
        errors := s.errors ++ [err]
        fds := s.fds.handOver err
        history := { s.history with sent := s.history.sent ++ [err] } }

theorem readEvent_zero {count next : ℕ} {r : Except Errno Unit}
    (h : readEvent count r = some next) : next = 0 := by
  unfold readEvent at h
  split at h
  · rename_i hr
    cases h
    exact (EventFd.read_eq_some.mp hr).2
  · rename_i hr
    split at h
    · cases h
      exact EventFd.read_eq_none.mp hr
    · cases h
  · cases h

theorem welcomeEffect_effect {a : WelcomeAct} (h : s.welcomeEffect P a = some t) :
    WelcomeEffect P s a t := by
  cases a with
  | createEvent r =>
    cases r with
    | error _ => cases h; exact .plain rfl
    | ok _ => cases h; exact .createEvent
  | listen r =>
    cases r with
    | error _ => cases h; exact .plain rfl
    | ok _ => cases h; exact .listen
  | poll r =>
    cases r with
    | ok r =>
      simp only [welcomeEffect] at h
      split at h
      · rename_i hr
        cases h
        exact .poll hr.1 hr.2
      · cases h
    | error errno =>
      simp only [welcomeEffect] at h
      split at h
      · rename_i hr
        cases h
        exact .pollFails hr
      · cases h
  | shutdownRead r =>
    obtain ⟨count, hr, rfl⟩ := Option.map_eq_some_iff.mp h
    exact .shutdownRead hr
  | reloadRead r =>
    obtain ⟨count, hr, rfl⟩ := Option.map_eq_some_iff.mp h
    exact .reloadRead hr
  | closeRead r =>
    obtain ⟨count, hr, rfl⟩ := Option.map_eq_some_iff.mp h
    obtain rfl := readEvent_zero hr
    exact .closeRead
  | tryRecv r =>
    simp only [welcomeEffect] at h
    split at h
    · rename_i name j name' hr
      split at h
      · rename_i heq
        subst heq
        obtain ⟨rest, hq⟩ := Channel.tryRecv_eq_got.mp hr
        cases h
        simp only [Channel.rest, hq, List.tail_cons]
        exact .tryRecv hq
      · cases h
    · rename_i hr
      cases h
      exact .drainEmpty (Channel.tryRecv_eq_empty.mp hr).1
    · rename_i hr
      cases h
      obtain ⟨hq, hs⟩ := Channel.tryRecv_eq_disconnected.mp hr
      exact .drainDisconnected hq hs
    · cases h
  | accept r =>
    cases r with
    | error _ => cases h; exact .plain rfl
    | ok fd =>
      simp only [welcomeEffect] at h
      split at h
      · rename_i c rest hb
        obtain ⟨f, hf, rfl⟩ := Option.map_eq_some_iff.mp h
        obtain ⟨-, hfree, rfl⟩ := Fds.openAt_eq_some.mp hf
        exact .accept hb hfree
      · cases h
  | getsockopt r =>
    cases r with
    | error _ => cases h; exact .plain rfl
    | ok uid =>
      simp only [welcomeEffect] at h
      split at h
      · rename_i fd hpc
        split at h
        · rename_i conn hconn
          obtain ⟨c, hc, hconn⟩ := Option.bind_eq_some_iff.mp hconn
          split at h
          · rename_i hu
            cases h
            exact .getsockopt hpc hc hconn hu
          · cases h
        · cases h
      · cases h
  | recv r serializes =>
    cases r with
    | error _ => cases h; exact .plain rfl
    | ok m =>
      simp only [welcomeEffect] at h
      split at h
      · rename_i fd hpc
        obtain ⟨t, hr, rfl⟩ := Option.map_eq_some_iff.mp h
        exact .recv hpc hr
      · cases h
  | dup r =>
    cases r with
    | error _ => cases h; exact .plain rfl
    | ok passed =>
      simp only [welcomeEffect] at h
      split at h
      · rename_i fd name hpc
        split at h
        · rename_i d hd
          obtain ⟨f, hf, rfl⟩ := Option.map_eq_some_iff.mp h
          obtain ⟨-, hfree, rfl⟩ := Fds.openAt_eq_some.mp hf
          exact .dup hpc hd hfree
        · cases h
      · cases h
  | envNew r =>
    cases r with
    | error r =>
      simp only [welcomeEffect] at h
      split at h
      · cases h
        exact .plain rfl
      · cases h
    | ok i =>
      simp only [welcomeEffect] at h
      split at h
      · rename_i fd passed name hpc
        split at h
        · rename_i hi
          cases h
          exact .envNew hpc hi
        · cases h
      · cases h
  | insertSend sent =>
    simp only [welcomeEffect] at h
    split at h
    · rename_i a hpc
      split at h
      · rename_i e he
        split at h
        · rename_i e' he'
          cases sent with
          | true => cases h; exact .insertSend hpc he he'
          | false => cases h
        · rename_i he'
          cases sent with
          | true => cases h
          | false => cases h; exact .insertSendFails hpc he he'
      · cases h
    · cases h
  | insertWrite written =>
    simp only [welcomeEffect] at h
    split at h
    · rename_i a hpc
      split at h
      · rename_i e he
        split at h
        · rename_i e' he'
          cases written with
          | true => cases h; exact .insertWrite hpc he he'
          | false => cases h
        · rename_i he'
          cases written with
          | true => cases h
          | false => cases h; exact .insertWriteFails hpc he he'
      · cases h
    · cases h
  | insertRecv r serializes =>
    simp only [welcomeEffect] at h
    split at h
    · rename_i a hpc
      split at h
      · rename_i e he
        obtain ⟨e', ha, rfl⟩ := Option.map_eq_some_iff.mp h
        exact .insertRecv hpc he ha
      · cases h
    · cases h
  | send r =>
    cases r with
    | error _ => cases h; exact .plain rfl
    | ok _ =>
      simp only [welcomeEffect] at h
      split at h
      · rename_i fd response errors abandon fds hpc
        obtain ⟨t, hr, rfl⟩ := Option.map_eq_some_iff.mp h
        exact .send hpc hr
      · cases h
  | dropWrite written =>
    simp only [welcomeEffect] at h
    split at h
    · rename_i i k hpc
      split at h
      · rename_i e he
        split at h
        · rename_i e' he'
          cases written with
          | true => cases h; exact .dropWrite hpc he he'
          | false => cases h
        · rename_i he'
          cases written with
          | true => cases h
          | false => cases h; exact .dropWriteFails hpc he he'
      · cases h
    · cases h
  | dropFields =>
    simp only [welcomeEffect] at h
    split at h
    · rename_i i k hpc
      obtain ⟨e, he, rfl⟩ := Option.map_eq_some_iff.mp h
      exact .dropFields hpc he
    · cases h
  | join panicked =>
    simp only [welcomeEffect] at h
    split at h
    · rename_i i k hpc
      split at h
      · rename_i e he
        split at h
        · rename_i hend
          split at h
          · rename_i hp
            cases h
            exact .join hpc he hend hp
          · cases h
        · cases h
      · cases h
    · cases h
  | close fd => cases h; exact .close
  | dropLocals => cases h; exact .dropLocals
  | teardown next =>
    cases next with
    | none => cases h; exact .ended
    | some i => cases h; exact .plain rfl
  | sendError err =>
    obtain ⟨u, hu, rfl⟩ := Option.map_eq_some_iff.mp h
    obtain ⟨hrx, rfl⟩ := report_eq_some hu
    exact .sendError hrx

/-- What a step of thread `i` from `e` to `e'` does to the rest, one constructor for
each branch. -/
inductive EnvEffect (P : Externals) (s : Daemon) (i : EnvId) (e e' : Env) : EnvAct → Daemon → Prop
  | plain {a} : a.plain = true → EnvEffect P s i e e' a s
  | wait {events} : e.interrupted = false → (∀ ev ∈ events, s.ready P ev = true) →
      EnvEffect P s i e e' (.wait (.ok events)) s
  | waitFails {errno} : (e.interrupted = true ↔ errno = eintr) →
      EnvEffect P s i e e' (.wait (.error errno)) s
  | hangup {data source} : EnvEffect P s i e e' (.dispatch (some (.conn data source true)))
      { s with fds := if data ∈ e.sockets then s.fds.closeNumbers {data} else s.fds }
  | addEpoll {listener source} : s.connAt listener = some source →
      EnvEffect P s i e e' (.addEpoll listener (.ok source))
        { s with fds := s.fds.pass listener (.queue i) (.socket i) }
  | addEpollFails {listener errno} : EnvEffect P s i e e' (.addEpoll listener (.error errno))
      { s with fds := s.fds.closeHeld listener (.queue i) }
  | recv {fd m serializes t} : s.recvFrom fd m = some t →
      EnvEffect P s i e e' (.recv fd (.ok m) serializes)
        { t with history := { s.history with
            traffic := s.history.traffic ++ s.passing fd (.request (.env i)) } }
  | openMutex {os serializes fds memfds} :
      s.fds.addPages P i ((pagesOf e').drop (pagesOf e).length) s.memfds = some (fds, memfds) →
      EnvEffect P s i e e' (.openMutex os serializes) { s with fds := fds, memfds := memfds }
  | send {fd response t} : s.sendTo P fd = some t →
      EnvEffect P s i e e' (.send fd response (.ok ()))
        { t with history := { s.history with
            traffic := s.history.traffic ++ s.passing fd (.response (.env i))
            mutexes := s.history.mutexes ++ s.delivering i fd response } }
  | closeSend : s.closeChan.receiver = true → EnvEffect P s i e e' (.closeSend true)
      { s with closeChan := { s.closeChan with queue := s.closeChan.queue ++ [(e.name, i)] } }
  | closeSendFails : s.closeChan.receiver = false → EnvEffect P s i e e' (.closeSend false) s
  | closeWrite : EnvEffect P s i e e' (.closeWrite true) { s with closeEvent := s.closeEvent + 1 }
  | closeWriteFails : 0 < s.closeEvent → EnvEffect P s i e e' (.closeWrite false) s
  | leave {panics} : EnvEffect P s i e e' (.leave panics)
      { s with fds := (s.fds.closeAll (.page i)).closeNumbers e.sockets }
  | dropSync : EnvEffect P s i e e' .dropSync { s with closeChan := s.dropCaptures i e' }
  | dropListener : EnvEffect P s i e e' .dropListener
      { s with fds := s.fds.closeAll (.queue i), closeChan := s.dropCaptures i e' }
  | sendError {err} : s.errorRx = true → EnvEffect P s i e e' (.sendError err)
      { s with
        errors := s.errors ++ [err]
        history := { s.history with sent := s.history.sent ++ [err] } }

theorem envEffect_effect {i : EnvId} {e e' : Env} {a : EnvAct}
    (h : s.envEffect P i e e' a = some t) : EnvEffect P s i e e' a t := by
  cases a with
  | allocNew _ | epollNew _ | epollAdd _ | addRead | addTryRecv _ | respond | dropRead =>
    cases h
    exact .plain rfl
  | wait r =>
    cases r with
    | ok events =>
      simp only [envEffect] at h
      split at h
      · rename_i hr
        cases h
        exact .wait hr.1 (List.all_eq_true.mp hr.2)
      · cases h
    | error errno =>
      simp only [envEffect] at h
      split at h
      · rename_i hr
        cases h
        exact .waitFails hr
      · cases h
  | dispatch next =>
    match next with
    | none | some .add | some .drop | some (.conn _ _ false) => cases h; exact .plain rfl
    | some (.conn data source true) => cases h; exact .hangup
  | addEpoll listener r =>
    cases r with
    | ok source =>
      simp only [envEffect] at h
      split at h
      · rename_i hc
        cases h
        exact .addEpoll hc
      · cases h
    | error errno => cases h; exact .addEpollFails
  | recv fd r serializes =>
    cases r with
    | ok m =>
      obtain ⟨t, hr, rfl⟩ := Option.map_eq_some_iff.mp h
      exact .recv hr
    | error _ => cases h; exact .plain rfl
  | openMutex os serializes =>
    obtain ⟨⟨fds, memfds⟩, hr, rfl⟩ := Option.map_eq_some_iff.mp h
    exact .openMutex hr
  | send fd response r =>
    cases r with
    | ok _ =>
      obtain ⟨t, hr, rfl⟩ := Option.map_eq_some_iff.mp h
      exact .send hr
    | error _ => cases h; exact .plain rfl
  | closeSend sent =>
    simp only [envEffect] at h
    split at h
    · rename_i chan hc
      obtain ⟨hr, rfl⟩ := Channel.send_eq_some.mp hc
      cases sent with
      | true => cases h; exact .closeSend hr
      | false => cases h
    · rename_i hc
      cases sent with
      | true => cases h
      | false => cases h; exact .closeSendFails (Channel.send_eq_none.mp hc)
  | closeWrite written =>
    simp only [envEffect] at h
    split at h
    · rename_i count hc
      obtain ⟨-, rfl⟩ := EventFd.write_eq_some.mp hc
      cases written with
      | true => cases h; exact .closeWrite
      | false => cases h
    · rename_i hc
      cases written with
      | true => cases h
      | false =>
        cases h
        refine .closeWriteFails (Nat.pos_of_ne_zero fun hz => ?_)
        rw [hz, EventFd.write_zero] at hc
        cases hc
  | leave panics => cases h; exact .leave
  | dropSync => cases h; exact .dropSync
  | dropListener => cases h; exact .dropListener
  | sendError err =>
    obtain ⟨hrx, rfl⟩ := report_eq_some h
    exact .sendError hrx

/-! ## Steps by party -/

theorem welcomeStep_moves {a : WelcomeAct} (h : s.welcomeStep P a = some t) :
    ∃ w u, Welcome.Moves P s.welcome a w ∧ WelcomeEffect P s a u ∧ t = { u with welcome := w } := by
  unfold welcomeStep at h
  split at h
  · rename_i w hw
    obtain ⟨u, hu, rfl⟩ := Option.map_eq_some_iff.mp h
    exact ⟨w, u, Welcome.step_moves hw, welcomeEffect_effect hu, rfl⟩
  · cases h

theorem envStep_moves {i : EnvId} {a : EnvAct} (h : s.envStep P i a = some t) :
    ∃ e e' u, s.envs i = some e ∧ e.step P a = some e' ∧ EnvEffect P s i e e' a u ∧
      t = { u with envs := Function.update s.envs i (some e') } := by
  unfold envStep at h
  split at h
  · rename_i e he
    split at h
    · rename_i e' hs
      obtain ⟨u, hu, rfl⟩ := Option.map_eq_some_iff.mp h
      exact ⟨e, e', u, he, hs, envEffect_effect hu, rfl⟩
    · cases h
  · cases h

/-- An error is taken in the receive loop and logged. -/
def afterRecv (s : Daemon) (err : DetailedError) (rest : List DetailedError) (main : MainPc) :
    Daemon :=
  { s with
    main := main
    errors := rest
    fds := s.dropError err
    history := { s.history with
      received := s.history.received ++ [err]
      logged := s.history.logged ++ [err] } }

/-- The steps of `main`. -/
inductive MainMoves (s : Daemon) : MainAct → Daemon → Prop
  | new : s.main = .start → MainMoves s (.new true)
      { s with
        errors := []
        errorRx := true
        history := { s.history with sent := [], logged := [] }
        main := .notifyStarting }
  | ahead {a pc} : s.main.settingUp = true → s.main ≠ .start → pc.settingUp = true → pc ≠ .start →
      MainMoves s a { s with main := pc }
  | setupEvents : s.main = .setupEvents → MainMoves s (.setupEvents true)
      { s with
        shutdownEvent := some (s.shutdownEvent.getD 0)
        reloadEvent := some (s.reloadEvent.getD 0)
        main := .listen }
  | fails {a} : s.main.settingUp = true → MainMoves s a (s.exit .failure)
  | listen : s.main = .listen → MainMoves s (.listen true)
      { s with welcome := .new, main := .notifyListening }
  | notifyListening : s.main = .notifyListening →
      MainMoves s (.notifyListening true) { s with main := .recv }
  | notifyListeningFails : s.main = .notifyListening →
      MainMoves s (.notifyListening false) { s with main := .join .exitFailure }
  | recv {tripped err rest} : s.main = .recv → s.errors = err :: rest → err.isTerminal = false →
      MainMoves s (.recv tripped) (s.afterRecv err rest .recv)
  | recvShutdown {tripped rest} : s.main = .recv → s.errors = .shutdownSignal :: rest →
      MainMoves s (.recv tripped) (s.afterRecv .shutdownSignal rest (.join (.drain false)))
  | recvReload {rest} : s.main = .recv → s.errors = .reloadRequest :: rest →
      MainMoves s (.recv false) (s.afterRecv .reloadRequest rest (.join (.drain true)))
  | recvTripped {rest} : s.main = .recv → s.errors = .reloadRequest :: rest →
      MainMoves s (.recv true)
        { s with
          main := .exited .killed
          errors := rest
          history := { s.history with received := s.history.received ++ [.reloadRequest] } }
  | join {reload} : s.main = .join (.drain reload) → s.welcome.pc = .ended →
      s.welcome.outbox = [] → s.welcome.panicking = false →
      MainMoves s .join { s with main := .drain reload }
  | joinExits {k e} : s.main = .join k → s.welcome.pc = .ended → s.welcome.outbox = [] →
      (s.welcome.panicking = true ∨ k = .exitFailure) → MainMoves s .join (s.exit e)
  | drain {reload err rest} : s.main = .drain reload → s.errors = err :: rest →
      MainMoves s .drain
        { s with
          fds := s.dropError err
          errors := rest
          history := { s.history with logged := s.history.logged ++ [err] } }
  | reload : s.main = .drain true → s.errors = [] →
      MainMoves s .drain { s with main := .start, errorRx := false }
  | success : s.main = .drain false → s.errors = [] → MainMoves s .drain (s.exit .success)

theorem mainStep_moves {a : MainAct} (h : s.mainStep a = some t) : MainMoves s a t := by
  cases a with
  | new envVar =>
    simp only [mainStep] at h
    split at h
    · rename_i hm
      cases envVar <;> cases h
      · exact .fails (by rw [hm]; rfl)
      · exact .new hm
    · cases h
  | notifyStarting ok | checkPrivileges ok | setupSocket ok =>
    simp only [mainStep] at h
    split at h
    · rename_i hm
      cases ok <;> cases h
      · exact .fails (by rw [hm]; rfl)
      · exact .ahead (by rw [hm]; rfl) (by rw [hm]; nofun) rfl nofun
    · cases h
  | setupEvents ok =>
    simp only [mainStep] at h
    split at h
    · rename_i hm
      cases ok <;> cases h
      · exact .fails (by rw [hm]; rfl)
      · exact .setupEvents hm
    · cases h
  | listen ok =>
    simp only [mainStep] at h
    split at h
    · rename_i hm
      cases ok <;> cases h
      · exact .fails (by rw [hm]; rfl)
      · exact .listen hm
    · cases h
  | notifyListening ok =>
    simp only [mainStep] at h
    split at h
    · rename_i hm
      cases ok <;> cases h
      · exact .notifyListeningFails hm
      · exact .notifyListening hm
    · cases h
  | recv tripped =>
    simp only [mainStep] at h
    split at h
    · rename_i err rest hm he
      split at h
      · cases h
        have hmove : MainMoves s (.recv tripped) _ := .recvShutdown hm he
        simpa only [afterRecv] using hmove
      · cases tripped <;> cases h
        · exact .recvReload hm he
        · exact .recvTripped hm he
      · rename_i hs hr
        cases h
        have hmove : MainMoves s (.recv tripped) _ := .recv hm he
          (by cases err <;> first | rfl | exact absurd rfl hs | exact absurd rfl hr)
        simpa only [afterRecv, hm] using hmove
    · cases h
  | join =>
    simp only [mainStep] at h
    split at h
    · rename_i k hm hpc ho
      split at h
      · rename_i hp
        cases h
        exact .joinExits hm hpc ho (.inl hp)
      · rename_i hp
        cases k with
        | drain reload =>
          cases h
          exact .join hm hpc ho (by simpa using hp)
        | exitFailure =>
          cases h
          exact .joinExits hm hpc ho (.inr rfl)
    · cases h
  | drain =>
    simp only [mainStep] at h
    split at h
    · rename_i reload err rest hm he
      cases h
      exact .drain hm he
    · rename_i reload hm he
      cases reload <;> cases h
      · exact .success hm he
      · exact .reload hm he
    · cases h

/-- A client only ever touches connections. -/
theorem clientStep_frame {c : ConnId} {a : ClientAct} (h : s.clientStep c a = some t) :
    ∃ conns backlog, t = { s with conns := conns, backlog := backlog } := by
  cases a <;> simp only [clientStep] at h <;> repeat' split at h
  all_goals first
    | cases h
      exact ⟨_, _, rfl⟩
    | cases h

/-- A signal is handled: on a thread that is not waiting, on the welcome thread in
its `poll`, or on an environment thread in its `epoll_wait`. -/
inductive SignalMoves (s : Daemon) (sig : Signal) : Thread → Bool → Daemon → Prop
  | handled {thread} : SignalMoves s sig thread false (s.handler sig)
  | poll : s.welcome.pc = .poll → s.welcome.outbox = [] → SignalMoves s sig .welcome true
      { s.handler sig with welcome := { s.welcome with interrupted := true } }
  | wait {i e} : s.envs i = some e → e.pc = .wait → e.outbox = [] →
      SignalMoves s sig (.env i) true
        { s.handler sig with envs := Function.update s.envs i (some { e with interrupted := true }) }

theorem signalStep_moves {sig : Signal} {thread : Thread} {interrupts : Bool}
    (h : s.signalStep sig thread interrupts = some t) :
    s.shutdownEvent ≠ none ∧ SignalMoves s sig thread interrupts t := by
  unfold signalStep at h
  split at h
  · cases h
  · rename_i hev
    refine ⟨hev, ?_⟩
    cases thread with
    | main =>
      simp only at h
      split at h
      · cases h
      · rename_i hi
        cases h
        obtain rfl : interrupts = false := by simpa using hi
        exact .handled
    | welcome =>
      simp only at h
      split at h
      · cases h
      · rename_i hpc
        split at h
        · rename_i ho
          cases h
          exact .poll hpc ho
        · cases h
      · cases h
      · cases h
        exact .handled
    | env i =>
      simp only at h
      split at h
      · rename_i e hi
        split at h
        · cases h
        · rename_i hpc
          split at h
          · rename_i ho
            cases h
            exact .wait hi hpc ho
          · cases h
        · cases h
        · cases h
          exact .handled
      · cases h

/-- A handler only ever touches the two events. -/
theorem handler_shape (s : Daemon) (sig : Signal) :
    ∃ shutdown reload terminated reloaded, s.handler sig =
      { s with
        shutdownEvent := shutdown
        reloadEvent := reload
        history := { s.history with terminated := terminated, reloaded := reloaded } } := by
  cases sig <;> exact ⟨_, _, _, _, rfl⟩

/-- A step is one of `main`, of the welcome thread, of an environment thread, of a
client or a signal. -/
inductive ByParty (P : Externals) (s : Daemon) : Act → Daemon → Prop
  | main {a t} : MainMoves s a t → ByParty P s (.main a) t
  | welcome {a w u} : Welcome.Moves P s.welcome a w → WelcomeEffect P s a u →
      ByParty P s (.welcome a) { u with welcome := w }
  | env {i a e e' u} : s.envs i = some e → e.step P a = some e' → EnvEffect P s i e e' a u →
      ByParty P s (.env i a) { u with envs := Function.update s.envs i (some e') }
  | client {c a conns backlog} : s.clientStep c a = some { s with conns := conns, backlog := backlog } →
      ByParty P s (.client c a) { s with conns := conns, backlog := backlog }
  | signal {sig thread interrupts t} : s.shutdownEvent ≠ none →
      SignalMoves s sig thread interrupts t → ByParty P s (.signal sig thread interrupts) t

theorem step_party {a : Act} (h : s.step P a = some t) :
    (∀ e, s.main ≠ .exited e) ∧ ByParty P s a t := by
  unfold step at h
  split at h
  · cases h
  · rename_i hm
    refine ⟨fun e he => hm e he, ?_⟩
    cases a with
    | main a => exact .main (mainStep_moves h)
    | welcome a =>
      obtain ⟨w, u, hmove, he, rfl⟩ := welcomeStep_moves h
      exact .welcome hmove he
    | env i a =>
      obtain ⟨e, e', u, hi, hs, he, rfl⟩ := envStep_moves h
      exact .env hi hs he
    | client c a =>
      obtain ⟨conns, backlog, rfl⟩ := clientStep_frame h
      exact .client h
    | signal sig thread interrupts =>
      obtain ⟨hev, hmove⟩ := signalStep_moves h
      exact .signal hev hmove

end Daemon
end Garnd
