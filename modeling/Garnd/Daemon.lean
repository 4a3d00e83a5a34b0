import Garnd.Environment
import Garnd.WelcomeThread
import Mathlib.Logic.Function.Basic

/- The daemon: `main` with its reloads (`main.rs`), the signal handlers and the
   events they write (`runtime.rs`), the welcome thread of the incarnation, every
   environment with its thread, the descriptor table of the process and the
   clients. A step is one step of one party. For a thread it is the thread's own
   step together with what the step does to the rest, and it is enabled where the
   rest answers as the label says. The daemon is modelled as a release build. -/
namespace Garnd

/-- What a descriptor refers to: a client's connection or a page of shared memory. -/
inductive File where
  | conn (c : ConnId)
  | memfd (k : ℕ)
  deriving DecidableEq, Repr

/-- Where the owner of a descriptor is: the welcome thread, an error in the error
channel, the `add_listener` channel of an environment, its `SocketSet`, its pages. -/
inductive Holder where
  | welcome
  | errors
  | queue (i : EnvId)
  | socket (i : EnvId)
  | page (i : EnvId)
  deriving DecidableEq, Repr

structure Descriptor where
  file : File
  holder : Holder
  deriving DecidableEq, Repr

/-- The descriptor table of the process. -/
abbrev Fds := RawFd → Option Descriptor

namespace Fds

/-- A descriptor is opened under a number that is free. -/
def openAt (P : Externals) (f : Fds) (x : RawFd) (d : Descriptor) : Option Fds :=
  if x < P.openMax ∧ f x = none then some (Function.update f x (some d)) else none

/-- An `OwnedFd` that `h` holds is dropped. -/
def closeHeld (f : Fds) (x : RawFd) (h : Holder) : Fds :=
  if (f x).map Descriptor.holder = some h then Function.update f x none else f

/-- Every `OwnedFd` that `h` holds is dropped. -/
def closeAll (f : Fds) (h : Holder) : Fds :=
  fun x => if (f x).map Descriptor.holder = some h then none else f x

/-- Numbers are closed, whoever holds what they refer to. -/
def closeNumbers (f : Fds) (xs : Finset RawFd) : Fds := fun x => if x ∈ xs then none else f x

/-- An `OwnedFd` changes hands. -/
def pass (f : Fds) (x : RawFd) (h h' : Holder) : Fds :=
  match f x with
  | some d => if d.holder = h then Function.update f x (some ⟨d.file, h'⟩) else f
  | none => f

/-- A socket that an error owns goes to `main` with it. -/
def handOver (f : Fds) (err : DetailedError) : Fds :=
  match err.socket with
  | some x => f.pass x .welcome .errors
  | none => f

/-- The connection behind a number. -/
def connAt (f : Fds) (x : RawFd) : Option ConnId :=
  match f x with
  | some ⟨.conn c, _⟩ => some c
  | _ => none

/-- The pages that `handle_open_mutex` added get their descriptors, each with a new
`memfd`. -/
def addPages (P : Externals) (i : EnvId) : List Page → Fds → ℕ → Option (Fds × ℕ)
  | [], f, k => some (f, k)
  | page :: rest, f, k =>
    match f.openAt P page.fd ⟨.memfd k, .page i⟩ with
    | some f' => addPages P i rest f' (k + 1)
    | none => none

end Fds

/-- A client's end of a connection: `inbox` is what it has sent and the daemon has
not received, `unread` how many messages it has not read. `closed` says that it sends
nothing more, `deaf` that it has shut down its receiving half, `gone` that it has closed the
connection. `home` is history: the environment it was passed to. -/
structure Conn where
  uid : ℕ
  inbox : List Message
  unread : ℕ
  closed : Bool
  deaf : Bool
  gone : Bool
  home : Option EnvId

/-- The client shuts down one half of the connection or both. -/
def Conn.shut (conn : Conn) (sending receiving : Bool) : Conn :=
  { conn with closed := conn.closed || sending, deaf := conn.deaf || receiving }

def Conn.close (conn : Conn) : Conn := { conn with closed := true, gone := true }

/-- A send to it fails, unless it waits. -/
def Conn.refuses (conn : Conn) : Bool := conn.deaf || conn.gone

theorem Conn.closed_shut {conn : Conn} {sending receiving : Bool} (h : conn.closed = true) :
    (conn.shut sending receiving).closed = true := by simp [shut, h]

inductive Exit where
  | success
  | failure
  | killed
  | panicked
  deriving DecidableEq, Repr

/-- What `main` does after the join of the welcome thread. -/
inductive MainAfter where
  | drain (reload : Bool)
  | exitFailure
  deriving DecidableEq, Repr

inductive MainPc where
  | start
  | notifyStarting
  | checkPrivileges
  | setupSocket
  | setupEvents
  | listen
  | notifyListening
  | recv
  | join (k : MainAfter)
  | drain (reload : Bool)
  | exited (e : Exit)
  deriving DecidableEq, Repr

/-- An `OpenMutexOk` that was delivered: by which instance, to which connection, for
which name, and what it said. -/
structure MutexOk where
  conn : ConnId
  instance' : EnvId
  name : String
  page : ℕ
  offset : ℕ
  memfd : ℕ
  deriving DecidableEq, Repr

/-- A message that a thread has taken from a connection, or a response it has sent. -/
inductive Traffic where
  | request (t : Thread)
  | response (t : Thread)
  deriving DecidableEq, Repr

/-- What has happened, for the record: a termination handler has run, a reload
handler has run, the messages `main` has taken in its receive loop, those sent on
the error channel of the incarnation and those `main` has logged of them, what
passed on the connections, the well-formed requests the welcome thread has taken,
the connections whose `insert_socket` returned `Ok` with the instance, the
responses of the welcome thread and the mutexes handed out. -/
structure History where
  terminated : Bool
  reloaded : Bool
  received : List DetailedError
  sent : List DetailedError
  logged : List DetailedError
  traffic : List (ConnId × Traffic)
  opened : List (ConnId × String)
  attached : List (ConnId × EnvId)
  answers : List (ConnId × WelcomeResponse)
  mutexes : List MutexOk

/-- `shutdownEvent` and `reloadEvent` are the counters behind the two statics, `none`
while these are -1. `errorRx` says that the receiver of `errors` exists: a thread
that sends an error after it is gone panics in `send_error!`. -/
structure Daemon where
  main : MainPc
  shutdownEvent : Option ℕ
  reloadEvent : Option ℕ
  errors : List DetailedError
  errorRx : Bool
  welcome : Welcome
  closeEvent : ℕ
  closeChan : Channel Thread (String × EnvId)
  listening : Bool
  backlog : List ConnId
  envs : EnvId → Option Env
  conns : ConnId → Option Conn
  fds : Fds
  memfds : ℕ
  history : History

inductive MainAct where
  | new (envVar : Bool)
  | notifyStarting (ok : Bool)
  | checkPrivileges (ok : Bool)
  | setupSocket (ok : Bool)
  | setupEvents (ok : Bool)
  | listen (ok : Bool)
  | notifyListening (ok : Bool)
  | recv (tripped : Bool)
  | join
  | drain

/-- `shutdown` is the call on one half of the connection, or on both. -/
inductive ClientAct where
  | connect (uid : ℕ)
  | send (m : Message)
  | read
  | shutdown (sending receiving : Bool)
  | close

inductive Signal where
  | sigterm
  | sigint
  | sighup
  deriving DecidableEq, Repr

/-- The labels. A signal is handled on a thread; `interrupts` says that the thread
was waiting in `poll` or `epoll_wait`. -/
inductive Act where
  | main (a : MainAct)
  | welcome (a : WelcomeAct)
  | env (i : EnvId) (a : EnvAct)
  | client (c : ConnId) (a : ClientAct)
  | signal (sig : Signal) (t : Thread) (interrupts : Bool)

/-- Before `main`. There is no welcome thread, as if it had ended. -/
def Daemon.boot : Daemon where
  main := .start
  shutdownEvent := none
  reloadEvent := none
  errors := []
  errorRx := false
  welcome := { Welcome.new with pc := .ended }
  closeEvent := 0
  closeChan := ⟨[], ∅, false⟩
  listening := false
  backlog := []
  envs _ := none
  conns _ := none
  fds _ := none
  memfds := 0
  history := ⟨false, false, [], [], [], [], [], [], [], []⟩

namespace Daemon

/-! ## Connections -/

/-- The connection behind a number. -/
def connAt (s : Daemon) (x : RawFd) : Option ConnId := s.fds.connAt x

/-- Some descriptor of the process refers to the file. -/
def isOpen (P : Externals) (s : Daemon) (f : File) : Bool :=
  (List.range P.openMax).any fun x => (s.fds x).map Descriptor.file = some f

/-- A `recv` on `x` returns `m`: the first message, or nothing at the end. -/
def recvFrom (s : Daemon) (x : RawFd) (m : Message) : Option Daemon :=
  match s.connAt x with
  | none => none
  | some c =>
    match s.conns c with
    | none => none
    | some conn =>
      match conn.inbox with
      | m' :: rest =>
        if m = m' then
          some { s with conns := Function.update s.conns c (some { conn with inbox := rest }) }
        else none
      | [] => if conn.closed ∧ m = [] then some s else none

/-- A send to the peer of `c` returns: the receive queue of the peer has room, or the peer
has closed. To shut down one half or both does not wake a sender that waits for room. -/
def hasRoom (P : Externals) (s : Daemon) (c : ConnId) : Bool :=
  match s.conns c with
  | some conn => conn.unread < P.peerQueue || conn.gone
  | none => false

/-- A send on `x` succeeds. -/
def sendTo (P : Externals) (s : Daemon) (x : RawFd) : Option Daemon :=
  match s.connAt x with
  | none => none
  | some c =>
    match s.conns c with
    | none => none
    | some conn =>
      if conn.unread < P.peerQueue ∧ conn.refuses = false then
        some { s with conns := Function.update s.conns c (some { conn with unread := conn.unread + 1 }) }
      else none

/-- The kernel may report the event. A connection's entry lives while any
descriptor refers to the connection; `EPOLLRDHUP` is set once the peer has closed it or has
shut down its sending half. -/
def ready (P : Externals) (s : Daemon) : Event → Bool
  | .conn _ source hangup =>
    match s.conns source with
    | some conn =>
      s.isOpen P (.conn source) && hangup == conn.closed && (hangup || !conn.inbox.isEmpty)
    | none => false
  | _ => true

/-! ## The welcome thread -/

/-- The `read` of a counter returns `r`. -/
def readEvent (count : ℕ) (r : Except Errno Unit) : Option ℕ :=
  match EventFd.read count, r with
  | some next, .ok () => some next
  | none, .error errno => if errno = eagain then some count else none
  | _, _ => none

/-- The `poll` returns `r`: `POLLIN` where there is something to read, and something
is set. -/
def pollable (s : Daemon) (r : PollResult) : Bool :=
  r.shutdown.pollin == (0 < s.shutdownEvent.getD 0 : Bool) &&
  r.reload.pollin == (0 < s.reloadEvent.getD 0 : Bool) &&
  r.closeEnv.pollin == (0 < s.closeEvent : Bool) &&
  r.welcome.pollin == !s.backlog.isEmpty &&
  (r.shutdown.any || r.reload.any || r.closeEnv.any || r.welcome.any)

/-- What is received from `sync_response_rx` is `r`. -/
def answered (e : Env) : Option (Except (Call × Errno) Unit) → Option Env
  | some (.ok ()) => if e.syncResponse.tryRecv = .got (.ok ()) then some e.insertRecv else none
  | some (.error (call, errno)) =>
    if e.syncResponse.tryRecv = .got (.error (.sys call errno)) then some e.insertRecv else none
  | none => if e.syncResponse.tryRecv = .disconnected then some e else none

/-- What the record gets: a well-formed request, an attached client, an answer. -/
def opening (P : Externals) (s : Daemon) (fd : RawFd) (m : Message) : List (ConnId × String) :=
  match s.connAt fd, P.welcomeRequest m with
  | some c, .ok name => [(c, name)]
  | _, _ => []

def attaching (s : Daemon) (a : Attaching) : Option (Except (Call × Errno) Unit) →
    List (ConnId × EnvId)
  | some (.ok ()) => (s.connAt a.fd).toList.map fun c => (c, a.id)
  | _ => []

def answering (s : Daemon) (fd : RawFd) (response : WelcomeResponse) :
    List (ConnId × WelcomeResponse) :=
  (s.connAt fd).toList.map fun c => (c, response)

def passing (s : Daemon) (fd : RawFd) (x : Traffic) : List (ConnId × Traffic) :=
  (s.connAt fd).toList.map fun c => (c, x)

/-- `error_tx.send`. -/
def report (s : Daemon) (err : DetailedError) : Option Daemon :=
  if s.errorRx then
    some { s with
      errors := s.errors ++ [err]
      history := { s.history with sent := s.history.sent ++ [err] } }
  else none

/-- What a step of the welcome thread does to the rest. -/
def welcomeEffect (P : Externals) (s : Daemon) : WelcomeAct → Option Daemon
  | .createEvent (.ok ()) => some { s with closeEvent := 0, closeChan := .new {.welcome} }
  | .listen (.ok ()) => some { s with listening := true }
  | .poll (.ok r) => if s.welcome.interrupted = false ∧ s.pollable r then some s else none
  -- `SA_RESTART` does not restart a `poll` or an `epoll_wait`
  | .poll (.error errno) => if s.welcome.interrupted = true ↔ errno = eintr then some s else none
  | .shutdownRead r =>
    (readEvent (s.shutdownEvent.getD 0) r).map fun count => { s with shutdownEvent := some count }
  | .reloadRead r =>
    (readEvent (s.reloadEvent.getD 0) r).map fun count => { s with reloadEvent := some count }
  | .closeRead r => (readEvent s.closeEvent r).map fun count => { s with closeEvent := count }
  | .tryRecv r =>
    match s.closeChan.tryRecv, r with
    | .got (name, _), .got name' =>
      if name = name' then some { s with closeChan := s.closeChan.rest } else none
    | .empty, .empty => some s
    | .disconnected, .disconnected => some s
    | _, _ => none
  | .accept (.ok fd) =>
    match s.backlog with
    | c :: rest =>
      (s.fds.openAt P fd ⟨.conn c, .welcome⟩).map fun f => { s with fds := f, backlog := rest }
    | [] => none
  | .getsockopt (.ok uid) =>
    match s.welcome.pc with
    | .getsockopt fd =>
      match (s.connAt fd).bind s.conns with
      | some conn => if uid = conn.uid then some s else none
      | none => none
    | _ => none
  | .recv (.ok m) _ =>
    match s.welcome.pc with
    | .recv fd =>
      (s.recvFrom fd m).map fun t => { t with
        history := { s.history with
          traffic := s.history.traffic ++ s.passing fd (.request .welcome)
          opened := s.history.opened ++ s.opening P fd m } }
    | _ => none
  | .dup (.ok passed) =>
    match s.welcome.pc with
    | .dup fd _ =>
      match s.fds fd with
      | some d => (s.fds.openAt P passed ⟨d.file, .welcome⟩).map fun f => { s with fds := f }
      | none => none
    | _ => none
  | .envNew (.ok i) =>
    match s.welcome.pc with
    | .envNew _ _ name =>
      if s.envs i = none then
        some { s with
          envs := Function.update s.envs i (some (.new name i))
          closeChan := s.closeChan.addSender (.env i) }
      else none
    | _ => none
  | .envNew (.error (call, _)) => if call = .eventfd ∨ call = .spawn then some s else none
  | .insertSend sent =>
    match s.welcome.pc with
    | .insertSend a =>
      match s.envs a.id with
      | some e =>
        match e.insertSend a.passed with
        | some e' =>
          if sent then
            some { s with
              fds := s.fds.pass a.passed .welcome (.queue a.id)
              envs := Function.update s.envs a.id (some e')
              conns := fun c =>
                if s.connAt a.passed = some c then
                  (s.conns c).map fun conn => { conn with home := some a.id }
                else s.conns c }
          else none
        | none => if sent then none else some s
      | none => none
    | _ => none
  | .insertWrite written =>
    match s.welcome.pc with
    | .insertWrite a =>
      match s.envs a.id with
      | some e =>
        match e.insertWrite with
        | some e' =>
          if written then some { s with envs := Function.update s.envs a.id (some e') } else none
        | none => if written then none else some s
      | none => none
    | _ => none
  | .insertRecv r _ =>
    match s.welcome.pc with
    | .insertRecv a =>
      match s.envs a.id with
      | some e =>
        (answered e r).map fun e' => { s with
          envs := Function.update s.envs a.id (some e')
          history := { s.history with attached := s.history.attached ++ s.attaching a r } }
      | none => none
    | _ => none
  | .send (.ok ()) =>
    match s.welcome.pc with
    | .send fd response _ _ _ =>
      (s.sendTo P fd).map fun t => { t with
        history := { s.history with
          traffic := s.history.traffic ++ s.passing fd (.response .welcome)
          answers := s.history.answers ++ s.answering fd response } }
    | _ => none
  | .dropWrite written =>
    match s.welcome.pc with
    | .dropWrite i _ =>
      match s.envs i with
      | some e =>
        match e.dropWrite with
        | some e' =>
          if written then some { s with envs := Function.update s.envs i (some e') } else none
        | none => if written then none else some s
      | none => none
    | _ => none
  | .dropFields =>
    match s.welcome.pc with
    | .dropFields i _ =>
      (s.envs i).map fun e => { s with envs := Function.update s.envs i (some e.dropFields) }
    | _ => none
  | .join panicked =>
    match s.welcome.pc with
    | .join i _ =>
      match s.envs i with
      | some e =>
        match e.pc with
        | .ended => if panicked = e.panicked then some s else none
        | _ => none
      | none => none
    | _ => none
  | .close fd => some { s with fds := s.fds.closeHeld fd .welcome }
  | .dropLocals =>
    some { s with closeChan := (s.closeChan.dropReceiver).dropSender .welcome }
  | .teardown none => some { s with listening := false, backlog := [] }
  | .sendError err => (s.report err).map fun t => { t with fds := s.fds.handOver err }
  | _ => some s

def welcomeStep (P : Externals) (s : Daemon) (a : WelcomeAct) : Option Daemon :=
  match s.welcome.step P a with
  | some w => (s.welcomeEffect P a).map fun t => { t with welcome := w }
  | none => none

/-! ## The environment threads -/

def pagesOf (e : Env) : List Page := (e.shm.map ShmAllocator.pages).getD []

/-- What the record gets of a response that is delivered on `fd`. -/
def delivering (s : Daemon) (i : EnvId) (fd : RawFd) (response : EnvironmentResponse) :
    List MutexOk :=
  match response, s.connAt fd with
  | .openMutexOk name location, some c =>
    match s.fds location.fd with
    | some ⟨.memfd k, _⟩ => [⟨c, i, name, location.page, location.offset, k⟩]
    | _ => []
  | _, _ => []

/-- The capture that goes last takes the thread's sender of the close channel
with it. -/
def dropCaptures (s : Daemon) (i : EnvId) (e' : Env) : Channel Thread (String × EnvId) :=
  match e'.pc with
  | .ended => s.closeChan.dropSender (.env i)
  | _ => s.closeChan

/-- What the step of thread `i` from `e` to `e'` does to the rest. The numbers in a
`SocketSet` are not owned descriptors; they are closed as numbers. -/
def envEffect (P : Externals) (s : Daemon) (i : EnvId) (e e' : Env) : EnvAct → Option Daemon
  | .wait (.ok events) => if e.interrupted = false ∧ events.all (s.ready P) then some s else none
  | .wait (.error errno) => if e.interrupted = true ↔ errno = eintr then some s else none
  | .dispatch (some (.conn data _ true)) =>
    some { s with fds := if data ∈ e.sockets then s.fds.closeNumbers {data} else s.fds }
  | .addEpoll listener (.ok source) =>
    if s.connAt listener = some source then
      some { s with fds := s.fds.pass listener (.queue i) (.socket i) }
    else none
  | .addEpoll listener (.error _) => some { s with fds := s.fds.closeHeld listener (.queue i) }
  | .recv fd (.ok m) _ =>
    (s.recvFrom fd m).map fun t => { t with
      history := { s.history with
        traffic := s.history.traffic ++ s.passing fd (.request (.env i)) } }
  | .openMutex _ _ =>
    (s.fds.addPages P i ((pagesOf e').drop (pagesOf e).length) s.memfds).map fun r =>
      { s with fds := r.1, memfds := r.2 }
  | .send fd response (.ok ()) =>
    (s.sendTo P fd).map fun t => { t with
      history := { s.history with
        traffic := s.history.traffic ++ s.passing fd (.response (.env i))
        mutexes := s.history.mutexes ++ s.delivering i fd response } }
  | .closeSend sent =>
    match s.closeChan.send (e.name, i) with
    | some chan => if sent then some { s with closeChan := chan } else none
    | none => if sent then none else some s
  | .closeWrite written =>
    match EventFd.write s.closeEvent with
    | some count => if written then some { s with closeEvent := count } else none
    | none => if written then none else some s
  | .leave _ => some { s with fds := (s.fds.closeAll (.page i)).closeNumbers e.sockets }
  | .dropSync => some { s with closeChan := s.dropCaptures i e' }
  | .dropListener =>
    some { s with fds := s.fds.closeAll (.queue i), closeChan := s.dropCaptures i e' }
  | .sendError err => s.report err
  | _ => some s

def envStep (P : Externals) (s : Daemon) (i : EnvId) (a : EnvAct) : Option Daemon :=
  match s.envs i with
  | some e =>
    match e.step P a with
    | some e' =>
      (s.envEffect P i e e' a).map fun t => { t with envs := Function.update s.envs i (some e') }
    | none => none
  | none => none

/-! ## `main`, the clients and the signal handlers -/

/-- An error that has been logged is dropped, with the socket it may own. -/
def dropError (s : Daemon) (err : DetailedError) : Fds :=
  match err.socket with
  | some x => s.fds.closeHeld x .errors
  | none => s.fds

/-- `main` is over, and its `error_rx` with it: what is still queued is dropped, and the
sockets it owns are closed. -/
def exit (s : Daemon) (e : Exit) : Daemon :=
  { s with main := .exited e, errors := [], errorRx := false, fds := s.fds.closeAll .errors }

/-- `main`. -/
def mainStep (s : Daemon) : MainAct → Option Daemon
  | .new envVar =>
    if s.main = .start then
      some (if envVar then
          { s with
            errors := []
            errorRx := true
            history := { s.history with sent := [], logged := [] }
            main := .notifyStarting }
        else s.exit .failure)
    else none
  | .notifyStarting ok =>
    if s.main = .notifyStarting then
      some (if ok then { s with main := .checkPrivileges } else s.exit .failure)
    else none
  | .checkPrivileges ok =>
    if s.main = .checkPrivileges then
      some (if ok then { s with main := .setupSocket } else s.exit .failure)
    else none
  | .setupSocket ok =>
    if s.main = .setupSocket then
      some (if ok then { s with main := .setupEvents } else s.exit .failure)
    else none
  -- the first incarnation sets the statics, the others find and recycle them
  | .setupEvents ok =>
    if s.main = .setupEvents then
      some (if ok then
          { s with
            shutdownEvent := some (s.shutdownEvent.getD 0)
            reloadEvent := some (s.reloadEvent.getD 0)
            main := .listen }
        else s.exit .failure)
    else none
  | .listen ok =>
    if s.main = .listen then
      some (if ok then { s with welcome := .new, main := .notifyListening } else s.exit .failure)
    else none
  | .notifyListening ok =>
    if s.main = .notifyListening then
      some { s with main := if ok then .recv else .join .exitFailure }
    else none
  -- the circuit breaker kills the process after too many reloads
  | .recv tripped =>
    match s.main, s.errors with
    | .recv, err :: rest =>
      let t := { s with
        errors := rest
        history := { s.history with received := s.history.received ++ [err] } }
      let logged := { t with
        fds := s.dropError err
        history := { t.history with logged := s.history.logged ++ [err] } }
      match err with
      | .shutdownSignal => some { logged with main := .join (.drain false) }
      | .reloadRequest =>
        some (if tripped then { t with main := .exited .killed }
          else { logged with main := .join (.drain true) })
      | _ => some logged
    | _, _ => none
  -- the locals go in reverse order: the runtime, which joins, before `error_rx`
  | .join =>
    match s.main, s.welcome.pc, s.welcome.outbox with
    | .join k, .ended, [] =>
      some (if s.welcome.panicking then s.exit .panicked
        else match k with
          | .drain reload => { s with main := .drain reload }
          | .exitFailure => s.exit .failure)
    | _, _, _ => none
  | .drain =>
    match s.main, s.errors with
    | .drain _, err :: rest =>
      some { s with
        fds := s.dropError err
        errors := rest
        history := { s.history with logged := s.history.logged ++ [err] } }
    | .drain reload, [] =>
      some (if reload then { s with main := .start, errorRx := false } else s.exit .success)
    | _, _ => none

/-- A client. It may do anything its socket lets it do. -/
def clientStep (s : Daemon) (c : ConnId) : ClientAct → Option Daemon
  | .connect uid =>
    if s.listening ∧ s.conns c = none then
      some { s with
        conns := Function.update s.conns c (some ⟨uid, [], 0, false, false, false, none⟩)
        backlog := s.backlog ++ [c] }
    else none
  | .send m =>
    match s.conns c with
    | some conn =>
      if conn.closed then none
      else some { s with
        conns := Function.update s.conns c (some { conn with inbox := conn.inbox ++ [m] }) }
    | none => none
  | .read =>
    match s.conns c with
    | some conn =>
      if conn.unread = 0 then none
      else some { s with
        conns := Function.update s.conns c (some { conn with unread := conn.unread - 1 }) }
    | none => none
  | .shutdown sending receiving =>
    match s.conns c with
    | some conn =>
      some { s with conns := Function.update s.conns c (some (conn.shut sending receiving)) }
    | none => none
  | .close =>
    match s.conns c with
    | some conn => some { s with conns := Function.update s.conns c (some conn.close) }
    | none => none

/-- `termination_or_reload_handler`, once `setup_events` has installed it. A write
that would pass the maximum is lost, and the counter is positive anyway. -/
def handler (s : Daemon) (sig : Signal) : Daemon :=
  match sig with
  | .sighup =>
    { s with
      reloadEvent := s.reloadEvent.map fun count => (EventFd.write count).getD count
      history := { s.history with reloaded := true } }
  | _ =>
    { s with
      shutdownEvent := s.shutdownEvent.map fun count => (EventFd.write count).getD count
      history := { s.history with terminated := true } }

/-- The handler runs on a thread that exists, and interrupts it if it waits. -/
def signalStep (s : Daemon) (sig : Signal) (t : Thread) (interrupts : Bool) : Option Daemon :=
  if s.shutdownEvent = none then none
  else
    match t with
    | .main => if interrupts then none else some (s.handler sig)
    | .welcome =>
      match s.welcome.pc, interrupts with
      | .ended, _ => none
      | .poll, true =>
        if s.welcome.outbox = [] then
          some { s.handler sig with welcome := { s.welcome with interrupted := true } }
        else none
      | _, true => none
      | _, false => some (s.handler sig)
    | .env i =>
      match s.envs i with
      | some e =>
        match e.pc, interrupts with
        | .ended, _ => none
        | .wait, true =>
          if e.outbox = [] then
            some { s.handler sig with
              envs := Function.update s.envs i (some { e with interrupted := true }) }
          else none
        | _, true => none
        | _, false => some (s.handler sig)
      | none => none

/-- One step of the system. Nothing happens after the process has ended. -/
def step (P : Externals) (s : Daemon) (a : Act) : Option Daemon :=
  match s.main with
  | .exited _ => none
  | _ =>
    match a with
    | .main a => s.mainStep a
    | .welcome a => s.welcomeStep P a
    | .env i a => s.envStep P i a
    | .client c a => s.clientStep c a
    | .signal sig t interrupts => s.signalStep sig t interrupts

/-! ## Concrete runs -/

/-- An incarnation starts, and its welcome thread comes to the first `poll`. -/
def startUp : List Act :=
  [.main (.new true), .main (.notifyStarting true), .main (.checkPrivileges true),
    .main (.setupSocket true), .main (.setupEvents true), .main (.listen true),
    .welcome (.createEvent (.ok ())), .welcome (.listen (.ok ())), .main (.notifyListening true)]

/-- Client 0 connects and sends a request to open the environment `a`, up to the
hand-over of its socket to the thread of the new instance. -/
def handsOver : List Act :=
  [.client 0 (.connect 1000), .client 0 (.send [97]),
    .welcome (.poll (.ok ⟨.none, .none, .none, .readable⟩)), .welcome (.accept (.ok 0)),
    .welcome (.getsockopt (.ok 1000)), .welcome (.recv (.ok [97]) true), .welcome (.dup (.ok 1)),
    .welcome (.envNew (.ok 0)), .welcome (.insertSend true), .welcome (.insertWrite true)]

/-- The thread of the instance starts and adds the socket. -/
def adds : List Act :=
  [.env 0 (.allocNew (.ok (some 4096))), .env 0 (.epollNew (.ok ())), .env 0 (.epollAdd (.ok ())),
    .env 0 (.epollAdd (.ok ())), .env 0 (.wait (.ok [.add])), .env 0 (.dispatch (some .add)),
    .env 0 .addRead, .env 0 (.addTryRecv (.got 1)), .env 0 (.addEpoll 1 (.ok 0)),
    .env 0 (.addTryRecv .empty), .env 0 .respond, .env 0 (.dispatch none)]

/-- The welcome thread answers the client. -/
def answers : List Act :=
  [.welcome (.insertRecv (some (.ok ())) true), .welcome (.send (.ok ())), .welcome (.close 0)]

/-- The client asks the instance for the mutex `b`. -/
def asks : List Act :=
  [.client 0 (.send [98]), .env 0 (.wait (.ok [.conn 1 0 false])),
    .env 0 (.dispatch (some (.conn 1 0 false)))]

/-- The thread takes the request, makes the mutex and answers. -/
def opensMutex : List Act :=
  let page : ShmAllocator.PageCalls := ⟨.ok 2, .ok (), .ok (), .ok 8192⟩
  [.env 0 (.recv 1 (.ok [98]) true), .env 0 (.openMutex ⟨page, page, .ok ()⟩ true),
    .env 0 (.send 1 (.openMutexOk "b" ⟨0, 0, 2⟩) (.ok ()))]

/-- The client of the instance has the mutex, and the instance waits for it. -/
def ownsMutex : List Act :=
  startUp ++ handsOver ++ adds ++ answers ++ [.client 0 .read] ++ asks ++ opensMutex ++
    [.env 0 (.dispatch none)]

/-- Client 1 is added beside client 0. -/
def joinsSecond : List Act :=
  [.client 1 (.connect 1001), .client 1 (.send [97]),
    .welcome (.poll (.ok ⟨.none, .none, .none, .readable⟩)), .welcome (.accept (.ok 0)),
    .welcome (.getsockopt (.ok 1001)), .welcome (.recv (.ok [97]) true), .welcome (.dup (.ok 2)),
    .welcome (.insertSend true), .welcome (.insertWrite true), .env 0 (.wait (.ok [.add])),
    .env 0 (.dispatch (some .add)), .env 0 .addRead, .env 0 (.addTryRecv (.got 2)),
    .env 0 (.addEpoll 2 (.ok 1)), .env 0 (.addTryRecv .empty), .env 0 .respond,
    .env 0 (.dispatch none), .welcome (.insertRecv (some (.ok ())) true), .welcome (.send (.ok ())),
    .welcome (.close 0)]

/-- Both clients ask for the mutex `b`. -/
def bothAsk : List Act :=
  let page : ShmAllocator.PageCalls := ⟨.ok 3, .ok (), .ok (), .ok 8192⟩
  [.client 0 .read, .client 1 .read, .client 0 (.send [98]), .client 1 (.send [98]),
    .env 0 (.wait (.ok [.conn 1 0 false, .conn 2 1 false])),
    .env 0 (.dispatch (some (.conn 1 0 false))), .env 0 (.recv 1 (.ok [98]) true),
    .env 0 (.openMutex ⟨page, page, .ok ()⟩ true), .env 0 (.send 1 (.openMutexOk "b" ⟨0, 0, 3⟩) (.ok ())),
    .env 0 (.dispatch (some (.conn 2 1 false))), .env 0 (.recv 2 (.ok [98]) true),
    .env 0 (.openMutex ⟨page, page, .ok ()⟩ true), .env 0 (.send 2 (.openMutexOk "b" ⟨0, 0, 3⟩) (.ok ()))]

/-- The client leaves, and the instance with it. -/
def leaves (panics : Bool) : List Act :=
  [.client 0 .close, .env 0 (.wait (.ok [.conn 1 0 true])),
    .env 0 (.dispatch (some (.conn 1 0 true))), .env 0 (.closeSend true), .env 0 (.closeWrite true),
    .env 0 (.leave panics), .env 0 .dropSync, .env 0 .dropListener]

end Daemon
end Garnd
