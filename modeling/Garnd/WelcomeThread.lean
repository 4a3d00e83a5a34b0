import Garnd.Protocol
import Garnd.Lib.Channel
import Mathlib.Data.List.AList

/- The welcome thread (`welcome_thread.rs`) by itself, as a state machine whose
   labels carry everything it learns from outside: results of system calls, what
   the channels held, what an environment thread answered. As with the environment
   threads, a step is one operation others can see with the local work up to the
   next one, and `outbox` holds the errors that are to be sent before anything
   else. Its `Environment`s are known by their instance; what becomes of them is
   the daemon's business. -/
namespace Garnd

inductive WelcomeResponse where
  | malformedRequest
  | internalError
  | openEnvironmentOk
  deriving DecidableEq, Repr

/-- `revents` of one descriptor: `POLLIN`, and whether any other bit is set. -/
structure Revents where
  pollin : Bool
  other : Bool
  deriving DecidableEq, Repr

/-- `any()`. -/
def Revents.any (r : Revents) : Bool := r.pollin || r.other

/-- Nothing is set, `POLLIN` is set, or `POLLHUP` is. -/
def Revents.none : Revents := ⟨false, false⟩
def Revents.readable : Revents := ⟨true, false⟩
def Revents.hangup : Revents := ⟨false, true⟩

/-- The four `revents` of one `poll`. -/
structure PollResult where
  shutdown : Revents
  reload : Revents
  closeEnv : Revents
  welcome : Revents
  deriving DecidableEq, Repr

/-- A request that is being attached: the client's socket, the duplicate that is
passed off, the environment's name and instance, and whether the instance was
made for this request. -/
structure Attaching where
  fd : RawFd
  passed : RawFd
  name : String
  id : EnvId
  fresh : Bool
  deriving DecidableEq, Repr

/-- What follows the drop of an `Environment`. `returning` and `unwind` leave the
event loop by a panic, out of the drain loop and out of a request. -/
inductive After where
  | drain (welcome : Revents)
  | finish (fds : List RawFd) (errors : List DetailedError)
  | returning
  | unwind (fds : List RawFd)
  | teardown (rest : List EnvId)
  deriving DecidableEq

/-- Where the thread is. `ret` is the moment before the locals are dropped, by a
`return` or, where `drained` is set, by a panic in the drain loop. -/
inductive WelcomePc where
  | createEvent
  | listen
  | poll
  | shutdownRead
  | reloadRead
  | closeRead (welcome : Revents)
  | drain (welcome : Revents)
  | accept
  | getsockopt (fd : RawFd)
  | recv (fd : RawFd)
  | dup (fd : RawFd) (name : String)
  | envNew (fd passed : RawFd) (name : String)
  | insertSend (at' : Attaching)
  | insertWrite (at' : Attaching)
  | insertRecv (at' : Attaching)
  | send (fd : RawFd) (response : WelcomeResponse) (errors : List DetailedError)
      (abandon : Option EnvId) (fds : List RawFd)
  | dropWrite (i : EnvId) (k : After)
  | dropFields (i : EnvId) (k : After)
  | join (i : EnvId) (k : After)
  | close (fds : List RawFd) (errors : List DetailedError)
  | ret (drained : Bool)
  | teardown (rest : List EnvId)
  | ended
  deriving DecidableEq

structure Welcome where
  pc : WelcomePc
  outbox : List DetailedError
  environments : AList (fun _ : String => EnvId)
  /-- The thread is unwinding. -/
  panicking : Bool
  /-- A signal handler ran on the thread during the current `poll`. -/
  interrupted : Bool
  /-- History: a panic made the drop of the map forget the environments after it. -/
  forgot : Bool

def Welcome.new : Welcome := ⟨.createEvent, [], ∅, false, false, false⟩

/-- The labels of the thread's steps. An environment's constructor and its thread
only answer with errors of system calls. -/
inductive WelcomeAct where
  | createEvent (r : Except Errno Unit)
  | listen (r : Except Errno Unit)
  | poll (r : Except Errno PollResult)
  | shutdownRead (r : Except Errno Unit)
  | reloadRead (r : Except Errno Unit)
  | closeRead (r : Except Errno Unit)
  | tryRecv (r : TryRecv String)
  | accept (r : Except Errno RawFd)
  | getsockopt (uid : Except Errno ℕ)
  | recv (r : Except Errno Message) (serializes : Bool)
  | dup (r : Except Errno RawFd)
  | envNew (r : Except (Call × Errno) EnvId)
  | insertSend (sent : Bool)
  | insertWrite (written : Bool)
  | insertRecv (r : Option (Except (Call × Errno) Unit)) (serializes : Bool)
  | send (r : Except Errno Unit)
  | dropWrite (written : Bool)
  | dropFields
  | join (panicked : Bool)
  | close (fd : RawFd)
  | dropLocals
  | teardown (next : Option EnvId)
  | sendError (e : DetailedError)
  deriving DecidableEq

/-- The errors a `read` of an event leaves. -/
def readErrors : Except Errno Unit → List DetailedError
  | .ok () => []
  | .error errno => [.sys .eventRead errno]

/-- The errors of a request after its response went out, or did not. -/
def sendErrors (errors : List DetailedError) : Except Errno Unit → List DetailedError
  | .ok () => errors
  | .error errno => errors ++ [.sys .send errno]

/-- The drop belongs to the drop of the locals. -/
def After.isTeardown : After → Bool
  | .teardown _ => true
  | _ => false

/-- The continuation of a drop that panics while the thread was not unwinding. A
`HashMap` that is dropped forgets the entries after the one that panicked. -/
def After.panics : After → After
  | .drain _ => .returning
  | .finish fds errors => .unwind (fds ++ errors.filterMap DetailedError.socket)
  | .teardown _ => .teardown []
  | k => k

namespace Welcome

/-- Close what a request still has open, then report its errors. -/
def closing (w : Welcome) (fds : List RawFd) (errors : List DetailedError) : Welcome :=
  match fds with
  | [] =>
    if w.panicking then { w with pc := .ret false } else { w with outbox := errors, pc := .poll }
  | fds => { w with pc := .close fds errors }

/-- The part of the loop after the drain: the welcome socket's events. -/
def onWelcome (w : Welcome) (r : Revents) : Welcome :=
  if r.any = false then { w with pc := .poll }
  else if r.pollin = false then
    { w with outbox := [.runtime .welcomeSocketFailed, .shutdownSignal], pc := .poll }
  else { w with pc := .accept }

/-- The loop after a successful `poll`. -/
def onPoll (w : Welcome) (r : PollResult) : Welcome :=
  if r.shutdown.any then { w with pc := .shutdownRead }
  else if r.reload.any then { w with pc := .reloadRead }
  else if r.closeEnv.any then { w with pc := .closeRead r.welcome }
  else w.onWelcome r.welcome

/-- `receive_and_parse_request`, from the result of `recv`. -/
def parse (P : Externals) (w : Welcome) (fd : RawFd) (serializes : Bool) :
    Except Errno Message → Welcome
  | .error errno => w.closing [fd] [.sys .recv errno]
  | .ok m =>
    match P.welcomeRequest m with
    | .ok name => { w with pc := .dup fd name }
    | .error err =>
      if serializes then { w with pc := .send fd .malformedRequest [err] none [fd] }
      else w.closing [fd] [err, .serialize]

/-- `unwrap_or_report_failure!`: the internal-error response goes out, an instance
that was made for the request is dropped, then the sockets. -/
def fail (w : Welcome) (fd : RawFd) (err : DetailedError) (abandon : Option EnvId)
    (fds : List RawFd) : Welcome :=
  { w with pc := .send fd .internalError [err] abandon fds }

/-- `insert_socket` has failed. -/
def failInsert (w : Welcome) (a : Attaching) (err : DetailedError) : Welcome :=
  w.fail a.fd err (if a.fresh then some a.id else none) [a.fd]

/-- `insert_socket` has returned `Ok`. -/
def inserted (w : Welcome) (a : Attaching) (serializes : Bool) : Welcome :=
  let w := { w with
    environments := if a.fresh then w.environments.insert a.name a.id else w.environments }
  if serializes then { w with pc := .send a.fd .openEnvironmentOk [] none [a.fd] }
  else w.fail a.fd .serialize none [a.fd]

/-- A drop panics while the thread is not unwinding. -/
def panic (w : Welcome) (k : After) : Welcome :=
  { w with panicking := true, forgot := w.forgot || k.isTeardown }

def resume (w : Welcome) : After → Welcome
  | .drain welcome => { w with pc := .drain welcome }
  | .finish fds errors => w.closing fds errors
  | .returning => { w with pc := .ret true }
  | .unwind fds => w.closing fds []
  | .teardown rest => { w with pc := .teardown rest }

/-- One step of the thread that is not `send_error!`. -/
def act (P : Externals) (w : Welcome) : WelcomeAct → Option Welcome
  | .createEvent r =>
    match w.pc with
    | .createEvent =>
      match r with
      | .ok () => some { w with pc := .listen }
      | .error errno =>
        some { w with outbox := [.sys .eventfd errno, .reloadRequest], pc := .ret false }
    | _ => none
  | .listen r =>
    match w.pc with
    | .listen =>
      match r with
      | .ok () => some { w with pc := .poll }
      | .error errno =>
        some { w with outbox := [.sys .listen errno, .reloadRequest], pc := .ret false }
    | _ => none
  | .poll r =>
    match w.pc with
    | .poll =>
      match r with
      | .ok r => some (w.onPoll r)
      | .error errno =>
        some { w with
          interrupted := false
          outbox := [.sys .poll errno, .reloadRequest]
          pc := .ret false }
    | _ => none
  | .shutdownRead r =>
    match w.pc with
    | .shutdownRead => some { w with outbox := readErrors r ++ [.shutdownSignal], pc := .ret false }
    | _ => none
  | .reloadRead r =>
    match w.pc with
    | .reloadRead => some { w with outbox := readErrors r ++ [.reloadRequest], pc := .ret false }
    | _ => none
  | .closeRead r =>
    match w.pc with
    | .closeRead welcome => some { w with outbox := readErrors r, pc := .drain welcome }
    | _ => none
  | .tryRecv r =>
    match w.pc with
    | .drain welcome =>
      match r with
      | .got name =>
        match w.environments.lookup name with
        | some i =>
          some { w with
            environments := w.environments.erase name
            pc := .dropWrite i (.drain welcome) }
        | none => some w
      | .empty => some (w.onWelcome welcome)
      | .disconnected => some { w with outbox := [.tryRecvDisconnected] }
    | _ => none
  | .accept r =>
    match w.pc with
    | .accept =>
      match r with
      | .ok fd => some { w with pc := .getsockopt fd }
      | .error errno => some { w with outbox := [.sys .accept errno], pc := .poll }
    | _ => none
  | .getsockopt uid =>
    match w.pc with
    | .getsockopt fd =>
      match uid with
      | .ok 0 => some (w.closing [fd] [.ignoredRootRequest])
      | .ok _ => some { w with pc := .recv fd }
      | .error errno => some (w.closing [fd] [.sys .getsockopt errno])
    | _ => none
  | .recv r serializes =>
    match w.pc with
    | .recv fd => some (w.parse P fd serializes r)
    | _ => none
  | .dup r =>
    match w.pc with
    | .dup fd name =>
      match r with
      | .ok passed =>
        match w.environments.lookup name with
        | some i => some { w with pc := .insertSend ⟨fd, passed, name, i, false⟩ }
        | none => some { w with pc := .envNew fd passed name }
      | .error errno => some (w.fail fd (.sys .dup errno) none [fd])
    | _ => none
  | .envNew r =>
    match w.pc with
    | .envNew fd passed name =>
      match r with
      | .ok i => some { w with pc := .insertSend ⟨fd, passed, name, i, true⟩ }
      | .error (call, errno) => some (w.fail fd (.sys call errno) none [passed, fd])
    | _ => none
  | .insertSend sent =>
    match w.pc with
    | .insertSend a =>
      if sent then some { w with pc := .insertWrite a }
      else some (w.failInsert a (.socketSendFailed a.passed))
    | _ => none
  | .insertWrite written =>
    match w.pc with
    | .insertWrite a =>
      if written then some { w with pc := .insertRecv a }
      else some (w.failInsert a (.sys .eventWrite eagain))
    | _ => none
  | .insertRecv r serializes =>
    match w.pc with
    | .insertRecv a =>
      match r with
      | some (.ok ()) => some (w.inserted a serializes)
      | some (.error (call, errno)) => some (w.failInsert a (.sys call errno))
      | none => some (w.failInsert a .recvFailed)
    | _ => none
  | .send r =>
    match w.pc with
    | .send _ _ errors abandon fds =>
      match abandon with
      | some i => some { w with pc := .dropWrite i (.finish fds (sendErrors errors r)) }
      | none => some (w.closing fds (sendErrors errors r))
    | _ => none
  | .dropWrite written =>
    match w.pc with
    | .dropWrite i k =>
      if written || w.panicking then some { w with pc := .dropFields i k }
      else some { w.panic k with pc := .dropFields i k.panics }
    | _ => none
  | .dropFields =>
    match w.pc with
    | .dropFields i k => some { w with pc := .join i k }
    | _ => none
  | .join panicked =>
    match w.pc with
    | .join _ k =>
      if panicked && !w.panicking then some ((w.panic k).resume k.panics)
      else some (w.resume k)
    | _ => none
  | .close fd =>
    match w.pc with
    | .close (fd' :: fds) errors => if fd = fd' then some (w.closing fds errors) else none
    | _ => none
  | .dropLocals =>
    match w.pc with
    | .ret _ =>
      some { w with environments := ∅, pc := .teardown (w.environments.entries.map Sigma.snd) }
    | _ => none
  | .teardown next =>
    match w.pc with
    | .teardown rest =>
      match next with
      | some i => if i ∈ rest then some { w with pc := .dropWrite i (.teardown (rest.erase i)) } else none
      | none => if rest = [] then some { w with pc := .ended } else none
    | _ => none
  | .sendError _ => none

/-- One step of the thread: what is in the outbox goes out first. -/
def step (P : Externals) (w : Welcome) (a : WelcomeAct) : Option Welcome :=
  match a with
  | .sendError err =>
    match w.outbox with
    | err' :: errors => if err = err' then some { w with outbox := errors } else none
    | [] => none
  | a => if w.outbox = [] then w.act P a else none

end Welcome
end Garnd
