import Garnd.Protocol
import Garnd.Lib.Channel

/- An environment: the objects its owner and its thread share (`environment.rs`)
   and the thread (`environment_synchronization_thread.rs`), as a state machine.
   A step of the thread is one operation on something another thread can see,
   with the local work up to the next one. Its label carries what the kernel or a
   library answered. `outbox` holds the errors `send_error!` and
   `send_all_errors!` were given and have not sent: the thread does nothing else
   while there are any. -/
namespace Garnd

/-- One entry of a batch of `epoll_wait`. A connection's entry carries the number
stored at registration and whether `EPOLLRDHUP` is set; the connection that
raised it is noted for the record and not visible to the thread. -/
inductive Event where
  | add
  | drop
  | conn (data : RawFd) (source : ConnId) (hangup : Bool)
  deriving DecidableEq, Repr

/-- What the thread sends to a client. `openMutexOk` also names the request it
answers, which is not part of the message. -/
inductive EnvironmentResponse where
  | malformedRequest
  | internalError
  | openMutexOk (name : String) (location : ClientResourceLocation)
  deriving DecidableEq, Repr

/-- The call a response goes out with. -/
def EnvironmentResponse.call : EnvironmentResponse → Call
  | .openMutexOk _ _ => .sendmsg
  | _ => .send

/-- What an event was registered as; the kernel reports each registration once. -/
def Event.registration : Event → Event
  | .conn data source _ => .conn data source false
  | ev => ev

/-- Where the thread is. `rest` is the part of the batch after the current event;
behind `dropRead` it is never handled. -/
inductive EnvPc where
  | allocNew
  | epollNew
  | epollAdd (left : ℕ)
  | wait
  | batch (rest : List Event)
  | addRead (rest : List Event)
  | addDrain (rest : List Event)
  | addEpoll (listener : RawFd) (rest : List Event)
  | respond (result : Except DetailedError Unit) (rest : List Event)
  | dropRead (rest : List Event)
  | recv (fd : RawFd) (rest : List Event)
  | openMutex (fd : RawFd) (name : String) (rest : List Event)
  | send (fd : RawFd) (response : EnvironmentResponse) (errors : List DetailedError)
      (rest : List Event)
  | closeSend
  | closeWrite (errors : List DetailedError)
  | leave
  | captures
  | ended
  deriving DecidableEq

structure Env where
  name : String
  pc : EnvPc
  outbox : List DetailedError
  /-- The thread is unwinding. -/
  panicked : Bool
  /-- A signal handler ran on the thread during the current `epoll_wait`. -/
  interrupted : Bool
  sockets : Finset RawFd
  /-- The registrations of client sockets with epoll: number and connection. -/
  interest : List (RawFd × ConnId)
  shm : Option ShmAllocator
  addEvent : ℕ
  addListener : Channel Thread RawFd
  syncResponse : Channel Thread (Except DetailedError Unit)
  dropEvent : ℕ
  /-- History: the connection that raised the event whose request is being handled. -/
  raisedBy : Option ConnId
  /-- History: the sockets registered with epoll and put in the `SocketSet`. -/
  added : List (RawFd × ConnId)
  /-- History: the names whose placement constructor returned `Ok`. -/
  constructed : List String
  /-- History: the thread has sent its name on the close channel, or tried to. -/
  announced : Bool

/-- `Environment::new`, once the eventfds exist and thread `i` is spawned. -/
def Env.new (name : String) (i : EnvId) : Env :=
  { name := name
    pc := .allocNew
    outbox := []
    panicked := false
    interrupted := false
    sockets := ∅
    interest := []
    shm := none
    addEvent := 0
    addListener := .new {.welcome}
    syncResponse := .new {.env i}
    dropEvent := 0
    raisedBy := none
    added := []
    constructed := []
    announced := false }

/-- The allocator has a resource to destroy. -/
def Env.hasResources (e : Env) : Bool := e.shm.any fun shm => !shm.resources.entries.isEmpty

/-- The thread has left its event loop, or never entered it. -/
def EnvPc.left : EnvPc → Bool
  | .closeSend | .closeWrite _ | .leave | .captures | .ended => true
  | _ => false

/-- The thread is serving `add_listener_event`, up to sending the response. -/
def EnvPc.adding : EnvPc → Bool
  | .addRead _ | .addDrain _ | .addEpoll _ _ | .respond _ _ => true
  | _ => false

/-- The part of the current batch that is still to be handled. -/
def EnvPc.rest : EnvPc → List Event
  | .batch rest | .addRead rest | .addDrain rest | .addEpoll _ rest | .respond _ rest
  | .dropRead rest | .recv _ rest | .openMutex _ _ rest | .send _ _ _ rest => rest
  | _ => []

/-- The labels of the thread's steps. -/
inductive EnvAct where
  | allocNew (sysconf : Except Errno (Option Int64))
  | epollNew (r : Except Errno Unit)
  | epollAdd (r : Except Errno Unit)
  | wait (r : Except Errno (List Event))
  | dispatch (next : Option Event)
  | addRead
  | addTryRecv (r : TryRecv RawFd)
  | addEpoll (listener : RawFd) (r : Except Errno ConnId)
  | respond
  | dropRead
  | recv (fd : RawFd) (r : Except Errno Message) (serializes : Bool)
  | openMutex (os : ShmAllocator.ConstructCalls) (serializes : Bool)
  | send (fd : RawFd) (response : EnvironmentResponse) (r : Except Errno Unit)
  | closeSend (sent : Bool)
  | closeWrite (written : Bool)
  | leave (panics : Bool)
  | dropSync
  | dropListener
  | sendError (e : DetailedError)

namespace Env

/-- `report_boxed_error_and_close`: the error goes out first, then the close is
announced. -/
def reportAndClose (e : Env) (err : DetailedError) : Env :=
  { e with outbox := [err], pc := .closeSend }

/-- The event may be in a batch: the counter behind it is positive, or the
connection is registered under the number. Whether the connection is ready is
the kernel's business. -/
def raisable (e : Env) : Event → Bool
  | .add => 0 < e.addEvent
  | .drop => 0 < e.dropEvent
  | .conn data source _ => (data, source) ∈ e.interest

/-- The next event of the batch. -/
def dispatch (e : Env) : Option Event → List Event → Env
  | none, _ => { e with pc := .wait }
  | some .add, rest => { e with pc := .addRead rest }
  | some .drop, rest => { e with pc := .dropRead rest }
  | some (.conn data source hangup), rest =>
    if hangup then
      let sockets := e.sockets.erase data
      { e with sockets := sockets, pc := if sockets = ∅ then .closeSend else .batch rest }
    else { e with raisedBy := some source, pc := .recv data rest }

/-- `receive_and_parse_request`, from the result of `recv`. -/
def parse (P : Externals) (e : Env) (fd : RawFd) (rest : List Event) (serializes : Bool) :
    Except Errno Message → Env
  | .error errno => { e with outbox := [.sys .recv errno], pc := .batch rest }
  | .ok m =>
    match P.environmentRequest m with
    | .ok name => { e with pc := .openMutex fd name rest }
    | .error err =>
      if serializes then { e with pc := .send fd .malformedRequest [err] rest }
      else { e with outbox := [err, .serialize], pc := .batch rest }

/-- `find_resource` and, where it finds nothing, `construct_in_shm`: the first half
of `handle_open_mutex`. -/
def findOrConstruct (P : Externals) (shm : ShmAllocator) (name : String)
    (os : ShmAllocator.ConstructCalls) : ShmAllocator.Constructed :=
  match shm.findResource name P.pthreadMutex with
  | .ok (some location) => ⟨.ok location, none, shm⟩
  | .ok none => shm.constructInShm name P.pthreadMutex os
  | .err err => ⟨.err err, none, shm⟩
  | .panic => ⟨.panic, none, shm⟩

/-- Whether the placement constructor was called and returned `Ok`. -/
def ranConstructor (os : ShmAllocator.ConstructCalls) (r : ShmAllocator.Constructed) : Bool :=
  r.slot.isSome && os.constructor.isOk

/-- The placement constructor is not the daemon's own: it does not fail with one of
the two messages that only the daemon knows. -/
def foreign (os : ShmAllocator.ConstructCalls) : Bool :=
  match os.constructor with
  | .ok () => true
  | .error err => !err.isTerminal

/-- `handle_open_mutex` up to the choice of the response. -/
def openMutex (P : Externals) (e : Env) (shm : ShmAllocator) (fd : RawFd) (name : String)
    (rest : List Event) (os : ShmAllocator.ConstructCalls) (serializes : Bool) : Env :=
  let r := findOrConstruct P shm name os
  let e := { e with
    shm := some r.self
    constructed := if ranConstructor os r then e.constructed ++ [name] else e.constructed }
  match r.result with
  | .ok location =>
    if serializes then { e with pc := .send fd (.openMutexOk name location) [] rest }
    else { e with pc := .send fd .internalError [.serialize] rest }
  | .err err => { e with pc := .send fd .internalError [err] rest }
  | .panic => { e with panicked := true, pc := .leave }

/-- One step of the thread that is not `send_error!`. -/
def act (P : Externals) (e : Env) : EnvAct → Option Env
  | .allocNew sysconf =>
    match e.pc with
    | .allocNew =>
      match ShmAllocator.new sysconf with
      | .ok shm => some { e with shm := some shm, pc := .epollNew }
      | .err err => some (e.reportAndClose err)
      | .panic => some { e with panicked := true, pc := .leave }
    | _ => none
  | .epollNew r =>
    match e.pc with
    | .epollNew =>
      match r with
      | .ok () => some { e with pc := .epollAdd 2 }
      | .error errno => some (e.reportAndClose (.sys .epollCreate errno))
    | _ => none
  | .epollAdd r =>
    match e.pc with
    | .epollAdd left =>
      match r with
      | .ok () => some { e with pc := if left ≤ 1 then .wait else .epollAdd (left - 1) }
      | .error errno => some (e.reportAndClose (.sys .epollAdd errno))
    | _ => none
  | .wait r =>
    match e.pc with
    | .wait =>
      match r with
      | .ok events =>
        if events ≠ [] ∧ events.length ≤ e.sockets.card + 2 ∧
            (events.map Event.registration).Nodup ∧ ∀ ev ∈ events, e.raisable ev then
          some { e with pc := .batch events }
        else none
      | .error errno =>
        some ({ e with interrupted := false }.reportAndClose (.sys .epollWait errno))
    | _ => none
  | .dispatch next =>
    match e.pc with
    | .batch events => if next = events.head? then some (e.dispatch next events.tail) else none
    | _ => none
  | .addRead =>
    match e.pc with
    | .addRead rest =>
      match EventFd.read e.addEvent with
      | some count => some { e with addEvent := count, pc := .addDrain rest }
      | none => some { e with pc := .respond (.error (.sys .eventRead eagain)) rest }
    | _ => none
  | .addTryRecv r =>
    match e.pc with
    | .addDrain rest =>
      if r = e.addListener.tryRecv then
        match r with
        | .got listener =>
          some { e with addListener := e.addListener.rest, pc := .addEpoll listener rest }
        | .empty => some { e with pc := .respond (.ok ()) rest }
        | .disconnected => some { e with panicked := true, pc := .leave }
      else none
    | _ => none
  | .addEpoll listener r =>
    match e.pc with
    | .addEpoll listener' rest =>
      if listener = listener' then
        match r with
        | .ok source =>
          some { e with
            interest := (listener, source) :: e.interest
            sockets := insert listener e.sockets
            added := e.added ++ [(listener, source)]
            pc := .addDrain rest }
        | .error errno => some { e with pc := .respond (.error (.sys .epollAdd errno)) rest }
      else none
    | _ => none
  | .respond =>
    match e.pc with
    | .respond result rest =>
      match e.syncResponse.send result with
      | some chan => some { e with syncResponse := chan, pc := .batch rest }
      | none => some { e with outbox := [.sendFailed], pc := .batch rest }
    | _ => none
  | .dropRead =>
    match e.pc with
    | .dropRead _ =>
      match EventFd.read e.dropEvent with
      | some count => some { e with dropEvent := count, pc := .leave }
      | none => some { e with outbox := [.sys .eventRead eagain], pc := .leave }
    | _ => none
  | .recv fd r serializes =>
    match e.pc with
    | .recv fd' rest => if fd = fd' then some (e.parse P fd rest serializes r) else none
    | _ => none
  | .openMutex os serializes =>
    match e.pc, e.shm with
    | .openMutex fd name rest, some shm =>
      if foreign os then some (e.openMutex P shm fd name rest os serializes) else none
    | _, _ => none
  | .send fd response r =>
    match e.pc with
    | .send fd' response' errors rest =>
      if fd = fd' ∧ response = response' then
        match r with
        | .ok () => some { e with outbox := errors, pc := .batch rest }
        | .error errno =>
          some { e with outbox := errors ++ [.sys response.call errno], pc := .batch rest }
      else none
    | _ => none
  | .closeSend sent =>
    match e.pc with
    | .closeSend =>
      some { e with announced := true, pc := .closeWrite (if sent then [] else [.sendFailed]) }
    | _ => none
  | .closeWrite written =>
    match e.pc with
    | .closeWrite errors =>
      some { e with
        outbox := errors ++ (if written then [] else [.sys .eventWrite eagain])
        pc := .leave }
    | _ => none
  -- a panic in the drop of the locals is one of a resource's destructor
  | .leave panics =>
    match e.pc with
    | .leave =>
      if panics && !e.hasResources then none
      else some { e with
        interest := []
        sockets := ∅
        shm := none
        panicked := e.panicked || panics
        pc := .captures }
    | _ => none
  -- the captures of the thread's closure are dropped in an unspecified order
  | .dropSync =>
    match e.pc with
    | .captures =>
      if e.syncResponse.senders = ∅ then none
      else some { e with
        syncResponse := { e.syncResponse with senders := ∅ }
        pc := if e.addListener.receiver then .captures else .ended }
    | _ => none
  | .dropListener =>
    match e.pc with
    | .captures =>
      if e.addListener.receiver then
        some { e with
          addListener := e.addListener.dropReceiver
          pc := if e.syncResponse.senders = ∅ then .ended else .captures }
      else none
    | _ => none
  | .sendError _ => none

/-- One step of the thread: what is in the outbox goes out first. -/
def step (P : Externals) (e : Env) (a : EnvAct) : Option Env :=
  match a with
  | .sendError err =>
    match e.outbox with
    | err' :: errors => if err = err' then some { e with outbox := errors } else none
    | [] => none
  | a => if e.outbox = [] then e.act P a else none

/-! What the owner does with its half of the objects. -/

/-- `add_listener_tx.send(socket)`. -/
def insertSend (e : Env) (socket : RawFd) : Option Env :=
  (e.addListener.send socket).map fun chan => { e with addListener := chan }

/-- `add_listener_event.write(1)`. -/
def insertWrite (e : Env) : Option Env :=
  (EventFd.write e.addEvent).map fun count => { e with addEvent := count }

/-- The state after `sync_response_rx.recv()` took a response. -/
def insertRecv (e : Env) : Env := { e with syncResponse := e.syncResponse.rest }

/-- `drop_event.write(1)`, in `Drop for Environment`. -/
def dropWrite (e : Env) : Option Env :=
  (EventFd.write e.dropEvent).map fun count => { e with dropEvent := count }

/-- The drop of the owner's channel ends. -/
def dropFields (e : Env) : Env :=
  { e with
    addListener := { e.addListener with senders := ∅ }
    syncResponse := e.syncResponse.dropReceiver }

end Env
end Garnd
