import Garnd.Responses
import Garnd.Lib.Handler

/- What becomes of one request. Both threads are handlers in the sense of
   `Handler.Phase`: from the `recv` that delivers a message on, whatever the other
   parties do meanwhile, each of their steps is one of a request that is worked on,
   answered and finished, and the response goes to the connection the message came
   from. A connection whose peer is root is neither received from nor sent to. -/
namespace Garnd
open Transition Handler

def welcomeReplies : Replies WelcomeResponse where
  success r := r = .openEnvironmentOk
  malformed := .malformedRequest
  internal := .internalError
  malformed_ne := nofun
  not_malformed := nofun
  not_internal := nofun

theorem EnvironmentResponse.malformed_ne : EnvironmentResponse.malformedRequest ≠ .internalError := by
  rintro ⟨⟩

def environmentReplies : Replies EnvironmentResponse where
  success r := ∃ name location, r = .openMutexOk name location
  malformed := .malformedRequest
  internal := .internalError
  malformed_ne := EnvironmentResponse.malformed_ne
  not_malformed := by rintro ⟨name, location, ⟨⟩⟩
  not_internal := by rintro ⟨name, location, ⟨⟩⟩

/-- What the `send` of a response failed with. -/
def sendFailure (call : Call) : Except Errno Unit → Option DetailedError
  | .ok () => none
  | .error errno => some (.sys call errno)

/-! ## The welcome thread -/

/-- An instance is dropped on behalf of a request. -/
def After.ofRequest : After → Bool
  | .finish _ _ | .unwind _ => true
  | _ => false

/-- The thread has a request in hand that it has received. -/
def WelcomePc.handling : WelcomePc → Bool
  | .dup _ _ | .envNew _ _ _ | .insertSend _ | .insertWrite _ | .insertRecv _ | .send _ _ _ _ _
  | .close _ _ => true
  | .dropWrite _ k | .dropFields _ k | .join _ k => k.ofRequest
  | _ => false

/-- How many steps of its own the thread has at most ahead of it before it is done. A
socket in an error is closed too when a drop panics. -/
def After.ahead : After → ℕ
  | .finish fds errors => fds.length + (socketsOf errors).length
  | .unwind fds => fds.length
  | _ => 0

def WelcomePc.ahead : WelcomePc → ℕ
  | .dup _ _ => 11
  | .envNew _ _ _ => 10
  | .insertSend _ => 9
  | .insertWrite _ => 8
  | .insertRecv _ => 7
  | .send _ _ errors abandon fds =>
    fds.length + (socketsOf errors).length + if abandon.isSome then 4 else 1
  | .dropWrite _ k => k.ahead + 3
  | .dropFields _ k => k.ahead + 2
  | .join _ k => k.ahead + 1
  | .close fds _ => fds.length
  | _ => 0

theorem After.ahead_panics {k : After} (h : k.ofRequest = true) : k.panics.ahead = k.ahead := by
  cases k with
  | finish fds errors => simp [panics, ahead, socketsOf]
  | unwind => rfl
  | _ => cases h

namespace Welcome
variable {P : Externals} {w w' : Welcome} {a : WelcomeAct}

/-- Where the request is. -/
def phase (w : Welcome) : Phase WelcomeResponse DetailedError :=
  if w.panicking then .abandoned
  else
    match w.pc with
    | .dup _ _ | .envNew _ _ _ | .insertSend _ | .insertWrite _ | .insertRecv _ => .working
    | .send _ response errors _ _ => .answering response errors
    | .dropWrite _ k | .dropFields _ k | .join _ k => .finished k.errors
    | .close _ errors => .finished errors
    | _ => .finished w.outbox

theorem phase_panicking (h : w.panicking = true) : w.phase = .abandoned := by
  rw [phase, if_pos h]

theorem phase_closing {fds : List RawFd} {errors : List DetailedError} (h : w.panicking = false) :
    (w.closing fds errors).phase = .finished errors := by
  unfold closing
  split
  · simp [phase, h]
  · simp [phase, h]

theorem closing_panicking {fds : List RawFd} {errors : List DetailedError} :
    (w.closing fds errors).panicking = w.panicking := by
  obtain ⟨pc, outbox, hw, -⟩ := w.closing_shape fds errors
  rw [hw]

theorem resume_panicking {k : After} : (w.resume k).panicking = w.panicking := by
  obtain ⟨pc, outbox, hw, -⟩ := w.resume_shape k
  rw [hw]

/-- What a step leaves: a step of the work that failed, or an attempt to send, to what is
behind the number. -/
def events (w : Welcome) (connAt : RawFd → Option ConnId) (a : WelcomeAct) :
    List (Record WelcomeResponse DetailedError ConnId) :=
  match w.pc, a with
  | _, .dup (.error errno) => [.failed (.sys .dup errno)]
  | _, .envNew (.error (call, errno)) => [.failed (.sys call errno)]
  | .insertSend at', .insertSend false => [.failed (.socketSendFailed at'.passed)]
  | _, .insertWrite false => [.failed (.sys .eventWrite eagain)]
  | _, .insertRecv (some (.error (call, errno))) _ => [.failed (.sys call errno)]
  | _, .insertRecv none _ => [.failed .recvFailed]
  | _, .insertRecv (some (.ok ())) false => [.failed .serialize]
  | .send fd response _ _ _, .send r => [.attempt (connAt fd) response (sendFailure .send r)]
  | _, _ => []

theorem sendErrors_eq (errors : List DetailedError) (r : Except Errno Unit) :
    sendErrors errors r = errors ++ (sendFailure .send r).toList := by
  cases r with
  | ok => exact (List.append_nil _).symm
  | error errno => rfl

/-- While the thread has a request in hand, its steps are those of a handler. -/
theorem Moves.phaseStep {connAt : RawFd → Option ConnId} {c : ConnId} (hm : Moves P w a w')
    (hu : w.Unwinds) (hh : w.pc.handling = true) (ho : w.outbox = [])
    (hconn : ∀ x, w.pc.owes = some x → connAt x = some c) :
    Phase.Step welcomeReplies c w.phase (w.events connAt a) w'.phase := by
  have calm {pc : WelcomePc} (hpc : w.pc = pc) (hpc' : pc.unwinds = false) : w.panicking = false := by
    cases hp : w.panicking with
    | false => rfl
    | true =>
      rw [← hpc, hu hp] at hpc'
      cases hpc'
  have fails {pc : WelcomePc} {e : DetailedError} {abandon : Option EnvId} {fd : RawFd}
      {fds : List RawFd} (hpc : w.pc = pc) (hpc' : pc.unwinds = false) (hw : w.phase = .working) :
      Phase.Step welcomeReplies c w.phase [.failed e] (w.fail fd e abandon fds).phase := by
    have hnext : (w.fail fd e abandon fds).phase = .answering .internalError [e] := by
      simp [phase, fail, calm hpc hpc']
    rw [hw, hnext]
    exact .fail e
  have failsInsert {pc : WelcomePc} {e : DetailedError} {at' : Attaching} (hpc : w.pc = pc)
      (hpc' : pc.unwinds = false) (hw : w.phase = .working) :
      Phase.Step welcomeReplies c w.phase [.failed e] (w.failInsert at' e).phase := fails hpc hpc' hw
  have closes {errors : List DetailedError} {fds : List RawFd} (hp : w.panicking = false)
      (hw : w.phase = .finished errors) :
      Phase.Step welcomeReplies c w.phase [] (w.closing fds errors).phase := by
    rw [hw, phase_closing hp]
    exact .stay _
  have unwinds {ev : List (Record WelcomeResponse DetailedError ConnId)} (hp : w.panicking = true)
      (hp' : w'.panicking = true) (hev : ev = []) :
      Phase.Step welcomeReplies c w.phase ev w'.phase := by
    rw [phase_panicking hp, phase_panicking hp', hev]
    exact .stay _
  have panics {errors : List DetailedError} {ev : List (Record WelcomeResponse DetailedError ConnId)}
      (hw : w.phase = .finished errors) (hp' : w'.panicking = true) (hev : ev = []) :
      Phase.Step welcomeReplies c w.phase ev w'.phase := by
    rw [hw, phase_panicking hp', hev]
    exact .abandon errors
  cases hm with
  | sendError ho' =>
    rw [ho] at ho'
    cases ho'
  | occupied _ hpc | vacant _ hpc | envNew _ hpc | insertSend _ hpc | insertWrite _ hpc =>
    have hp := calm hpc rfl
    simp only [phase, events, hp, hpc]
    exact .stay _
  | dupFails _ hpc | envNewFails _ hpc =>
    have hw : w.phase = .working := by simp [phase, calm hpc rfl, hpc]
    simp only [events]
    exact fails hpc rfl hw
  | insertSendFails _ hpc | insertWriteFails _ hpc | refused _ hpc | hungUp _ hpc =>
    have hw : w.phase = .working := by simp [phase, calm hpc rfl, hpc]
    simp only [events, hpc]
    exact failsInsert hpc rfl hw
  | @inserted at' serializes _ hpc =>
    have hp := calm hpc rfl
    have hw : w.phase = .working := by simp [phase, hp, hpc]
    cases serializes with
    | false =>
      simp only [events]
      rw [hw]
      have hnext : (w.inserted at' false).phase = .answering .internalError [.serialize] := by
        simp [phase, Welcome.inserted, fail, hp]
      rw [hnext]
      exact .fail _
    | true =>
      simp only [events]
      rw [hw]
      have hnext : (w.inserted at' true).phase = .answering .openEnvironmentOk [] := by
        simp [phase, Welcome.inserted, hp]
      rw [hnext]
      exact .succeed rfl
  | @sendAbandon fd response errors i fds r _ hpc =>
    have hp := calm hpc rfl
    have hc : connAt fd = some c := hconn fd (by rw [hpc]; rfl)
    simp only [phase, events, hp, hpc, hc, sendErrors_eq]
    exact .attempt response errors _
  | @send fd response errors fds r _ hpc =>
    have hp := calm hpc rfl
    have hc : connAt fd = some c := hconn fd (by rw [hpc]; rfl)
    rw [phase_closing hp]
    simp only [phase, events, hp, hpc, hc, sendErrors_eq]
    exact .attempt response errors _
  | @dropWrite i k written _ hpc hd =>
    simp only [phase, events, hpc]
    exact .stay _
  | @dropWritePanics i k _ hpc hp =>
    have hw : w.phase = .finished k.errors := by simp [phase, hp, hpc]
    exact panics hw rfl (by simp only [events])
  | @dropFields i k _ hpc =>
    simp only [phase, events, hpc]
    exact .stay _
  | @join i k panicked _ hpc =>
    cases hp : w.panicking with
    | true => exact unwinds hp (resume_panicking.trans hp) (by simp only [events])
    | false =>
      have hw : w.phase = .finished k.errors := by simp [phase, hp, hpc]
      simp only [events]
      rw [hpc] at hh
      cases k with
      | finish fds errors => exact closes hp hw
      | unwind fds => exact closes hp hw
      | _ => cases hh
  | @joinPanics i k _ hpc hp =>
    have hw : w.phase = .finished k.errors := by simp [phase, hp, hpc]
    exact panics hw resume_panicking (by simp only [events])
  | @close fd fds errors _ hpc =>
    cases hp : w.panicking with
    | true => exact unwinds hp (closing_panicking.trans hp) (by simp only [events])
    | false =>
      have hw : w.phase = .finished errors := by simp [phase, hp, hpc]
      simp only [events]
      exact closes hp hw
  | _ =>
    rw [‹w.pc = _›] at hh
    cases hh

/-- A thread that has the request in hand has nothing to report yet, and it answers before
it closes the connection. -/
structure Handles (w : Welcome) : Prop where
  quiet : w.pc.handling = true → w.outbox = []
  settled : w.pc.handling = false → w.pc = .poll ∨ w.pc = .ret false
  among : ∀ fd response errors abandon fds, w.pc = .send fd response errors abandon fds → fd ∈ fds

theorem handles_closing {fds : List RawFd} {errors : List DetailedError} (ho : w.outbox = []) :
    (w.closing fds errors).Handles := by
  unfold closing
  split
  · split
    · exact ⟨nofun, fun _ => .inr rfl, nofun⟩
    · exact ⟨nofun, fun _ => .inl rfl, nofun⟩
  · exact ⟨fun _ => ho, nofun, nofun⟩

theorem Moves.handles (hm : Moves P w a w') (hh : w.pc.handling = true) (h : w.Handles) :
    w'.Handles := by
  have ho := h.quiet hh
  have fails {e : DetailedError} {abandon : Option EnvId} {fd : RawFd} {fds : List RawFd}
      (hfd : fd ∈ fds) : (w.fail fd e abandon fds).Handles := by
    refine ⟨fun _ => ho, nofun, ?_⟩
    rintro _ _ _ _ _ ⟨⟩
    exact hfd
  have failsInsert {e : DetailedError} {at' : Attaching} : (w.failInsert at' e).Handles :=
    fails (List.mem_singleton_self _)
  cases hm with
  | sendError ho' =>
    rw [ho] at ho'
    cases ho'
  | occupied | vacant | envNew | insertSend | insertWrite => exact ⟨fun _ => ho, nofun, nofun⟩
  | dupFails | envNewFails => exact fails (by simp)
  | insertSendFails | insertWriteFails | refused | hungUp =>
    exact failsInsert
  | @inserted at' serializes =>
    cases serializes with
    | false | true =>
      refine ⟨fun _ => ho, nofun, ?_⟩
      rintro _ _ _ _ _ ⟨⟩
      exact List.mem_singleton_self _
  | send | close => exact handles_closing ho
  | @sendAbandon => exact ⟨fun _ => ho, nofun, nofun⟩
  | @dropWrite i k _ _ hpc | @dropFields i k _ hpc =>
    rw [hpc] at hh
    have hk : k.ofRequest = true := hh
    exact ⟨fun _ => ho, fun hn => absurd (hk.symm.trans hn) nofun, nofun⟩
  | @dropWritePanics i k _ hpc =>
    rw [hpc] at hh
    cases k with
    | finish | unwind => exact ⟨fun _ => ho, nofun, nofun⟩
    | _ => cases hh
  | @join i k _ _ hpc =>
    rw [hpc] at hh
    cases k with
    | finish | unwind => exact handles_closing ho
    | _ => cases hh
  | @joinPanics i k _ hpc =>
    rw [hpc] at hh
    cases k with
    | finish | unwind => exact handles_closing ho
    | _ => cases hh
  | _ =>
    rw [‹w.pc = _›] at hh
    cases hh

theorem closing_ahead {fds : List RawFd} {errors : List DetailedError} :
    (w.closing fds errors).pc.ahead = fds.length := by
  unfold closing
  split
  · split <;> rfl
  · rfl

theorem resume_ahead {k : After} (h : k.ofRequest = true) : (w.resume k).pc.ahead ≤ k.ahead := by
  cases k with
  | finish fds errors =>
    rw [resume, closing_ahead]
    exact Nat.le_add_right _ _
  | unwind fds => exact closing_ahead.le
  | _ => cases h

theorem ofRequest_panics {k : After} (h : k.ofRequest = true) : k.panics.ofRequest = true := by
  cases k with
  | finish | unwind => rfl
  | _ => cases h

theorem fail_ahead {fd : RawFd} {err : DetailedError} {abandon : Option EnvId} {fds : List RawFd} :
    (w.fail fd err abandon fds).pc.ahead ≤ fds.length + 5 := by
  have hone : (socketsOf [err]).length ≤ 1 := List.length_filterMap_le ..
  simp only [fail, WelcomePc.ahead]
  split <;> omega

/-- Each step of the thread brings it closer to the end of the handling. -/
theorem Moves.ahead (hm : Moves P w a w') (hh : w.pc.handling = true) (h : w.Handles) :
    w'.pc.ahead < w.pc.ahead := by
  have ho := h.quiet hh
  cases hm with
  | sendError ho' =>
    rw [ho] at ho'
    cases ho'
  | occupied _ hpc | vacant _ hpc | envNew _ hpc | insertSend _ hpc | insertWrite _ hpc =>
    rw [hpc]
    simp [WelcomePc.ahead]
  | dupFails _ hpc | envNewFails _ hpc | insertSendFails _ hpc | insertWriteFails _ hpc
  | refused _ hpc | hungUp _ hpc =>
    rw [hpc]
    exact lt_of_le_of_lt fail_ahead (by simp [WelcomePc.ahead])
  | @inserted at' serializes _ hpc =>
    rw [hpc]
    cases serializes with
    | false => exact lt_of_le_of_lt fail_ahead (by simp [WelcomePc.ahead])
    | true => simp [WelcomePc.ahead, Welcome.inserted]
  | sendAbandon _ hpc =>
    rw [hpc]
    simp [WelcomePc.ahead, After.ahead, socketsOf_sendErrors]
  | send _ hpc =>
    rw [hpc, closing_ahead]
    simp only [WelcomePc.ahead, Option.isSome_none, Bool.false_eq_true, if_false]
    omega
  | dropWrite _ hpc | dropFields _ hpc =>
    rw [hpc]
    simp [WelcomePc.ahead]
  | @dropWritePanics i k _ hpc =>
    rw [hpc] at hh ⊢
    have hk := After.ahead_panics hh
    simp only [WelcomePc.ahead]
    omega
  | @join i k _ _ hpc =>
    rw [hpc] at hh ⊢
    exact Nat.lt_succ_of_le (resume_ahead hh)
  | @joinPanics i k _ hpc =>
    rw [hpc] at hh ⊢
    have hk : ((w.panic k).resume k.panics).pc.ahead ≤ k.panics.ahead :=
      resume_ahead (ofRequest_panics hh)
    rw [After.ahead_panics hh] at hk
    exact Nat.lt_succ_of_le hk
  | close _ hpc =>
    rw [hpc, closing_ahead]
    simp [WelcomePc.ahead]
  | _ =>
    rw [‹w.pc = _›] at hh
    cases hh

/-- What the thread has ahead of it when it has received a message. -/
theorem Moves.received {m : Message} {serializes : Bool}
    (hm : Moves P w (.recv (.ok m) serializes) w') : w'.pc.ahead ≤ 11 := by
  cases hm with
  | recv => exact Nat.le_refl _
  | @recvMalformed _ _ err =>
    have hone : (socketsOf [err]).length ≤ 1 := List.length_filterMap_le ..
    simp only [WelcomePc.ahead, List.length_singleton, Option.isSome_none, Bool.false_eq_true, if_false]
    omega
  | recvUnanswered =>
    rw [closing_ahead, List.length_singleton]
    decide

end Welcome

/-! ## An environment thread -/

def EnvPc.ahead : EnvPc → ℕ
  | .openMutex _ _ _ => 2
  | .send _ _ _ _ => 1
  | _ => 0

namespace Env
variable {P : Externals} {e e' : Env} {a : EnvAct}

/-- Where the request is. -/
def request (e : Env) : Phase EnvironmentResponse DetailedError :=
  match e.pc with
  | .openMutex _ _ _ => .working
  | .send _ response errors _ => .answering response errors
  | _ => .finished e.outbox

/-- What a step leaves: a resource that was not found and not made, a response that was not
serialized, or an attempt to send. -/
def records (P : Externals) (e : Env) (connAt : RawFd → Option ConnId) (a : EnvAct) :
    List (Record EnvironmentResponse DetailedError ConnId) :=
  match e.pc, e.shm, a with
  | .openMutex _ name _, some shm, .openMutex os serializes =>
    match (findOrConstruct P shm name os).result with
    | .ok _ => if serializes then [] else [.failed .serialize]
    | .err err => [.failed err]
    | .panic => []
  | _, _, .send fd response r => [.attempt (connAt fd) response (sendFailure response.call r)]
  | _, _, _ => []

theorem openMutex_request (h : e.Mutexes) {fd : RawFd} {name : String} {rest : List Event}
    {shm : ShmAllocator} {os : ShmAllocator.ConstructCalls} {serializes : Bool} {c : ConnId}
    {connAt : RawFd → Option ConnId} (hpc : e.pc = .openMutex fd name rest) (hshm : e.shm = some shm) :
    Phase.Step environmentReplies c e.request (e.records P connAt (.openMutex os serializes))
        (e.openMutex P shm fd name rest os serializes).request ∧
      ∃ e', e.openMutex P shm fd name rest os serializes = e' ∧ e'.outbox = e.outbox ∧
        e'.raisedBy = e.raisedBy ∧ ∃ response errors, e'.pc = .send fd response errors rest := by
  have hw : e.request = .working := by simp only [request, hpc]
  rw [hw]
  simp only [records, hpc, hshm, openMutex]
  cases hr : (findOrConstruct P shm name os).result with
  | ok location =>
    cases serializes with
    | true => exact ⟨.succeed ⟨name, location, rfl⟩, _, rfl, rfl, rfl, _, _, rfl⟩
    | false => exact ⟨.fail _, _, rfl, rfl, rfl, _, _, rfl⟩
  | err err => exact ⟨.fail err, _, rfl, rfl, rfl, _, _, rfl⟩
  | panic => exact absurd hr (h.no_panic hshm)

/-- While the thread has a request in hand, its steps are those of a handler. -/
theorem requestStep {c : ConnId} {connAt : RawFd → Option ConnId} (h : e.Mutexes)
    (hs : e.step P a = some e') (hh : e.pc.owes = true) (ho : e.outbox = [])
    (hconn : ∀ x, e.pc.serving = some x → connAt x = some c) :
    Phase.Step environmentReplies c e.request (e.records P connAt a) e'.request ∧
      (e'.pc.owes = true → e'.outbox = []) ∧ e'.raisedBy = e.raisedBy ∧
      e'.pc.ahead < e.pc.ahead := by
  cases hpc : e.pc with
  | openMutex fd name rest =>
    cases a with
    | openMutex os serializes =>
      cases hshm : e.shm with
      | none => simp [step, act, ho, hpc, hshm] at hs
      | some shm =>
        simp only [step, act, ho, hpc, hshm, if_true] at hs
        split at hs
        · cases hs
          obtain ⟨hstep, e', he', ho', hr, response, errors, hpc'⟩ := openMutex_request (P := P) h hpc hshm
          refine ⟨hstep, fun _ => ?_, ?_, ?_⟩
          · rw [he', ho', ho]
          · rw [he', hr]
          · rw [he', hpc']
            exact Nat.lt_succ_self 1
        · cases hs
    | sendError err => simp [step, ho] at hs
    | _ => simp [step, act, ho, hpc] at hs
  | send fd response errors rest =>
    cases a with
    | send fd' response' r =>
      simp only [step, act, ho, hpc, if_true] at hs
      split at hs
      · rename_i heq
        obtain ⟨rfl, rfl⟩ := heq
        have hc : connAt fd' = some c := hconn fd' (by rw [hpc]; rfl)
        cases r with
        | ok u =>
          cases hs
          refine ⟨?_, by rintro ⟨⟩, rfl, Nat.zero_lt_one⟩
          have hstep : Phase.Step environmentReplies c _ _ _ :=
            .attempt response' errors (none : Option DetailedError)
          simpa [request, records, hpc, hc, sendFailure] using hstep
        | error errno =>
          cases hs
          refine ⟨?_, by rintro ⟨⟩, rfl, Nat.zero_lt_one⟩
          have hstep : Phase.Step environmentReplies c _ _ _ :=
            .attempt response' errors (some (DetailedError.sys response'.call errno))
          simpa [request, records, hpc, hc, sendFailure] using hstep
      · cases hs
    | sendError err => simp [step, ho] at hs
    | _ => simp [step, act, ho, hpc] at hs
  | _ =>
    rw [hpc] at hh
    cases hh

end Env

/-! ## The handling -/

/-- The steps of a thread. -/
def Act.isOf (thread : Thread) : Act → Bool
  | .main _ => thread = .main
  | .welcome _ => thread = .welcome
  | .env i _ => thread = .env i
  | _ => false

theorem Act.of_isOf_welcome {a : Act} (h : a.isOf .welcome = true) : ∃ b, a = .welcome b := by
  cases a with
  | welcome b => exact ⟨b, rfl⟩
  | _ => cases h

theorem Act.of_isOf_env {a : Act} {i : EnvId} (h : a.isOf (.env i) = true) : ∃ b, a = .env i b := by
  cases a with
  | env j b =>
    cases of_decide_eq_true h
    exact ⟨b, rfl⟩
  | _ => cases h

namespace Daemon
variable {P : Externals} {s t u : Daemon} {c : ConnId} {parsed : Except DetailedError String}
  {i : EnvId}

/-- What a step of the welcome thread leaves of the request it has in hand. -/
def welcomeRecords (s : Daemon) : Act → List (Record WelcomeResponse DetailedError ConnId)
  | .welcome a => s.welcome.events s.connAt a
  | _ => []

/-- The welcome thread has a request in hand. -/
def WelcomeHandles (s : Daemon) (_ : Act) : Prop := s.welcome.pc.handling = true

/-- Nobody else touches the thread while it has a request in hand. -/
theorem Instances.welcome_still {a : Act} (h : s.Instances) (hs : s.step P a = some t)
    (ha : ∀ b, a ≠ .welcome b) (hh : s.welcome.pc.handling = true) : t.welcome = s.welcome := by
  obtain ⟨-, hp⟩ := step_party hs
  cases hp with
  | @welcome b => exact absurd rfl (ha b)
  | main hm =>
    cases hm with
    | listen hmain =>
      obtain ⟨hpc, -⟩ := h.keeper.alone (by rw [hmain]; rfl)
      rw [hpc] at hh
      cases hh
    | _ => rfl
  | env _ _ he => exact he.frame.2.1
  | client => rfl
  | @signal sig _ _ _ _ hm =>
    obtain ⟨shutdown, reload, terminated, reloaded, hshape⟩ := s.handler_shape sig
    cases hm with
    | handled | wait => rw [hshape]
    | poll hpc =>
      rw [hpc] at hh
      cases hh

/-- The number a thread is to answer on is its own. -/
theorem Held.of_owes {x : RawFd} (h : s.Held) (hh : s.welcome.Handles)
    (hx : s.welcome.pc.owes = some x) : s.fds.HeldBy .welcome x := by
  rw [← h.welcome, Welcome.held]
  refine List.mem_append_left _ (List.mem_append_left _ ?_)
  cases hpc : s.welcome.pc with
  | dup | envNew | insertSend | insertWrite | insertRecv =>
    rw [hpc] at hx
    cases hx
    simp [WelcomePc.fds]
  | send fd response errors abandon fds =>
    rw [hpc] at hx
    cases hx
    exact hh.among _ _ _ _ _ hpc
  | _ =>
    rw [hpc] at hx
    cases hx

/-- The welcome thread handles a request of `c`, and has left `l` of it. -/
structure WelcomeHandling (parsed : Except DetailedError String) (c : ConnId) (s : Daemon)
    (l : List (Record WelcomeResponse DetailedError ConnId)) : Prop where
  accounted : s.Accounted
  sound : Phase.Sound welcomeReplies parsed c l s.welcome.phase
  handles : s.welcome.Handles
  conn : ∀ x, s.welcome.pc.owes = some x → s.connAt x = some c

theorem WelcomeHandling.step {a : Act} {l : List (Record WelcomeResponse DetailedError ConnId)}
    (h : WelcomeHandling parsed c s l) (hh : s.WelcomeHandles a) (hs : s.step P a = some t) :
    WelcomeHandling parsed c t (l ++ s.welcomeRecords a) := by
  have hacc := h.accounted.step hs
  -- a number that is still owed is still what it was
  have hconn (hhandles : t.welcome.Handles) {x : RawFd} (hx : t.welcome.pc.owes = some x)
      (hold : s.welcome.pc.owes = some x) : t.connAt x = some c := by
    obtain ⟨h', hc⟩ := connAt_eq_some.mp (h.conn x hold)
    obtain ⟨c', hc'⟩ := hacc.connected.conn_of_welcome (hacc.held.of_owes hhandles hx)
    cases keepsFiles_step hs x _ _ hc hc'
    exact connAt_eq hc'
  have other (ha : ∀ b, a ≠ .welcome b) : WelcomeHandling parsed c t (l ++ s.welcomeRecords a) := by
    have hw := h.accounted.instances.welcome_still hs ha hh
    have hnone : s.welcomeRecords a = [] := by
      cases a with
      | welcome b => exact absurd rfl (ha b)
      | _ => rfl
    have hhandles : t.welcome.Handles := hw ▸ h.handles
    rw [hnone, List.append_nil]
    exact ⟨hacc, hw ▸ h.sound, hhandles, fun x hx => hconn hhandles hx (hw ▸ hx)⟩
  obtain ⟨-, hp⟩ := step_party hs
  cases hp with
  | @welcome b w u hm he =>
    have ho := h.handles.quiet hh
    have hhandles : w.Handles := hm.handles hh h.handles
    have hsound := (hm.phaseStep h.accounted.held.unwinds hh ho h.conn).sound h.sound
    refine ⟨hacc, hsound, hhandles, fun x hx => hconn hhandles hx ?_⟩
    rcases hm.owes hx with hold | ⟨-, -, -, hpc⟩
    · exact hold
    · rw [WelcomeHandles, hpc] at hh
      cases hh
  | main => exact other fun _ hb => nomatch hb
  | env => exact other fun _ hb => nomatch hb
  | client => exact other fun _ hb => nomatch hb
  | signal => exact other fun _ hb => nomatch hb

/-- The thread takes no more steps than it has ahead of it. -/
theorem WelcomeHandling.steps {bs : List Act} {l : List (Record WelcomeResponse DetailedError ConnId)}
    (h : WelcomeHandling parsed c s l) (hr : Run (Daemon.step P) WelcomeHandles s bs t) :
    bs.countP (Act.isOf .welcome) ≤ s.welcome.pc.ahead := by
  induction hr generalizing l with
  | nil => exact Nat.zero_le _
  | @cons s u _ a bs hok hs hr ih =>
    have hrest := ih (h.step hok hs)
    cases a with
    | welcome b =>
      have hless : u.welcome.pc.ahead < s.welcome.pc.ahead := by
        obtain ⟨-, hp⟩ := step_party hs
        cases hp with
        | welcome hm he => exact hm.ahead hok h.handles
      rw [List.countP_cons_of_pos rfl]
      omega
    | _ =>
      have hw := h.accounted.instances.welcome_still hs (fun _ hb => nomatch hb) hok
      rw [hw] at hrest
      rw [List.countP_cons_of_neg (by simp [Act.isOf])]
      exact hrest

/-- A message has been received: the handling begins. -/
theorem Accounted.welcome_received {m : Message} {serializes : Bool} (h : s.Accounted)
    (hs : s.step P (.welcome (.recv (.ok m) serializes)) = some t)
    (hser : ∀ e, P.welcomeRequest m = .error e → serializes = true) :
    t.welcome.pc.ahead ≤ 11 ∧ ∃ fd c, s.welcome.pc = .recv fd ∧ s.connAt fd = some c ∧
      WelcomeHandling (P.welcomeRequest m) c t [] := by
  have hacc := h.step hs
  obtain ⟨-, hp⟩ := step_party hs
  cases hp with
  | @welcome _ w _ hm he =>
    refine ⟨hm.received, ?_⟩
    cases he with
    | @recv fd _ _ v hpc hr =>
      obtain ⟨c, conn, hc, -⟩ := recvFrom_eq_some hr
      refine ⟨fd, c, hpc, hc, ?_⟩
      have hcalm : s.welcome.panicking = false := by
        cases hp : s.welcome.panicking with
        | false => rfl
        | true =>
          have hu := h.held.unwinds hp
          rw [hpc] at hu
          cases hu
      have hkept : v.connAt fd = some c := by
        rw [Daemon.connAt, (recvFrom_frame hr).1]
        exact hc
      cases hm with
      | @recv _ _ name _ ho hpc' hm =>
        cases hpc.symm.trans hpc'
        have hphase : Welcome.phase { s.welcome with pc := .dup fd name } = .start welcomeReplies
            (P.welcomeRequest m) := by simp [Welcome.phase, hcalm, hm, Phase.start]
        refine ⟨hacc, ?_, ⟨fun _ => ho, by rintro ⟨⟩, by simp⟩, ?_⟩
        · exact hphase ▸ Phase.sound_start welcomeReplies (P.welcomeRequest m) c
        · rintro x ⟨⟩
          exact hkept
      | @recvMalformed _ _ err ho hpc' hm =>
        cases hpc.symm.trans hpc'
        have hphase : Welcome.phase { s.welcome with pc := .send fd .malformedRequest [err] none [fd] } =
            .start welcomeReplies (P.welcomeRequest m) := by
          simp [Welcome.phase, hcalm, hm, Phase.start, welcomeReplies]
        refine ⟨hacc, ?_, ⟨fun _ => ho, by rintro ⟨⟩, ?_⟩, ?_⟩
        · exact hphase ▸ Phase.sound_start welcomeReplies (P.welcomeRequest m) c
        · rintro _ _ _ _ _ ⟨⟩
          exact List.mem_singleton_self _
        · rintro x ⟨⟩
          exact hkept
      | @recvUnanswered _ _ err ho hpc' hm => exact absurd (hser err hm) (by simp)
    | plain hp => cases hp

/-- What a step of thread `i` leaves of the request it has in hand. -/
def envRecords (P : Externals) (i : EnvId) (s : Daemon) :
    Act → List (Record EnvironmentResponse DetailedError ConnId)
  | .env j a =>
    if j = i then
      match s.envs i with
      | some e => e.records P s.connAt a
      | none => []
    else []
  | _ => []

/-- Thread `i` has a request in hand. -/
def EnvHandles (i : EnvId) (s : Daemon) (_ : Act) : Prop :=
  ∃ e, s.envs i = some e ∧ e.pc.owes = true

theorem envHandles_of {a : Act} (h : ((s.envs i).any fun e => e.pc.owes) = true) : EnvHandles i s a :=
  (Option.any_eq_true _ _).mp h

/-- Thread `i` handles a request of `c`, and has left `l` of it. -/
structure EnvHandling (i : EnvId) (parsed : Except DetailedError String) (c : ConnId) (s : Daemon)
    (l : List (Record EnvironmentResponse DetailedError ConnId)) : Prop where
  settled : s.Settled
  thread : ∃ e, s.envs i = some e ∧ Phase.Sound environmentReplies parsed c l e.request ∧
    e.raisedBy = some c ∧ (e.pc.owes = true → e.outbox = [])

theorem EnvPc.serving_of_owes {pc : EnvPc} (h : pc.owes = true) : ∃ x, pc.serving = some x := by
  cases pc with
  | openMutex fd | send fd => exact ⟨fd, rfl⟩
  | _ => cases h

/-- The number the thread is to answer on is its descriptor of the connection. -/
theorem Settled.serving {e : Env} {x : RawFd} (h : s.Settled) (hi : s.envs i = some e)
    (hc : e.raisedBy = some c) (hx : e.pc.serving = some x) : s.connAt x = some c := by
  obtain ⟨c', hc', ho⟩ := (h.registered i e hi).serving x hx
  cases hc.symm.trans hc'
  exact connAt_eq ho

theorem EnvHandling.step {a : Act} {l : List (Record EnvironmentResponse DetailedError ConnId)}
    (h : EnvHandling i parsed c s l) (hh : EnvHandles i s a) (hs : s.step P a = some t) :
    EnvHandling i parsed c t (l ++ s.envRecords P i a) := by
  have hset := h.settled.step hs
  obtain ⟨e, hi, hsound, hc, hquiet⟩ := h.thread
  obtain ⟨e₀, hi₀, hh⟩ := hh
  cases hi.symm.trans hi₀
  have other (ha : ∀ b, a ≠ .env i b) : EnvHandling i parsed c t (l ++ s.envRecords P i a) := by
    obtain ⟨e', hi', hsame⟩ := env_still hs hi ha
    have hnone : s.envRecords P i a = [] := by
      cases a with
      | env j b =>
        have hji : j ≠ i := fun heq => ha b (by rw [heq])
        simp only [envRecords, if_neg hji]
      | _ => rfl
    have hphase : e'.request = e.request := by simp only [Env.request, hsame.pc, hsame.outbox]
    rw [hnone, List.append_nil]
    exact ⟨hset, e', hi', hphase ▸ hsound, hsame.raisedBy.trans hc, by
      rw [hsame.pc, hsame.outbox]
      exact hquiet⟩
  cases a with
  | env j b =>
    by_cases hji : j = i
    · subst hji
      obtain ⟨-, hp⟩ := step_party hs
      cases hp with
      | @env _ _ e₁ e' u hj hst he =>
        cases hi.symm.trans hj
        obtain ⟨hstep, hquiet', hr, -⟩ := Env.requestStep (h.settled.instances.sound j e hi).mutexes hst hh
          (hquiet hh) fun x hx => h.settled.serving hi hc hx
        have hrecords : s.envRecords P j (.env j b) = e.records P s.connAt b := by
          simp only [envRecords, if_true, hi]
        rw [hrecords]
        exact ⟨hset, e', Function.update_self .., hstep.sound hsound, hr.trans hc, hquiet'⟩
    · exact other fun b' hb => hji (by cases hb; rfl)
  | _ => exact other fun _ hb => nomatch hb

/-- The thread takes no more steps than it has ahead of it. -/
theorem EnvHandling.steps {bs : List Act} {l : List (Record EnvironmentResponse DetailedError ConnId)}
    {e : Env} (h : EnvHandling i parsed c s l) (hr : Run (Daemon.step P) (EnvHandles i) s bs t)
    (hi : s.envs i = some e) : bs.countP (Act.isOf (.env i)) ≤ e.pc.ahead := by
  induction hr generalizing l e with
  | nil => exact Nat.zero_le _
  | @cons s u _ a bs hok hs hr ih =>
    have hnext := h.step hok hs
    obtain ⟨e', hi', -⟩ := hnext.thread
    have hrest := ih hnext hi'
    obtain ⟨e₀, hi₀, hh⟩ := hok
    cases hi.symm.trans hi₀
    by_cases ha : ∃ b, a = .env i b
    · obtain ⟨b, rfl⟩ := ha
      have hless : e'.pc.ahead < e.pc.ahead := by
        obtain ⟨e₁, hi₁, -, hc, hquiet⟩ := h.thread
        cases hi.symm.trans hi₁
        obtain ⟨-, hp⟩ := step_party hs
        cases hp with
        | env hj hst he =>
          cases hi.symm.trans hj
          cases (Function.update_self ..).symm.trans hi'
          exact (Env.requestStep (h.settled.instances.sound i e hi).mutexes hst hh (hquiet hh)
            fun x hx => h.settled.serving hi hc hx).2.2.2
      rw [List.countP_cons_of_pos (by simp [Act.isOf])]
      omega
    · obtain ⟨e₂, hi₂, hsame⟩ := env_still hs hi fun b hb => ha ⟨b, hb⟩
      cases hi'.symm.trans hi₂
      rw [List.countP_cons_of_neg fun hof => ha (Act.of_isOf_env hof), ← hsame.pc]
      exact hrest

/-- A message has been received: the handling begins. -/
theorem Settled.env_received {fd : RawFd} {m : Message} {serializes : Bool} (h : s.Settled)
    (hs : s.step P (.env i (.recv fd (.ok m) serializes)) = some t)
    (hser : ∀ e, P.environmentRequest m = .error e → serializes = true) :
    ∃ c e, s.connAt fd = some c ∧ EnvHandling i (P.environmentRequest m) c t [] ∧
      t.envs i = some e ∧ e.pc.ahead ≤ 2 := by
  have hset := h.step hs
  obtain ⟨-, hp⟩ := step_party hs
  cases hp with
  | @env _ _ e e' u hi hst he =>
    obtain ⟨c, hc, ho⟩ := (h.registered i e hi).serving fd (uses_serving hst rfl)
    refine ⟨c, e', connAt_eq ho, ⟨hset, e', Function.update_self .., ?_⟩, Function.update_self .., ?_⟩
    · cases Env.step_moves hst with
      | recv ho' _ hm =>
        rw [hm]
        exact ⟨⟨⟨_, rfl⟩, rfl⟩, hc, fun _ => ho'⟩
      | recvMalformed ho' _ hm =>
        rw [hm]
        exact ⟨.malformed _, hc, fun _ => ho'⟩
      | recvUnanswered _ _ hm => exact absurd (hser _ hm) nofun
    · cases Env.step_moves hst with
      | recv => exact Nat.le_refl 2
      | recvMalformed => exact Nat.le_succ 1
      | recvUnanswered => exact Nat.zero_le 2

end Daemon

/-! ## Root -/

/-- The number of a connection whose peer the thread has looked at, while it is to receive
from it or to answer on it. -/
def WelcomePc.past : WelcomePc → Option RawFd
  | .recv fd => some fd
  | pc => pc.owes

theorem WelcomePc.aside_past {pc : WelcomePc} (h : pc.aside = true) : pc.past = none := by
  cases pc <;> cases h <;> rfl

/-- The thread looks at the peer of a connection before it receives from it. -/
theorem Welcome.Moves.past {P : Externals} {w w' : Welcome} {a : WelcomeAct} {x : RawFd}
    (hm : Welcome.Moves P w a w') (hx : w'.pc.past = some x) :
    w.pc.past = some x ∨ ∃ uid, a = .getsockopt (.ok uid) ∧ w.pc = .getsockopt x ∧ uid ≠ 0 := by
  have done (hd : w'.pc.aside = true) :
      w.pc.past = some x ∨ ∃ uid, a = .getsockopt (.ok uid) ∧ w.pc = .getsockopt x ∧ uid ≠ 0 := by
    rw [WelcomePc.aside_past hd] at hx
    cases hx
  cases hm with
  | sendError | drainUnbound | drainDisconnected => exact .inl hx
  | notRoot _ hpc hu =>
    cases hx
    exact .inr ⟨_, rfl, hpc, hu⟩
  | recv _ hpc | recvMalformed _ hpc | occupied _ hpc | vacant _ hpc | dupFails _ hpc
  | envNew _ hpc | envNewFails _ hpc | insertSend _ hpc | insertSendFails _ hpc
  | insertWrite _ hpc | insertWriteFails _ hpc | refused _ hpc | hungUp _ hpc =>
    rw [hpc]
    exact .inl hx
  | @inserted at' serializes _ hpc =>
    rw [hpc]
    cases serializes <;> exact .inl hx
  | poll => exact done onPoll_aside
  | drainEmpty => exact done onWelcome_aside
  | root | getsockoptFails | recvFails | recvUnanswered | send | close => exact done closing_aside
  | join | joinPanics => exact done resume_aside
  | _ => cases hx

namespace Daemon
variable {P : Externals} {s t u : Daemon} {c : ConnId} {i : EnvId} {e e' : Env}

/-- The number a step receives from or sends to. -/
def uses (s : Daemon) : Act → Option RawFd
  | .welcome (.recv _ _) | .welcome (.send _) => s.welcome.pc.past
  | .env _ a => a.uses
  | _ => none

def uidOf (conns : ConnId → Option Conn) (c : ConnId) : Option ℕ := (conns c).map Conn.uid

/-- The peer of a connection stays who it is. -/
theorem uidOf_step {a : Act} (hs : s.step P a = some t) (hk : s.conns c ≠ none) :
    uidOf t.conns c = uidOf s.conns c := by
  have hc := conn_change hs c
  unfold uidOf
  generalize s.conns c = old at hc hk
  generalize t.conns c = new at hc
  cases hc with
  | connect => exact absurd rfl hk
  | _ => rfl

/-- No connection of root gets past the check of the peer. -/
structure NoRoot (s : Daemon) : Prop where
  past : ∀ x c, s.welcome.pc.past = some x → s.connAt x = some c → uidOf s.conns c ≠ some 0
  passed : ∀ c, homeOf s.conns c ≠ none → uidOf s.conns c ≠ some 0

theorem noRoot_boot : boot.NoRoot := ⟨nofun, fun _ hc => absurd rfl hc⟩

/-- The peers stay who they are. -/
theorem NoRoot.keep (h : s.NoRoot) (hacc : s.Accounted)
    (huid : ∀ c, s.conns c ≠ none → uidOf t.conns c = uidOf s.conns c)
    (hpast : ∀ x c, t.welcome.pc.past = some x → t.connAt x = some c →
      s.welcome.pc.past = some x ∧ s.connAt x = some c ∨ uidOf t.conns c ≠ some 0)
    (hpassed : ∀ c, homeOf t.conns c ≠ none → homeOf s.conns c ≠ none ∨
      ∃ x, s.welcome.pc.past = some x ∧ s.connAt x = some c) : t.NoRoot where
  past x c hx hc := by
    rcases hpast x c hx hc with ⟨hx, hc⟩ | hu
    · rw [huid c (hacc.behind hc).1]
      exact h.past x c hx hc
    · exact hu
  passed c hc := by
    rcases hpassed c hc with hc | ⟨x, hx, hc⟩
    · rw [huid c fun hnone => hc (by simp [homeOf, hnone])]
      exact h.passed c hc
    · rw [huid c (hacc.behind hc).1]
      exact h.past x c hx hc

theorem NoRoot.welcome {a : WelcomeAct} {w : Welcome} (h : s.NoRoot) (hacc : s.Accounted)
    (hm : Welcome.Moves P s.welcome a w) (he : WelcomeEffect P s a u)
    (huid : ∀ c, s.conns c ≠ none → uidOf u.conns c = uidOf s.conns c) :
    NoRoot { u with welcome := w } := by
  apply h.keep (t := { u with welcome := w }) hacc huid
  · intro x c hx hc
    rcases hm.past hx with hold | ⟨uid, rfl, hpc, hu⟩
    · rcases he.connAt hc with hc | ⟨rfl, -⟩ | ⟨fd, name, hdup, rfl, hfree, hfd⟩
      · exact .inl ⟨hold, hc⟩
      · cases hm with
        | accept _ hpc =>
          rw [hpc] at hold
          cases hold
      · -- the duplicate is not the number the thread answers on
        rw [hdup] at hold
        cases hold
        rw [Daemon.connAt, Fds.connAt, hfree] at hfd
        cases hfd
    · cases he with
      | @getsockopt _ fd c' conn hpc' hc' hconn huid' =>
        cases hpc.symm.trans hpc'
        cases hc.symm.trans hc'
        refine .inr fun hzero => hu ?_
        rw [uidOf, hconn] at hzero
        exact huid'.trans (Option.some.inj hzero)
      | plain hp => cases hp
  · intro c hc
    rcases he.passes hc with hc | ⟨at', hpc, hc⟩
    · exact .inl hc
    · exact .inr ⟨at'.fd, by rw [hpc]; rfl, hacc.passing hpc hc⟩

theorem NoRoot.step {a : Act} (h : s.NoRoot) (hacc : s.Accounted) (hs : s.step P a = some t) :
    t.NoRoot := by
  have huid : ∀ c, s.conns c ≠ none → uidOf t.conns c = uidOf s.conns c := fun _ => uidOf_step hs
  by_cases ha : ∃ b, a = .welcome b
  · obtain ⟨b, rfl⟩ := ha
    obtain ⟨-, hp⟩ := step_party hs
    cases hp with
    | welcome hm he =>
      have hw := h.welcome hacc hm he huid
      exact hw
  · refine h.keep hacc huid (fun x c hx hc => .inl ?_) fun c hc => .inl ?_
    · rcases welcome_other hs fun b hb => ha ⟨b, hb⟩ with hw | hw
      · refine ⟨hw ▸ hx, (connAt_before hs hc).resolve_right ?_⟩
        rintro (⟨hb, -⟩ | ⟨-, -, -, hb, -⟩) <;> exact ha ⟨_, hb⟩
      · rw [hw] at hx
        cases hx
    · have hchange := conn_change hs c
      unfold homeOf at hc ⊢
      generalize s.conns c = old at hchange ⊢
      generalize t.conns c = new at hchange hc
      cases hchange with
      | connect => exact absurd rfl hc
      | pass => exact absurd ⟨_, rfl⟩ ha
      | _ => exact hc

/-- No message is read from root, and nothing is sent to it. -/
theorem NoRoot.uses {a : Act} {x : RawFd} (h : s.NoRoot) (hset : s.Settled)
    (hs : s.step P a = some t) (hx : s.uses a = some x) (hc : s.connAt x = some c) :
    uidOf s.conns c ≠ some 0 := by
  obtain ⟨-, hp⟩ := step_party hs
  cases hp with
  | @welcome a w u hm he =>
    cases a with
    | recv | send => exact h.past x c hx hc
    | _ => cases hx
  | @env i b e e' u hi hst he =>
    obtain ⟨c', -, hown⟩ := (hset.registered i e hi).serving x (uses_serving hst hx)
    cases hc.symm.trans (connAt_eq hown)
    apply h.passed c
    rw [hset.connected.homed x c _ hown nofun]
    nofun
  | _ => cases hx

/-! ## The answers -/

/-- The handling of a request that the welcome thread has received gives one answer. -/
theorem Accounted.welcome_answers {m : Message} {serializes : Bool} {bs : List Act} (h : s.Accounted)
    (hs : s.step P (.welcome (.recv (.ok m) serializes)) = some t)
    (hser : ∀ e, P.welcomeRequest m = .error e → serializes = true)
    (hr : Run (Daemon.step P) WelcomeHandles t bs u) (hend : u.welcome.pc.handling = false) :
    ∃ fd c, s.welcome.pc = .recv fd ∧ s.connAt fd = some c ∧
      OneAnswer welcomeReplies (P.welcomeRequest m) c (collect (Daemon.step P) welcomeRecords t bs)
        (if u.welcome.panicking then none else some u.welcome.outbox) := by
  obtain ⟨-, fd, c, hpc, hc, hstart⟩ := h.welcome_received hs hser
  have hdone := hr.invariant_collect (f := welcomeRecords) (fun _ _ _ _ hok h hs => h.step hok hs) hstart
  refine ⟨fd, c, hpc, hc, ?_⟩
  have hsound := hdone.sound
  rw [List.nil_append] at hsound
  cases hp : u.welcome.panicking with
  | true =>
    rw [Welcome.phase_panicking hp] at hsound
    exact hsound
  | false =>
    have hphase : u.welcome.phase = .finished u.welcome.outbox := by
      rcases hdone.handles.settled hend with hpc | hpc <;> simp [Welcome.phase, hp, hpc]
    rw [hphase] at hsound
    exact hsound

/-- The handling of a request that thread `i` has received gives one answer. -/
theorem Settled.env_answers {fd : RawFd} {m : Message} {serializes : Bool} {bs : List Act}
    (h : s.Settled) (hs : s.step P (.env i (.recv fd (.ok m) serializes)) = some t)
    (hser : ∀ e, P.environmentRequest m = .error e → serializes = true)
    (hr : Run (Daemon.step P) (EnvHandles i) t bs u) (hi : u.envs i = some e)
    (hend : e.pc.owes = false) :
    ∃ c, s.connAt fd = some c ∧
      OneAnswer environmentReplies (P.environmentRequest m) c
        (collect (Daemon.step P) (envRecords P i) t bs) (some e.outbox) := by
  obtain ⟨c, -, hc, hstart, -⟩ := h.env_received hs hser
  have hdone := hr.invariant_collect (f := envRecords P i) (fun _ _ _ _ hok h hs => h.step hok hs) hstart
  obtain ⟨e', hi', hsound, -, -⟩ := hdone.thread
  cases hi.symm.trans hi'
  refine ⟨c, hc, ?_⟩
  have hphase : e.request = .finished e.outbox := by
    cases hpc : e.pc with
    | openMutex | send =>
      rw [hpc] at hend
      cases hend
    | _ => simp only [Env.request, hpc]
  rw [hphase] at hsound
  exact hsound

/-- In every run, a request that a thread receives gets one answer, on the connection it
came from: from the `recv` to the first state in which the thread is done with it, whatever
the others do in between and however the calls of the thread come out. The thread is done
after a few steps of its own. Root is neither received from nor sent to. -/
theorem request_answered {as : List Act} (hr : Run (Daemon.step P) anyStep boot as s) :
    (∀ m serializes t bs u, s.step P (.welcome (.recv (.ok m) serializes)) = some t →
      (∀ e, P.welcomeRequest m = .error e → serializes = true) →
      Run (Daemon.step P) WelcomeHandles t bs u →
      bs.countP (Act.isOf .welcome) ≤ 11 ∧
        (u.welcome.pc.handling = false → ∃ fd c, s.welcome.pc = .recv fd ∧ s.connAt fd = some c ∧
          OneAnswer welcomeReplies (P.welcomeRequest m) c
            (collect (Daemon.step P) welcomeRecords t bs)
            (if u.welcome.panicking then none else some u.welcome.outbox))) ∧
    (∀ i fd m serializes t bs u, s.step P (.env i (.recv fd (.ok m) serializes)) = some t →
      (∀ e, P.environmentRequest m = .error e → serializes = true) →
      Run (Daemon.step P) (EnvHandles i) t bs u →
      bs.countP (Act.isOf (.env i)) ≤ 2 ∧
        ∀ e, u.envs i = some e → e.pc.owes = false → ∃ c, s.connAt fd = some c ∧
          OneAnswer environmentReplies (P.environmentRequest m) c
            (collect (Daemon.step P) (envRecords P i) t bs) (some e.outbox)) ∧
    ∀ a t x c, s.step P a = some t → s.uses a = some x → s.connAt x = some c →
      uidOf s.conns c ≠ some 0 := by
  have h : s.Settled ∧ s.NoRoot := by
    refine hr.invariant (I := fun s => s.Settled ∧ s.NoRoot) ?_ ⟨settled_boot, noRoot_boot⟩
    exact fun s a t _ h hs => ⟨h.1.step hs, h.2.step h.1.toAccounted hs⟩
  refine ⟨?_, ?_, ?_⟩
  · intro m serializes t bs u hs hser hrun
    obtain ⟨hahead, fd, c, -, -, hstart⟩ := h.1.toAccounted.welcome_received hs hser
    refine ⟨(hstart.steps hrun).trans hahead, fun hend => ?_⟩
    exact h.1.toAccounted.welcome_answers hs hser hrun hend
  · intro i fd m serializes t bs u hs hser hrun
    obtain ⟨c, e, -, hstart, hi, hahead⟩ := h.1.env_received hs hser
    refine ⟨(hstart.steps hrun hi).trans hahead, fun e hi hend => ?_⟩
    exact h.1.env_answers hs hser hrun hi hend
  · intro a t x c hs hx hc
    exact h.2.uses h.1 hs hx hc

/-- The constructor of the mutex `b` fails, and the client is told so. -/
def failsMutex : List Act :=
  let page : ShmAllocator.PageCalls := ⟨.ok 2, .ok (), .ok (), .ok 8192⟩
  [.env 0 (.openMutex ⟨page, page, .error (.sys .mutexInit 12)⟩ true),
    .env 0 (.send 1 .internalError (.ok ()))]

/-- The first request for the environment `a` is received, and is answered while the
thread of the new instance runs. Later the thread of the instance receives a request for a
mutex that cannot be made. -/
theorem request_answered_open :
    (∃ as s t bs u c, Run (Daemon.step .oneLetter) anyStep boot as s ∧
      s.step .oneLetter (.welcome (.recv (.ok [97]) true)) = some t ∧
      Run (Daemon.step .oneLetter) WelcomeHandles t bs u ∧ u.welcome.pc = .poll ∧
      bs.countP (Act.isOf .welcome) ≤ 11 ∧
      OneAnswer welcomeReplies (Externals.oneLetter.welcomeRequest [97]) c
        (collect (Daemon.step .oneLetter) welcomeRecords t bs) (some [])) ∧
    ∃ as s t u c, Run (Daemon.step .oneLetter) anyStep boot as s ∧
      s.step .oneLetter (.env 0 (.recv 1 (.ok [98]) true)) = some t ∧
      Run (Daemon.step .oneLetter) (EnvHandles 0) t failsMutex u ∧
      OneAnswer environmentReplies (Externals.oneLetter.environmentRequest [98]) c
        (collect (Daemon.step .oneLetter) (envRecords .oneLetter 0) t failsMutex)
        (some [.sys .mutexInit 12]) := by
  constructor
  · have hexec : (exec (Daemon.step .oneLetter) (fun _ _ => true) boot
        (startUp ++ handsOver.take 5)).any (fun s =>
          (s.step .oneLetter (.welcome (.recv (.ok [97]) true))).any fun t =>
            (exec (Daemon.step .oneLetter) (fun s _ => s.welcome.pc.handling) t
              (handsOver.drop 6 ++ adds ++ answers)).any fun u =>
                decide (u.welcome.pc = .poll ∧ u.welcome.panicking = false ∧
                  u.welcome.outbox = [])) := by decide
    obtain ⟨s, hrun, hs⟩ := Run.of_exec_any (fun _ _ h => h) hexec
    have hr : Run (Daemon.step .oneLetter) anyStep boot _ s := hrun.mono fun _ _ _ => trivial
    obtain ⟨t, ht, hu⟩ := (Option.any_eq_true _ _).mp hs
    obtain ⟨u, hrun', hp⟩ := Run.of_exec_any (fun _ _ h => h) hu
    obtain ⟨hpc, hpanic, ho⟩ := of_decide_eq_true hp
    obtain ⟨hsteps, hanswer⟩ := (request_answered hr).1 [97] true t _ u ht (fun _ _ => rfl) hrun'
    obtain ⟨fd, c, -, -, hone⟩ := hanswer (by rw [hpc]; rfl)
    rw [hpanic, ho] at hone
    exact ⟨_, s, t, _, u, c, hr, ht, hrun', hpc, hsteps, hone⟩
  · have hexec : (exec (Daemon.step .oneLetter) (fun _ _ => true) boot
        (startUp ++ handsOver ++ adds ++ answers ++ [.client 0 .read] ++ asks)).any (fun s =>
          (s.step .oneLetter (.env 0 (.recv 1 (.ok [98]) true))).any fun t =>
            (exec (Daemon.step .oneLetter) (fun s _ => (s.envs 0).any fun e => e.pc.owes) t
              failsMutex).any fun u => (u.envs 0).any fun e =>
                decide (e.pc.owes = false ∧ e.outbox = [.sys .mutexInit 12])) := by decide
    obtain ⟨s, hrun, hs⟩ := Run.of_exec_any (fun _ _ h => h) hexec
    have hr : Run (Daemon.step .oneLetter) anyStep boot _ s := hrun.mono fun _ _ _ => trivial
    obtain ⟨t, ht, hu⟩ := (Option.any_eq_true _ _).mp hs
    obtain ⟨u, hrun', hp⟩ := Run.of_exec_any (fun _ _ => envHandles_of) hu
    obtain ⟨e, hi, hp⟩ := (Option.any_eq_true _ _).mp hp
    obtain ⟨hend, ho⟩ := of_decide_eq_true hp
    obtain ⟨-, hanswer⟩ := (request_answered hr).2.1 0 1 [98] true t _ u ht (fun _ _ => rfl) hrun'
    obtain ⟨c, -, hone⟩ := hanswer e hi hend
    rw [ho] at hone
    exact ⟨_, s, t, u, c, hr, ht, hrun', hone⟩

end Daemon
end Garnd
