import Garnd.DaemonFrames
import Garnd.Terminal

/- The descriptor table against its owners. The table notes for every descriptor who
   holds it; each party knows which numbers it holds: the welcome thread those of the
   request in hand and of the errors it has collected, an environment those in its
   `add_listener` channel and in its `SocketSet`. The two agree in every interleaving
   (`Daemon.Held`), so an owner that closes a number closes its own. -/
namespace Garnd
open Transition

namespace Fds

/-- The number is a descriptor that `h` holds. -/
def HeldBy (f : Fds) (h : Holder) (x : RawFd) : Prop := (f x).map Descriptor.holder = some h

variable {f : Fds} {h : Holder} {x y : RawFd}

theorem heldBy_iff : f.HeldBy h x ↔ ∃ file, f x = some ⟨file, h⟩ := by
  unfold HeldBy
  constructor
  · intro hx
    obtain ⟨d, hd, rfl⟩ := Option.map_eq_some_iff.mp hx
    exact ⟨d.file, hd⟩
  · rintro ⟨file, hd⟩
    rw [hd]
    rfl

theorem HeldBy.of_eq {file : File} (hx : f x = some ⟨file, h⟩) : f.HeldBy h x :=
  heldBy_iff.mpr ⟨file, hx⟩

/-- A number is held by one party. -/
theorem HeldBy.unique {h' : Holder} (hx : f.HeldBy h x) (hx' : f.HeldBy h' x) : h = h' :=
  Option.some.inj (hx.symm.trans hx')

theorem not_heldBy_of_none (hx : f x = none) : ¬ f.HeldBy h x := by
  unfold HeldBy
  rw [hx]
  nofun

/-- A descriptor is opened under a free number. -/
theorem heldBy_open {d : Descriptor} (hx : f x = none) :
    HeldBy (Function.update f x (some d)) h y ↔ (y = x ∧ h = d.holder) ∨ f.HeldBy h y := by
  by_cases hyx : y = x
  · subst hyx
    have hnot := not_heldBy_of_none (h := h) hx
    simp only [HeldBy, Function.update_self, Option.map_some, Option.some.injEq, true_and] at hnot ⊢
    exact ⟨fun hd => .inl hd.symm, fun hd => (hd.resolve_right hnot).symm⟩
  · simp only [HeldBy, Function.update_of_ne hyx, hyx, false_and, false_or]

theorem heldBy_closeHeld {h' : Holder} :
    (f.closeHeld x h').HeldBy h y ↔ f.HeldBy h y ∧ ¬ (y = x ∧ h = h') := by
  unfold closeHeld
  split
  · rename_i hx
    by_cases hyx : y = x
    · subst hyx
      simp only [HeldBy, Function.update_self, hx, Option.map_none, true_and]
      exact ⟨nofun, fun hd => absurd (Option.some.inj hd.1).symm hd.2⟩
    · simp only [HeldBy, Function.update_of_ne hyx, hyx, false_and, not_false_eq_true, and_true]
  · rename_i hx
    refine ⟨fun hy => ⟨hy, ?_⟩, And.left⟩
    rintro ⟨rfl, rfl⟩
    exact hx hy

theorem heldBy_closeAll {h' : Holder} : (f.closeAll h').HeldBy h y ↔ f.HeldBy h y ∧ h ≠ h' := by
  unfold HeldBy
  simp only [closeAll]
  split
  · rename_i hy
    rw [hy]
    exact ⟨nofun, fun hd => absurd (Option.some.inj hd.1).symm hd.2⟩
  · rename_i hy
    refine ⟨fun hd => ⟨hd, ?_⟩, And.left⟩
    rintro rfl
    exact hy hd

theorem heldBy_closeNumbers {xs : Finset RawFd} :
    (f.closeNumbers xs).HeldBy h y ↔ f.HeldBy h y ∧ y ∉ xs := by
  unfold HeldBy
  simp only [closeNumbers]
  split
  · rename_i hy
    exact ⟨nofun, fun hd => absurd hy hd.2⟩
  · rename_i hy
    exact ⟨fun hd => ⟨hd, hy⟩, And.left⟩

theorem pass_eq {file : File} {h' : Holder} (hx : f x = some ⟨file, h⟩) :
    f.pass x h h' = Function.update f x (some ⟨file, h'⟩) := by
  simp only [pass, hx, if_true]

/-- A descriptor changes hands. -/
theorem heldBy_pass {h₁ h₂ : Holder} (hx : f.HeldBy h₁ x) :
    (f.pass x h₁ h₂).HeldBy h y ↔ (y = x ∧ h = h₂) ∨ (y ≠ x ∧ f.HeldBy h y) := by
  obtain ⟨file, hx⟩ := heldBy_iff.mp hx
  rw [pass_eq hx]
  by_cases hyx : y = x
  · subst hyx
    simp only [HeldBy, Function.update_self, Option.map_some, Option.some.injEq, true_and,
      ne_eq, not_true, false_and, or_false, eq_comm]
  · simp only [HeldBy, Function.update_of_ne hyx, hyx, false_and, false_or, ne_eq, not_false_iff,
      true_and]

/-- The socket of an error, if it owns one, changes hands with it. -/
theorem heldBy_handOver {err : DetailedError} (hx : ∀ x, err.socket = some x → f.HeldBy .welcome x) :
    (f.handOver err).HeldBy h y ↔
      (err.socket = some y ∧ h = .errors) ∨ (err.socket ≠ some y ∧ f.HeldBy h y) := by
  unfold handOver
  split
  · rename_i x herr
    rw [heldBy_pass (hx x herr), herr]
    simp only [Option.some.injEq, ne_eq, eq_comm]
  · rename_i herr
    rw [herr]
    simp

/-- New pages are held as pages. -/
theorem heldBy_addPages {P : Externals} {i : EnvId} {pages : List Page} {k k' : ℕ} {g : Fds}
    (ha : f.addPages P i pages k = some (g, k')) (hh : h ≠ .page i) :
    g.HeldBy h y ↔ f.HeldBy h y := by
  induction pages generalizing f k with
  | nil =>
    cases ha
    rfl
  | cons page rest ih =>
    simp only [addPages] at ha
    split at ha
    · rename_i f' hf
      obtain ⟨-, hfree, rfl⟩ := openAt_eq_some.mp hf
      rw [ih ha, heldBy_open hfree]
      exact ⟨fun hd => hd.resolve_left fun hd => hh hd.2, .inr⟩
    · cases ha

end Fds

/-! ## What the welcome thread holds -/

/-- The sockets that errors own. -/
def socketsOf (errors : List DetailedError) : List RawFd := errors.filterMap DetailedError.socket

@[simp] theorem socketsOf_nil : socketsOf [] = [] := rfl

theorem socketsOf_append (a b : List DetailedError) : socketsOf (a ++ b) = socketsOf a ++ socketsOf b :=
  List.filterMap_append

theorem parseRequest_socket {maxSize : ℕ} {deserialize : String → Option String} {m : Message}
    {err : DetailedError} (h : parseRequest maxSize deserialize m = .error err) :
    err.socket = none := by
  unfold parseRequest at h
  split at h
  · cases h
    rfl
  · split at h <;> cases h
    rfl

/-- What a request still has open. -/
def After.fds : After → List RawFd
  | .finish fds _ | .unwind fds => fds
  | _ => []

def WelcomePc.fds : WelcomePc → List RawFd
  | .getsockopt fd | .recv fd | .dup fd _ => [fd]
  | .envNew fd passed _ => [passed, fd]
  | .insertSend a => [a.passed, a.fd]
  | .insertWrite a | .insertRecv a => [a.fd]
  | .send _ _ _ _ fds | .close fds _ => fds
  | .dropWrite _ k | .dropFields _ k | .join _ k => k.fds
  | _ => []

/-- The descriptors of the request in hand and those of the errors collected. -/
def WelcomePc.held (pc : WelcomePc) : List RawFd := pc.fds ++ socketsOf pc.errors

/-- What the step opens. -/
def WelcomeAct.opens : WelcomeAct → List RawFd
  | .accept (.ok fd) | .dup (.ok fd) => [fd]
  | _ => []

/-- The labels of an environment thread whose steps leave the table alone. -/
def EnvAct.keepsFds : EnvAct → Bool
  | .dispatch (some (.conn _ _ true)) | .addEpoll _ _ | .openMutex _ _ | .leave _
  | .dropListener => false
  | _ => true

/-- A drop after which the thread goes on unwinding. -/
def After.unwinds : After → Bool
  | .returning | .unwind _ | .teardown _ => true
  | _ => false

/-- Where a thread that unwinds can be. -/
def WelcomePc.unwinds : WelcomePc → Bool
  | .dropWrite _ k | .dropFields _ k | .join _ k => k.unwinds
  | .close _ [] | .ret _ | .teardown _ | .ended => true
  | _ => false

namespace Welcome
variable {P : Externals} {w w' : Welcome} {a : WelcomeAct}

/-- Those and the descriptors of the errors in the outbox. -/
def held (w : Welcome) : List RawFd := w.pc.held ++ socketsOf w.outbox

theorem held_eq (ho : w.outbox = []) : w.held = w.pc.held := by
  simp [held, ho, socketsOf]

/-- What the step gives away or closes. -/
def gives (w : Welcome) : WelcomeAct → List RawFd
  | .close fd => [fd]
  | .insertSend true =>
    match w.pc with
    | .insertSend a => [a.passed]
    | _ => []
  | .sendError err => err.socket.toList
  | _ => []

/-- A thread that unwinds is on its way out. -/
def Unwinds (w : Welcome) : Prop := w.panicking = true → w.pc.unwinds = true

theorem Unwinds.errors (h : w.Unwinds) (hp : w.panicking = true) : w.pc.errors = [] := by
  have hpc := h hp
  revert hpc
  cases w.pc with
  | dropWrite i k | dropFields i k | join i k =>
    cases k <;> first | exact fun _ => rfl | exact nofun
  | close fds errors =>
    cases errors with
    | nil => exact fun _ => rfl
    | cons => exact nofun
  | _ => first | exact fun _ => rfl | exact nofun

theorem held_closing {fds : List RawFd} {errors : List DetailedError} (ho : w.outbox = [])
    (hp : w.panicking = true → errors = []) : (w.closing fds errors).held = fds ++ socketsOf errors := by
  unfold Welcome.closing
  split
  · split
    · rename_i hpan
      rw [hp hpan]
      simp [held, WelcomePc.held, WelcomePc.fds, WelcomePc.errors, ho, socketsOf]
    · simp [held, WelcomePc.held, WelcomePc.fds, WelcomePc.errors]
  · simp [held, WelcomePc.held, WelcomePc.fds, WelcomePc.errors, ho]

theorem held_onWelcome {r : Revents} (ho : w.outbox = []) : (w.onWelcome r).held = [] := by
  unfold Welcome.onWelcome
  split
  · simp [held, WelcomePc.held, WelcomePc.fds, WelcomePc.errors, ho, socketsOf]
  · split <;> simp [held, WelcomePc.held, WelcomePc.fds, WelcomePc.errors, ho, socketsOf, DetailedError.socket]

theorem held_onPoll {r : PollResult} (ho : w.outbox = []) : (w.onPoll r).held = [] := by
  unfold Welcome.onPoll
  split
  · simp [held, WelcomePc.held, WelcomePc.fds, WelcomePc.errors, ho, socketsOf]
  · split
    · simp [held, WelcomePc.held, WelcomePc.fds, WelcomePc.errors, ho, socketsOf]
    · split
      · simp [held, WelcomePc.held, WelcomePc.fds, WelcomePc.errors, ho, socketsOf]
      · exact held_onWelcome ho

theorem held_resume {k : After} (ho : w.outbox = []) (hp : w.panicking = true → k.errors = []) :
    (w.resume k).held = k.fds ++ socketsOf k.errors := by
  cases k with
  | finish fds errors => exact held_closing ho hp
  | unwind fds => exact held_closing ho fun _ => rfl
  | drain | returning | teardown =>
    simp [resume, held, WelcomePc.held, WelcomePc.fds, WelcomePc.errors, ho, socketsOf, After.fds, After.errors]

theorem socketsOf_sendErrors (errors : List DetailedError) (r : Except Errno Unit) :
    socketsOf (sendErrors errors r) = socketsOf errors := by
  cases r with
  | ok _ => rfl
  | error errno => simp [sendErrors, socketsOf, DetailedError.socket]

theorem held_panics (k : After) :
    k.panics.fds ++ socketsOf k.panics.errors = k.fds ++ socketsOf k.errors := by
  cases k <;> simp [After.panics, After.fds, After.errors, socketsOf]

/-- What the thread opens comes to what it holds, and what it gives away goes. -/
theorem Moves.held (hm : Moves P w a w') (hu : w.Unwinds) :
    (a.opens ++ w.held).Perm (w.gives a ++ w'.held) := by
  have hun {pc : WelcomePc} (hpc : w.pc = pc) (hp : w.panicking = true) : pc.errors = [] :=
    hpc ▸ hu.errors hp
  have calm {pc : WelcomePc} {q : Prop} (hpc : w.pc = pc) (hpc' : pc.unwinds = false)
      (hp : w.panicking = true) : q := by
    rw [← hpc, hu hp] at hpc'
    cases hpc'
  -- nothing is opened or given away
  have same {fds : List RawFd} (ho : w.outbox = []) (h : w.pc.held = fds) (h' : w'.held = fds)
      (hop : a.opens = []) (hg : w.gives a = []) : (a.opens ++ w.held).Perm (w.gives a ++ w'.held) := by
    rw [hop, hg, held_eq ho, h, h']
  -- the thread goes from one place to another
  have goto {pc pc' : WelcomePc} (ho : w.outbox = []) (hpc : w.pc = pc) (hpc' : w'.pc = pc')
      (ho' : socketsOf w'.outbox = []) (h : (a.opens ++ pc.held).Perm (w.gives a ++ pc'.held)) :
      (a.opens ++ w.held).Perm (w.gives a ++ w'.held) := by
    rw [held_eq ho, hpc, Welcome.held, hpc', ho', List.append_nil]
    exact h
  cases hm with
  | @sendError err errors ho =>
    simp only [WelcomeAct.opens, gives, Welcome.held, ho, List.nil_append]
    have hsplit : socketsOf (err :: errors) = err.socket.toList ++ socketsOf errors := by
      simp only [socketsOf, List.filterMap_cons]
      cases err.socket <;> rfl
    rw [hsplit]
    exact List.perm_append_comm_assoc ..
  | createEvent ho hpc | listen ho hpc | drainBound ho hpc | accept ho hpc | notRoot ho hpc
  | recv ho hpc | occupied ho hpc | vacant ho hpc | dupFails ho hpc | envNew ho hpc
  | envNewFails ho hpc | insertWrite ho hpc | insertWriteFails ho hpc | refused ho hpc
  | hungUp ho hpc | dropWrite ho hpc | dropFields ho hpc | dropLocals ho hpc | teardown ho hpc
  | ended ho hpc => exact goto ho hpc rfl (congrArg socketsOf ho) (.refl _)
  | createEventFails ho hpc | listenFails ho hpc | pollFails ho hpc | acceptFails ho hpc =>
    exact goto ho hpc rfl rfl (.refl _)
  | drainDisconnected ho hpc => exact goto ho hpc hpc rfl (.refl _)
  | @shutdownRead r ho hpc | @reloadRead r ho hpc | @closeRead r _ ho hpc =>
    refine goto ho hpc rfl ?_ (.refl _)
    cases r <;> rfl
  | drainUnbound => exact .refl _
  | poll ho hpc => exact same ho (congrArg WelcomePc.held hpc) (held_onPoll ho) rfl rfl
  | drainEmpty ho hpc => exact same ho (congrArg WelcomePc.held hpc) (held_onWelcome ho) rfl rfl
  | root ho hpc | getsockoptFails ho hpc | recvFails ho hpc =>
    exact same ho (congrArg WelcomePc.held hpc) (held_closing ho (calm hpc rfl)) rfl rfl
  | @recvUnanswered fd m err ho hpc hm =>
    refine same ho (congrArg WelcomePc.held hpc) ?_ rfl rfl
    have hsock : err.socket = none := parseRequest_socket hm
    have hnone : socketsOf [err, .serialize] = [] := by
      simp only [socketsOf, List.filterMap_cons, hsock]
      rfl
    rw [held_closing ho (calm hpc rfl), hnone]
    rfl
  | @recvMalformed fd m err ho hpc hm =>
    have hsock : err.socket = none := parseRequest_socket hm
    have hnone : socketsOf [err] = [] := List.filterMap_eq_nil_iff.mpr (by simp [hsock])
    refine goto ho hpc rfl (congrArg socketsOf ho) ?_
    show ([fd] ++ []).Perm ([fd] ++ socketsOf [err])
    rw [hnone]
  | insertSend ho hpc =>
    refine goto ho hpc rfl (congrArg socketsOf ho) ?_
    simp only [gives, hpc]
    exact .refl _
  | insertSendFails ho hpc => exact goto ho hpc rfl (congrArg socketsOf ho) (.swap ..)
  | @inserted a serializes ho hpc =>
    cases serializes <;> exact goto ho hpc rfl (congrArg socketsOf ho) (.refl _)
  | sendAbandon ho hpc =>
    refine goto ho hpc rfl (congrArg socketsOf ho) ?_
    simp only [WelcomePc.held, WelcomePc.fds, WelcomePc.errors, After.fds, After.errors,
      socketsOf_sendErrors]
    exact .refl _
  | send ho hpc =>
    refine same ho (congrArg WelcomePc.held hpc) ?_ rfl rfl
    rw [held_closing ho (calm hpc rfl), socketsOf_sendErrors]
    rfl
  | @dropWritePanics i k ho hpc =>
    refine goto ho hpc rfl (congrArg socketsOf ho) ?_
    exact .of_eq (held_panics k).symm
  | join ho hpc => exact same ho (congrArg WelcomePc.held hpc) (held_resume ho (hun hpc)) rfl rfl
  | @joinPanics i k ho hpc =>
    refine same ho (congrArg WelcomePc.held hpc) ?_ rfl rfl
    exact (held_resume (w := w.panic k) ho fun _ => k.panics_errors).trans (held_panics k)
  | @close fd fds errors ho hpc =>
    have hnone : w.panicking = true → errors = [] := hun hpc
    rw [held_eq ho, hpc, held_closing ho hnone]
    exact .refl _

theorem unwinds_new : new.Unwinds := nofun

theorem Unwinds.calm (hp : w.panicking = false) : w.Unwinds := by
  intro h
  rw [hp] at h
  cases h

theorem unwinds_closing {fds : List RawFd} {errors : List DetailedError}
    (hp : w.panicking = true → errors = []) : (w.closing fds errors).Unwinds := by
  unfold Welcome.closing
  split
  · split
    · exact fun _ => rfl
    · rename_i hpan
      exact .calm (by simpa using hpan)
  · intro h
    obtain rfl := hp h
    rfl

/-- A thread that unwinds stays on its way out. -/
theorem Unwinds.step (h : w.Unwinds) (hm : Moves P w a w') : w'.Unwinds := by
  have hcalm {pc : WelcomePc} (hpc : w.pc = pc) (hpc' : pc.unwinds = false) : w.panicking = false := by
    cases hp : w.panicking with
    | false => rfl
    | true =>
      rw [← hpc, h hp] at hpc'
      cases hpc'
  cases hm with
  | sendError => exact h
  | createEventFails | listenFails | pollFails | shutdownRead | reloadRead | dropLocals | teardown
  | ended => exact fun _ => rfl
  | drainUnbound => exact h
  | drainDisconnected => exact h
  | poll _ hpc =>
    obtain ⟨pc, outbox, ctl, hw, -⟩ := w.onPoll_shape _
    rw [hw]
    exact .calm (hcalm hpc rfl)
  | drainEmpty _ hpc =>
    obtain ⟨pc, outbox, ctl, hw, -⟩ := w.onWelcome_shape _
    rw [hw]
    exact .calm (hcalm hpc rfl)
  | root _ hpc | getsockoptFails _ hpc | recvFails _ hpc | recvUnanswered _ hpc | send _ hpc =>
    refine unwinds_closing fun hp => ?_
    rw [hcalm hpc rfl] at hp
    cases hp
  | @inserted a serializes _ hpc => cases serializes <;> exact .calm (hcalm hpc rfl)
  | dropWrite _ hpc | dropFields _ hpc =>
    intro hp
    have hpc' := h hp
    rwa [hpc] at hpc'
  | @dropWritePanics i k => exact fun _ => by cases k <;> rfl
  | @join i k _ _ hpc =>
    cases k with
    | drain => exact .calm (hcalm hpc rfl)
    | finish fds errors =>
      refine unwinds_closing fun hp => ?_
      rw [hcalm hpc rfl] at hp
      cases hp
    | unwind fds => exact unwinds_closing fun _ => rfl
    | returning | teardown => exact fun _ => rfl
  | @joinPanics i k _ hpc =>
    cases k with
    | finish | unwind => exact unwinds_closing fun _ => rfl
    | drain | returning | teardown => exact fun _ => rfl
  | @close fd fds errors _ hpc =>
    refine unwinds_closing fun hp => ?_
    have := h.errors hp
    rwa [hpc] at this
  | createEvent _ hpc | listen _ hpc | closeRead _ hpc | drainBound _ hpc | accept _ hpc
  | acceptFails _ hpc | notRoot _ hpc | recv _ hpc | recvMalformed _ hpc | occupied _ hpc
  | vacant _ hpc | dupFails _ hpc | envNew _ hpc | envNewFails _ hpc | insertSend _ hpc
  | insertSendFails _ hpc | insertWrite _ hpc | insertWriteFails _ hpc | refused _ hpc
  | hungUp _ hpc | sendAbandon _ hpc =>
    exact .calm (hcalm hpc rfl)

end Welcome
/-! ## What an environment holds -/

/-- The socket the thread has taken from the `add_listener` channel. -/
def EnvPc.taken : EnvPc → List RawFd
  | .addEpoll listener _ => [listener]
  | _ => []

/-- The sockets that were passed to the environment and are not in its `SocketSet`. -/
def Env.waiting (e : Env) : List RawFd := e.pc.taken ++ e.addListener.queue

namespace Daemon
variable {P : Externals} {s t u : Daemon} {envs : EnvId → Option Env} {i : EnvId} {e e' : Env}

def waitingAt (envs : EnvId → Option Env) (i : EnvId) : List RawFd :=
  ((envs i).map Env.waiting).getD []

def socketsAt (envs : EnvId → Option Env) (i : EnvId) : Finset RawFd :=
  ((envs i).map Env.sockets).getD ∅

theorem waitingAt_eq (hi : envs i = some e) : waitingAt envs i = e.waiting := by
  simp [waitingAt, hi]

theorem socketsAt_eq (hi : envs i = some e) : socketsAt envs i = e.sockets := by
  simp [socketsAt, hi]

theorem waitingAt_update (j : EnvId) :
    waitingAt (Function.update envs i (some e')) j = if j = i then e'.waiting else waitingAt envs j := by
  unfold waitingAt Function.update
  split <;> simp_all

theorem socketsAt_update (j : EnvId) :
    socketsAt (Function.update envs i (some e')) j = if j = i then e'.sockets else socketsAt envs j := by
  unfold socketsAt Function.update
  split <;> simp_all

/-- An environment that keeps both changes nothing. -/
theorem waitingAt_same (hi : envs i = some e) (hw : e'.waiting = e.waiting) :
    waitingAt (Function.update envs i (some e')) = waitingAt envs := by
  funext j
  rw [waitingAt_update]
  split
  · rename_i hji
    rw [hji, waitingAt_eq hi, hw]
  · rfl

theorem socketsAt_same (hi : envs i = some e) (hs : e'.sockets = e.sockets) :
    socketsAt (Function.update envs i (some e')) = socketsAt envs := by
  funext j
  rw [socketsAt_update]
  split
  · rename_i hji
    rw [hji, socketsAt_eq hi, hs]
  · rfl

/-- The table and its owners agree. -/
structure HeldOf (f : Fds) (w : Welcome) (envs : EnvId → Option Env) : Prop where
  welcome : ∀ x, x ∈ w.held ↔ f.HeldBy .welcome x
  nodup : w.held.Nodup
  queue : ∀ i x, x ∈ waitingAt envs i ↔ f.HeldBy (.queue i) x
  sockets : ∀ i x, x ∈ socketsAt envs i ↔ f.HeldBy (.socket i) x
  unwinds : w.Unwinds

abbrev Held (s : Daemon) : Prop := HeldOf s.fds s.welcome s.envs

theorem held_boot : boot.Held where
  welcome _ := ⟨nofun, nofun⟩
  nodup := .nil
  queue _ _ := ⟨nofun, nofun⟩
  sockets _ _ := ⟨nofun, nofun⟩
  unwinds := .calm rfl

/-! ## The steps of the welcome thread -/

theorem plain_opens {a : WelcomeAct} (h : a.plain = true) : a.opens = [] := by
  cases a with
  | accept r | dup r =>
    cases r with
    | ok _ => cases h
    | error _ => rfl
  | _ => rfl

theorem plain_gives {a : WelcomeAct} {w : Welcome} (h : a.plain = true) : w.gives a = [] := by
  cases a with
  | insertSend | close | sendError => cases h
  | _ => rfl

/-- The socket an error in the outbox owns is one of the thread's. -/
theorem Held.of_outbox {err : DetailedError} {errors : List DetailedError} (h : s.Held)
    (ho : s.welcome.outbox = err :: errors) (x : RawFd) (hx : err.socket = some x) :
    s.fds.HeldBy .welcome x := by
  rw [← h.welcome, Welcome.held, ho]
  exact List.mem_append_right _ (List.mem_filterMap.mpr ⟨err, List.mem_cons_self, hx⟩)

theorem Held.of_passed {a : Attaching} (h : s.Held) (hpc : s.welcome.pc = .insertSend a) :
    s.fds.HeldBy .welcome a.passed := by
  rw [← h.welcome, Welcome.held, hpc]
  exact List.mem_append_left _ List.mem_cons_self

/-- What the thread holds after the step, in the table. -/
theorem WelcomeEffect.held_welcome {a : WelcomeAct} {w : Welcome} (he : WelcomeEffect P s a u)
    (hm : Welcome.Moves P s.welcome a w) (h : s.Held) (x : RawFd) :
    u.fds.HeldBy .welcome x ↔
      (x ∈ a.opens ∨ s.fds.HeldBy .welcome x) ∧ x ∉ s.welcome.gives a := by
  have same (hf : u.fds = s.fds) (hop : a.opens = []) (hg : s.welcome.gives a = []) :
      u.fds.HeldBy .welcome x ↔
        (x ∈ a.opens ∨ s.fds.HeldBy .welcome x) ∧ x ∉ s.welcome.gives a := by
    simp [hf, hop, hg]
  cases he with
  | plain hp => exact same rfl (plain_opens hp) (plain_gives hp)
  | accept _ hfree | dup _ _ hfree =>
    simp [Fds.heldBy_open hfree, WelcomeAct.opens, Welcome.gives]
  | insertSend hpc =>
    simp [Fds.heldBy_pass (h.of_passed hpc), WelcomeAct.opens, Welcome.gives, hpc, and_comm]
  | close => simp [Fds.heldBy_closeHeld, WelcomeAct.opens, Welcome.gives]
  | sendError =>
    cases hm with
    | sendError ho =>
      simp [Fds.heldBy_handOver (h.of_outbox ho), WelcomeAct.opens, Welcome.gives, and_comm]
  | recv _ hr =>
    obtain ⟨c, conn, -, -, ⟨rest, -, rfl⟩ | ⟨-, -, rfl⟩⟩ := recvFrom_eq_some hr <;>
      exact same rfl rfl rfl
  | send _ hr =>
    obtain ⟨c, conn, -, -, -, rfl⟩ := sendTo_eq_some hr
    exact same rfl rfl rfl
  | _ => exact same rfl rfl rfl

theorem answered_held {r : Option (Except (Call × Errno) Unit)} (h : answered e r = some e') :
    e'.waiting = e.waiting ∧ e'.sockets = e.sockets := by
  unfold answered at h
  split at h <;> split at h <;> cases h <;> exact ⟨rfl, rfl⟩

/-- No one else's sockets move, but for the one that is passed. -/
theorem WelcomeEffect.held_others {a : WelcomeAct} {w : Welcome} (he : WelcomeEffect P s a u)
    (hm : Welcome.Moves P s.welcome a w) (h : s.Held) :
    (∀ i x, x ∈ waitingAt u.envs i ↔ u.fds.HeldBy (.queue i) x) ∧
      ∀ i x, x ∈ socketsAt u.envs i ↔ u.fds.HeldBy (.socket i) x := by
  have same (hf : u.fds = s.fds) (hw : waitingAt u.envs = waitingAt s.envs)
      (hs : socketsAt u.envs = socketsAt s.envs) :
      (∀ i x, x ∈ waitingAt u.envs i ↔ u.fds.HeldBy (.queue i) x) ∧
        ∀ i x, x ∈ socketsAt u.envs i ↔ u.fds.HeldBy (.socket i) x := by
    rw [hf, hw, hs]
    exact ⟨h.queue, h.sockets⟩
  cases he with
  | accept _ hfree | dup _ _ hfree =>
    simp only [Fds.heldBy_open hfree, reduceCtorEq, and_false, false_or]
    exact ⟨h.queue, h.sockets⟩
  | close =>
    simp only [Fds.heldBy_closeHeld, reduceCtorEq, and_false, not_false_eq_true, and_true]
    exact ⟨h.queue, h.sockets⟩
  | @sendError err =>
    cases hm with
    | sendError ho =>
      -- the socket an error owns is nobody else's
      have hother (h' : Holder) (hne : h' ≠ .welcome) (hne' : h' ≠ .errors) (x : RawFd) :
          (s.fds.handOver err).HeldBy h' x ↔ s.fds.HeldBy h' x := by
        rw [Fds.heldBy_handOver (h.of_outbox ho)]
        refine ⟨fun hx => (hx.resolve_left fun hx => hne' hx.2).2, fun hx => .inr ⟨fun hs => ?_, hx⟩⟩
        exact hne (hx.unique (h.of_outbox ho x hs))
      exact ⟨fun i x => (h.queue i x).trans (hother (.queue i) nofun nofun x).symm,
        fun i x => (h.sockets i x).trans (hother (.socket i) nofun nofun x).symm⟩
  | envNew _ hi =>
    refine same rfl ?_ ?_ <;> funext j
    · rw [waitingAt_update]
      split
      · rename_i hj
        rw [hj, waitingAt, hi]
        rfl
      · rfl
    · rw [socketsAt_update]
      split
      · rename_i hj
        rw [hj, socketsAt, hi]
        rfl
      · rfl
  | @insertSend a e e' hpc hi hs =>
    have hp := h.of_passed hpc
    obtain ⟨chan, hc, rfl⟩ := Option.map_eq_some_iff.mp hs
    obtain ⟨-, rfl⟩ := Channel.send_eq_some.mp hc
    refine ⟨fun j x => ?_, fun j x => ?_⟩
    · rw [Fds.heldBy_pass hp, waitingAt_update, Holder.queue.injEq]
      split
      · rename_i hj
        subst hj
        have hq := h.queue a.id x
        rw [waitingAt_eq hi] at hq
        have hmem : x ∈ Env.waiting { e with addListener := { e.addListener with
            queue := e.addListener.queue ++ [a.passed] } } ↔ x ∈ e.waiting ∨ x = a.passed := by
          simp [Env.waiting, or_assoc]
        rw [hmem, hq]
        constructor
        · rintro (hx | rfl)
          · refine .inr ⟨?_, hx⟩
            rintro rfl
            cases hx.unique hp
          · exact .inl ⟨rfl, rfl⟩
        · rintro (⟨rfl, -⟩ | ⟨-, hx⟩)
          · exact .inr rfl
          · exact .inl hx
      · rename_i hj
        rw [h.queue]
        refine ⟨fun hx => .inr ⟨?_, hx⟩, fun hx => (hx.resolve_left fun hx => hj hx.2).2⟩
        rintro rfl
        cases hx.unique hp
    · rw [Fds.heldBy_pass hp, socketsAt_same hi, h.sockets]
      · refine ⟨fun hx => .inr ⟨?_, hx⟩, fun hx => (hx.resolve_left fun hx => nomatch hx.2).2⟩
        rintro rfl
        cases hx.unique hp
      · rfl
  | insertWrite _ hi hs | dropWrite _ hi hs =>
    obtain ⟨_, -, rfl⟩ := Option.map_eq_some_iff.mp hs
    exact same rfl (waitingAt_same hi rfl) (socketsAt_same hi rfl)
  | insertRecv _ hi hs =>
    obtain ⟨hw, hs⟩ := answered_held hs
    exact same rfl (waitingAt_same hi hw) (socketsAt_same hi hs)
  | dropFields _ hi => exact same rfl (waitingAt_same hi rfl) (socketsAt_same hi rfl)
  | recv _ hr =>
    obtain ⟨c, conn, -, -, ⟨rest, -, rfl⟩ | ⟨-, -, rfl⟩⟩ := recvFrom_eq_some hr <;>
      exact same rfl rfl rfl
  | send _ hr =>
    obtain ⟨c, conn, -, -, -, rfl⟩ := sendTo_eq_some hr
    exact same rfl rfl rfl
  | _ => exact same rfl rfl rfl

/-- After a step the thread holds what it held and has opened, less what it gave. -/
theorem held_of_perm {opened held gave held' : List RawFd}
    (hp : (opened ++ held).Perm (gave ++ held')) (hn : (opened ++ held).Nodup) :
    held'.Nodup ∧ ∀ x, x ∈ held' ↔ (x ∈ opened ∨ x ∈ held) ∧ x ∉ gave := by
  obtain ⟨-, hn', hdisj⟩ := List.nodup_append'.mp (hp.nodup_iff.mp hn)
  refine ⟨hn', fun x => ?_⟩
  rw [← List.mem_append, hp.mem_iff, List.mem_append]
  refine ⟨fun hx => ⟨.inr hx, fun hg => hdisj hg hx⟩, fun hx => hx.1.resolve_left hx.2⟩

/-- What the step opens was free. -/
theorem WelcomeEffect.opens_free {a : WelcomeAct} (he : WelcomeEffect P s a u) :
    a.opens.Nodup ∧ ∀ x ∈ a.opens, s.fds x = none := by
  cases he with
  | plain hp =>
    rw [plain_opens hp]
    exact ⟨.nil, nofun⟩
  | accept _ hfree | dup _ _ hfree =>
    refine ⟨List.nodup_singleton _, fun x hx => ?_⟩
    rw [List.mem_singleton.mp hx]
    exact hfree
  | _ => exact ⟨.nil, nofun⟩

theorem Held.welcome_step {a : WelcomeAct} {w : Welcome} (h : s.Held)
    (hm : Welcome.Moves P s.welcome a w) (he : WelcomeEffect P s a u) : HeldOf u.fds w u.envs := by
  obtain ⟨hon, hfree⟩ := he.opens_free
  have hnodup : (a.opens ++ s.welcome.held).Nodup := by
    refine List.nodup_append'.mpr ⟨hon, h.nodup, fun x hx hx' => ?_⟩
    exact Fds.not_heldBy_of_none (hfree x hx) ((h.welcome x).mp hx')
  obtain ⟨hn, hmem⟩ := held_of_perm (hm.held h.unwinds) hnodup
  obtain ⟨hqueue, hsockets⟩ := he.held_others hm h
  refine ⟨fun x => ?_, hn, hqueue, hsockets, h.unwinds.step hm⟩
  rw [hmem, he.held_welcome hm h, h.welcome]

/-! ## The steps of an environment thread -/

theorem EnvEffect.fds_eq {b : EnvAct} (he : EnvEffect P s i e e' b u) (hb : b.keepsFds = true) :
    u.fds = s.fds := by
  cases he with
  | hangup | addEpoll | addEpollFails | openMutex | leave | dropListener => cases hb
  | recv hr =>
    obtain ⟨c, conn, -, -, ⟨rest, -, rfl⟩ | ⟨-, -, rfl⟩⟩ := recvFrom_eq_some hr <;> rfl
  | send hr =>
    obtain ⟨c, conn, -, -, -, rfl⟩ := sendTo_eq_some hr
    rfl
  | _ => rfl

/-- What the thread does not have in common with the others stays. -/
theorem EnvEffect.held_other {b : EnvAct} (he : EnvEffect P s i e e' b u) (h : s.Held)
    (hi : s.envs i = some e) (hs : e.step P b = some e') (h' : Holder) (hq : h' ≠ .queue i)
    (hsock : h' ≠ .socket i) (hpage : h' ≠ .page i) (x : RawFd) :
    u.fds.HeldBy h' x ↔ s.fds.HeldBy h' x := by
  have hmine {y : RawFd} (hy : y ∈ e.sockets) : s.fds.HeldBy (.socket i) y := by
    rw [← h.sockets, socketsAt_eq hi]
    exact hy
  cases he with
  | hangup =>
    dsimp only
    split
    · rename_i hd
      rw [Fds.heldBy_closeNumbers, Finset.mem_singleton]
      refine ⟨And.left, fun hx => ⟨hx, ?_⟩⟩
      rintro rfl
      exact hsock (hx.unique (hmine hd))
    · rfl
  | @addEpoll listener =>
    cases Env.step_moves hs with
    | addEpoll _ hpc =>
      have hl : s.fds.HeldBy (.queue i) listener := by
        rw [← h.queue, waitingAt_eq hi, Env.waiting, hpc]
        exact List.mem_cons_self
      rw [Fds.heldBy_pass hl]
      refine ⟨fun hx => (hx.resolve_left fun hx => hsock hx.2).2, fun hx => .inr ⟨?_, hx⟩⟩
      rintro rfl
      exact hq (hx.unique hl)
  | addEpollFails =>
    rw [Fds.heldBy_closeHeld]
    exact ⟨And.left, fun hx => ⟨hx, fun hx => hq hx.2⟩⟩
  | openMutex ha => exact Fds.heldBy_addPages ha hpage
  | leave =>
    rw [Fds.heldBy_closeNumbers, Fds.heldBy_closeAll]
    refine ⟨fun hx => hx.1.1, fun hx => ⟨⟨hx, hpage⟩, fun hd => ?_⟩⟩
    exact hsock (hx.unique (hmine hd))
  | dropListener =>
    rw [Fds.heldBy_closeAll]
    exact ⟨And.left, fun hx => ⟨hx, hq⟩⟩
  | recv hr =>
    obtain ⟨c, conn, -, -, ⟨rest, -, rfl⟩ | ⟨-, -, rfl⟩⟩ := recvFrom_eq_some hr <;> rfl
  | send hr =>
    obtain ⟨c, conn, -, -, -, rfl⟩ := sendTo_eq_some hr
    rfl
  | _ => rfl

end Daemon

/-- A step that leaves the table alone keeps what the environment holds. -/
theorem Env.Moves.kept {P : Externals} {e e' : Env} {b : EnvAct} (hm : Moves P e b e')
    (hb : b.keepsFds = true) : e'.waiting = e.waiting ∧ e'.sockets = e.sockets := by
  have same {pc : EnvPc} (hpc : e.pc = pc) (ht : e'.pc.taken = pc.taken)
      (hq : e'.addListener.queue = e.addListener.queue) : e'.waiting = e.waiting := by
    rw [waiting, waiting, ht, hq, hpc]
  cases hm with
  | sendError => exact ⟨rfl, rfl⟩
  | lastGone | oneGone | addEpoll | addEpollFails | openMutex | openMutexPanics | leave
  | dropListener => cases hb
  | @epollAdd left _ hpc =>
    refine ⟨same hpc ?_ rfl, rfl⟩
    dsimp only
    split <;> rfl
  | addTake _ hpc hq =>
    obtain ⟨rest, hq⟩ := Channel.tryRecv_eq_got.mp hq
    refine ⟨?_, rfl⟩
    simp [waiting, EnvPc.taken, hpc, Channel.rest, hq]
  | dropSync _ hpc =>
    refine ⟨same hpc ?_ rfl, rfl⟩
    dsimp only
    split <;> rfl
  | respond _ hpc => exact ⟨same hpc rfl rfl, rfl⟩
  | allocNew _ hpc | allocFails _ hpc | allocPanics _ hpc | epollNew _ hpc | epollNewFails _ hpc
  | epollAddFails _ hpc | wait _ hpc | waitFails _ hpc | batchOver _ hpc | addEvent _ hpc
  | dropEvent _ hpc | readable _ hpc | addRead _ hpc | addReadFails _ hpc | addEmpty _ hpc
  | addPanics _ hpc | respondFails _ hpc | dropRead _ hpc | dropReadFails _ hpc
  | recvFails _ hpc | recv _ hpc | recvMalformed _ hpc | recvUnanswered _ hpc | send _ hpc
  | sendFails _ hpc | closeSend _ hpc | closeWrite _ hpc => exact ⟨same hpc rfl rfl, rfl⟩

/-- While a socket is being registered no other is queued. -/
theorem Env.Attached.alone {e : Env} {c : Owner} {mark : ℕ} {listener : RawFd} {rest : List Event}
    (h : e.Attached c mark) (hpc : e.pc = .addEpoll listener rest) : e.addListener.queue = [] := by
  have hserver : (e.rendezvous c mark).server = .serving listener := by
    simp [Env.rendezvous, hpc, EnvPc.server]
  have hne : (e.rendezvous c mark).server ≠ .left := by simp [hserver]
  obtain ⟨a, ha⟩ := h.inv.waiting_of_busy hne (by simp [hserver])
  cases h.inv.owed_of ha hne with
  | serving _ _ hr => exact hr
  | pending _ hs =>
    rw [hserver] at hs
    rcases hs with hs | hs <;> cases hs
  | draining hs | served hs | answering hs | answered hs =>
    rw [hserver] at hs
    cases hs

namespace Daemon
variable {P : Externals} {s t u : Daemon} {envs : EnvId → Option Env} {i : EnvId} {e e' : Env}

/-- The thread's own sockets, in the table. -/
theorem EnvEffect.held_own {b : EnvAct} (he : EnvEffect P s i e e' b u) (h : s.Held)
    (hatt : ∃ c mark, e.Attached c mark)
    (hi : s.envs i = some e) (hs : e.step P b = some e') :
    (∀ x, x ∈ e'.waiting ↔ u.fds.HeldBy (.queue i) x) ∧
      ∀ x, x ∈ e'.sockets ↔ u.fds.HeldBy (.socket i) x := by
  have hw (x : RawFd) : x ∈ e.waiting ↔ s.fds.HeldBy (.queue i) x := by
    rw [← h.queue, waitingAt_eq hi]
  have hx (x : RawFd) : x ∈ e.sockets ↔ s.fds.HeldBy (.socket i) x := by
    rw [← h.sockets, socketsAt_eq hi]
  by_cases hb : b.keepsFds = true
  · obtain ⟨hw', hx'⟩ := (Env.step_moves hs).kept hb
    rw [he.fds_eq hb, hw', hx']
    exact ⟨hw, hx⟩
  -- a socket is removed from the `SocketSet`, if it is there
  have hgone {data : RawFd} (hwait : e'.waiting = e.waiting)
      (hsock : e'.sockets = e.sockets.erase data)
      (hf : u.fds = if data ∈ e.sockets then s.fds.closeNumbers {data} else s.fds) :
      (∀ x, x ∈ e'.waiting ↔ u.fds.HeldBy (.queue i) x) ∧
        ∀ x, x ∈ e'.sockets ↔ u.fds.HeldBy (.socket i) x := by
    rw [hwait, hsock, hf]
    split
    · rename_i hd
      refine ⟨fun x => ?_, fun x => ?_⟩
      · rw [Fds.heldBy_closeNumbers, Finset.mem_singleton, hw]
        refine ⟨fun hq => ⟨hq, ?_⟩, And.left⟩
        rintro rfl
        cases hq.unique ((hx x).mp hd)
      · rw [Fds.heldBy_closeNumbers, Finset.mem_singleton, Finset.mem_erase, hx, and_comm]
    · rename_i hd
      rw [Finset.erase_eq_of_notMem hd]
      exact ⟨hw, hx⟩
  cases Env.step_moves hs with
  | @lastGone data source rest _ hpc hempty =>
    cases he with
    | plain hp => cases hp
    | hangup =>
      refine hgone ?_ hempty.symm rfl
      simp [Env.waiting, hpc, EnvPc.taken]
  | @oneGone data source rest _ hpc =>
    cases he with
    | plain hp => cases hp
    | hangup =>
      refine hgone ?_ rfl rfl
      simp [Env.waiting, hpc, EnvPc.taken]
  | @addEpoll listener source rest _ hpc =>
    have halone : e.addListener.queue = [] := hatt.elim fun _ ⟨_, ha⟩ => ha.alone hpc
    have hwait : e.waiting = [listener] := by simp [Env.waiting, hpc, EnvPc.taken, halone]
    have hl : s.fds.HeldBy (.queue i) listener := by rw [← hw, hwait]; exact List.mem_cons_self
    cases he with
    | plain hp => cases hp
    | addEpoll =>
      refine ⟨fun x => ?_, fun x => ?_⟩
      · rw [Fds.heldBy_pass hl, ← hw, hwait, List.mem_singleton]
        simp [Env.waiting, EnvPc.taken, halone]
      · rw [Fds.heldBy_pass hl, ← hx, Finset.mem_insert]
        constructor
        · rintro (rfl | hmem)
          · exact .inl ⟨rfl, rfl⟩
          · refine .inr ⟨?_, hmem⟩
            rintro rfl
            cases hl.unique ((hx x).mp hmem)
        · exact fun h => h.imp And.left And.right
  | @addEpollFails listener errno rest _ hpc =>
    have halone : e.addListener.queue = [] := hatt.elim fun _ ⟨_, ha⟩ => ha.alone hpc
    have hwait : e.waiting = [listener] := by simp [Env.waiting, hpc, EnvPc.taken, halone]
    cases he with
    | plain hp => cases hp
    | addEpollFails =>
      refine ⟨fun x => ?_, fun x => ?_⟩
      · rw [Fds.heldBy_closeHeld, ← hw, hwait, List.mem_singleton]
        simp [Env.waiting, EnvPc.taken, halone]
      · rw [Fds.heldBy_closeHeld, ← hx]
        exact ⟨fun hmem => ⟨hmem, fun hq => nomatch hq.2⟩, And.left⟩
  | openMutex _ hpc | openMutexPanics _ hpc =>
    cases he with
    | plain hp => cases hp
    | openMutex ha =>
      refine ⟨fun x => ?_, fun x => ?_⟩
      · have hq := Fds.heldBy_addPages (h := .queue i) (y := x) ha nofun
        show _ ↔ Fds.HeldBy _ _ _
        rw [hq, ← hw]
        simp [Env.waiting, hpc, EnvPc.taken]
      · have hs := Fds.heldBy_addPages (h := .socket i) (y := x) ha nofun
        show _ ↔ Fds.HeldBy _ _ _
        rw [hs, ← hx]
  | @leave panics _ hpc =>
    have hsame (x : RawFd) : x ∈ Env.waiting { e with
        interest := [], sockets := ∅, shm := none, panicked := e.panicked || panics
        pc := .captures } ↔ x ∈ e.waiting := by
      simp [Env.waiting, hpc, EnvPc.taken]
    cases he with
    | plain hp => cases hp
    | leave =>
      refine ⟨fun x => ?_, fun x => ?_⟩
      · rw [Fds.heldBy_closeNumbers, Fds.heldBy_closeAll, ← hw, hsame]
        refine ⟨fun hq => ⟨⟨hq, nofun⟩, fun hd => ?_⟩, fun hq => hq.1.1⟩
        cases ((hw x).mp hq).unique ((hx x).mp hd)
      · rw [Fds.heldBy_closeNumbers, Fds.heldBy_closeAll, ← hx]
        exact ⟨nofun, fun hq => absurd hq.1.1 hq.2⟩
  | dropListener _ hpc =>
    cases he with
    | plain hp => cases hp
    | dropListener =>
      refine ⟨fun x => ?_, fun x => ?_⟩
      · rw [Fds.heldBy_closeAll]
        refine ⟨fun hq => ?_, fun hq => absurd rfl hq.2⟩
        simp only [Env.waiting, Channel.dropReceiver, List.append_nil] at hq
        split at hq <;> cases hq
      · rw [Fds.heldBy_closeAll, ← hx]
        exact ⟨fun hmem => ⟨hmem, nofun⟩, And.left⟩
  | _ => exact absurd rfl hb

theorem Held.env_step {b : EnvAct} (h : s.Held) (hatt : ∃ c mark, e.Attached c mark)
    (hi : s.envs i = some e) (hs : e.step P b = some e') (he : EnvEffect P s i e e' b u) :
    HeldOf u.fds s.welcome (Function.update s.envs i (some e')) := by
  obtain ⟨hqueue, hsockets⟩ := he.held_own h hatt hi hs
  refine ⟨fun x => ?_, h.nodup, fun j x => ?_, fun j x => ?_, h.unwinds⟩
  · rw [he.held_other h hi hs .welcome nofun nofun nofun]
    exact h.welcome x
  · rw [waitingAt_update]
    split
    · rename_i hj
      subst hj
      exact hqueue x
    · rename_i hj
      have hne : Holder.queue j ≠ .queue i := fun hq => hj (Holder.queue.inj hq)
      rw [he.held_other h hi hs (.queue j) hne nofun nofun]
      exact h.queue j x
  · rw [socketsAt_update]
    split
    · rename_i hj
      subst hj
      exact hsockets x
    · rename_i hj
      have hne : Holder.socket j ≠ .socket i := fun hq => hj (Holder.socket.inj hq)
      rw [he.held_other h hi hs (.socket j) nofun hne nofun]
      exact h.sockets j x

/-! ## The other parties -/

/-- The table changes for no owner. -/
theorem HeldOf.frame {f g : Fds} {w : Welcome} (h : HeldOf f w envs)
    (hg : ∀ h' x, h' ≠ .errors → (g.HeldBy h' x ↔ f.HeldBy h' x)) : HeldOf g w envs where
  welcome x := (h.welcome x).trans (hg .welcome x nofun).symm
  nodup := h.nodup
  queue i x := (h.queue i x).trans (hg (.queue i) x nofun).symm
  sockets i x := (h.sockets i x).trans (hg (.socket i) x nofun).symm
  unwinds := h.unwinds

theorem heldBy_dropError {err : DetailedError} (h' : Holder) (x : RawFd) (hne : h' ≠ .errors) :
    (s.dropError err).HeldBy h' x ↔ s.fds.HeldBy h' x := by
  unfold dropError
  split
  · rw [Fds.heldBy_closeHeld]
    exact ⟨And.left, fun hx => ⟨hx, fun hd => hne hd.2⟩⟩
  · rfl

/-- With `error_rx` only the sockets of errors go. -/
theorem heldBy_exit {k : Exit} (h' : Holder) (x : RawFd) (hne : h' ≠ .errors) :
    (s.exit k).fds.HeldBy h' x ↔ s.fds.HeldBy h' x := by
  simp only [exit, Fds.heldBy_closeAll, ne_eq, hne, not_false_eq_true, and_true]

theorem Held.main {a : MainAct} (h : s.Held) (hinst : s.Instances) (hm : MainMoves s a t) : t.Held := by
  cases hm with
  | @recv _ err => exact h.frame (g := s.dropError err) heldBy_dropError
  | recvShutdown => exact h.frame (g := s.dropError .shutdownSignal) heldBy_dropError
  | recvReload => exact h.frame (g := s.dropError .reloadRequest) heldBy_dropError
  | drain => exact h.frame heldBy_dropError
  | fails | joinExits | success => exact h.frame heldBy_exit
  | listen hmain =>
    -- the thread of the last incarnation has ended with nothing in hand
    obtain ⟨hpc, ho, -⟩ := hinst.keeper.alone (by rw [hmain]; rfl)
    have hnone : s.welcome.held = [] := by
      rw [Welcome.held_eq ho, hpc]
      rfl
    refine ⟨fun x => ?_, .nil, h.queue, h.sockets, Welcome.unwinds_new⟩
    rw [← h.welcome, hnone]
    rfl
  | _ => exact h

theorem Held.signal {sig : Signal} {thread : Thread} {interrupts : Bool} (h : s.Held)
    (hm : SignalMoves s sig thread interrupts t) : t.Held := by
  obtain ⟨shutdown, reload, terminated, reloaded, hshape⟩ := s.handler_shape sig
  cases hm with
  | handled =>
    rw [hshape]
    exact h
  | poll =>
    rw [hshape]
    exact ⟨h.welcome, h.nodup, h.queue, h.sockets, h.unwinds⟩
  | @wait i e hi =>
    rw [hshape]
    have hw : waitingAt (Function.update s.envs i (some { e with interrupted := true })) =
        waitingAt s.envs :=
      waitingAt_same hi rfl
    have hs : socketsAt (Function.update s.envs i (some { e with interrupted := true })) =
        socketsAt s.envs :=
      socketsAt_same hi rfl
    refine ⟨h.welcome, h.nodup, fun j x => ?_, fun j x => ?_, h.unwinds⟩
    · exact (congrFun hw j ▸ h.queue j x :)
    · exact (congrFun hs j ▸ h.sockets j x :)

/-- A step keeps the table and its owners in agreement. -/
theorem Held.step {a : Act} (h : s.Held) (hinst : s.Instances) (hs : s.step P a = some t) : t.Held := by
  obtain ⟨-, hp⟩ := step_party hs
  cases hp with
  | main hm => exact h.main hinst hm
  | welcome hm he =>
    have hheld := h.welcome_step hm he
    exact hheld
  | env hi hmove he =>
    obtain ⟨-, hw, -, -⟩ := he.frame
    have hheld := h.env_step ⟨_, (hinst.sound _ _ hi).attached⟩ hi hmove he
    rw [← hw] at hheld
    exact hheld
  | client => exact h
  | signal _ hm => exact h.signal hm

/-- A run keeps the table and its owners in agreement. -/
theorem Held.run {ok : Daemon → Act → Prop} {as : List Act} (h : s.Held) (hinst : s.Instances)
    (hr : Run (Daemon.step P) ok s as t) : t.Held :=
  (hr.invariant (I := fun s => s.Held ∧ s.Instances)
    (fun _ _ _ _ hi hs => ⟨hi.1.step hi.2 hs, hi.2.step hs⟩) ⟨h, hinst⟩).1

end Daemon
end Garnd
