import Garnd.DaemonMoves
import Garnd.EnvironmentInvariant

/- The environments of the daemon as a registry of named instances: the welcome
   thread is the keeper, the environment threads are the instances, a close
   announcement is the name and the event. Every step of the daemon is a few steps
   of the registry (`Daemon.registry_step`), so what the registry keeps holds in
   every run (`Daemon.Instances`). -/
namespace Garnd
open Registry (Hand Ctl Phase)
open Relation (ReflTransGen)

/-! ## The keeper -/

/-- Where the welcome thread is as the keeper of the registry. `kept` is the instance
in hand as long as its drop has not begun, `call` says where the thread is with
`insert_socket`. -/
structure Stage where
  ctl : Ctl
  hand : Hand EnvId
  kept : Option EnvId
  torn : List EnvId
  call : EnvId → Owner

namespace Stage

/-- Nothing in hand. -/
def between (ctl : Ctl) (torn : List EnvId) : Stage := ⟨ctl, .none, none, torn, fun _ => .idle⟩

/-- In `insert_socket`. -/
def attaching (a : Attaching) (c : Owner) : Stage where
  ctl := .busy
  hand := if a.fresh then .fresh a.id else .none
  kept := if a.fresh then some a.id else none
  torn := []
  call i := if i = a.id then c else .idle

/-- In the drop of an `Environment`, or on the way to it. -/
def dropping (i : EnvId) (kept : Option EnvId) (ctl : Ctl) (torn : List EnvId) : Stage :=
  ⟨ctl, .dropping i, kept, torn, fun _ => .idle⟩

end Stage

def After.ctl : After → Ctl
  | .drain _ | .returning => .drain
  | .finish _ _ | .unwind _ => .busy
  | .teardown _ => .closed

theorem After.panics_ctl (k : After) : k.panics.ctl = k.ctl := by
  cases k <;> rfl

def After.torn : After → List EnvId
  | .teardown rest => rest
  | _ => []

/-- Where the thread is after the drop. -/
def After.stage : After → Stage
  | .drain _ | .returning => .between .drain []
  | .finish _ _ | .unwind _ => .between .idle []
  | .teardown rest => .between .closed rest

theorem After.stage_closed (k : After) : k.stage.ctl = .closed ↔ k.ctl = .closed := by
  cases k <;> simp [After.stage, After.ctl, Stage.between]

def WelcomePc.stage : WelcomePc → Stage
  | .createEvent | .ended => .between .closed []
  | .listen | .poll | .shutdownRead | .reloadRead | .send _ _ _ none _ | .close _ _ => .between .idle []
  | .closeRead _ => .between .due []
  | .drain _ => .between .drain []
  | .accept | .getsockopt _ | .recv _ | .dup _ _ | .envNew _ _ _ => .between .busy []
  | .insertSend a => .attaching a .idle
  | .insertWrite a => .attaching a (.writing a.passed)
  | .insertRecv a => .attaching a (.waiting a.passed)
  | .send _ _ _ (some i) _ => .dropping i (some i) .busy []
  | .dropWrite i k => .dropping i (some i) k.ctl k.torn
  | .dropFields i k | .join i k => .dropping i none k.ctl k.torn
  | .ret drained => .between (if drained then .drain else .idle) []
  | .teardown rest => .between .closed rest

@[simp] theorem WelcomePc.stage_dropWrite (i : EnvId) (k : After) :
    (WelcomePc.dropWrite i k).stage = .dropping i (some i) k.ctl k.torn := rfl

@[simp] theorem WelcomePc.stage_dropFields (i : EnvId) (k : After) :
    (WelcomePc.dropFields i k).stage = .dropping i none k.ctl k.torn := rfl

@[simp] theorem WelcomePc.stage_teardown (rest : List EnvId) :
    (WelcomePc.teardown rest).stage = .between .closed rest := rfl

/-- The request that is being attached. -/
def WelcomePc.attaching : WelcomePc → Option Attaching
  | .insertSend a | .insertWrite a | .insertRecv a => some a
  | _ => none

/-- Nothing is to be said about the position but its stage. -/
structure WelcomePc.Plain (pc : WelcomePc) : Prop where
  attaching : pc.attaching = none
  dropFields : ∀ i k, pc ≠ .dropFields i k
  envNew : ∀ fd passed name, pc ≠ .envNew fd passed name
  createEvent : pc ≠ .createEvent

namespace Welcome
variable {w : Welcome}

theorem closing_shape (w : Welcome) (fds : List RawFd) (errors : List DetailedError) :
    ∃ pc outbox, w.closing fds errors = { w with pc := pc, outbox := outbox } ∧
      pc.stage = .between .idle [] ∧ pc.Plain := by
  unfold closing
  split
  · split
    · exact ⟨_, _, rfl, rfl, rfl, nofun, nofun, nofun⟩
    · exact ⟨_, _, rfl, rfl, rfl, nofun, nofun, nofun⟩
  · exact ⟨_, _, rfl, rfl, rfl, nofun, nofun, nofun⟩

theorem onWelcome_shape (w : Welcome) (r : Revents) :
    ∃ pc outbox ctl, w.onWelcome r = { w with pc := pc, outbox := outbox } ∧
      (ctl = .idle ∨ ctl = .busy) ∧ pc.stage = .between ctl [] ∧ pc.Plain := by
  unfold onWelcome
  split
  · exact ⟨_, _, _, rfl, .inl rfl, rfl, rfl, nofun, nofun, nofun⟩
  · split
    · exact ⟨_, _, _, rfl, .inl rfl, rfl, rfl, nofun, nofun, nofun⟩
    · exact ⟨_, _, _, rfl, .inr rfl, rfl, rfl, nofun, nofun, nofun⟩

/-- After a `poll` the thread stays between rounds, looks at the announcements, or
starts a request where none were reported. -/
theorem onPoll_shape (w : Welcome) (r : PollResult) :
    ∃ pc outbox ctl, w.onPoll r = { w with pc := pc, outbox := outbox } ∧
      (ctl = .idle ∨ ctl = .due ∨ ctl = .busy ∧ r.closeEnv.any = false) ∧
      pc.stage = .between ctl [] ∧ pc.Plain := by
  unfold onPoll
  split
  · exact ⟨_, _, _, rfl, .inl rfl, rfl, rfl, nofun, nofun, nofun⟩
  · split
    · exact ⟨_, _, _, rfl, .inl rfl, rfl, rfl, nofun, nofun, nofun⟩
    · split
      · exact ⟨_, _, _, rfl, .inr (.inl rfl), rfl, rfl, nofun, nofun, nofun⟩
      · rename_i hc
        obtain ⟨pc, outbox, ctl, hw, hctl, hs, hp⟩ := w.onWelcome_shape r.welcome
        refine ⟨pc, outbox, ctl, hw, ?_, hs, hp⟩
        rcases hctl with rfl | rfl
        · exact .inl rfl
        · exact .inr (.inr ⟨rfl, by simpa using hc⟩)

theorem resume_shape (w : Welcome) (k : After) :
    ∃ pc outbox, w.resume k = { w with pc := pc, outbox := outbox } ∧ pc.stage = k.stage ∧
      pc.Plain := by
  cases k with
  | drain r => exact ⟨_, _, rfl, rfl, rfl, nofun, nofun, nofun⟩
  | finish fds errors => exact w.closing_shape fds errors
  | returning => exact ⟨_, _, rfl, rfl, rfl, nofun, nofun, nofun⟩
  | unwind fds => exact w.closing_shape fds []
  | teardown rest => exact ⟨_, _, rfl, rfl, rfl, nofun, nofun, nofun⟩

/-- A thread that unwinds goes on unwinding. -/
theorem Moves.panicking {P : Externals} {w' : Welcome} {a : WelcomeAct} (hm : Moves P w a w')
    (h : w.panicking = true) : w'.panicking = true := by
  cases hm with
  | poll =>
    obtain ⟨pc, outbox, ctl, hw, -⟩ := w.onPoll_shape _
    rw [hw]
    exact h
  | drainEmpty =>
    obtain ⟨pc, outbox, ctl, hw, -⟩ := w.onWelcome_shape _
    rw [hw]
    exact h
  | root | getsockoptFails | recvFails | recvUnanswered | send | close =>
    obtain ⟨pc, outbox, hw, -⟩ := w.closing_shape _ _
    rw [hw]
    exact h
  | @inserted a serializes => cases serializes <;> exact h
  | @join i k =>
    obtain ⟨pc, outbox, hw, -⟩ := w.resume_shape k
    rw [hw]
    exact h
  | dropWritePanics _ _ hp | joinPanics _ _ hp =>
    rw [hp] at h
    cases h
  | _ => exact h

/-- Where the thread is when `insert_socket` has failed. -/
theorem failInsert_stage (a : Attaching) (err : DetailedError) :
    (w.failInsert a err).pc.stage =
      if a.fresh then .dropping a.id (some a.id) .busy [] else .between .idle [] := by
  cases hf : a.fresh <;> simp [failInsert, fail, hf, WelcomePc.stage]

theorem failInsert_plain (a : Attaching) (err : DetailedError) : (w.failInsert a err).pc.Plain :=
  ⟨rfl, nofun, nofun, nofun⟩

/-- What the welcome thread is doing with its instance `i`. -/
def owner (w : Welcome) (i : EnvId) (e : Env) : Owner :=
  if e.addListener.senders = ∅ then .closed else w.pc.stage.call i

/-- The welcome thread owns the instance and has not begun to drop it. -/
def Keeps (w : Welcome) (i : EnvId) : Prop :=
  (∃ n, w.environments.lookup n = some i) ∨ w.pc.stage.kept = some i ∨ i ∈ w.pc.stage.torn

end Welcome

/-! ## The registry -/

/-- The labels of the welcome thread whose steps touch neither the announcements
nor the set of instances. -/
def WelcomeAct.aside : WelcomeAct → Bool
  | .createEvent (.ok ()) | .closeRead _ | .tryRecv (.got _) | .envNew (.ok _) | .dropLocals => false
  | _ => true

/-- The labels of the welcome thread whose steps touch no instance. -/
def WelcomeAct.handsOff : WelcomeAct → Bool
  | .envNew (.ok _) | .insertSend true | .insertWrite true | .insertRecv _ _ | .dropWrite true
  | .dropFields => false
  | _ => true

/-- `main` sets an incarnation up or is done with one: there is no welcome thread. -/
def MainPc.alone : MainPc → Bool
  | .start | .notifyStarting | .checkPrivileges | .setupSocket | .setupEvents | .listen
  | .drain _ => true
  | _ => false

namespace Daemon

/-- The registry in the parts of the daemon it is made of. -/
def registryOf (envs : EnvId → Option Env) (w : Welcome) (chan : Channel Thread (String × EnvId))
    (event : ℕ) : Registry.State String EnvId where
  phase i := ((envs i).map Env.phase).getD .absent
  name i := ((envs i).map Env.name).getD ""
  bound n := w.environments.lookup n
  hand := w.pc.stage.hand
  torn := w.pc.stage.torn
  queue := chan.queue
  event := event
  ctl := if chan.receiver then w.pc.stage.ctl else .closed
  forgot := w.forgot

def registry (s : Daemon) : Registry.State String EnvId :=
  registryOf s.envs s.welcome s.closeChan s.closeEvent

/-- The owner has its ends of the channels of instance `i`. -/
def HeldOpen (envs : EnvId → Option Env) (i : EnvId) : Prop :=
  ∀ e, envs i = some e → e.addListener.senders ≠ ∅

/-- Where the welcome thread can be with what it knows. -/
structure KeeperOf (main : MainPc) (envs : EnvId → Option Env) (w : Welcome)
    (chan : Channel Thread (String × EnvId)) : Prop where
  opened : w.pc.stage.ctl ≠ .closed → chan.receiver = true ∨ w.pc = .ret false
  shut : w.pc.stage.ctl = .closed → chan.receiver = false
  sender : chan.receiver = true → .welcome ∈ chan.senders
  alone : main.alone = true → w.pc = .ended ∧ w.outbox = [] ∧ w.forgot = false
  forgets : w.forgot = true → w.panicking = true
  fresh : w.pc = .createEvent → w.forgot = false
  vacant : ∀ fd passed name, w.pc = .envNew fd passed name → w.environments.lookup name = none
  target : ∀ a, w.pc.attaching = some a →
    (∃ e, envs a.id = some e ∧ e.name = a.name) ∧
      (a.fresh = false → w.environments.lookup a.name = some a.id)
  unclosed : ∀ i k, w.pc = .dropFields i k → HeldOpen envs i

abbrev Keeper (s : Daemon) : Prop := KeeperOf s.main s.envs s.welcome s.closeChan

/-- What holds of an instance by itself and with its owner. -/
structure Sound (w : Welcome) (i : EnvId) (e : Env) : Prop where
  loc : e.Local
  mutexes : e.Mutexes
  attached : ∃ mark, e.Attached (w.owner i e) mark

structure EnvsOf (envs : EnvId → Option Env) (w : Welcome) : Prop where
  sound : ∀ i e, envs i = some e → Sound w i e
  kept : ∀ i e, envs i = some e → w.Keeps i → e.Kept ∧ e.addListener.senders ≠ ∅
  served : ∀ n i e, w.environments.lookup n = some i → envs i = some e → e.added ≠ []

/-- The invariant of the environments. -/
structure Instances (s : Daemon) : Prop extends EnvsOf s.envs s.welcome where
  registry : Registry.Inv s.registry
  keeper : s.Keeper

variable {P : Externals} {s t : Daemon}

/-! ## What a step changes in the registry -/

section
variable {envs : EnvId → Option Env} {w w' : Welcome} {chan : Channel Thread (String × EnvId)}
  {event : ℕ}

/-- An instance that keeps its phase changes nothing. -/
theorem registryOf_update {i : EnvId} {e : Env} (e' : Env) (hi : envs i = some e)
    (hp : e'.phase = e.phase) (hn : e'.name = e.name) :
    registryOf (Function.update envs i (some e')) w chan event = registryOf envs w chan event := by
  unfold registryOf
  congr 1 <;> funext j <;> by_cases hj : j = i
  · subst hj
    simp [hi, hp]
  · simp [hj]
  · subst hj
    simp [hi, hn]
  · simp [hj]

/-- The welcome thread takes another stage. -/
theorem registryOf_stage {st : Stage} (hst : w'.pc.stage = st)
    (he : w'.environments = w.environments) (hf : w'.forgot = w.forgot) :
    registryOf envs w' chan event =
      { registryOf envs w chan event with
        ctl := if chan.receiver then st.ctl else .closed, hand := st.hand, torn := st.torn } := by
  simp only [registryOf, hst, he, hf]

end

/-- A response that is taken changes nothing but the channel. -/
theorem answered_shape {e e' : Env} {r : Option (Except (Call × Errno) Unit)}
    (h : answered e r = some e') : e'.phase = e.phase ∧ e'.name = e.name := by
  unfold answered at h
  split at h <;> split at h <;> cases h <;> exact ⟨rfl, rfl⟩

theorem WelcomeEffect.registry_frame {a : WelcomeAct} {u : Daemon} (he : WelcomeEffect P s a u)
    (ha : a.aside = true) (w : Welcome) :
    registryOf u.envs w u.closeChan u.closeEvent =
      registryOf s.envs w s.closeChan s.closeEvent := by
  cases he with
  | createEvent | closeRead | tryRecv | envNew | dropLocals => cases ha
  | recv _ hr =>
    obtain ⟨c, conn, -, -, ⟨rest, -, rfl⟩ | ⟨-, -, rfl⟩⟩ := recvFrom_eq_some hr <;> rfl
  | send _ hr =>
    obtain ⟨c, conn, -, -, -, rfl⟩ := sendTo_eq_some hr
    rfl
  | insertSend _ hi hs =>
    obtain ⟨chan, -, rfl⟩ := Option.map_eq_some_iff.mp hs
    exact registryOf_update _ hi rfl rfl
  | insertWrite _ hi hs | dropWrite _ hi hs =>
    obtain ⟨count, -, rfl⟩ := Option.map_eq_some_iff.mp hs
    exact registryOf_update _ hi rfl rfl
  | insertRecv _ hi hs =>
    obtain ⟨hp, hn⟩ := answered_shape hs
    exact registryOf_update _ hi hp hn
  | dropFields _ hi => exact registryOf_update _ hi rfl rfl
  | _ => rfl

/-- The thread moves on without a word to the registry. -/
theorem registryOf_still {envs : EnvId → Option Env} {w w' : Welcome}
    {chan : Channel Thread (String × EnvId)} {event : ℕ} {st : Stage} (hst : w.pc.stage = st)
    (hst' : w'.pc.stage.ctl = st.ctl ∧ w'.pc.stage.hand = st.hand ∧ w'.pc.stage.torn = st.torn)
    (he : w'.environments = w.environments) (hf : w'.forgot = w.forgot) :
    registryOf envs w' chan event = registryOf envs w chan event := by
  obtain ⟨hc, hh, ht⟩ := hst'
  simp only [registryOf, he, hf, hc, hh, ht, hst]

/-- The registry's keeper is where the welcome thread is. -/
theorem registry_at (st : Stage) (hst : s.welcome.pc.stage = st) (hrx : s.closeChan.receiver = true) :
    s.registry.ctl = st.ctl ∧ s.registry.hand = st.hand ∧ s.registry.torn = st.torn := by
  simp only [registry, registryOf, hst, hrx, if_true, and_self]

/-- The same once the receiver is gone. -/
theorem registry_shut (st : Stage) (hst : s.welcome.pc.stage = st)
    (hrx : s.closeChan.receiver = false) :
    s.registry.ctl = .closed ∧ s.registry.hand = st.hand ∧ s.registry.torn = st.torn := by
  simp [registry, registryOf, hst, hrx]

/-- Between two rounds, or in one, the thread goes from one stage to another. -/
theorem registryOf_between {w : Welcome} {c c' : Ctl}
    (hst : s.welcome.pc.stage = .between c []) (hst' : w.pc.stage = .between c' [])
    (he : w.environments = s.welcome.environments) (hf : w.forgot = s.welcome.forgot)
    (hrx : s.closeChan.receiver = true) :
    registryOf s.envs w s.closeChan s.closeEvent = { s.registry with ctl := c' } := by
  simp only [registryOf, registry, hst, hst', he, hf, hrx, if_true, Stage.between]

/-- A round ends with nothing in hand. -/
theorem registry_over {w : Welcome} (hst : s.welcome.pc.stage = .between .busy [])
    (hst' : w.pc.stage = .between .idle []) (he : w.environments = s.welcome.environments)
    (hf : w.forgot = s.welcome.forgot) (hrx : s.closeChan.receiver = true) :
    ReflTransGen Registry.Step s.registry (registryOf s.envs w s.closeChan s.closeEvent) := by
  obtain ⟨hc, hh, -⟩ := registry_at _ hst hrx
  rw [registryOf_between hst hst' he hf hrx]
  exact .single (.settle hc hh)

/-- `insert_socket` has failed: an instance that was made for it is to be dropped. -/
theorem registry_failInsert {a : Attaching} {c : Owner} {err : DetailedError}
    (hst : s.welcome.pc.stage = .attaching a c) (hrx : s.closeChan.receiver = true) :
    ReflTransGen Registry.Step s.registry
      (registryOf s.envs (s.welcome.failInsert a err) s.closeChan s.closeEvent) := by
  obtain ⟨hc, hh, ht⟩ := registry_at _ hst hrx
  rw [registryOf_stage (w := s.welcome) (s.welcome.failInsert_stage a err) rfl rfl, hrx]
  cases hfr : a.fresh with
  | false =>
    have hh : s.registry.hand = .none := by simp [hh, Stage.attaching, hfr]
    have heq := Registry.Step.settle hc hh
    simpa [registry, registryOf, hst, Stage.attaching, Stage.between, hfr] using
      ReflTransGen.single heq
  | true =>
    have hh : s.registry.hand = .fresh a.id := by simp [hh, Stage.attaching, hfr]
    have heq := Registry.Step.abandon hh
    simpa [registry, registryOf, hst, hrx, Stage.attaching, Stage.dropping, hfr] using
      ReflTransGen.single heq

/-- An instance that has ended is released. -/
theorem registry_release {w : Welcome} {i : EnvId} {k : After} {e : Env} (h : s.Keeper)
    (hst : s.welcome.pc.stage = .dropping i none k.ctl k.torn) (hst' : w.pc.stage = k.stage)
    (he : w.environments = s.welcome.environments) (hf : w.forgot = s.welcome.forgot)
    (hi : s.envs i = some e) (hend : e.pc = .ended)
    (hrx : k.ctl ≠ .closed → s.closeChan.receiver = true) :
    ReflTransGen Registry.Step s.registry (registryOf s.envs w s.closeChan s.closeEvent) := by
  have hp : s.registry.phase i = .gone e.announced true := by
    simp [registry, registryOf, hi, Env.phase, hend]
  have hhand : s.registry.hand = .dropping i := by
    simp [registry, registryOf, hst, Stage.dropping]
  have hstep := Registry.Step.release hhand hp
  have heq : registryOf s.envs w s.closeChan s.closeEvent =
      { s.registry with
        hand := .none, ctl := if s.registry.ctl = .busy then .idle else s.registry.ctl } := by
    have hshut := h.shut
    rw [hst] at hshut
    cases k with
    | drain r | returning | finish fds errors | unwind fds =>
      simp [registryOf, registry, hst, hst', he, hf, hrx (by rintro ⟨⟩), After.stage, After.ctl, After.torn,
        Stage.between, Stage.dropping]
    | teardown rest =>
      simp [registryOf, registry, hst, hst', he, hf, hshut rfl, After.stage, After.torn,
        Stage.between, Stage.dropping]
  rw [heq]
  exact .single hstep

/-- In its loop the thread holds the receiver of the announcements. -/
theorem KeeperOf.receiver {pc : WelcomePc} (h : s.Keeper) (hpc : s.welcome.pc = pc)
    (hc : pc.stage.ctl ≠ .closed) (hr : pc ≠ .ret false) : s.closeChan.receiver = true := by
  subst hpc
  exact (h.opened hc).resolve_right hr

/-- A bound instance that answered `Ok` has not gone without a word. -/
theorem Instances.loud {i : EnvId} {e : Env} {ended : Bool} (h : s.Instances)
    (hi : s.envs i = some e) (hk : s.welcome.Keeps i) (hadd : e.added ≠ []) :
    s.registry.phase i ≠ .gone false ended := by
  intro hp
  refine hadd ((h.kept i e hi hk).1.loud ended ?_)
  simpa [Daemon.registry, registryOf, hi] using hp

/-- The socket of an `insert_socket` that returned `Ok` was registered. -/
theorem Instances.inserted {at' : Attaching} {e e' : Env} (h : s.Instances)
    (hpc : s.welcome.pc = .insertRecv at') (hi : s.envs at'.id = some e)
    (ha : answered e (some (.ok ())) = some e') (hopen : e.addListener.senders ≠ ∅) :
    at'.passed ∈ e.added.map Prod.fst ∧ e' = e.insertRecv := by
  obtain ⟨mark, hatt⟩ := (h.sound _ _ hi).attached
  simp only [Welcome.owner, hopen, if_false, hpc, WelcomePc.stage, Stage.attaching, if_true] at hatt
  simp only [answered] at ha
  split at ha
  · rename_i hr
    cases ha
    rcases hatt.outcome hr with ⟨-, hadd⟩ | ⟨⟨err, herr⟩, -⟩
    · refine ⟨List.mem_of_mem_drop (i := mark) ?_, rfl⟩
      rw [hadd]
      exact List.mem_singleton_self _
    · cases herr
  · cases ha

theorem attaching_open {pc : WelcomePc} {a : Attaching} (h : pc.attaching = some a) :
    pc.stage.ctl ≠ .closed := by
  cases pc <;> simp_all [WelcomePc.attaching, WelcomePc.stage, Stage.attaching]

theorem attaching_kept {pc : WelcomePc} {a : Attaching}
    (h : pc.attaching = some a) : pc.stage.kept = if a.fresh then some a.id else none := by
  cases pc <;> simp_all [WelcomePc.attaching, WelcomePc.stage, Stage.attaching]

/-- The instance a request is attached to is not being dropped. -/
theorem KeeperOf.keeps {a : Attaching} (h : s.Keeper) (hpc : s.welcome.pc.attaching = some a) :
    s.welcome.Keeps a.id := by
  cases hf : a.fresh with
  | false => exact .inl ⟨a.name, (h.target a hpc).2 hf⟩
  | true => exact .inr (.inl (by rw [attaching_kept hpc, hf]; rfl))

/-- `insert_socket` has succeeded: an instance that was made for it is bound. -/
theorem registry_inserted {at' : Attaching} {serializes : Bool} {e e' : Env} (h : s.Instances)
    (hpc : s.welcome.pc = .insertRecv at') (hi : s.envs at'.id = some e)
    (ha : answered e (some (.ok ())) = some e') :
    ReflTransGen Registry.Step s.registry
      (registryOf s.envs (s.welcome.inserted at' serializes) s.closeChan s.closeEvent) := by
  have hatt : s.welcome.pc.attaching = some at' := by rw [hpc]; rfl
  have hst : s.welcome.pc.stage = .attaching at' (.waiting at'.passed) := by rw [hpc]; rfl
  have hst' : (s.welcome.inserted at' serializes).pc.stage = .between .idle [] := by
    cases serializes <;> rfl
  have hrx := h.keeper.receiver hpc nofun nofun
  have hkeep := h.keeper.keeps hatt
  obtain ⟨hc, hh, -⟩ := registry_at _ hst hrx
  cases hf : at'.fresh with
  | false =>
    have hh : s.registry.hand = .none := by simp [hh, Stage.attaching, hf]
    have hstep := Registry.Step.settle hc hh
    have heq : registryOf s.envs (s.welcome.inserted at' serializes) s.closeChan s.closeEvent =
        { s.registry with ctl := .idle } := by
      rw [registryOf_stage (w := s.welcome) hst' (by cases serializes <;> simp [Welcome.inserted, Welcome.fail, hf])
        (by cases serializes <;> rfl)]
      simp [registry, registryOf, hst, hrx, hf, Stage.attaching, Stage.between]
    rw [heq]
    exact .single hstep
  | true =>
    obtain ⟨⟨e₀, he₀, hname⟩, -⟩ := h.keeper.target at' hatt
    obtain rfl : e₀ = e := Option.some.inj (he₀.symm.trans hi)
    have hh : s.registry.hand = .fresh at'.id := by simp [hh, Stage.attaching, hf]
    have hadd : e₀.added ≠ [] := by
      intro hnil
      have := (h.inserted hpc hi ha (h.kept _ _ hi hkeep).2).1
      simp [hnil] at this
    have hstep := Registry.Step.bind hh (fun ended => h.loud hi hkeep hadd)
    have heq : registryOf s.envs (s.welcome.inserted at' serializes) s.closeChan s.closeEvent =
        { s.registry with
          bound := Function.update s.registry.bound (s.registry.name at'.id) (some at'.id)
          hand := .none
          ctl := .idle } := by
      have henv : (s.welcome.inserted at' serializes).environments =
          s.welcome.environments.insert at'.name at'.id := by
        cases serializes <;> simp [Welcome.inserted, Welcome.fail, hf]
      have hforgot : (s.welcome.inserted at' serializes).forgot = s.welcome.forgot := by
        cases serializes <;> rfl
      simp only [registryOf, registry, henv, hforgot, hst', hst, hrx, hi, Option.map_some,
        Option.getD_some, hname, if_true, Stage.between, Stage.attaching,
        Registry.State.mk.injEq, and_true, true_and]
      funext n
      by_cases hn : n = at'.name
      · subst hn
        simp [AList.lookup_insert]
      · simp [AList.lookup_insert_ne hn, hn]
    rw [heq]
    exact .single hstep

/-- A drop that panics takes the thread to the same stage, unless it belongs to the
drop of the map. -/
theorem panics_stage {k : After} (h : k.isTeardown = false) :
    k.panics.stage = k.stage ∧ k.panics.ctl = k.ctl ∧ k.panics.torn = k.torn := by
  cases k <;> first | exact ⟨rfl, rfl, rfl⟩ | cases h

theorem registry_aside {a : WelcomeAct} {w : Welcome} {u : Daemon} (h : s.Instances)
    (hm : Welcome.Moves P s.welcome a w) (he : WelcomeEffect P s a u) (ha : a.aside = true) :
    ReflTransGen Registry.Step s.registry
      (registryOf s.envs w s.closeChan s.closeEvent) := by
  have hk := h.keeper
  -- the position is another one, its stage is the same
  have still {pc : WelcomePc} {w' : Welcome} (hpc : s.welcome.pc = pc)
      (hst : w'.pc.stage.ctl = pc.stage.ctl ∧ w'.pc.stage.hand = pc.stage.hand ∧
        w'.pc.stage.torn = pc.stage.torn)
      (henv : w'.environments = s.welcome.environments) (hf : w'.forgot = s.welcome.forgot) :
      ReflTransGen Registry.Step s.registry (registryOf s.envs w' s.closeChan s.closeEvent) := by
    rw [registryOf_still (congrArg WelcomePc.stage hpc) hst henv hf]
    exact .refl
  -- a request is over
  have ends {pc : WelcomePc} {w' : Welcome} (hpc : s.welcome.pc = pc)
      (hst : pc.stage = .between .busy []) (hst' : w'.pc.stage = .between .idle [])
      (henv : w'.environments = s.welcome.environments) (hf : w'.forgot = s.welcome.forgot) :
      ReflTransGen Registry.Step s.registry (registryOf s.envs w' s.closeChan s.closeEvent) :=
    registry_over (by rw [hpc, hst]) hst' henv hf
      (hk.receiver hpc (by rw [hst]; rintro ⟨⟩) (by rintro rfl; cases hst))
  cases hm with
  | sendError _ => exact still rfl ⟨rfl, rfl, rfl⟩ rfl rfl
  | accept _ hpc | listen _ hpc | listenFails _ hpc | pollFails _ hpc | shutdownRead _ hpc | reloadRead _ hpc
  | notRoot _ hpc | recv _ hpc | vacant _ hpc | insertSend _ hpc
  | insertWrite _ hpc | sendAbandon _ hpc | dropWrite _ hpc | dropFields _ hpc | ended _ hpc =>
    exact still hpc ⟨rfl, rfl, rfl⟩ rfl rfl
  | occupied _ hpc => exact still hpc ⟨rfl, rfl, rfl⟩ rfl rfl
  | drainDisconnected => exact still rfl ⟨rfl, rfl, rfl⟩ rfl rfl
  | createEventFails _ hpc =>
    have hrx := hk.shut (by rw [hpc]; rfl)
    refine (?_ : _ = s.registry) ▸ .refl
    simp [registryOf, registry, hpc, hrx, WelcomePc.stage, Stage.between]
  | poll _ hpc =>
    obtain ⟨pc, outbox, ctl, hw, hctl, hst, -⟩ := s.welcome.onPoll_shape _
    cases he with
    | plain hp => cases hp
    | poll _ hpoll =>
      have hrx := hk.receiver hpc (by rintro ⟨⟩) (by rintro ⟨⟩)
      obtain ⟨hc, hh, -⟩ := registry_at (.between .idle []) (by rw [hpc]; rfl) hrx
      rw [hw, registryOf_between (w := { s.welcome with pc := pc, outbox := outbox }) (c := .idle)
        (by rw [hpc]; rfl) hst rfl rfl hrx]
      rcases hctl with rfl | rfl | ⟨rfl, hnone⟩
      · have heq : { s.registry with ctl := .idle } = s.registry :=
          congrArg (fun c => { s.registry with ctl := c }) hc.symm
        exact heq ▸ .refl
      · exact .single (.look hc)
      · refine .single (.quiet hc ?_)
        simp only [pollable, Bool.and_eq_true, beq_iff_eq] at hpoll
        simp only [Revents.any, Bool.or_eq_false_iff] at hnone
        have := hpoll.1.1.2
        simpa [hnone.1, registry, registryOf] using this
  | drainEmpty _ hpc =>
    obtain ⟨pc, outbox, ctl, hw, hctl, hst, -⟩ := s.welcome.onWelcome_shape _
    cases he with
    | plain hp => cases hp
    | drainEmpty hq =>
      have hrx := hk.receiver hpc (by rintro ⟨⟩) (by rintro ⟨⟩)
      obtain ⟨hc, hh, -⟩ := registry_at (.between .drain []) (by rw [hpc]; rfl) hrx
      rw [hw, registryOf_between (w := { s.welcome with pc := pc, outbox := outbox }) (c := .drain)
        (by rw [hpc]; rfl) hst rfl rfl hrx]
      exact .single (.empty hc hh hq hctl)
  | acceptFails _ hpc | recvMalformed _ hpc | dupFails _ hpc | envNewFails _ hpc =>
    exact ends hpc rfl rfl rfl rfl
  | root _ hpc | getsockoptFails _ hpc | recvFails _ hpc | recvUnanswered _ hpc =>
    obtain ⟨pc, outbox, hw, hst, -⟩ := s.welcome.closing_shape _ _
    rw [hw]
    exact ends hpc rfl hst rfl rfl
  | insertSendFails _ hpc =>
    exact registry_failInsert (c := .idle) (by rw [hpc]; rfl) (hk.receiver hpc (by rintro ⟨⟩) (by rintro ⟨⟩))
  | @insertWriteFails at' _ hpc =>
    exact registry_failInsert (c := .writing at'.passed) (by rw [hpc]; rfl)
      (hk.receiver hpc (by rintro ⟨⟩) (by rintro ⟨⟩))
  | @refused at' _ _ _ _ hpc | @hungUp at' _ _ hpc =>
    exact registry_failInsert (c := .waiting at'.passed) (by rw [hpc]; rfl)
      (hk.receiver hpc (by rintro ⟨⟩) (by rintro ⟨⟩))
  | inserted _ hpc =>
    cases he with
    | plain hp => cases hp
    | insertRecv hpc' hi hans =>
      obtain rfl := WelcomePc.insertRecv.inj (hpc.symm.trans hpc')
      exact registry_inserted h hpc hi hans
  | send _ hpc | close _ hpc =>
    obtain ⟨pc, outbox, hw, hst, -⟩ := s.welcome.closing_shape _ _
    rw [hw]
    exact still hpc (by rw [hst]; exact ⟨rfl, rfl, rfl⟩) rfl rfl
  | @dropWritePanics i k _ hpc =>
    cases ht : k.isTeardown with
    | false =>
      obtain ⟨-, hc, htorn⟩ := panics_stage ht
      refine still hpc ⟨hc, rfl, htorn⟩ rfl ?_
      simp [Welcome.panic, ht]
    | true =>
      obtain ⟨rest, rfl⟩ := After.teardown_of ht
      have hrx := hk.shut (by rw [hpc]; rfl)
      obtain ⟨hc, -, -⟩ := registry_shut (.dropping i (some i) .closed rest)
        (by rw [hpc]; rfl) hrx
      have hstep := Registry.Step.forget hc
      simpa [registryOf, registry, hpc, hrx, Welcome.panic, Stage.dropping, After.panics, After.ctl,
        After.torn, After.isTeardown] using ReflTransGen.single hstep
  | join _ hpc =>
    cases he with
    | plain hp => cases hp
    | join hpc' hi hend =>
      obtain ⟨rfl, rfl⟩ := WelcomePc.join.inj (hpc.symm.trans hpc')
      obtain ⟨pc, outbox, hw, hst, -⟩ := s.welcome.resume_shape _
      rw [hw]
      exact registry_release hk (by rw [hpc]; rfl) hst rfl rfl hi hend
        (fun hc => hk.receiver hpc hc (by rintro ⟨⟩))
  | @joinPanics i k _ hpc =>
    cases he with
    | plain hp => cases hp
    | join hpc' hi hend =>
      obtain ⟨rfl, rfl⟩ := WelcomePc.join.inj (hpc.symm.trans hpc')
      obtain ⟨pc, outbox, hw, hst, -⟩ := (s.welcome.panic k).resume_shape k.panics
      rw [hw]
      cases ht : k.isTeardown with
      | false =>
        obtain ⟨hks, -, -⟩ := panics_stage ht
        exact registry_release hk (by rw [hpc]; rfl) (hst.trans hks) rfl (by simp [Welcome.panic, ht])
          hi hend (fun hc => hk.receiver hpc hc (by rintro ⟨⟩))
      | true =>
        obtain ⟨rest, rfl⟩ := After.teardown_of ht
        have hrx := hk.shut (by rw [hpc]; rfl)
        have hrel := registry_release (w := { s.welcome with pc := .teardown rest }) hk
          (by rw [hpc]; rfl) rfl rfl rfl hi hend (fun hc => absurd rfl hc)
        refine hrel.tail ?_
        have hstep := Registry.Step.forget
          (s := registryOf s.envs { s.welcome with pc := .teardown rest } s.closeChan s.closeEvent)
          (by simp [registryOf, hrx])
        simpa [registryOf, hst, hrx, Welcome.panic, Stage.between, After.panics, After.stage,
          After.isTeardown] using hstep
  | @teardown rest i _ hpc hi =>
    have hrx := hk.shut (by rw [hpc]; rfl)
    obtain ⟨hc, hh, htorn⟩ := registry_shut (.between .closed rest) (by rw [hpc]; rfl) hrx
    have hstep := Registry.Step.pick (j := i) hc hh (by rw [htorn]; exact hi)
    simpa [registryOf, registry, hpc, hrx, Stage.between, Stage.dropping, After.ctl,
      After.torn] using ReflTransGen.single hstep
  | createEvent | closeRead | drainBound | drainUnbound | envNew | dropLocals => cases ha

theorem registry_createEvent {w : Welcome} (h : s.Instances) (hpc : s.welcome.pc = .createEvent)
    (hst : w.pc.stage = .between .idle []) (he : w.environments = s.welcome.environments)
    (hf : w.forgot = s.welcome.forgot) :
    ReflTransGen Registry.Step s.registry (registryOf s.envs w (.new {.welcome}) 0) := by
  have hrx := h.keeper.shut (by rw [hpc]; rfl)
  have hs : s.welcome.pc.stage = .between .closed [] := by rw [hpc]; rfl
  obtain ⟨hc, hh, ht⟩ := registry_shut _ hs hrx
  have hq : s.closeChan.queue = [] := (h.registry.closed hc).2
  have hstep := Registry.Step.reopen hc hh ht (h.keeper.fresh hpc)
  simpa [registryOf, registry, hs, hst, he, hf, hq, Channel.new, Stage.between] using
    ReflTransGen.single hstep

theorem registry_closeRead {w : Welcome} {r : Revents} (h : s.Instances)
    (hpc : s.welcome.pc = .closeRead r) (hst : w.pc.stage = .between .drain [])
    (he : w.environments = s.welcome.environments) (hf : w.forgot = s.welcome.forgot) :
    ReflTransGen Registry.Step s.registry (registryOf s.envs w s.closeChan 0) := by
  have hrx := h.keeper.receiver hpc nofun nofun
  have hs : s.welcome.pc.stage = .between .due [] := by rw [hpc]; rfl
  obtain ⟨hc, -, -⟩ := registry_at _ hs hrx
  have hstep := Registry.Step.lower hc
  simpa [registryOf, registry, hs, hst, he, hf, hrx, Stage.between] using ReflTransGen.single hstep

/-- An announcement is taken, and what is bound to its name is dropped. -/
theorem registry_take {w : Welcome} {r : Revents} {name : String} {i j : EnvId}
    {rest : List (String × EnvId)} (h : s.Instances) (hpc : s.welcome.pc = .drain r)
    (hq : s.closeChan.queue = (name, j) :: rest)
    (hl : s.welcome.environments.lookup name = some i)
    (hst : w.pc.stage = .dropping i (some i) .drain [])
    (he : w.environments = s.welcome.environments.erase name) (hf : w.forgot = s.welcome.forgot) :
    ReflTransGen Registry.Step s.registry
      (registryOf s.envs w { s.closeChan with queue := rest } s.closeEvent) := by
  have hrx := h.keeper.receiver hpc nofun nofun
  have hs : s.welcome.pc.stage = .between .drain [] := by rw [hpc]; rfl
  obtain ⟨hc, hh, ht⟩ := registry_at _ hs hrx
  have hstep := Registry.Step.take hc hh hq hl
  have heq : registryOf s.envs w { s.closeChan with queue := rest } s.closeEvent =
      { s.registry with
        queue := rest
        bound := Function.update s.registry.bound name none
        hand := .dropping i } := by
    simp only [registryOf, registry, hs, hst, he, hf, hrx, if_true, Stage.between, Stage.dropping,
      Registry.State.mk.injEq, and_true, true_and]
    funext n
    by_cases hn : n = name
    · subst hn
      simp
    · simp [AList.lookup_erase_ne hn, hn]
  rw [heq]
  exact .single hstep

theorem registry_skip {r : Revents} {name : String} {j : EnvId} {rest : List (String × EnvId)}
    (h : s.Instances) (hpc : s.welcome.pc = .drain r)
    (hq : s.closeChan.queue = (name, j) :: rest)
    (hl : s.welcome.environments.lookup name = none) :
    ReflTransGen Registry.Step s.registry
      (registryOf s.envs s.welcome { s.closeChan with queue := rest } s.closeEvent) := by
  have hrx := h.keeper.receiver hpc nofun nofun
  have hs : s.welcome.pc.stage = .between .drain [] := by rw [hpc]; rfl
  obtain ⟨hc, hh, -⟩ := registry_at _ hs hrx
  exact .single (.skip hc hh hq hl)

/-- An instance is made for a name that is not bound. -/
theorem registry_envNew {w : Welcome} {fd passed : RawFd} {name : String} {i : EnvId}
    {chan : Channel Thread (String × EnvId)} (h : s.Instances)
    (hpc : s.welcome.pc = .envNew fd passed name) (hi : s.envs i = none)
    (hst : w.pc.stage = .attaching ⟨fd, passed, name, i, true⟩ .idle)
    (he : w.environments = s.welcome.environments) (hf : w.forgot = s.welcome.forgot)
    (hq : chan.queue = s.closeChan.queue) (hr : chan.receiver = s.closeChan.receiver) :
    ReflTransGen Registry.Step s.registry
      (registryOf (Function.update s.envs i (some (.new name i))) w chan s.closeEvent) := by
  have hrx := h.keeper.receiver hpc nofun nofun
  have hs : s.welcome.pc.stage = .between .busy [] := by rw [hpc]; rfl
  obtain ⟨hc, hh, -⟩ := registry_at _ hs hrx
  have hstep := Registry.Step.make (j := i) hc hh (h.keeper.vacant fd passed name hpc)
    (by simp [registry, registryOf, hi])
  have heq : registryOf (Function.update s.envs i (some (.new name i))) w chan s.closeEvent =
      { s.registry with
        phase := Function.update s.registry.phase i .running
        name := Function.update s.registry.name i name
        hand := .fresh i } := by
    simp only [registryOf, registry, hs, hst, he, hf, hq, hr, hrx, if_true, Stage.between,
      Stage.attaching, Registry.State.mk.injEq, and_true]
    refine ⟨?_, ?_⟩ <;> funext j <;> by_cases hj : j = i
    · subst hj
      simp [Env.phase, Env.new]
    · simp [hj]
    · subst hj
      simp [Env.new]
    · simp [hj]
  rw [heq]
  exact .single hstep

/-- The names of the instances that are torn down are those they are bound to. -/
theorem torn_names (h : s.Instances) :
    (s.welcome.environments.entries.map Sigma.snd).map s.registry.name =
      s.welcome.environments.keys := by
  rw [List.map_map]
  refine List.map_congr_left fun p hp => ?_
  obtain ⟨n, j⟩ := p
  have hl : s.welcome.environments.lookup n = some j := AList.mem_lookup_iff.mpr hp
  exact h.registry.named n j hl

/-- The return gives up the announcements and tears down what is bound. -/
theorem registry_dropLocals {w : Welcome} {drained : Bool} (h : s.Instances)
    (hpc : s.welcome.pc = .ret drained)
    (hst : w.pc.stage = .between .closed (s.welcome.environments.entries.map Sigma.snd))
    (he : w.environments = ∅) (hf : w.forgot = s.welcome.forgot)
    (chan : Channel Thread (String × EnvId)) (hq : chan.queue = []) (hr : chan.receiver = false) :
    ReflTransGen Registry.Step s.registry (registryOf s.envs w chan s.closeEvent) := by
  have hs : s.welcome.pc.stage = .between (if drained then .drain else .idle) [] := by rw [hpc]; rfl
  have hmem : ∀ j, j ∈ s.welcome.environments.entries.map Sigma.snd ↔
      ∃ n, s.registry.bound n = some j := by
    intro j
    simp only [List.mem_map, Sigma.exists, exists_eq_right]
    exact ⟨fun ⟨n, hn⟩ => ⟨n, AList.mem_lookup_iff.mpr hn⟩,
      fun ⟨n, hn⟩ => ⟨n, AList.mem_lookup_iff.mp hn⟩⟩
  cases hrx : s.closeChan.receiver with
  | true =>
    obtain ⟨hc, hh, -⟩ := registry_at _ hs hrx
    have hstep := @Registry.Step.close _ _ _ _ _ (s.welcome.environments.entries.map Sigma.snd)
      (by rw [hc]; cases drained <;> simp [Stage.between]) hh hmem
      (by rw [torn_names h]; exact s.welcome.environments.nodupKeys)
    simpa [registryOf, registry, hs, hst, he, hf, hq, hr, Stage.between] using
      ReflTransGen.single hstep
  | false =>
    -- the thread never came to its loop and has nothing
    obtain ⟨hc, hh, ht⟩ := registry_shut _ hs hrx
    obtain ⟨hb, hqs⟩ := h.registry.closed hc
    have hnil : s.welcome.environments.entries.map Sigma.snd = [] := by
      refine List.eq_nil_iff_forall_not_mem.mpr fun j hj => ?_
      obtain ⟨n, hn⟩ := (hmem j).mp hj
      rw [hb n] at hn
      cases hn
    have heq : registryOf s.envs w chan s.closeEvent = s.registry := by
      simp only [registryOf, registry, hs, hst, he, hf, hr, hrx, Stage.between, hnil,
        Registry.State.mk.injEq, and_true, true_and]
      refine ⟨?_, hq.trans hqs.symm, by simp⟩
      funext n
      exact (hb n).symm
    exact heq ▸ .refl

theorem registry_welcome {a : WelcomeAct} {w : Welcome} {u : Daemon} (h : s.Instances)
    (hm : Welcome.Moves P s.welcome a w) (he : WelcomeEffect P s a u) :
    ReflTransGen Registry.Step s.registry (registryOf u.envs w u.closeChan u.closeEvent) := by
  cases ha : a.aside with
  | true =>
    rw [he.registry_frame ha]
    exact registry_aside h hm he ha
  | false =>
    cases hm with
    | createEvent _ hpc =>
      cases he with
      | plain hp => cases hp
      | createEvent => exact registry_createEvent h hpc rfl rfl rfl
    | closeRead _ hpc =>
      cases he with
      | plain hp => cases hp
      | closeRead => exact registry_closeRead h hpc rfl rfl rfl
    | drainBound _ hpc hl =>
      cases he with
      | plain hp => cases hp
      | tryRecv hq => exact registry_take h hpc hq hl rfl rfl rfl
    | drainUnbound _ hpc hl =>
      cases he with
      | plain hp => cases hp
      | tryRecv hq => exact registry_skip h hpc hq hl
    | envNew _ hpc =>
      cases he with
      | plain hp => cases hp
      | envNew hpc' hi =>
        obtain ⟨rfl, rfl, rfl⟩ := WelcomePc.envNew.inj (hpc.symm.trans hpc')
        exact registry_envNew h hpc hi rfl rfl rfl rfl rfl
    | dropLocals _ hpc =>
      cases he with
      | plain hp => cases hp
      | dropLocals => refine registry_dropLocals h hpc ?_ rfl ?_ _ ?_ ?_ <;> rfl
    | _ => cases ha

/-! ## The environment threads as instances -/

/-- A thread that takes another phase. -/
theorem registryOf_phase {envs : EnvId → Option Env} {w : Welcome}
    {chan : Channel Thread (String × EnvId)} {event : ℕ} {i : EnvId} {e e' : Env} {p : Phase}
    (hi : envs i = some e) (hn : e'.name = e.name) (hp : e'.phase = p) :
    registryOf (Function.update envs i (some e')) w chan event =
      { registryOf envs w chan event with
        phase := Function.update (registryOf envs w chan event).phase i p } := by
  simp only [registryOf, Registry.State.mk.injEq, and_true]
  refine ⟨?_, ?_⟩ <;> funext j <;> by_cases hj : j = i
  · subst hj
    simp [hp]
  · simp [hj]
  · subst hj
    simp [hi, hn]
  · simp [hj]

/-- A silent step of a thread leaves the announcements alone. -/
theorem EnvEffect.silent {i : EnvId} {e e' : Env} {a : EnvAct} {u : Daemon}
    (he : EnvEffect P s i e e' a u) (ha : a.silent) :
    u.closeChan.queue = s.closeChan.queue ∧ u.closeChan.receiver = s.closeChan.receiver ∧
      u.closeEvent = s.closeEvent := by
  obtain ⟨ha, ha'⟩ := ha
  cases he with
  | closeSend | closeSendFails => exact absurd rfl (ha _)
  | closeWrite | closeWriteFails => exact absurd rfl (ha' _)
  | recv hr =>
    obtain ⟨c, conn, -, -, ⟨rest, -, rfl⟩ | ⟨-, -, rfl⟩⟩ := recvFrom_eq_some hr <;>
      exact ⟨rfl, rfl, rfl⟩
  | send hr =>
    obtain ⟨c, conn, -, -, -, rfl⟩ := sendTo_eq_some hr
    exact ⟨rfl, rfl, rfl⟩
  | dropSync | dropListener =>
    dsimp only
    unfold dropCaptures
    split <;> exact ⟨rfl, rfl, rfl⟩
  | _ => exact ⟨rfl, rfl, rfl⟩

/-- A bound instance does not go without a word. -/
theorem Instances.not_quits {i : EnvId} {e : Env} (h : s.Instances) (hi : s.envs i = some e)
    (hq : 0 < e.dropEvent ∨ e.added = []) : s.registry.bound (s.registry.name i) ≠ some i := by
  intro hb
  have hk := (h.kept i e hi (.inl ⟨_, hb⟩)).1
  rcases hq with hq | hq
  · rw [hk.undropped] at hq
    cases hq
  · exact h.served _ i e hb hi hq

theorem registry_env {i : EnvId} {e e' : Env} {a : EnvAct} {u : Daemon} (h : s.Instances)
    (hi : s.envs i = some e) (hs : e.step P a = some e') (he : EnvEffect P s i e e' a u) :
    ReflTransGen Registry.Step s.registry
      (registryOf (Function.update s.envs i (some e')) s.welcome u.closeChan u.closeEvent) := by
  obtain ⟨hl, hm, mark, hatt⟩ := h.sound i e hi
  have hn := Env.name_step hs
  have hphase : s.registry.phase i = e.phase := by simp [registry, registryOf, hi]
  -- where nothing is announced, the phase is all that changes
  have quiet (hsil : a.silent) {p : Phase} (hp : e'.phase = p) :
      registryOf (Function.update s.envs i (some e')) s.welcome u.closeChan u.closeEvent =
        { s.registry with phase := Function.update s.registry.phase i p } := by
    obtain ⟨hq, hr, hev⟩ := he.silent hsil
    rw [registryOf_phase hi hn hp]
    simp only [registry, registryOf, hq, hr, hev]
  cases Env.phase_step hl hm hatt hs with
  | same hsil hp =>
    rw [quiet hsil (hp.trans hphase.symm), Function.update_eq_self]
  | leaves hsil hp hp' =>
    rw [quiet hsil hp']
    exact .single (.leave (hphase.trans hp))
  | quits hsil hp hp' hq =>
    rw [quiet hsil hp']
    exact .single (.quit (hphase.trans hp) (h.not_quits hi hq))
  | ends hsil hp hp' =>
    rw [quiet hsil hp']
    exact .single (.finish (hphase.trans hp))
  | sends hp hp' =>
    rw [registryOf_phase hi hn hp']
    cases he with
    | plain hpl => cases hpl
    | closeSend hrx =>
      have hc : s.registry.ctl ≠ .closed := by
        intro hc
        have hshut := h.keeper.shut
        simp only [registry, registryOf, hrx, if_true] at hc
        rw [hshut hc] at hrx
        cases hrx
      have hstep := Registry.Step.send (hphase.trans hp) hc
      have hname : s.registry.name i = e.name := by simp [registry, registryOf, hi]
      rw [hname] at hstep
      exact .single hstep
    | closeSendFails hrx =>
      exact .single (.sendClosed (hphase.trans hp) (by simp [registry, registryOf, hrx]))
  | raises hp hp' =>
    rw [registryOf_phase hi hn hp']
    cases he with
    | plain hpl => cases hpl
    | closeWrite => exact .single (.raise (hphase.trans hp) (Nat.succ_pos _))
    | closeWriteFails hpos => exact .single (.raise (hphase.trans hp) hpos)

/-! ## What the keeper knows -/

theorem WelcomeEffect.main_eq {a : WelcomeAct} {u : Daemon} (he : WelcomeEffect P s a u) :
    u.main = s.main := by
  cases he with
  | recv _ hr =>
    obtain ⟨c, conn, -, -, ⟨rest, -, rfl⟩ | ⟨-, -, rfl⟩⟩ := recvFrom_eq_some hr <;> rfl
  | send _ hr =>
    obtain ⟨c, conn, -, -, -, rfl⟩ := sendTo_eq_some hr
    rfl
  | _ => rfl

theorem WelcomeEffect.chan_eq {a : WelcomeAct} {u : Daemon} (he : WelcomeEffect P s a u)
    (ha : a.aside = true) : u.closeChan = s.closeChan := by
  cases he with
  | createEvent | closeRead | tryRecv | envNew | dropLocals => cases ha
  | recv _ hr =>
    obtain ⟨c, conn, -, -, ⟨rest, -, rfl⟩ | ⟨-, -, rfl⟩⟩ := recvFrom_eq_some hr <;> rfl
  | send _ hr =>
    obtain ⟨c, conn, -, -, -, rfl⟩ := sendTo_eq_some hr
    rfl
  | _ => rfl

section
variable {main : MainPc} {envs envs' : EnvId → Option Env} {w w' : Welcome}
  {chan chan' : Channel Thread (String × EnvId)}

/-- The thread stays on its side of the loop. -/
theorem KeeperOf.same {pc pc' : WelcomePc} (h : KeeperOf main envs w chan) (hpc : w.pc = pc)
    (hpc' : w'.pc = pc') (hne : pc ≠ .ret false)
    (hctl : pc'.stage.ctl = .closed ↔ pc.stage.ctl = .closed)
    (hrx : chan'.receiver = chan.receiver) (hsend : .welcome ∈ chan.senders → .welcome ∈ chan'.senders)
    (hmain : main.alone = false) (hnew : pc' ≠ .createEvent)
    (hforg : w'.forgot = true → w'.panicking = true)
    (hvac : ∀ fd passed name, pc' = .envNew fd passed name → w'.environments.lookup name = none)
    (htarget : ∀ a, pc'.attaching = some a → (∃ e, envs' a.id = some e ∧ e.name = a.name) ∧
      (a.fresh = false → w'.environments.lookup a.name = some a.id))
    (hun : ∀ i k, pc' = .dropFields i k → HeldOpen envs' i) :
    KeeperOf main envs' w' chan' := by
  subst hpc
  subst hpc'
  exact {
    opened := fun hc => .inl (hrx.trans ((h.opened fun hc' => hc (hctl.mpr hc')).resolve_right hne))
    shut := fun hc => hrx.trans (h.shut (hctl.mp hc))
    sender := fun hr => hsend (h.sender (hrx.symm.trans hr))
    alone := fun ha => by rw [hmain] at ha; cases ha
    forgets := hforg
    fresh := fun hpc' => absurd hpc' hnew
    vacant := hvac
    target := htarget
    unclosed := hun }

/-- The same where there is nothing to say about the new position. -/
theorem KeeperOf.plain {pc pc' : WelcomePc} (h : KeeperOf main envs w chan) (hpc : w.pc = pc)
    (hpc' : w'.pc = pc') (hne : pc ≠ .ret false)
    (hctl : pc'.stage.ctl = .closed ↔ pc.stage.ctl = .closed)
    (hmain : main.alone = false) (hforg : w'.forgot = true → w'.panicking = true)
    (hpl : pc'.Plain) : KeeperOf main envs' w' chan :=
  h.same hpc hpc' hne hctl rfl id hmain hpl.createEvent hforg
    (fun fd passed name hp => absurd hp (hpl.envNew fd passed name))
    (fun a ha => by rw [hpl.attaching] at ha; cases ha)
    (fun i k hp => absurd hp (hpl.dropFields i k))

/-- From one position of the loop to another. -/
theorem KeeperOf.loop {pc pc' : WelcomePc} (h : KeeperOf main envs w chan) (hpc : w.pc = pc)
    (hpc' : w'.pc = pc') (hmain : main.alone = false) (hc : pc.stage.ctl ≠ .closed)
    (hne : pc ≠ .ret false) (hc' : pc'.stage.ctl ≠ .closed) (hpl : pc'.Plain)
    (hf : w'.forgot = w.forgot) (hp : w'.panicking = w.panicking) : KeeperOf main envs' w' chan :=
  h.plain hpc hpc' hne (iff_of_false hc' hc) hmain (by rw [hf, hp]; exact h.forgets) hpl

end

end Daemon
end Garnd
