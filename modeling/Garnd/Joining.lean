import Garnd.Staying

/- Whoever asks for an environment gets it. The welcome thread decides by its map, and the
   entry may be of an instance whose thread is just leaving, because its last client is
   gone: the socket is then passed to a thread that does not look at its channel any more,
   and the client is told `InternalError` (`Daemon.turned_away`). Where no socket is passed
   to a thread that has left its loop, and no thread leaves it with a socket in its channel
   (`Daemon.Welcoming`), every request of a client that stays connected is granted
   (`Daemon.everyone_joins`). -/
namespace Garnd
open Transition

/-- The name the thread is asked for, until the answer is settled. -/
def WelcomePc.asked : WelcomePc → Option String
  | .dup _ name | .envNew _ _ name => some name
  | .insertSend a | .insertWrite a | .insertRecv a => some a.name
  | _ => none

theorem WelcomePc.handling_of_asked {pc : WelcomePc} {name : String} (h : pc.asked = some name) :
    pc.handling = true := by
  cases pc <;> cases h <;> rfl

theorem WelcomePc.attaching_of_passing {pc : WelcomePc} {a : Attaching} (h : pc.passing = some a) :
    pc.attaching = some a := by
  cases pc <;> cases h <;> rfl

/-- A thread refuses what it is passed only where one of its calls fails. -/
theorem Env.not_refusing {P : Externals} {e e' : Env} {o : Owner} {mark : ℕ} {x : RawFd} {b : EnvAct}
    (hatt : e.Attached o mark) (ho : o = .writing x ∨ o = .waiting x) (hst : e.step P b = some e')
    (hcalls : b.fails = true → b.uses ≠ none) (hr : ¬e.Refusing) : ¬e'.Refusing := by
  rintro (⟨err, rest, hpc'⟩ | ⟨err, hq'⟩)
  · cases Env.step_moves hst with
    | sendError => exact hr (.inl ⟨err, rest, hpc'⟩)
    | addReadFails _ hpc hread =>
      -- a thread that reads the event finds it raised
      exact hatt.raised ho hpc hread
    | addEpollFails => exact hcalls rfl rfl
    | epollAdd | dropSync | dropListener =>
      dsimp only at hpc'
      split at hpc' <;> cases hpc'
    | _ => cases hpc'
  · cases Env.step_moves hst with
    | @respond result rest chan _ hpc hsend =>
      obtain ⟨-, rfl⟩ := Channel.send_eq_some.mp hsend
      obtain ⟨-, hone⟩ | ⟨-, hone⟩ := List.append_eq_singleton_iff.mp hq'
      · cases hone
        exact hr (.inl ⟨err, rest, hpc⟩)
      · cases hone
    | _ => exact hr (.inr ⟨err, hq'⟩)

namespace Daemon
variable {P : Externals} {s t u : Daemon} {i : EnvId} {e e' : Env} {a : Attaching} {c : ConnId}
  {name : String} {b : Act}

/-! ## The conditions -/

/-- No call fails but on the connection of a client that has hung up, the answer is
serialized, and no shutdown or reload has begun. -/
structure Flawless (s : Daemon) (b : Act) : Prop where
  calls : b.fails = true → ∃ x c, s.uses b = some x ∧ s.connAt x = some c ∧ HungUp s.conns c
  waits : WaitsSucceed s b
  serializes : ∀ r, b ≠ .welcome (.insertRecv r false)
  running : ¬HasTerminal s.history.sent

/-- No socket of a client that is connected is passed to a thread that has left its loop, or
is in the channel of a thread that leaves it for its last client's hang-up, and no thread that
has panicked is joined. -/
structure Welcoming (s : Daemon) (b : Act) : Prop where
  passes : ∀ sent a e c, b = .welcome (.insertSend sent) → s.welcome.pc = .insertSend a →
    s.envs a.id = some e → s.connAt a.fd = some c → e.pc.left = true → HungUp s.conns c
  leaves : ∀ i x d e y c, b = .env i (.dispatch (some (.conn x d true))) → s.envs i = some e →
    e.sockets.erase x = ∅ → y ∈ e.addListener.queue → s.connAt y = some c → HungUp s.conns c
  joins : CleanJoins s b

/-! ## The thread that is to answer -/

/-- The thread that is to answer for a client that is connected is in its loop, and does not
refuse. -/
def Attended (s : Daemon) : Prop :=
  ∀ a c, s.welcome.pc.passing = some a → s.connAt a.fd = some c → ¬HungUp s.conns c →
    ∃ e, s.envs a.id = some e ∧ e.pc.left = false ∧ ¬e.Refusing

/-- The thread stays in its loop by its own steps. -/
theorem Handed.attended {b : EnvAct} (h : s.Handed a c) (hset : s.Settled) (hstay : s.Staying)
    (hf : Flawless s (.env a.id b)) (hw : Welcoming s (.env a.id b))
    (hp : s.welcome.pc.passing = some a) (hup : ¬HungUp s.conns c) (hi : s.envs a.id = some e)
    (hst : e.step P b = some e') (hl : e.pc.left = false) (hr : ¬e.Refusing) :
    e'.pc.left = false ∧ ¬e'.Refusing := by
  obtain ⟨e₀, mark, hi₀, hatt, hfate⟩ := h.fate
  cases hi.symm.trans hi₀
  have hkeep := hset.instances.keeper.keeps (WelcomePc.attaching_of_passing hp)
  have hwait (errno : Errno) : b ≠ .wait (.error errno) := fun hb => hf.waits a.id errno (hb ▸ rfl)
  have hcalls (hb : b.fails = true) : b.uses ≠ none := by
    obtain ⟨x, c', hx, -⟩ := hf.calls hb
    rw [show b.uses = some x from hx]
    nofun
  refine ⟨?_, Env.not_refusing hatt (call_of_passing hp) hst hcalls hr⟩
  cases hl' : e'.pc.left with
  | false => rfl
  | true =>
    cases hfate with
    | waits hx =>
      rcases hset.instances.leaving hi hst hkeep hl hl' with
        ⟨data, source, rest, rfl, hpc, hempty⟩ | ⟨-, hb, hno⟩ | ⟨errno, hb⟩
      · have hmem : a.passed ∈ e.addListener.queue := by
          simpa [Env.waiting, hpc, EnvPc.taken] using hset.held.of_queue hi hx
        exact absurd (hw.leaves _ _ _ _ _ c rfl hi hempty hmem (connAt_eq hx)) hup
      · exact absurd hno (hcalls hb)
      · exact absurd hb (hwait errno)
    | @added before hadd =>
      obtain ⟨-, hown⟩ := hstay a.id e a.passed c hi hkeep (by simp [hadd]) hup
      have hin := (hset.stays hi hst hwait hkeep hl hown hup).1
      rw [hl'] at hin
      cases hin
    | closed _ _ hdone =>
      rcases hdone with hrx | href
      · rw [hatt.wired.threadRx hrx] at hl
        cases hl
      · exact absurd href hr

/-- A thread in its loop that nobody is attached to at the moment has no answer to give. -/
theorem Accounted.quiet_idle (h : s.Accounted) (hpc : s.welcome.pc = .insertSend a)
    (hi : s.envs a.id = some e) (hl : e.pc.left = false) : ¬e.Refusing := by
  have hopen := (h.instances.kept _ _ hi (h.instances.keeper.keeps (a := a) (by rw [hpc]; rfl))).2
  obtain ⟨mark, hatt⟩ := (h.instances.sound _ _ hi).attached
  simp only [Welcome.owner, hopen, if_false, hpc, WelcomePc.stage, Stage.attaching, if_true] at hatt
  have hserver : (e.rendezvous .idle mark).server ≠ .left := by
    intro hserver
    rw [EnvPc.left_of_server hserver] at hl
    cases hl
  obtain ⟨hrun, -, -, hresp⟩ := hatt.inv.live hserver
  rintro (⟨err, rest, hpc'⟩ | ⟨err, hq⟩)
  · simp only [Env.rendezvous, hpc', EnvPc.server] at hrun
    cases hrun
  · rw [show e.syncResponse.queue = [] from hresp] at hq
    cases hq

theorem Attended.step (h : s.Attended) (hset : s.Settled) (hatt : s.Attachments)
    (hstay : s.Staying) (hf : Flawless s b) (hw : Welcoming s b) (hs : s.step P b = some t) :
    t.Attended := by
  intro a c ha hc hup
  have hup₀ : ¬HungUp s.conns c := fun hh => hup (hungUp_kept hs hh)
  have before (hacc : ∀ x, b ≠ .welcome (.accept (.ok x)) ∧ b ≠ .welcome (.dup (.ok x))) :
      s.connAt a.fd = some c :=
    (connAt_before hs hc).resolve_right (by
      rintro (⟨heq, -⟩ | ⟨-, -, -, heq, -⟩)
      · exact (hacc a.fd).1 heq
      · exact (hacc a.fd).2 heq)
  by_cases hb : ∃ b', b = .welcome b'
  · obtain ⟨b', rfl⟩ := hb
    obtain ⟨w, hm, hw'⟩ : ∃ w, Welcome.Moves P s.welcome b' w ∧ t.welcome = w := by
      obtain ⟨-, hp⟩ := step_party hs
      cases hp with
      | welcome hm => exact ⟨_, hm, rfl⟩
    rw [hw'] at ha
    rcases hm.passing ha with ⟨rfl, hpc, -⟩ | ⟨rfl, hpc, -⟩ | ⟨err, rfl, hpc⟩
    · obtain ⟨-, hp⟩ := step_party hs
      cases hp with
      | welcome _ he =>
        cases he with
        | plain hp => cases hp
        | @insertSend _ e e' hpc₁ hi hsend =>
          cases hpc.symm.trans hpc₁
          have hl : e.pc.left = false := by
            by_contra hl
            have hconn := before fun x => ⟨nofun, nofun⟩
            exact hup₀ (hw.passes true a e c rfl hpc hi hconn (by simpa using hl))
          have hquiet := hset.toAccounted.quiet_idle hpc hi hl
          obtain ⟨chan, -, rfl⟩ := Option.map_eq_some_iff.mp hsend
          exact ⟨_, Function.update_self .., hl, hquiet⟩
    · have hconn := before fun x => ⟨nofun, nofun⟩
      obtain ⟨e, hi, hl, hquiet⟩ := h a c (by rw [hpc]; rfl) hconn hup₀
      obtain ⟨-, hp⟩ := step_party hs
      cases hp with
      | welcome _ he =>
        cases he with
        | plain hp => cases hp
        | insertWrite hpc₁ hi₁ hwrite =>
          cases hpc.symm.trans hpc₁
          cases hi.symm.trans hi₁
          obtain ⟨count, -, rfl⟩ := Option.map_eq_some_iff.mp hwrite
          exact ⟨_, Function.update_self .., hl, hquiet⟩
    · have hconn := before fun x => ⟨nofun, nofun⟩
      obtain ⟨e, hi, hl, hquiet⟩ := h a c (hpc ▸ ha) hconn hup₀
      obtain ⟨-, hp⟩ := step_party hs
      cases hp with
      | welcome _ he =>
        cases he with
        | plain hp => cases hp
        | sendError => exact ⟨e, hi, hl, hquiet⟩
  · have hb' : ∀ b', b ≠ .welcome b' := fun b' hb' => hb ⟨b', hb'⟩
    rcases welcome_other hs hb' with hpc | hpc
    · rw [hpc] at ha
      have hconn := before fun x => ⟨hb' _, hb' _⟩
      obtain ⟨e, hi, hl, hquiet⟩ := h a c ha hconn hup₀
      by_cases hown : ∃ b', b = .env a.id b'
      · obtain ⟨b', rfl⟩ := hown
        have hhanded := hatt.handed a c ha hconn
        obtain ⟨-, hp⟩ := step_party hs
        cases hp with
        | env hj hst =>
          cases hi.symm.trans hj
          have hkept := hhanded.attended hset hstay hf hw ha hup₀ hi hst hl hquiet
          exact ⟨_, Function.update_self .., hkept⟩
      · obtain ⟨interrupted, hi'⟩ := env_untouched hs hi hb' fun b' hb' => hown ⟨b', hb'⟩
        exact ⟨_, hi', hl, hquiet⟩
    · rw [hpc] at ha
      cases ha

end Daemon

/-! ## The refusals -/

/-- What leads to the internal-error response. -/
theorem Welcome.Moves.refuses {P : Externals} {w w' : Welcome} {a : WelcomeAct} {fd : RawFd}
    {errors : List DetailedError} {abandon : Option EnvId} {fds : List RawFd}
    (hm : Welcome.Moves P w a w') (hpc' : w'.pc = .send fd .internalError errors abandon fds) :
    (∃ err, a = .sendError err ∧ w'.pc = w.pc) ∨
      (a.fails = true ∧ ∀ s : Daemon, s.uses (.welcome a) = none) ∨
      (∃ at', w.pc = .insertSend at' ∧ fd = at'.fd ∧ a = .insertSend false) ∨
      ∃ at' r serializes, w.pc = .insertRecv at' ∧ fd = at'.fd ∧ a = .insertRecv r serializes ∧
        (r = some (.ok ()) → serializes = false) := by
  have aside (h : w'.pc.aside = true) : False := by
    rw [hpc'] at h
    cases h
  cases hm with
  | sendError => exact .inl ⟨_, rfl, rfl⟩
  | dupFails | envNewFails | insertWriteFails => exact .inr (.inl ⟨rfl, fun _ => rfl⟩)
  | insertSendFails _ hpc =>
    cases hpc'
    exact .inr (.inr (.inl ⟨_, hpc, rfl, rfl⟩))
  | refused _ hpc | hungUp _ hpc =>
    cases hpc'
    exact .inr (.inr (.inr ⟨_, _, _, hpc, rfl, rfl, nofun⟩))
  | @inserted at' serializes _ hpc =>
    cases serializes with
    | true => cases hpc'
    | false =>
      cases hpc'
      exact .inr (.inr (.inr ⟨_, _, _, hpc, rfl, rfl, fun _ => rfl⟩))
  | drainUnbound _ hpc | drainDisconnected _ hpc => cases hpc.symm.trans hpc'
  | poll => exact absurd onPoll_aside aside
  | drainEmpty => exact absurd onWelcome_aside aside
  | root | getsockoptFails | recvFails | recvUnanswered | send | close => exact absurd closing_aside aside
  | join | joinPanics => exact absurd resume_aside aside
  | _ => cases hpc'

namespace Daemon
variable {P : Externals} {s t u : Daemon} {i : EnvId} {e e' : Env} {a : Attaching} {c : ConnId}
  {name : String} {b : Act}

/-- The internal-error response is for nobody who is connected. -/
def Unrefused (s : Daemon) : Prop :=
  ∀ fd errors abandon fds c, s.welcome.pc = .send fd .internalError errors abandon fds →
    s.connAt fd = some c → HungUp s.conns c

theorem Unrefused.step (h : s.Unrefused) (hacc : s.Accounted) (hatt : s.Attended)
    (hf : Flawless s b) (hw : Welcoming s b) (hs : s.step P b = some t) : t.Unrefused := by
  intro fd errors abandon fds c hpc hc
  have before (hacc : ∀ x, b ≠ .welcome (.accept (.ok x)) ∧ b ≠ .welcome (.dup (.ok x))) :
      s.connAt fd = some c :=
    (connAt_before hs hc).resolve_right (by
      rintro (⟨heq, -⟩ | ⟨-, -, -, heq, -⟩)
      · exact (hacc fd).1 heq
      · exact (hacc fd).2 heq)
  by_cases hb : ∃ b', b = .welcome b'
  · obtain ⟨b', rfl⟩ := hb
    obtain ⟨-, hp⟩ := step_party hs
    cases hp with
    | @welcome _ w u hm he =>
      rcases hm.refuses hpc with ⟨err, rfl, hpc₀⟩ | ⟨hfails, hno⟩ | ⟨at', hpc₀, rfl, rfl⟩ |
        ⟨at', r, serializes, hpc₀, rfl, rfl, hr⟩
      · exact hungUp_kept hs (h fd errors abandon fds c (hpc₀ ▸ hpc) (before fun x => ⟨nofun, nofun⟩))
      · obtain ⟨x, c', hx, -⟩ := hf.calls hfails
        rw [hno s] at hx
        cases hx
      · -- the receiver is there as long as the thread is in its loop
        cases he with
        | plain hp => cases hp
        | insertSendFails hpc₁ hi hnone =>
          cases hpc₀.symm.trans hpc₁
          obtain ⟨mark, hatt⟩ := (hacc.instances.sound _ _ hi).attached
          have hconn := before fun x => ⟨nofun, nofun⟩
          have hgone := hw.passes false at' _ c rfl hpc₀ hi hconn (hatt.insertSend_none hnone)
          exact hungUp_kept hs hgone
      · by_contra hup
        have hconn := before fun x => ⟨nofun, nofun⟩
        have hup₀ : ¬HungUp s.conns c := fun hh => hup (hungUp_kept hs hh)
        obtain ⟨e, hi, hl, hquiet⟩ := hatt at' c (by rw [hpc₀]; rfl) hconn hup₀
        obtain ⟨mark, hwait⟩ := (hacc.instances.sound _ _ hi).attached
        cases he with
        | plain hp => cases hp
        | insertRecv hpc₁ hi₁ hans =>
          cases hpc₀.symm.trans hpc₁
          cases hi.symm.trans hi₁
          unfold answered at hans
          split at hans
          · exact hf.serializes _ (by rw [hr rfl])
          · split at hans
            · rename_i hgot
              obtain ⟨q, hq⟩ := Channel.tryRecv_eq_got.mp hgot
              have hone : e.syncResponse.queue.length ≤ 1 := hwait.inv.responses_le
              rw [hq] at hone
              obtain rfl : q = [] := List.length_eq_zero_iff.mp (by simpa using hone)
              exact hquiet (.inr ⟨_, hq⟩)
            · cases hans
          · split at hans
            · rename_i hdis
              rw [hwait.wired.thread (Channel.tryRecv_eq_disconnected.mp hdis).2] at hl
              cases hl
            · cases hans
  · have hb' : ∀ b', b ≠ .welcome b' := fun b' hb' => hb ⟨b', hb'⟩
    rcases welcome_other hs hb' with hpc₀ | hpc₀
    · exact hungUp_kept hs
        (h fd errors abandon fds c (hpc₀ ▸ hpc) (before fun x => ⟨hb' _, hb' _⟩))
    · cases hpc₀.symm.trans hpc

end Daemon

/-! ## The course of a request -/

/-- A request that is to be answered stays so, is granted, or is refused. -/
theorem Welcome.Moves.asked {P : Externals} {w w' : Welcome} {a : WelcomeAct} {name : String}
    (hm : Welcome.Moves P w a w') (hn : w.pc.asked = some name) :
    w'.pc.asked = some name ∨
      (∃ at' serializes, w.pc = .insertRecv at' ∧ a = .insertRecv (some (.ok ())) serializes ∧
        w' = w.inserted at' serializes) ∨
      ∃ fd errors abandon fds, w'.pc = .send fd .internalError errors abandon fds ∧
        w.pc.owes = some fd := by
  cases hm with
  | sendError => exact .inl hn
  | occupied _ hpc | vacant _ hpc | envNew _ hpc | insertSend _ hpc | insertWrite _ hpc =>
    rw [hpc] at hn
    exact .inl hn
  | dupFails _ hpc | envNewFails _ hpc | insertSendFails _ hpc | insertWriteFails _ hpc
  | refused _ hpc | hungUp _ hpc =>
    exact .inr (.inr ⟨_, _, _, _, rfl, by rw [hpc]; rfl⟩)
  | inserted _ hpc => exact .inr (.inl ⟨_, _, hpc, rfl, rfl⟩)
  | _ =>
    rw [‹w.pc = _›] at hn
    cases hn

namespace Daemon
variable {P : Externals} {s t u : Daemon} {i : EnvId} {e e' : Env} {a : Attaching} {c : ConnId}
  {name : String} {b : Act}

/-- The record gets a well-formed request when the welcome thread receives it. -/
theorem opened_step (hs : s.step P b = some t) (h : (c, name) ∈ t.history.opened) :
    (c, name) ∈ s.history.opened ∨ ∃ fd m serializes, b = .welcome (.recv (.ok m) serializes) ∧
      s.welcome.pc = .recv fd ∧ s.connAt fd = some c ∧ P.welcomeRequest m = .ok name := by
  obtain ⟨-, hp⟩ := step_party hs
  cases hp with
  | main hm => cases hm <;> exact .inl h
  | @welcome b w u hm he =>
    cases he with
    | @recv fd m serializes v hpc =>
      refine (List.mem_append.mp h).imp_right fun hnew => ?_
      unfold opening at hnew
      split at hnew
      · cases List.mem_singleton.mp hnew
        exact ⟨fd, m, serializes, rfl, hpc, ‹_›, ‹_›⟩
      · cases hnew
    | _ => exact .inl h
  | env _ _ he => cases he <;> exact .inl h
  | client => exact .inl h
  | @signal sig _ _ _ _ hm =>
    obtain ⟨shutdown, reload, terminated, reloaded, hshape⟩ := s.handler_shape sig
    cases hm <;> rw [hshape] at h <;> exact .inl h

/-- The client is attached to the instance that has the name. -/
def Joined (s : Daemon) (c : ConnId) (name : String) : Prop :=
  ∃ i, (c, i) ∈ s.history.attached ∧ s.welcome.environments.lookup name = some i

/-- How far the request of the client for the name is. -/
inductive Progress (s : Daemon) (c : ConnId) (name : String) : Prop
  | asked {l} : WelcomeHandling (.ok name) c s l → s.welcome.pc.asked = some name →
      Progress s c name
  | due {l fd} : WelcomeHandling (.ok name) c s l →
      s.welcome.pc = .send fd .openEnvironmentOk [] none [fd] → s.Joined c name → Progress s c name
  | granted : (c, .openEnvironmentOk) ∈ s.history.answers → s.Joined c name → Progress s c name

/-- Who has joined stays joined. -/
theorem Joined.step (h : s.Joined c name) (hstays : s.Stays) (hquiet : ¬HasTerminal s.history.sent)
    (hup : ¬HungUp s.conns c) (hs : s.step P b = some t) : t.Joined c name := by
  obtain ⟨i, hc, hn⟩ := h
  obtain ⟨-, e, x, hi, hl, -⟩ := hstays.hosts hc hn hup
  refine ⟨i, ?_, hstays.settled.instances.bound_kept hstays.announcing.told hquiet hs hi hl hn⟩
  rw [(recorded_step hs).1]
  exact List.mem_append_left _ hc

/-- `insert_socket` has returned `Ok`. -/
theorem Accounted.joined {serializes : Bool} (h : s.Accounted)
    (hs : s.step P (.welcome (.insertRecv (some (.ok ())) serializes)) = some t)
    (hpc : s.welcome.pc = .insertRecv a) (hw : t.welcome = s.welcome.inserted a serializes)
    (hc : s.connAt a.fd = some c) : t.Joined c a.name := by
  refine ⟨a.id, ?_, ?_⟩
  · rw [(recorded_step hs).1]
    exact List.mem_append_right _ (by simp [attaches, hpc, attaching, hc])
  · have henv : t.welcome.environments =
        if a.fresh then s.welcome.environments.insert a.name a.id else s.welcome.environments := by
      rw [hw]
      cases serializes <;> rfl
    rw [henv]
    split
    · exact AList.lookup_insert _
    · rename_i hf
      exact (h.instances.keeper.target a (by rw [hpc]; rfl)).2 (by simpa using hf)

theorem Progress.step (h : s.Progress c name) (hstays : s.Stays) (hf : Flawless s b)
    (hunref : t.Unrefused) (hs : s.step P b = some t) (hup : ¬HungUp t.conns c) :
    t.Progress c name := by
  have hup₀ : ¬HungUp s.conns c := fun hh => hup (hungUp_kept hs hh)
  have kept (hj : s.Joined c name) : t.Joined c name := hj.step hstays hf.running hup₀ hs
  have hinst := hstays.settled.instances
  cases h with
  | asked hcall hn =>
    have hh := WelcomePc.handling_of_asked hn
    have hcall' := hcall.step hh hs
    by_cases hb : ∃ b', b = .welcome b'
    · obtain ⟨b', rfl⟩ := hb
      obtain ⟨w, hm, hw⟩ : ∃ w, Welcome.Moves P s.welcome b' w ∧ t.welcome = w := by
        obtain ⟨-, hp⟩ := step_party hs
        cases hp with
        | welcome hm => exact ⟨_, hm, rfl⟩
      rcases hm.asked hn with hn' | ⟨at', serializes, hpc, rfl, rfl⟩ |
        ⟨fd, errors, abandon, fds, hpc', howes⟩
      · exact .asked hcall' (hw ▸ hn')
      · have hname : at'.name = name := by
          rw [hpc] at hn
          exact Option.some.inj hn
        have hjoined := hstays.settled.toAccounted.joined hs hpc hw (hcall.conn at'.fd (by rw [hpc]; rfl))
        cases serializes with
        | true => exact .due hcall' (by rw [hw]; rfl) (hname ▸ hjoined)
        | false => exact absurd rfl (hf.serializes _)
      · rw [← hw] at hpc'
        exact absurd (hunref _ _ _ _ c hpc' (hcall'.conn fd (by rw [hpc']; rfl))) hup
    · have hw := hinst.welcome_still hs (fun b' hb' => hb ⟨b', hb'⟩) hh
      exact .asked hcall' (hw ▸ hn)
  | @due l fd hcall hpc hj =>
    have hh : s.WelcomeHandles b := by
      rw [WelcomeHandles, hpc]
      rfl
    have hconn := hcall.conn fd (by rw [hpc]; rfl)
    by_cases hb : ∃ b', b = .welcome b'
    · obtain ⟨b', rfl⟩ := hb
      have hj' := kept hj
      have hanswers := (recorded_step hs).2
      obtain ⟨-, hp⟩ := step_party hs
      cases hp with
      | welcome hm =>
        cases hm with
        | sendError ho =>
          rw [hcall.handles.quiet hh] at ho
          cases ho
        | @send _ _ _ _ r =>
          cases r with
          | ok =>
            refine .granted ?_ hj'
            rw [hanswers]
            exact List.mem_append_right _ (by simp [replies, hpc, answering, hconn])
          | error errno =>
            obtain ⟨x, c', hx, hc', hgone⟩ := hf.calls rfl
            rw [uses, hpc] at hx
            cases hx
            cases hconn.symm.trans hc'
            exact absurd hgone hup₀
        | sendAbandon _ hpc' => cases hpc.symm.trans hpc'
        | _ => cases hpc.symm.trans ‹s.welcome.pc = _›
    · have hw := hinst.welcome_still hs (fun b' hb' => hb ⟨b', hb'⟩) hh
      exact .due (hcall.step hh hs) (hw ▸ hpc) (kept hj)
  | granted hans hj =>
    refine .granted ?_ (kept hj)
    rw [(recorded_step hs).2]
    exact List.mem_append_left _ hans

/-- A request that is received is to be answered. -/
theorem Accounted.asked {fd : RawFd} {m : Message} {serializes : Bool} (h : s.Accounted)
    (hs : s.step P (.welcome (.recv (.ok m) serializes)) = some t) (hpc : s.welcome.pc = .recv fd)
    (hc : s.connAt fd = some c) (hname : P.welcomeRequest m = .ok name) : t.Progress c name := by
  obtain ⟨-, fd', c', hpc', hc', hcall⟩ := h.welcome_received hs (fun err he => nomatch hname.symm.trans he)
  cases hpc.symm.trans hpc'
  cases hc.symm.trans hc'
  rw [hname] at hcall
  refine .asked hcall ?_
  obtain ⟨-, hp⟩ := step_party hs
  cases hp with
  | welcome hm =>
    cases hm with
    | recv _ _ hm =>
      cases hname.symm.trans hm
      rfl
    | recvMalformed _ _ hm | recvUnanswered _ _ hm => cases hname.symm.trans hm

/-! ## Every request is granted -/

/-- What runs without a flaw and with the condition keep. -/
structure Joins (s : Daemon) : Prop where
  stays : s.Stays
  attended : s.Attended
  unrefused : s.Unrefused
  never : ∀ c, (c, .internalError) ∈ s.history.answers → HungUp s.conns c
  progress : ∀ c name, (c, name) ∈ s.history.opened → ¬HungUp s.conns c → s.Progress c name

theorem joins_boot : boot.Joins := ⟨stays_boot, nofun, nofun, nofun, nofun⟩

theorem Joins.step (h : s.Joins) (hf : Flawless s b) (hw : Welcoming s b)
    (hs : s.step P b = some t) : t.Joins := by
  have hset := h.stays.settled
  have hstays := h.stays.step ⟨hf.waits, hw.joins⟩ hs
  have hunref := h.unrefused.step hset.toAccounted h.attended hf hw hs
  have hatt := h.attended.step hset h.stays.attachments h.stays.staying hf hw hs
  refine ⟨hstays, hatt, hunref, fun c hc => ?_, fun c name hopen hup => ?_⟩
  · rw [(recorded_step hs).2] at hc
    rcases List.mem_append.mp hc with hc | hc
    · exact hungUp_kept hs (h.never c hc)
    · unfold replies at hc
      split at hc
      · split at hc
        · rename_i fd response errors abandon fds hpc
          obtain ⟨c', hc', heq⟩ := List.mem_map.mp hc
          cases heq
          exact hungUp_kept hs (h.unrefused fd errors abandon fds c hpc (Option.mem_toList.mp hc'))
        · cases hc
      · cases hc
  · rcases opened_step hs hopen with hold | ⟨fd, m, serializes, rfl, hpc, hc, hname⟩
    · have hup₀ : ¬HungUp s.conns c := fun hh => hup (hungUp_kept hs hh)
      exact (h.progress c name hold hup₀).step h.stays hf hunref hs hup
    · exact hset.toAccounted.asked hs hpc hc hname

/-- The client is to be answered. The thread that the welcome thread waits for meanwhile is in
its loop, and its answer is queued, or its event raised, or it is serving it. -/
def Pending (s : Daemon) (c : ConnId) : Prop :=
  ∃ fd, s.welcome.pc.owes = some fd ∧ s.connAt fd = some c ∧
    ∀ a, s.welcome.pc = .insertRecv a → ∃ e, s.envs a.id = some e ∧ e.pc.left = false ∧
      (e.syncResponse.queue ≠ [] ∨ 0 < e.addEvent ∨ e.pc.adding = true)

/-- Whoever has asked for an environment and stays connected is to be answered, or was
answered `OpenEnvironmentOk` and its socket is in the `SocketSet` of the environment, whose
thread is in its loop. Nobody who stays connected was told `InternalError`. -/
structure Granting (s : Daemon) : Prop where
  answered : ∀ c name, (c, name) ∈ s.history.opened → ¬HungUp s.conns c →
    s.Pending c ∨ (c, .openEnvironmentOk) ∈ s.history.answers ∧ ∃ i, s.Hosts name i c
  unrefused : ∀ c, ¬HungUp s.conns c → (c, .internalError) ∉ s.history.answers

theorem Joins.granting (h : s.Joins) : s.Granting := by
  refine ⟨fun c name hopen hup => ?_, fun c hup hc => hup (h.never c hc)⟩
  cases h.progress c name hopen hup with
  | asked hcall hn =>
    obtain ⟨fd, hfd⟩ : ∃ fd, s.welcome.pc.owes = some fd := by
      cases hpc : s.welcome.pc <;> rw [hpc] at hn <;> first | exact ⟨_, rfl⟩ | cases hn
    refine .inl ⟨fd, hfd, hcall.conn fd hfd, fun a hpc => ?_⟩
    have hconn := hcall.conn a.fd (by rw [hpc]; rfl)
    obtain ⟨e, hi, hl, -⟩ := h.attended a c (by rw [hpc]; rfl) hconn hup
    obtain ⟨e', mark, hi', hatt, -⟩ := (h.stays.attachments.handed a c (by rw [hpc]; rfl) hconn).fate
    cases hi.symm.trans hi'
    have hwait : s.welcome.pc.stage.call a.id = .waiting a.passed := by
      rw [hpc]
      exact if_pos rfl
    rw [hwait] at hatt
    exact ⟨e, hi, hl, hatt.due hl⟩
  | @due l fd hcall hpc =>
    exact .inl ⟨fd, by rw [hpc]; rfl, hcall.conn fd (by rw [hpc]; rfl), fun a hpc' => nomatch hpc.symm.trans hpc'⟩
  | granted hans hj =>
    obtain ⟨i, hc, hn⟩ := hj
    exact .inr ⟨hans, i, h.stays.hosts hc hn hup⟩

/-- In every run in which no call fails and no shutdown or reload begins, no socket of a client
that is connected is passed to a thread that has left its loop, and none is in the channel of
a thread that leaves it, everyone who asks for an environment and stays connected is granted
it. -/
theorem everyone_joins {as : List Act}
    (hr : Run (Daemon.step P) (fun s b => Flawless s b ∧ Welcoming s b) boot as s) : s.Granting := by
  have h : s.Joins :=
    hr.invariant (I := Joins) (fun _ _ _ hok h hs => h.step hok.1 hok.2 hs) joins_boot
  exact h.granting

/-- Enough for `Flawless`: no call fails at all. -/
def flawless (s : Daemon) (b : Act) : Bool :=
  !b.fails && !decide (HasTerminal s.history.sent) && match b with
    | .env _ (.wait (.error _)) | .welcome (.insertRecv _ false) => false
    | _ => true

theorem flawless_of (h : s.flawless b = true) : Flawless s b := by
  simp only [flawless, Bool.and_eq_true, Bool.not_eq_true', decide_eq_false_iff_not] at h
  obtain ⟨⟨hfails, hrun⟩, hb⟩ := h
  refine ⟨fun hf => ?_, ?_, ?_, hrun⟩
  · rw [hfails] at hf
    cases hf
  · rintro i errno rfl
    cases hb
  · rintro r rfl
    cases hb

/-- Enough for `Welcoming`, whoever is connected. -/
def welcoming (s : Daemon) (b : Act) : Bool :=
  s.joinsClean b && match b with
    | .welcome (.insertSend _) =>
      match s.welcome.pc with
      | .insertSend a => (s.envs a.id).all fun e => !e.pc.left
      | _ => true
    | .env i (.dispatch (some (.conn x _ true))) =>
      (s.envs i).all fun e => !decide (e.sockets.erase x = ∅) || e.addListener.queue.isEmpty
    | _ => true

theorem welcoming_of (h : s.welcoming b = true) : Welcoming s b := by
  obtain ⟨hjoins, hb⟩ := Bool.and_eq_true_iff.mp h
  refine ⟨?_, ?_, cleanJoins_of hjoins⟩
  · rintro sent a e c rfl hpc hi - hl
    simp [hpc, hi, hl] at hb
  · rintro i x d e y c rfl hi hempty hy
    have hnone : e.addListener.queue = [] := by simpa [hi, hempty] using hb
    rw [hnone] at hy
    cases hy

/-- Client 1 is added to the instance in which client 0 has just closed: both events
are in one batch. -/
def joins : List Act :=
  [.client 1 (.connect 1001), .client 1 (.send [97]),
    .welcome (.poll (.ok ⟨.none, .none, .none, .readable⟩)), .welcome (.accept (.ok 0)),
    .welcome (.getsockopt (.ok 1001)), .welcome (.recv (.ok [97]) true), .welcome (.dup (.ok 2)),
    .welcome (.insertSend true), .welcome (.insertWrite true), .client 0 .close,
    .env 0 (.wait (.ok [.add, .conn 1 0 true])), .env 0 (.dispatch (some .add)), .env 0 .addRead,
    .env 0 (.addTryRecv (.got 2)), .env 0 (.addEpoll 2 (.ok 1)), .env 0 (.addTryRecv .empty),
    .env 0 .respond, .env 0 (.dispatch (some (.conn 1 0 true))), .env 0 (.dispatch none),
    .welcome (.insertRecv (some (.ok ())) true), .welcome (.send (.ok ())), .welcome (.close 0)]

theorem everyone_joins_together : ∃ s,
    Run (Daemon.step .oneLetter) (fun s b => Flawless s b ∧ Welcoming s b) boot
      (startUp ++ handsOver ++ adds ++ answers ++ joins) s ∧
    (1, "a") ∈ s.history.opened ∧ HungUp s.conns 0 ∧ ¬HungUp s.conns 1 ∧ s.Granting := by
  have hexec : (exec (Daemon.step .oneLetter) (fun s b => s.flawless b && s.welcoming b) boot
      (startUp ++ handsOver ++ adds ++ answers ++ joins)).any (fun s =>
        (1, "a") ∈ s.history.opened ∧ ((s.conns 0).any fun conn => conn.closed) ∧
          (s.conns 1).any fun conn => !conn.closed) := by decide
  have hok (s : Daemon) (b : Act) (h : (s.flawless b && s.welcoming b) = true) :
      Flawless s b ∧ Welcoming s b := (Bool.and_eq_true_iff.mp h).imp flawless_of welcoming_of
  obtain ⟨s, hr, hp⟩ := Run.of_exec_any hok hexec
  obtain ⟨hopen, hgone, hstays⟩ := of_decide_eq_true hp
  refine ⟨s, hr, hopen, (Option.any_eq_true ..).mp hgone, ?_, everyone_joins hr⟩
  rintro ⟨conn, hconn, hclosed⟩
  simp [hconn, hclosed] at hstays

/-- Client 0 closes, and its thread leaves the loop. Before it announces that, the welcome
thread finds the instance in its map and passes it the socket of client 1. -/
def meets : List Act :=
  [.client 1 (.connect 1001), .client 1 (.send [97]), .client 0 .close,
    .env 0 (.wait (.ok [.conn 1 0 true])), .env 0 (.dispatch (some (.conn 1 0 true))),
    .welcome (.poll (.ok ⟨.none, .none, .none, .readable⟩)), .welcome (.accept (.ok 0)),
    .welcome (.getsockopt (.ok 1001)), .welcome (.recv (.ok [97]) true), .welcome (.dup (.ok 1)),
    .welcome (.insertSend true), .welcome (.insertWrite true), .env 0 (.closeSend true),
    .env 0 (.closeWrite true), .env 0 (.leave false), .env 0 .dropSync,
    .welcome (.insertRecv none true), .welcome (.send (.ok ()))]

theorem turned_away : ¬ ∀ P as s, Run (Daemon.step P) Flawless boot as s → s.Granting := by
  intro h
  have hexec : (exec (Daemon.step .oneLetter) flawless boot
      (startUp ++ handsOver ++ adds ++ answers ++ meets)).any (fun s =>
        (1, .internalError) ∈ s.history.answers ∧ (s.conns 1).any fun conn => !conn.closed) := by
    decide
  obtain ⟨s, hr, hp⟩ := Run.of_exec_any (fun _ _ => flawless_of) hexec
  obtain ⟨hanswer, hstays⟩ := of_decide_eq_true hp
  refine (h _ _ _ hr).unrefused 1 ?_ hanswer
  rintro ⟨conn, hconn, hclosed⟩
  simp [hconn, hclosed] at hstays

end Daemon
end Garnd
