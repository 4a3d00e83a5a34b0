import Garnd.Connections

/- The descriptor numbers an environment thread takes from its events. The thread uses
   them as they come: it neither asks whether the number is in its `SocketSet` nor
   whether it is still what it was at registration, and a registration outlives the
   close of the number as long as the welcome thread has its original. A registration
   is therefore live, and its number is the thread's descriptor of the connection, or
   stale: then the client is gone and its number is not in the set while the original
   is there (`Daemon.RegisteredOf`). `acts_on_own` is what follows for every step of an
   environment thread. -/
namespace Garnd
open Transition

/-- The number is the environment's descriptor of the connection. -/
def Fds.Own (f : Fds) (i : EnvId) (x : RawFd) (c : ConnId) : Prop := f x = some ⟨.conn c, .socket i⟩

/-- The holder is the environment. -/
def Holder.Of (h : Holder) (i : EnvId) : Prop := h = .queue i ∨ h = .socket i ∨ h = .page i

/-- A number that stays in use keeps what it refers to. -/
def Fds.KeepsFiles (f g : Fds) : Prop := ∀ x d d', f x = some d → g x = some d' → d'.file = d.file

namespace Fds
variable {P : Externals} {f g : Fds} {x : RawFd} {h h' : Holder}

theorem Shrinks.keepsFiles (hg : f.Shrinks g) : f.KeepsFiles g := by
  intro y d d' hd hd'
  cases hd.symm.trans (hg y d' hd')
  rfl

theorem keepsFiles_open {d₀ : Descriptor} (hx : f x = none) :
    f.KeepsFiles (Function.update f x (some d₀)) := by
  intro y d d' hd hd'
  rcases open_some hd' with ⟨rfl, -⟩ | ⟨-, hd'⟩
  · rw [hx] at hd
    cases hd
  · cases hd.symm.trans hd'
    rfl

theorem keepsFiles_pass : f.KeepsFiles (f.pass x h h') := by
  intro y d d' hd hd'
  rcases pass_some hd' with ⟨rfl, file, hx, rfl⟩ | hd'
  · cases hd.symm.trans hx
    rfl
  · cases hd.symm.trans hd'
    rfl

theorem keepsFiles_addPages {i : EnvId} {pages : List Page} {k k' : ℕ}
    (ha : f.addPages P i pages k = some (g, k')) : f.KeepsFiles g := by
  intro y d d' hd hd'
  cases ((addPages_some ha).1 y d hd).symm.trans hd'
  rfl

end Fds

/-- A registration whose number was closed: the client is gone, no one but the welcome
thread has a descriptor of the connection, and while it has one the number is not in
the `SocketSet`. -/
structure Stale (f : Fds) (conns : ConnId → Option Conn) (sockets : Finset RawFd) (x : RawFd)
    (c : ConnId) : Prop where
  hungUp : HungUp conns c
  gone : ∀ y h, f y = some ⟨.conn c, h⟩ → h = .welcome
  apart : (∃ y, f y = some ⟨.conn c, .welcome⟩) → x ∉ sockets

/-- The steps by which the welcome thread gets a descriptor or passes one on. -/
def WelcomeAct.obtains : WelcomeAct → Bool
  | .accept (.ok _) | .dup (.ok _) | .insertSend true => true
  | _ => false

/-- The number the thread receives from, or is going to answer on. -/
def EnvPc.serving : EnvPc → Option RawFd
  | .recv fd _ | .openMutex fd _ _ | .send fd _ _ _ => some fd
  | _ => none

/-- The number the step receives from or sends to. -/
def EnvAct.uses : EnvAct → Option RawFd
  | .recv fd _ _ | .send fd _ _ => some fd
  | _ => none

namespace Daemon
variable {P : Externals} {s t u : Daemon} {i : EnvId} {e e' : Env}

/-! ## What a step opens -/

theorem WelcomeEffect.keepsFiles {a : WelcomeAct} (he : WelcomeEffect P s a u) :
    s.fds.KeepsFiles u.fds := by
  cases he with
  | accept _ hfree | dup _ _ hfree => exact Fds.keepsFiles_open hfree
  | insertSend => exact Fds.keepsFiles_pass
  | close => exact Fds.shrinks_closeHeld.keepsFiles
  | sendError =>
    dsimp only
    unfold Fds.handOver
    split
    · exact Fds.keepsFiles_pass
    · exact (Fds.Shrinks.refl _).keepsFiles
  | recv _ hr => exact (recvFrom_frame hr).1 ▸ (Fds.Shrinks.refl _).keepsFiles
  | send _ hr => exact (sendTo_frame hr).1 ▸ (Fds.Shrinks.refl _).keepsFiles
  | _ => exact (Fds.Shrinks.refl _).keepsFiles

theorem EnvEffect.keepsFiles {b : EnvAct} (he : EnvEffect P s i e e' b u) :
    s.fds.KeepsFiles u.fds := by
  cases he with
  | addEpoll => exact Fds.keepsFiles_pass
  | openMutex ha => exact Fds.keepsFiles_addPages ha
  | hangup =>
    dsimp only
    split
    · exact Fds.shrinks_closeNumbers.keepsFiles
    · exact (Fds.Shrinks.refl _).keepsFiles
  | addEpollFails => exact Fds.shrinks_closeHeld.keepsFiles
  | leave => exact (Fds.shrinks_closeAll.trans Fds.shrinks_closeNumbers).keepsFiles
  | dropListener => exact Fds.shrinks_closeAll.keepsFiles
  | recv hr => exact (recvFrom_frame hr).1 ▸ (Fds.Shrinks.refl _).keepsFiles
  | send hr => exact (sendTo_frame hr).1 ▸ (Fds.Shrinks.refl _).keepsFiles
  | _ => exact (Fds.Shrinks.refl _).keepsFiles

/-- `main` closes at most what an error owns. -/
theorem MainMoves.shrinks {a : MainAct} (hm : MainMoves s a t) : s.fds.Shrinks t.fds := by
  cases hm with
  | recv | drain => exact s.shrinks_dropError _
  | recvShutdown => exact s.shrinks_dropError .shutdownSignal
  | recvReload => exact s.shrinks_dropError .reloadRequest
  | fails | joinExits | success => exact Fds.shrinks_closeAll
  | _ => exact .refl _

theorem SignalMoves.fds_eq {sig : Signal} {thread : Thread} {interrupts : Bool}
    (hm : SignalMoves s sig thread interrupts t) : t.fds = s.fds := by
  obtain ⟨shutdown, reload, terminated, reloaded, hshape⟩ := s.handler_shape sig
  cases hm <;> rw [hshape]

/-- A number that a step does not close keeps what it refers to. -/
theorem keepsFiles_step {a : Act} (hs : s.step P a = some t) : s.fds.KeepsFiles t.fds := by
  obtain ⟨-, hp⟩ := step_party hs
  cases hp with
  | main hm => exact hm.shrinks.keepsFiles
  | welcome _ he => exact he.keepsFiles
  | env _ _ he => exact he.keepsFiles
  | client => exact (Fds.Shrinks.refl _).keepsFiles
  | signal _ hm => exact hm.fds_eq ▸ (Fds.Shrinks.refl _).keepsFiles

/-- What the welcome thread opens or passes on is of a connection that was not passed to
an environment before. -/
theorem WelcomeEffect.opened {a : WelcomeAct} {w : Welcome} (he : WelcomeEffect P s a u)
    (hm : Welcome.Moves P s.welcome a w) (h : s.Accounted) {y : RawFd} {c : ConnId} {h' : Holder}
    (hy : u.fds y = some ⟨.conn c, h'⟩) :
    s.fds y = some ⟨.conn c, h'⟩ ∨ homeOf s.conns c = none := by
  have early {x : RawFd} (hx : s.fds x = some ⟨.conn c, .welcome⟩)
      (hearly : s.welcome.pc.early = true) : homeOf s.conns c = none :=
    (h.connected.unpassed hearly x c hx).1
  cases he with
  | accept hb =>
    rcases Fds.open_some hy with ⟨-, hd⟩ | ⟨-, hy⟩
    · cases hd
      exact .inr (h.connected.unseen c (hb ▸ List.mem_cons_self)).2.1
    · exact .inl hy
  | @dup fd name passed d hpc hfd hfree =>
    rcases Fds.open_some hy with ⟨-, hd⟩ | ⟨-, hy⟩
    · have hmem : s.fds.HeldBy .welcome fd := by
        rw [← h.held.welcome, Welcome.held, hpc]
        exact List.mem_append_left _ List.mem_cons_self
      obtain ⟨c', hc⟩ := h.connected.conn_of_welcome hmem
      cases hfd.symm.trans hc
      cases hd
      exact .inr (early hc (by rw [hpc]; rfl))
    · exact .inl hy
  | insertSend hpc =>
    rcases Fds.pass_some hy with ⟨-, file, hx, hd⟩ | hy
    · cases hd
      exact .inr (early hx (by rw [hpc]; rfl))
    · exact .inl hy
  | close => exact .inl (Fds.shrinks_closeHeld y _ hy)
  | @sendError err =>
    cases hm with
    | @sendError _ errors ho =>
      cases hsock : err.socket with
      | none =>
        simp only [Fds.handOver, hsock] at hy
        exact .inl hy
      | some x =>
        simp only [Fds.handOver, hsock] at hy
        rcases Fds.pass_some hy with ⟨-, file, hx, hd⟩ | hy
        · cases hd
          refine .inr (h.connected.unhomed x ?_ c hx)
          apply List.mem_append_right
          rw [ho]
          exact List.mem_filterMap.mpr ⟨err, List.mem_cons_self, hsock⟩
        · exact .inl hy
  | recv _ hr =>
    rw [← (recvFrom_frame hr).1]
    exact .inl hy
  | send _ hr =>
    rw [← (sendTo_frame hr).1]
    exact .inl hy
  | _ => exact .inl hy

/-- What an environment thread opens are pages; a socket it is passed goes to its
`SocketSet`. -/
theorem EnvEffect.opened {b : EnvAct} (he : EnvEffect P s i e e' b u) {y : RawFd} {c : ConnId}
    {h' : Holder} (hy : u.fds y = some ⟨.conn c, h'⟩) :
    s.fds y = some ⟨.conn c, h'⟩ ∨
      (∃ source, b = .addEpoll y (.ok source)) ∧ s.fds y = some ⟨.conn c, .queue i⟩ ∧ h' = .socket i := by
  cases he with
  | addEpoll =>
    rcases Fds.pass_some hy with ⟨rfl, file, hx, hd⟩ | hy
    · cases hd
      exact .inr ⟨⟨_, rfl⟩, hx, rfl⟩
    · exact .inl hy
  | openMutex ha =>
    rcases (Fds.addPages_some ha).2 y _ hy with hy | ⟨n, hd⟩
    · exact .inl hy
    · cases hd
  | hangup =>
    dsimp only at hy
    split at hy
    · exact .inl (Fds.shrinks_closeNumbers y _ hy)
    · exact .inl hy
  | addEpollFails => exact .inl (Fds.shrinks_closeHeld y _ hy)
  | leave => exact .inl ((Fds.shrinks_closeAll.trans Fds.shrinks_closeNumbers) y _ hy)
  | dropListener => exact .inl (Fds.shrinks_closeAll y _ hy)
  | recv hr =>
    rw [← (recvFrom_frame hr).1]
    exact .inl hy
  | send hr =>
    rw [← (sendTo_frame hr).1]
    exact .inl hy
  | _ => exact .inl hy

/-! ## A socket that is being passed -/

/-- While a socket waits for a thread that is in its loop, the welcome thread has no
descriptor but those of the connection it passed. -/
def Passing (s : Daemon) : Prop :=
  ∀ i e x c y c', s.envs i = some e → e.pc.left = false → s.fds x = some ⟨.conn c, .queue i⟩ →
    s.fds y = some ⟨.conn c', .welcome⟩ → c = c'

theorem Held.of_queue {x : RawFd} {file : File} (h : s.Held) (hi : s.envs i = some e)
    (hx : s.fds x = some ⟨file, .queue i⟩) : x ∈ e.waiting := by
  have hmem := (h.queue i x).mpr (.of_eq hx)
  rwa [waitingAt_eq hi] at hmem

/-- Outside `insert_socket` nothing waits for a thread that is in its loop. -/
theorem Instances.waiting_nil (h : s.Instances) (hi : s.envs i = some e) (hl : e.pc.left = false)
    (hcall : s.welcome.pc.stage.call i = .idle) : e.waiting = [] := by
  obtain ⟨-, -, mark, hatt⟩ := h.sound i e hi
  have hne : (e.rendezvous (s.welcome.owner i e) mark).server ≠ .left := by
    intro hserver
    rw [EnvPc.left_of_server hserver] at hl
    cases hl
  have hlive := hatt.inv.live hne
  have hquiet : e.pc.server = .running false ∧ e.addListener.queue = [] := by
    unfold Welcome.owner at hlive
    split at hlive
    · exact ⟨hlive.1, hlive.2.2.1⟩
    · rw [hcall] at hlive
      exact ⟨hlive.1, hlive.2.2.1⟩
  have htaken : e.pc.taken = [] := by
    cases hpc : e.pc with
    | addEpoll listener rest =>
      rw [hpc] at hquiet
      cases hquiet.1
    | _ => rfl
  rw [Env.waiting, htaken, hquiet.2]
  rfl

/-- A thread that is in its loop after the step was in it before, or is new. -/
theorem inLoop_step {a : Act} (hs : s.step P a = some t) (hi : t.envs i = some e)
    (hl : e.pc.left = false) : (∃ e₀, s.envs i = some e₀ ∧ e₀.pc.left = false) ∨ s.envs i = none := by
  cases env_change hs hi with
  | same hi₀ hsame => exact .inl ⟨_, hi₀, by rw [← hsame.pc]; exact hl⟩
  | @thread b e₀ hi₀ hst =>
    refine .inl ⟨e₀, hi₀, ?_⟩
    cases hl₀ : e₀.pc.left with
    | false => rfl
    | true =>
      rw [Env.left_step hl₀ hst] at hl
      cases hl
  | made hi₀ => exact .inr hi₀

/-- The other steps of the welcome thread close descriptors, or leave one to an error. -/
theorem WelcomeEffect.shrinks {a : WelcomeAct} (he : WelcomeEffect P s a u)
    (ha : a.obtains = false) {y : RawFd} {d : Descriptor} (hd : d.holder ≠ .errors)
    (hy : u.fds y = some d) : s.fds y = some d := by
  cases he with
  | accept | dup | insertSend => cases ha
  | close => exact Fds.shrinks_closeHeld y _ hy
  | @sendError err =>
    cases hsock : err.socket with
    | none =>
      simp only [Fds.handOver, hsock] at hy
      exact hy
    | some x =>
      simp only [Fds.handOver, hsock] at hy
      rcases Fds.pass_some hy with ⟨-, file, hx, rfl⟩ | hy
      · exact absurd rfl hd
      · exact hy
  | recv _ hr => exact (recvFrom_frame hr).1 ▸ hy
  | send _ hr => exact (sendTo_frame hr).1 ▸ hy
  | _ => exact hy

theorem Passing.step {a : Act} (h : s.Passing) (hacc : s.Accounted) (hs : s.step P a = some t) :
    t.Passing := by
  intro i e x c y c' hi hl hx hy
  have hacc' := hacc.step hs
  have hwait := hacc'.held.of_queue hi hx
  -- the socket that waits is that of a call
  have hcall : t.welcome.pc.stage.call i ≠ .idle := by
    intro hidle
    rw [hacc'.instances.waiting_nil hi hl hidle] at hwait
    cases hwait
  -- where both descriptors were there before, so was the environment
  have old (hx : s.fds x = some ⟨.conn c, .queue i⟩) (hy : s.fds y = some ⟨.conn c', .welcome⟩) :
      c = c' := by
    rcases inLoop_step hs hi hl with ⟨e₀, hi₀, hl₀⟩ | hnone
    · exact h i e₀ x c y c' hi₀ hl₀ hx hy
    · have hmem := (hacc.held.queue i x).mpr (.of_eq hx)
      rw [waitingAt, hnone] at hmem
      cases hmem
  obtain ⟨-, hp⟩ := step_party hs
  cases hp with
  | main hm => exact old (hm.shrinks x _ hx) (hm.shrinks y _ hy)
  | client => exact old hx hy
  | signal _ hm =>
    rw [hm.fds_eq] at hx hy
    exact old hx hy
  | env hi₀ hst he =>
    refine old ?_ ?_
    · exact (he.opened hx).resolve_right (by simp)
    · exact (he.opened hy).resolve_right (by simp)
  | @welcome a w u hm he =>
    cases ha : a.obtains with
    | false => exact old (he.shrinks ha (by simp) hx) (he.shrinks ha (by simp) hy)
    | true =>
      cases hm with
      | accept | vacant => exact absurd rfl hcall
      | occupied => exact absurd (ite_self _) hcall
      | insertSend _ hpc =>
        cases he with
        | plain hp => cases hp
        | insertSend =>
          have hy' : s.fds y = some ⟨.conn c', .welcome⟩ := by
            rcases Fds.pass_some hy with ⟨-, file, -, hd⟩ | hy'
            · cases hd
            · exact hy'
          rcases Fds.pass_some hx with ⟨-, file, hx', hd⟩ | hx'
          · cases hd
            exact hacc.connected.single _ y c c' hx' hy'
          · exact old hx' hy'
      | _ => cases ha

/-! ## The registrations -/

/-- The registrations of an environment, those in the rest of its batch, and the one
whose request is being handled. -/
structure RegisteredOf (f : Fds) (conns : ConnId → Option Conn) (i : EnvId) (e : Env) : Prop where
  interest : ∀ x c, (x, c) ∈ e.interest → homeOf conns c = some i ∧
    (f.Own i x c ∨ Stale f conns e.sockets x c)
  batch : ∀ x c hangup, .conn x c hangup ∈ e.pc.rest → (hangup = true → HungUp conns c) ∧
    (f.Own i x c ∨ hangup = true ∧ x ∉ e.sockets ∧ .add ∉ e.pc.rest ∧ e.pc.adding = false)
  serving : ∀ x, e.pc.serving = some x → ∃ c, e.raisedBy = some c ∧ f.Own i x c

/-- What the thread does not do. -/
theorem RegisteredOf.aside {f g : Fds} {conns conns' : ConnId → Option Conn}
    (h : RegisteredOf f conns i e) (hsame : Env.SameThread e e')
    (hkept : ∀ x c, f.Own i x c → g.Own i x c)
    (hnew : ∀ c, homeOf conns c = some i → ∀ y h', g y = some ⟨.conn c, h'⟩ → f y = some ⟨.conn c, h'⟩)
    (hhome : ∀ c, homeOf conns c = some i → homeOf conns' c = some i)
    (hhung : ∀ c, HungUp conns c → HungUp conns' c) : RegisteredOf g conns' i e' where
  interest x c hreg := by
    rw [hsame.interest] at hreg
    rw [hsame.sockets]
    obtain ⟨hc, ho⟩ := h.interest x c hreg
    refine ⟨hhome c hc, ho.imp (hkept x c) fun hs => ⟨hhung c hs.hungUp, ?_, ?_⟩⟩
    · exact fun y h' hy => hs.gone y h' (hnew c hc y h' hy)
    · rintro ⟨y, hy⟩
      exact hs.apart ⟨y, hnew c hc y _ hy⟩
  batch x c hangup hev := by
    rw [hsame.pc] at hev ⊢
    rw [hsame.sockets]
    obtain ⟨hh, ho⟩ := h.batch x c hangup hev
    exact ⟨fun ht => hhung c (hh ht), ho.imp_left (hkept x c)⟩
  serving x hx := by
    rw [hsame.pc] at hx
    rw [hsame.raisedBy]
    obtain ⟨c, hc, ho⟩ := h.serving x hx
    exact ⟨c, hc, hkept x c ho⟩

def Registered (s : Daemon) : Prop := ∀ i e, s.envs i = some e → RegisteredOf s.fds s.conns i e

theorem registered_new (f : Fds) (conns : ConnId → Option Conn) (name : String) (i : EnvId) :
    RegisteredOf f conns i (.new name i) := ⟨nofun, nofun, nofun⟩

/-- A socket that stays in the set stays the descriptor it is. -/
theorem own_kept {a : Act} (h : s.Accounted) (hs : s.step P a = some t) (hi : s.envs i = some e)
    (hi' : t.envs i = some e') (hsock : e'.sockets = e.sockets) {x : RawFd} {c : ConnId}
    (hx : s.fds.Own i x c) : t.fds.Own i x c := by
  have hmem : x ∈ e.sockets := by
    rw [← socketsAt_eq hi]
    exact (h.held.sockets i x).mpr (.of_eq hx)
  rw [← hsock, ← socketsAt_eq hi', (h.step hs).held.sockets] at hmem
  obtain ⟨file, hx'⟩ := Fds.heldBy_iff.mp hmem
  obtain rfl : file = .conn c := keepsFiles_step hs x _ _ hx hx'
  exact hx'

theorem WelcomeEffect.homes {a : WelcomeAct} (he : WelcomeEffect P s a u) (h : s.Accounted) :
    (∀ c, homeOf s.conns c = some i → homeOf u.conns c = some i) ∧
      ∀ c, HungUp s.conns c → HungUp u.conns c := by
  have grow {conns : ConnId → Option Conn} (hg : ConnsGrow s.conns conns) :
      (∀ c, homeOf s.conns c = some i → homeOf conns c = some i) ∧
        ∀ c, HungUp s.conns c → HungUp conns c :=
    ⟨fun c hc => (hg.home c).trans hc, hg.hungUp⟩
  cases he with
  | @insertSend a e e' hpc =>
    obtain ⟨c, hc⟩ := h.connected.conn_of_welcome (h.held.of_passed hpc)
    have hnone := (h.connected.unpassed (by rw [hpc]; rfl) _ c hc).1
    refine ⟨fun c' hc' => ?_, fun c' hc' => ?_⟩
    · have hne : c ≠ c' := by
        rintro rfl
        rw [hnone] at hc'
        cases hc'
      simpa only [homeOf, connAt_eq hc, Option.some.injEq, hne, if_false] using hc'
    · obtain ⟨conn, hconn, hcl⟩ := hc'
      by_cases hcc : c = c'
      · subst hcc
        refine ⟨{ conn with home := some a.id }, ?_, hcl⟩
        simp only [connAt_eq hc, if_true, hconn, Option.map_some]
      · refine ⟨conn, ?_, hcl⟩
        simp only [connAt_eq hc, Option.some.injEq, hcc, if_false, hconn]
  | recv _ hr =>
    have hgrow := grow (recvFrom_grow hr)
    exact hgrow
  | send _ hr =>
    have hgrow := grow (sendTo_grow hr)
    exact hgrow
  | _ => exact grow (.refl _)

/-- A connection stays with the environment it was passed to. -/
theorem home_kept {a : Act} (hacc : s.Accounted) (hs : s.step P a = some t)
    (hc : homeOf s.conns c = some i) : homeOf t.conns c = some i := by
  obtain ⟨-, hp⟩ := step_party hs
  cases hp with
  | main hm => cases hm <;> exact hc
  | welcome _ he => exact (he.homes hacc).1 c hc
  | env _ _ he => exact (he.conns_grow.1.home c).trans hc
  | client hcs => exact ((clientStep_grow hcs).1.home c).trans hc
  | @signal sig _ _ _ _ hm =>
    obtain ⟨shutdown, reload, terminated, reloaded, hshape⟩ := s.handler_shape sig
    cases hm <;> rw [hshape] <;> exact hc

/-- The kernel reports a connection that is open, with its hang-up. -/
theorem ready_conn {x : RawFd} {c : ConnId} {hangup : Bool}
    (h : s.ready P (.conn x c hangup) = true) :
    (hangup = true ↔ HungUp s.conns c) ∧ ∃ y h', s.fds y = some ⟨.conn c, h'⟩ := by
  simp only [ready] at h
  split at h
  · rename_i conn hc
    simp only [Bool.and_eq_true, beq_iff_eq] at h
    obtain ⟨⟨hopen, rfl⟩, -⟩ := h
    constructor
    · refine ⟨fun hcl => ⟨conn, hc, hcl⟩, fun ⟨conn', hc', hcl⟩ => ?_⟩
      cases hc.symm.trans hc'
      exact hcl
    · obtain ⟨y, -, hy⟩ := List.any_eq_true.mp hopen
      obtain ⟨⟨file, h'⟩, hd, rfl⟩ := Option.map_eq_some_iff.mp (of_decide_eq_true hy)
      exact ⟨y, h', hd⟩
  · cases h

/-- A thread that waits and has the event raised has a socket to take. -/
theorem attached_raised {c : Owner} {mark : ℕ} (h : e.Attached c mark)
    (hpc : e.pc = .wait) (ha : 0 < e.addEvent) : ∃ x, x ∈ e.waiting := by
  have hserver : (e.rendezvous c mark).server = .running false := by
    simp [Env.rendezvous, hpc, EnvPc.server, EnvPc.left, EnvPc.rest]
  have hlive := h.inv.live (by simp [hserver])
  have hevent : (e.rendezvous c mark).event ≠ 0 := Nat.ne_of_gt ha
  unfold Rendezvous.Live at hlive
  split at hlive
  · exact absurd hlive.2.1 hevent
  · rename_i x hx
    have hqueue : e.addListener.queue = [x] := by
      cases hlive with
      | pending _ _ _ hr => exact hr
      | draining hs | serving hs | served hs | answering hs =>
        rw [hserver] at hs
        cases hs
      | answered _ he => exact absurd he hevent
    exact ⟨x, List.mem_append_right _ (hqueue ▸ List.mem_cons_self)⟩
  · exact absurd hlive.2.1 hevent

/-- The number of a client that is gone is closed, and its registration becomes stale. -/
theorem RegisteredOf.remove {data : RawFd} {source : ConnId} (h : RegisteredOf s.fds s.conns i e)
    (hconn : s.Connected) (hhung : HungUp s.conns source)
    (hdata : data ∈ e.sockets → s.fds.Own i data source) {x : RawFd} {c : ConnId}
    (hreg : (x, c) ∈ e.interest) :
    let g := if data ∈ e.sockets then s.fds.closeNumbers {data} else s.fds
    g.Own i x c ∨ Stale g s.conns (e.sockets.erase data) x c := by
  obtain ⟨hhome, ho⟩ := h.interest x c hreg
  by_cases hd : data ∈ e.sockets
  · simp only [hd, if_true]
    have hmine := hdata hd
    rcases ho with ho | hstale
    · by_cases hx : x = data
      · subst hx
        cases hmine.symm.trans ho
        refine .inr ⟨hhung, fun y h' hy => ?_, fun _ => Finset.notMem_erase _ _⟩
        -- the environment had this descriptor only, and the errors have none
        have hyd : y ≠ x := by
          rintro rfl
          simp [Fds.closeNumbers] at hy
        have hy := Fds.shrinks_closeNumbers y _ hy
        by_contra hw
        have henv := hconn.homed y source h' hy hw
        rw [hhome] at henv
        exact hyd (hconn.once y x source h' _ hy hmine (by simp [← henv]) (by rintro ⟨⟩))
      · refine .inl ?_
        show s.fds.closeNumbers {data} x = _
        rw [Fds.closeNumbers, if_neg (by simpa using hx)]
        exact ho
    · refine .inr ⟨hstale.hungUp, fun y h' hy => ?_, ?_⟩
      · exact hstale.gone y h' (Fds.shrinks_closeNumbers y _ hy)
      · rintro ⟨y, hy⟩ hmem
        exact hstale.apart ⟨y, Fds.shrinks_closeNumbers y _ hy⟩ (Finset.mem_of_mem_erase hmem)
  · simp only [hd, if_false, Finset.erase_eq_of_notMem hd]
    exact ho

/-- The thread goes on with its batch, and its sockets stay what they are. -/
theorem RegisteredOf.goto {b : EnvAct} {pc pc' : EnvPc} (h : RegisteredOf s.fds s.conns i e)
    (hacc : s.Accounted) (hi : s.envs i = some e) (he : EnvEffect P s i e e' b u)
    (hs : s.step P (.env i b) = some { u with envs := Function.update s.envs i (some e') })
    (hpc : e.pc = pc) (hpc' : e'.pc = pc') (hb : ∀ x c, b ≠ .addEpoll x (.ok c))
    (hint : e'.interest = e.interest) (hsock : e'.sockets = e.sockets)
    (hraised : e'.raisedBy = e.raisedBy) (hrest : ∀ ev ∈ pc'.rest, ev ∈ pc.rest)
    (hadd : pc'.adding = true → pc.adding = true)
    (hserv : ∀ x, pc'.serving = some x → pc.serving = some x) :
    RegisteredOf u.fds u.conns i e' := by
  obtain ⟨hgrow, -⟩ := he.conns_grow
  have kept {x : RawFd} {c : ConnId} (hx : s.fds.Own i x c) : u.fds.Own i x c :=
    own_kept hacc hs hi (Function.update_self ..) hsock hx
  have old {y : RawFd} {c : ConnId} {h' : Holder} (hy : u.fds y = some ⟨.conn c, h'⟩) :
      s.fds y = some ⟨.conn c, h'⟩ :=
    (he.opened hy).resolve_right fun hopen => hopen.1.elim (hb y)
  subst hpc
  subst hpc'
  refine ⟨fun x c hreg => ?_, fun x c hangup hev => ?_, fun x hx => ?_⟩
  · rw [hint] at hreg
    rw [hsock]
    obtain ⟨hc, ho⟩ := h.interest x c hreg
    refine ⟨(hgrow.home c).trans hc, ho.imp kept fun hstale => ⟨hgrow.hungUp c hstale.hungUp, ?_, ?_⟩⟩
    · exact fun y h' hy => hstale.gone y h' (old hy)
    · rintro ⟨y, hy⟩
      exact hstale.apart ⟨y, old hy⟩
  · rw [hsock]
    obtain ⟨hh, ho⟩ := h.batch x c hangup (hrest _ hev)
    refine ⟨fun ht => hgrow.hungUp c (hh ht), ho.imp kept ?_⟩
    rintro ⟨ht, hx, hno, hnot⟩
    refine ⟨ht, hx, fun hmem => hno (hrest _ hmem), ?_⟩
    cases ha : e'.pc.adding with
    | false => rfl
    | true =>
      rw [hadd ha] at hnot
      cases hnot
  · rw [hraised]
    obtain ⟨c, hc, ho⟩ := h.serving x (hserv x hx)
    exact ⟨c, hc, kept ho⟩

/-- What is reported is registered, or the number is of a client that is gone. -/
theorem RegisteredOf.waits {events : List Event} (h : RegisteredOf s.fds s.conns i e)
    (hacc : s.Accounted) (hpass : s.Passing) (hi : s.envs i = some e) (hpc : e.pc = .wait)
    (hraise : ∀ ev ∈ events, e.raisable ev = true) (hready : ∀ ev ∈ events, s.ready P ev = true) :
    RegisteredOf s.fds s.conns i { e with pc := .batch events } := by
  obtain ⟨-, -, mark, hatt⟩ := hacc.instances.sound i e hi
  refine ⟨h.interest, fun x c hangup hev => ?_, by rintro x ⟨⟩⟩
  obtain ⟨hhung, y, h', hy⟩ := ready_conn (hready _ hev)
  have hreg : (x, c) ∈ e.interest := of_decide_eq_true (hraise _ hev)
  refine ⟨hhung.mp, (h.interest x c hreg).2.imp_right fun hstale => ?_⟩
  obtain rfl := hstale.gone y h' hy
  refine ⟨hhung.mpr hstale.hungUp, hstale.apart ⟨y, hy⟩, fun hadd => ?_, rfl⟩
  -- a socket that waits for the thread is of the connection the welcome thread has
  obtain ⟨z, hz⟩ := attached_raised hatt hpc (of_decide_eq_true (hraise _ hadd))
  rw [← waitingAt_eq hi, hacc.held.queue] at hz
  obtain ⟨file, hz⟩ := Fds.heldBy_iff.mp hz
  cases file with
  | memfd k =>
    obtain ⟨j, hj⟩ := hacc.connected.pages z k _ hz
    cases hj
  | conn c' =>
    obtain rfl := hpass i e z c' y c hi (by rw [hpc]; rfl) hz hy
    cases hstale.gone z _ hz

/-- The client of an event has hung up, and is not the last. -/
theorem RegisteredOf.hangsUp {data : RawFd} {source : ConnId} {rest : List Event}
    (h : RegisteredOf s.fds s.conns i e) (hacc : s.Accounted) (hi : s.envs i = some e)
    (hpc : e.pc = .batch (.conn data source true :: rest)) :
    RegisteredOf (if data ∈ e.sockets then s.fds.closeNumbers {data} else s.fds) s.conns i
      { e with sockets := e.sockets.erase data, pc := .batch rest } := by
  obtain ⟨-, -, mark, hatt⟩ := hacc.instances.sound i e hi
  obtain ⟨hh, ho⟩ := h.batch data source true (by rw [hpc]; exact List.mem_cons_self)
  have hmine : data ∈ e.sockets → s.fds.Own i data source :=
    fun hd => ho.resolve_right fun hn => hn.2.1 hd
  have hremove {x : RawFd} {c : ConnId} (hreg : (x, c) ∈ e.interest) :=
    h.remove hacc.connected (hh rfl) hmine hreg
  refine ⟨fun x c hreg => ⟨(h.interest x c hreg).1, hremove hreg⟩, fun x c hangup hev => ?_, by rintro x ⟨⟩⟩
  obtain ⟨hh', ho'⟩ := h.batch x c hangup (by rw [hpc]; exact List.mem_cons_of_mem _ hev)
  refine ⟨hh', ?_⟩
  rcases ho' with ho' | ⟨ht, hx, hno, -⟩
  · -- no other registration of the batch has the number
    have hne : x ≠ data := by
      rintro rfl
      have hmem : x ∈ e.sockets := by
        rw [← socketsAt_eq hi]
        exact (hacc.held.sockets i x).mpr (.of_eq ho')
      cases (hmine hmem).symm.trans ho'
      have honce := hatt.batched.once
      rw [hpc] at honce
      exact (List.nodup_cons.mp honce).1 (List.mem_map.mpr ⟨_, hev, rfl⟩)
    refine .inl ?_
    split
    · show s.fds.closeNumbers {data} x = _
      rw [Fds.closeNumbers, if_neg (by simpa using hne)]
      exact ho'
    · exact ho'
  · refine .inr ⟨ht, fun hmem => hx (Finset.mem_of_mem_erase hmem), fun hmem => hno ?_, rfl⟩
    rw [hpc]
    exact List.mem_cons_of_mem _ hmem

/-- A socket is added. -/
theorem RegisteredOf.adds {listener : RawFd} {source : ConnId} {rest : List Event}
    (h : RegisteredOf s.fds s.conns i e) (hacc : s.Accounted) (hpass : s.Passing)
    (hi : s.envs i = some e) (hpc : e.pc = .addEpoll listener rest)
    (hc : s.connAt listener = some source) :
    RegisteredOf (s.fds.pass listener (.queue i) (.socket i)) s.conns i
      { e with
        interest := (listener, source) :: e.interest
        sockets := insert listener e.sockets
        added := e.added ++ [(listener, source)]
        pc := .addDrain rest } := by
  have hl : s.fds.HeldBy (.queue i) listener := by
    rw [← hacc.held.queue, waitingAt_eq hi, Env.waiting, hpc]
    exact List.mem_cons_self
  obtain ⟨file, hl⟩ := Fds.heldBy_iff.mp hl
  have hfile : s.fds listener = some ⟨.conn source, .queue i⟩ := by
    cases file with
    | conn c =>
      rw [connAt_eq hl] at hc
      rw [hl, Option.some.inj hc]
    | memfd k => simp [connAt, Fds.connAt, hl] at hc
  have kept {x : RawFd} {c : ConnId} (hx : s.fds.Own i x c) :
      (s.fds.pass listener (.queue i) (.socket i)).Own i x c := by
    have hne : x ≠ listener := by
      rintro rfl
      cases hfile.symm.trans hx
    rw [Fds.Own, Fds.pass_eq hfile, Function.update_of_ne hne]
    exact hx
  refine ⟨fun x c hreg => ?_, fun x c hangup hev => ?_, by rintro x ⟨⟩⟩
  · rcases List.mem_cons.mp hreg with hreg | hreg
    · cases hreg
      refine ⟨hacc.connected.homed listener source _ hfile (by simp), .inl ?_⟩
      simp only [Fds.Own, Fds.pass_eq hfile, Function.update_self]
    · obtain ⟨hhome, ho⟩ := h.interest x c hreg
      refine ⟨hhome, ho.imp kept fun hstale => ⟨hstale.hungUp, fun y h' hy => ?_, ?_⟩⟩
      · rcases Fds.pass_some hy with ⟨-, file', hy₀, hd⟩ | hy₀
        · cases hd
          cases hstale.gone listener _ hy₀
        · exact hstale.gone y h' hy₀
      · -- the welcome thread has the connection of the socket that is added
        rintro ⟨y, hy⟩
        exfalso
        have hy' : s.fds y = some ⟨.conn c, .welcome⟩ := by
          rcases Fds.pass_some hy with ⟨-, file', -, hd⟩ | hy'
          · cases hd
          · exact hy'
        obtain rfl := hpass i e listener source y c hi (by rw [hpc]; rfl) hfile hy'
        cases hstale.gone listener _ hfile
  · obtain ⟨hh, ho⟩ := h.batch x c hangup (by rw [hpc]; exact hev)
    refine ⟨hh, .inl (kept (ho.resolve_right fun hd => ?_))⟩
    rw [hpc] at hd
    cases hd.2.2.2

/-- The step of a thread keeps its own registrations. -/
theorem RegisteredOf.thread {b : EnvAct} (h : RegisteredOf s.fds s.conns i e) (hacc : s.Accounted)
    (hpass : s.Passing) (hi : s.envs i = some e) (hst : e.step P b = some e')
    (he : EnvEffect P s i e e' b u)
    (hs : s.step P (.env i b) = some { u with envs := Function.update s.envs i (some e') }) :
    RegisteredOf u.fds u.conns i e' := by
  cases Env.step_moves hst with
  | sendError =>
    exact h.goto hacc hi he hs rfl rfl (by simp) rfl rfl rfl (fun _ hev => hev) id fun _ hx => hx
  | wait _ hpc _ _ hraise =>
    cases he with
    | plain hp => cases hp
    | wait _ hready => exact h.waits hacc hpass hi hpc hraise hready
  | @addEvent rest _ hpc =>
    cases he with
    | plain =>
      refine ⟨h.interest, fun x c hangup hev => ?_, by rintro x ⟨⟩⟩
      obtain ⟨hh, ho⟩ := h.batch x c hangup (by rw [hpc]; exact List.mem_cons_of_mem _ hev)
      refine ⟨hh, .inl (ho.resolve_right fun hd => hd.2.2.1 ?_)⟩
      rw [hpc]
      exact List.mem_cons_self
  | @readable data source rest _ hpc =>
    cases he with
    | plain =>
      refine ⟨h.interest, fun x c hangup hev => ?_, fun x hx => ?_⟩
      · obtain ⟨hh, ho⟩ := h.batch x c hangup (by rw [hpc]; exact List.mem_cons_of_mem _ hev)
        refine ⟨hh, ho.imp_right fun hd => ⟨hd.1, hd.2.1, fun hmem => hd.2.2.1 ?_, rfl⟩⟩
        rw [hpc]
        exact List.mem_cons_of_mem _ hmem
      · obtain rfl := Option.some.inj hx
        have hown := (h.batch data source false (by rw [hpc]; exact List.mem_cons_self)).2
        exact ⟨source, rfl, hown.resolve_right fun hd => Bool.false_ne_true hd.1⟩
  | @lastGone data source rest _ hpc hempty =>
    obtain ⟨hh, ho⟩ := h.batch data source true (by rw [hpc]; exact List.mem_cons_self)
    have hremove {x : RawFd} {c : ConnId} (hreg : (x, c) ∈ e.interest) :=
      h.remove hacc.connected (hh rfl) (fun hd => ho.resolve_right fun hn => hn.2.1 hd) hreg
    cases he with
    | plain hp => cases hp
    | hangup =>
      refine ⟨fun x c hreg => ⟨(h.interest x c hreg).1, ?_⟩, by rintro y c' hangup ⟨⟩, by rintro y ⟨⟩⟩
      exact hempty ▸ hremove hreg
  | oneGone _ hpc =>
    cases he with
    | plain hp => cases hp
    | hangup => exact h.hangsUp hacc hi hpc
  | addEpoll _ hpc =>
    cases he with
    | plain hp => cases hp
    | addEpoll hc => exact h.adds hacc hpass hi hpc hc
  | leave => exact ⟨by rintro x c ⟨⟩, by rintro x c hangup ⟨⟩, by rintro x ⟨⟩⟩
  | epollAdd _ hpc | dropSync _ hpc | dropListener _ hpc =>
    refine h.goto hacc hi he hs hpc rfl (by simp) rfl rfl rfl ?_ ?_ ?_ <;> dsimp only <;> split
    · rintro ev ⟨⟩
    · rintro ev ⟨⟩
    · rintro ⟨⟩
    · rintro ⟨⟩
    · rintro x ⟨⟩
    · rintro x ⟨⟩
  | allocNew _ hpc | allocFails _ hpc | allocPanics _ hpc | epollNew _ hpc | epollNewFails _ hpc
  | epollAddFails _ hpc | waitFails _ hpc | batchOver _ hpc | addPanics _ hpc | dropRead _ hpc
  | dropReadFails _ hpc | openMutexPanics _ hpc | closeSend _ hpc | closeWrite _ hpc =>
    exact h.goto hacc hi he hs hpc rfl (by simp) rfl rfl rfl (by rintro ev ⟨⟩) (by rintro ⟨⟩)
      (by rintro x ⟨⟩)
  | dropEvent _ hpc =>
    exact h.goto hacc hi he hs hpc rfl (by simp) rfl rfl rfl
      (fun _ hev => List.mem_cons_of_mem _ hev) (by rintro ⟨⟩) (by rintro x ⟨⟩)
  | addRead _ hpc | addReadFails _ hpc | addTake _ hpc | addEmpty _ hpc | addEpollFails _ hpc =>
    exact h.goto hacc hi he hs hpc rfl (by simp) rfl rfl rfl (fun _ hev => hev) (fun _ => rfl)
      (by rintro x ⟨⟩)
  | respond _ hpc | respondFails _ hpc | recvFails _ hpc | recvUnanswered _ hpc | send _ hpc
  | sendFails _ hpc =>
    exact h.goto hacc hi he hs hpc rfl (by simp) rfl rfl rfl (fun _ hev => hev) (by rintro ⟨⟩)
      (by rintro x ⟨⟩)
  | recv _ hpc | recvMalformed _ hpc | openMutex _ hpc =>
    exact h.goto hacc hi he hs hpc rfl (by simp) rfl rfl rfl (fun _ hev => hev) (by rintro ⟨⟩)
      fun _ hx => hx

/-- The registrations of the others: nothing they rely on is touched. -/
theorem Registered.step {a : Act} (h : s.Registered) (hacc : s.Accounted) (hpass : s.Passing)
    (hs : s.step P a = some t) : t.Registered := by
  intro i e' hi'
  obtain ⟨-, hp⟩ := step_party hs
  cases hp with
  | main hm =>
    have hi : s.envs i = some e' := hm.envs_eq ▸ hi'
    have hconns : t.conns = s.conns := by cases hm <;> rfl
    refine (h i e' hi).aside (.refl e') (fun x c hx => own_kept hacc hs hi hi' rfl hx)
      (fun c _ y h' hy => hm.shrinks y _ hy) ?_ ?_ <;> rw [hconns] <;> exact fun _ hc => hc
  | client hc =>
    obtain ⟨hgrow, -⟩ := clientStep_grow hc
    exact (h i e' hi').aside (.refl e') (fun _ _ hx => hx) (fun _ _ _ _ hy => hy)
      (fun c hc => (hgrow.home c).trans hc) hgrow.hungUp
  | @signal sig thread interrupts _ _ hm =>
    have hf := hm.fds_eq
    have hconns : t.conns = s.conns := by
      obtain ⟨shutdown, reload, terminated, reloaded, hshape⟩ := s.handler_shape sig
      cases hm <;> rw [hshape]
    rw [hf, hconns]
    cases env_change hs hi' with
    | same hi hsame =>
      exact (h i _ hi).aside hsame (fun _ _ hx => hx) (fun _ _ _ _ hy => hy) (fun _ hc => hc)
        (fun _ hc => hc)
  | @env j b e₀ e₁ u hj hst he =>
    by_cases hij : i = j
    · subst hij
      obtain rfl : e₁ = e' := by simpa using hi'
      have hown := (h i e₀ hj).thread hacc hpass hj hst he hs
      exact hown
    · have hi : s.envs i = some e' := by simpa [Function.update_of_ne hij] using hi'
      obtain ⟨hgrow, -⟩ := he.conns_grow
      refine (h i e' hi).aside (.refl e') (fun x c hx => own_kept hacc hs hi hi' rfl hx)
        (fun c hc y h' hy => ?_) (fun c hc => (hgrow.home c).trans hc) hgrow.hungUp
      -- a socket that thread `j` adds is of a connection that was passed to `j`
      rcases he.opened hy with hy | ⟨-, hy, -⟩
      · exact hy
      · have hhome := hacc.connected.homed y c _ hy nofun
        rw [hc] at hhome
        exact absurd (Option.some.inj hhome) hij
  | @welcome a w u hm he =>
    cases env_change hs hi' with
    | same hi hsame =>
      obtain ⟨hhome, hhung⟩ := he.homes hacc
      refine (h i _ hi).aside hsame (fun x c hx => own_kept hacc hs hi hi' hsame.sockets hx)
        (fun c hc y h' hy => ?_) hhome hhung
      refine (he.opened hm hacc hy).resolve_right fun hnone => ?_
      rw [hnone] at hc
      cases hc
    | made _ he' => exact he' ▸ registered_new _ _ _ _

/-- Everything there is to know of the descriptors. -/
structure Settled (s : Daemon) : Prop extends Accounted s where
  passing : s.Passing
  registered : s.Registered

theorem settled_boot : boot.Settled := by
  refine ⟨accounted_boot, fun i e x c y c' hi => ?_, fun i e hi => ?_⟩ <;> cases hi

theorem Settled.step {a : Act} (h : s.Settled) (hs : s.step P a = some t) : t.Settled :=
  ⟨h.toAccounted.step hs, h.passing.step h.toAccounted hs,
    h.registered.step h.toAccounted h.passing hs⟩

theorem Settled.run {ok : Daemon → Act → Prop} {as : List Act} (h : s.Settled)
    (hr : Run (Daemon.step P) ok s as t) : t.Settled :=
  hr.invariant (I := Settled) (fun _ _ _ _ hs ht => hs.step ht) h

/-! ## What a thread acts on -/

/-- The step of thread `i` acts on its own descriptors only. -/
structure ActsOnOwn (s t : Daemon) (i : EnvId) (b : EnvAct) : Prop where
  /-- The number it receives from or sends to is in its `SocketSet`, and is its descriptor
  of the connection that raised the event. -/
  uses : ∀ x, b.uses = some x → ∃ e c, s.envs i = some e ∧ e.raisedBy = some c ∧
    x ∈ e.sockets ∧ s.fds x = some ⟨.conn c, .socket i⟩
  /-- `SocketSet::remove` closes its descriptor of the connection that raised the event, or
  nothing. -/
  removes : ∀ x c, b = .dispatch (some (.conn x c true)) → ∀ y d, s.fds y = some d →
    t.fds y = some d ∨ y = x ∧ d = ⟨.conn c, .socket i⟩
  /-- Whatever it closes is the environment's. -/
  closes : ∀ y d, s.fds y = some d → t.fds y = some d ∨ d.holder.Of i

theorem Held.of_sockets {x : RawFd} (h : s.Held) (hi : s.envs i = some e) :
    x ∈ e.sockets ↔ s.fds.HeldBy (.socket i) x := by
  rw [← h.sockets, socketsAt_eq hi]

theorem EnvEffect.closes {b : EnvAct} (he : EnvEffect P s i e e' b u) (h : s.Held)
    (hi : s.envs i = some e) {y : RawFd} {d : Descriptor} (hd : s.fds y = some d) :
    u.fds y = some d ∨ d.holder.Of i := by
  -- a number in the set is one of its sockets
  have hset {xs : Finset RawFd} (hxs : ∀ x ∈ xs, x ∈ e.sockets) {f : Fds}
      (hf : f y = some d ∨ d.holder.Of i) : f.closeNumbers xs y = some d ∨ d.holder.Of i := by
    rcases hf with hf | hf
    · by_cases hy : y ∈ xs
      · have hheld := (h.of_sockets hi).mp (hxs y hy)
        rw [Fds.HeldBy, hd] at hheld
        exact .inr (.inr (.inl (Option.some.inj hheld)))
      · refine .inl ?_
        rw [Fds.closeNumbers, if_neg hy, hf]
    · exact .inr hf
  have hall {h' : Holder} (hh : h'.Of i) : s.fds.closeAll h' y = some d ∨ d.holder.Of i := by
    unfold Fds.closeAll
    split
    · rename_i hy
      rw [hd] at hy
      exact .inr (Option.some.inj hy ▸ hh)
    · exact .inl hd
  cases he with
  | hangup =>
    dsimp only
    split
    · rename_i hx
      exact hset (fun x hmem => Finset.mem_singleton.mp hmem ▸ hx) (.inl hd)
    · exact .inl hd
  | @addEpoll listener =>
    by_cases hl : s.fds.HeldBy (.queue i) listener
    · obtain ⟨file, hl⟩ := Fds.heldBy_iff.mp hl
      by_cases hy : y = listener
      · subst hy
        cases hl.symm.trans hd
        exact .inr (.inl rfl)
      · refine .inl ?_
        simp only [Fds.pass_eq hl, Function.update_of_ne hy, hd]
    · refine .inl ?_
      simp only [Fds.pass_of_not hl, hd]
  | @addEpollFails listener =>
    dsimp only
    unfold Fds.closeHeld
    split
    · rename_i hl
      by_cases hy : y = listener
      · subst hy
        rw [hd] at hl
        exact .inr (.inl (Option.some.inj hl))
      · exact .inl (by rw [Function.update_of_ne hy, hd])
    · exact .inl hd
  | openMutex ha => exact .inl ((Fds.addPages_some ha).1 y d hd)
  | leave => exact hset (fun _ hx => hx) (hall (.inr (.inr rfl)))
  | dropListener => exact hall (.inl rfl)
  | recv hr =>
    rw [← (recvFrom_frame hr).1] at hd
    exact .inl hd
  | send hr =>
    rw [← (sendTo_frame hr).1] at hd
    exact .inl hd
  | _ => exact .inl hd

/-- What a thread receives from or sends to is the number its event came with. -/
theorem uses_serving {b : EnvAct} {x : RawFd} (hs : e.step P b = some e') (hx : b.uses = some x) :
    e.pc.serving = some x := by
  cases Env.step_moves hs with
  | recvFails _ hpc | recv _ hpc | recvMalformed _ hpc | recvUnanswered _ hpc | send _ hpc
  | sendFails _ hpc =>
    rw [hpc]
    exact hx
  | _ => cases hx

/-- In every run, whatever an environment thread receives from, sends to or closes is its
own descriptor of the connection in question. -/
theorem acts_on_own {as : List Act} {b : EnvAct} (hr : Run (Daemon.step P) anyStep boot as s)
    (hs : s.step P (.env i b) = some t) : ActsOnOwn s t i b := by
  have h : s.Settled := settled_boot.run hr
  obtain ⟨-, hp⟩ := step_party hs
  cases hp with
  | @env _ _ e e' u hi hst he =>
    refine ⟨fun x hx => ?_, fun x c hb y d hd => ?_, fun y d hd => he.closes h.held hi hd⟩
    · obtain ⟨c, hc, ho⟩ := (h.registered i e hi).serving x (uses_serving hst hx)
      exact ⟨e, c, hi, hc, (h.held.of_sockets hi).mpr (.of_eq ho), ho⟩
    · subst hb
      have hmine : x ∈ e.sockets → s.fds.Own i x c := by
        intro hmem
        have hev : .conn x c true ∈ e.pc.rest := by
          cases Env.step_moves hst with
          | lastGone _ hpc | oneGone _ hpc =>
            rw [hpc]
            exact List.mem_cons_self
        exact ((h.registered i e hi).batch x c true hev).2.resolve_right fun hn => hn.2.1 hmem
      cases he with
      | plain hp => cases hp
      | hangup =>
        dsimp only
        split
        · rename_i hmem
          by_cases hy : y = x
          · subst hy
            exact .inr ⟨rfl, Option.some.inj (hd.symm.trans (hmine hmem))⟩
          · refine .inl ?_
            rw [Fds.closeNumbers, if_neg (by simpa using hy), hd]
        · exact .inl hd

/-- The thread receives the request on number 1. -/
theorem acts_on_own_request : ∃ s t, Run (Daemon.step .oneLetter) anyStep boot
    (startUp ++ handsOver ++ adds ++ answers ++ asks) s ∧
      s.step .oneLetter (.env 0 (.recv 1 (.ok [98]) true)) = some t ∧
      ActsOnOwn s t 0 (.recv 1 (.ok [98]) true) := by
  have hexec : (exec (Daemon.step .oneLetter) (fun _ _ => true) boot
      (startUp ++ handsOver ++ adds ++ answers ++ asks)).any (fun s =>
        (s.step .oneLetter (.env 0 (.recv 1 (.ok [98]) true))).isSome) := by decide
  obtain ⟨s, hr, hp⟩ := Run.of_exec_any (fun _ _ _ => trivial) hexec
  obtain ⟨t, ht⟩ := Option.isSome_iff_exists.mp hp
  exact ⟨s, t, hr, ht, acts_on_own hr ht⟩

end Daemon
end Garnd
