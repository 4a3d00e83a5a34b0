import Garnd.Requests

/- What becomes of the duplicate that `insert_socket` passes to an environment thread,
   from the moment it is in the channel until the answer is received: it waits, or the
   thread has added it, or it was closed and the thread refuses or has left
   (`Fate`). So a client that is attached was registered (`Daemon.Attachments`), and
   one that is refused has no descriptor left. -/
namespace Garnd
open Transition

/-- The request whose duplicate has been sent to the thread. -/
def WelcomePc.passing : WelcomePc → Option Attaching
  | .insertWrite a | .insertRecv a => some a
  | _ => none

/-- The answer the thread is about to give or has given is an error. -/
def Env.Refusing (e : Env) : Prop :=
  (∃ err rest, e.pc = .respond (.error err) rest) ∨ ∃ err, e.syncResponse.queue = [.error err]

/-- No descriptor of the connection is left but the welcome thread's. -/
def Fds.Alone (f : Fds) (c : ConnId) : Prop := ∀ y h, f y = some ⟨.conn c, h⟩ → h = .welcome

theorem Env.Attached.interrupt {e : Env} {o : Owner} {mark : ℕ} (h : e.Attached o mark) (interrupted : Bool) :
    Env.Attached { e with interrupted := interrupted } o mark :=
  ⟨⟨h.wired.owner, h.wired.ownerRx, h.wired.thread, h.wired.threadRx⟩,
    ⟨h.batched.once, h.batched.alone⟩, h.inv⟩

/-- What a thread that is serving its `add_listener_event` is doing for the owner. -/
theorem Env.Attached.owed {e : Env} {o : Owner} {mark : ℕ} {x : RawFd} (h : e.Attached o mark)
    (ho : o = .writing x ∨ o = .waiting x) (hl : e.pc.left = false) (hb : e.pc.adding = true) :
    Rendezvous.Owed (.ok ()) isErr (e.rendezvous o mark) x := by
  have hserver : (e.rendezvous o mark).server ≠ .left := by
    intro hserver
    rw [EnvPc.left_of_server hserver] at hl
    cases hl
  rcases ho with rfl | rfl
  · have hlive := h.inv.live hserver
    have hrun : (e.rendezvous (.writing x) mark).server = .running false := hlive.1
    cases hpc : e.pc <;> simp_all [EnvPc.adding, Env.rendezvous, EnvPc.server]
  · exact h.inv.owed_of rfl hserver

/-- It adds the descriptor that was passed, and has answered nothing yet. -/
theorem Env.Attached.serving {e : Env} {o : Owner} {mark : ℕ} {x listener : RawFd} {rest : List Event}
    (h : e.Attached o mark) (ho : o = .writing x ∨ o = .waiting x)
    (hpc : e.pc = .addEpoll listener rest) :
    listener = x ∧ e.syncResponse.queue = [] ∧ e.added.length = mark := by
  have hserver : (e.rendezvous o mark).server = .serving listener := by
    simp only [Env.rendezvous, hpc]
    rfl
  cases h.owed ho (by rw [hpc]; rfl) (by rw [hpc]; rfl) with
  | serving hs' _ _ hresp hlen =>
    rw [hserver] at hs'
    cases hs'
    exact ⟨rfl, hresp, by simpa only [Env.rendezvous, List.length_map] using hlen⟩
  | pending _ hs' => rw [hserver] at hs'; rcases hs' with hs' | hs' <;> cases hs'
  | draining hs' | served hs' | answering hs' | answered hs' => rw [hserver] at hs'; cases hs'

/-- It answers when the channel is empty. -/
theorem Env.Attached.answering {e : Env} {o : Owner} {mark : ℕ} {x : RawFd}
    {result : Except DetailedError Unit} {rest : List Event} (h : e.Attached o mark)
    (ho : o = .writing x ∨ o = .waiting x) (hpc : e.pc = .respond result rest) :
    e.addListener.queue = [] ∧ e.syncResponse.queue = [] := by
  have hserver : (e.rendezvous o mark).server = .answering result := by
    simp only [Env.rendezvous, hpc]
    rfl
  cases h.owed ho (by rw [hpc]; rfl) (by rw [hpc]; rfl) with
  | answering _ _ hreq hresp => exact ⟨hreq, hresp⟩
  | pending _ hs' => rw [hserver] at hs'; rcases hs' with hs' | hs' <;> cases hs'
  | draining hs' | served hs' | serving hs' | answered hs' => rw [hserver] at hs'; cases hs'

/-- It reads the event that was raised for the call. -/
theorem Env.Attached.raised {e : Env} {o : Owner} {mark : ℕ} {x : RawFd} {rest : List Event}
    (h : e.Attached o mark) (ho : o = .writing x ∨ o = .waiting x) (hpc : e.pc = .addRead rest) :
    EventFd.read e.addEvent ≠ none := by
  intro hr
  have hserver : (e.rendezvous o mark).server = .reading := by
    simp only [Env.rendezvous, hpc]
    rfl
  have hz : (e.rendezvous o mark).event = 0 := EventFd.read_eq_none.mp hr
  cases h.owed ho (by rw [hpc]; rfl) (by rw [hpc]; rfl) with
  | pending _ _ hone =>
    rw [hz] at hone
    cases hone
  | draining hs' | serving hs' | served hs' | answering hs' | answered hs' =>
    rw [hserver] at hs'
    cases hs'

namespace Daemon
variable {P : Externals} {s t u : Daemon} {i : EnvId} {e e' : Env} {a : Attaching} {c : ConnId}
  {mark : ℕ}

/-- The fate of the duplicate that is passed for the connection: it waits for the thread,
it was added, or it was closed. -/
inductive Fate (f : Fds) (a : Attaching) (c : ConnId) (e : Env) (mark : ℕ) : Prop
  | waits : f a.passed = some ⟨.conn c, .queue a.id⟩ → e.added.length = mark →
      e.syncResponse.queue = [] → Fate f a c e mark
  | added {before} : e.added = before ++ [(a.passed, c)] → before.length = mark → Fate f a c e mark
  | closed : f.Alone c → e.added.length = mark →
      (e.addListener.receiver = false ∨ e.Refusing) → Fate f a c e mark

/-! ## The steps of the thread -/

/-- A socket that still waits after a step is the descriptor it was. -/
theorem queue_kept {b : Act} {x : RawFd} (h : s.Accounted) (hs : s.step P b = some t)
    (hi : t.envs i = some e) (hx : s.fds x = some ⟨.conn c, .queue i⟩) (hw : x ∈ e.waiting) :
    t.fds x = some ⟨.conn c, .queue i⟩ := by
  rw [← waitingAt_eq hi, (h.step hs).held.queue] at hw
  obtain ⟨file, hx'⟩ := Fds.heldBy_iff.mp hw
  obtain rfl : file = .conn c := keepsFiles_step hs x _ _ hx hx'
  exact hx'

/-- Where the descriptor that waits is closed, the welcome thread's are the only ones. -/
theorem Connected.alone {x : RawFd} {g : Fds} (h : s.Connected)
    (hx : s.fds x = some ⟨.conn c, .queue i⟩) (hg : s.fds.Shrinks g)
    (hclosed : ∀ h', g x ≠ some ⟨.conn c, h'⟩) : g.Alone c := by
  intro y h' hy
  by_contra hw
  have hy' := hg y _ hy
  have hhome := (h.homed y c h' hy' hw).symm.trans (h.homed x c _ hx nofun)
  have hyx : y = x := h.once y x c h' _ hy' hx (by rw [hhome]; nofun) nofun
  exact hclosed h' (hyx ▸ hy)

/-- The descriptor waits: the thread takes it, and adds or closes it. -/
theorem Fate.thread_waits {o : Owner} {b : EnvAct} (hx : s.fds a.passed = some ⟨.conn c, .queue a.id⟩)
    (hlen : e.added.length = mark) (hresp : e.syncResponse.queue = []) (hatt : e.Attached o mark)
    (ho : o = .writing a.passed ∨ o = .waiting a.passed) (hacc : s.Accounted)
    (hi : s.envs a.id = some e) (hst : e.step P b = some e') (he : EnvEffect P s a.id e e' b u)
    (hs : s.step P (.env a.id b) = some { u with envs := Function.update s.envs a.id (some e') }) :
    Fate u.fds a c e' mark := by
  have hmem := hacc.held.of_queue hi hx
  have keep (hw : e'.waiting = e.waiting) (hadd : e'.added = e.added)
      (hsync : e'.syncResponse.queue = e.syncResponse.queue) : Fate u.fds a c e' mark := by
    have hkept := queue_kept hacc hs (Function.update_self ..) hx (hw ▸ hmem)
    exact .waits hkept (hadd ▸ hlen) (hsync ▸ hresp)
  have idle {pc pc' : EnvPc} (hpc : e.pc = pc) (hpc' : e'.pc = pc') (ht : pc'.taken = pc.taken)
      (hq : e'.addListener.queue = e.addListener.queue) (hadd : e'.added = e.added)
      (hsync : e'.syncResponse.queue = e.syncResponse.queue) : Fate u.fds a c e' mark :=
    keep (by rw [Env.waiting, Env.waiting, hpc, hpc', ht, hq]) hadd hsync
  cases Env.step_moves hst with
  | sendError => exact idle rfl rfl rfl rfl rfl rfl
  | allocNew _ hpc | allocFails _ hpc | allocPanics _ hpc | epollNew _ hpc | epollNewFails _ hpc
  | epollAddFails _ hpc | wait _ hpc | waitFails _ hpc | batchOver _ hpc | addEvent _ hpc
  | dropEvent _ hpc | lastGone _ hpc | oneGone _ hpc | readable _ hpc | addRead _ hpc
  | addPanics _ hpc | dropRead _ hpc | dropReadFails _ hpc | recvFails _ hpc | recv _ hpc
  | recvMalformed _ hpc | recvUnanswered _ hpc | openMutex _ hpc | openMutexPanics _ hpc
  | send _ hpc | sendFails _ hpc | closeSend _ hpc | closeWrite _ hpc | leave _ hpc =>
    exact idle hpc rfl rfl rfl rfl rfl
  | epollAdd _ hpc | dropSync _ hpc =>
    refine idle hpc rfl ?_ rfl rfl rfl
    dsimp only
    split <;> rfl
  | addTake _ hpc hr =>
    obtain ⟨q, hq⟩ := Channel.tryRecv_eq_got.mp hr
    exact keep (by simp [Env.waiting, EnvPc.taken, hpc, Channel.rest, hq]) rfl rfl
  | @addEpoll listener source rest _ hpc =>
    obtain ⟨rfl, -, -⟩ := hatt.serving ho hpc
    cases he with
    | plain hp => cases hp
    | addEpoll hc =>
      cases (connAt_eq hx).symm.trans hc
      exact .added rfl hlen
  | @addEpollFails listener errno rest _ hpc =>
    obtain ⟨rfl, -, -⟩ := hatt.serving ho hpc
    cases he with
    | plain hp => cases hp
    | addEpollFails =>
      refine .closed (hacc.connected.alone hx Fds.shrinks_closeHeld fun h' hy => ?_) hlen
        (.inr (.inl ⟨_, _, rfl⟩))
      simp [Fds.closeHeld, hx] at hy
  | addEmpty _ hpc hr =>
    obtain ⟨hq, -⟩ := Channel.tryRecv_eq_empty.mp hr
    rw [Env.waiting, hpc, hq] at hmem
    cases hmem
  | addReadFails _ hpc hr =>
    exact absurd hr (hatt.raised ho hpc)
  | respond _ hpc | respondFails _ hpc =>
    rw [Env.waiting, hpc, (hatt.answering ho hpc).1] at hmem
    cases hmem
  | dropListener _ hpc =>
    cases he with
    | plain hp => cases hp
    | dropListener =>
      refine .closed (hacc.connected.alone hx Fds.shrinks_closeAll fun h' hy => ?_) hlen (.inl rfl)
      simp [Fds.closeAll, hx] at hy

/-- The descriptor is closed: the thread answers with the error, or has left. -/
theorem Fate.thread_closed {o : Owner} {b : EnvAct} (halone : s.fds.Alone c)
    (hlen : e.added.length = mark) (hdone : e.addListener.receiver = false ∨ e.Refusing)
    (hatt : e.Attached o mark) (ho : o = .writing a.passed ∨ o = .waiting a.passed)
    (hst : e.step P b = some e') (he : EnvEffect P s a.id e e' b u) : Fate u.fds a c e' mark := by
  have hopen : o ≠ .closed := by rcases ho with rfl | rfl <;> simp
  have hold {y : RawFd} {h' : Holder} (hy : u.fds y = some ⟨.conn c, h'⟩)
      (halone : s.fds.Alone c) : h' = .welcome := by
    rcases he.opened hy with hy | ⟨-, hy, -⟩
    · exact halone y h' hy
    · cases halone y _ hy
  have keep (hadd : e'.added = e.added)
      (hdone' : e'.addListener.receiver = false ∨ e'.Refusing) : Fate u.fds a c e' mark :=
    .closed (fun y h' hy => hold hy halone) (hadd ▸ hlen) hdone'
  have idle {pc : EnvPc} (hpc : e.pc = pc) (hno : ∀ result rest, pc ≠ .respond result rest)
      (hrx : e'.addListener.receiver = e.addListener.receiver) (hadd : e'.added = e.added)
      (hsync : e'.syncResponse.queue = e.syncResponse.queue) : Fate u.fds a c e' mark := by
    refine keep hadd ?_
    rcases hdone with hdone | ⟨err, rest, hr⟩ | ⟨err, hq⟩
    · exact .inl (hrx ▸ hdone)
    · exact absurd (hpc.symm.trans hr) (hno _ _)
    · exact .inr (.inr ⟨err, hsync ▸ hq⟩)
  cases Env.step_moves hst with
  | sendError => exact keep rfl hdone
  | allocNew _ hpc | allocFails _ hpc | allocPanics _ hpc | epollNew _ hpc | epollNewFails _ hpc
  | epollAdd _ hpc | epollAddFails _ hpc | wait _ hpc | waitFails _ hpc | batchOver _ hpc
  | addEvent _ hpc | dropEvent _ hpc | lastGone _ hpc | oneGone _ hpc | readable _ hpc
  | addRead _ hpc | addReadFails _ hpc | addTake _ hpc | addEmpty _ hpc | addEpollFails _ hpc
  | addPanics _ hpc | dropRead _ hpc | dropReadFails _ hpc | recvFails _ hpc | recv _ hpc
  | recvMalformed _ hpc | recvUnanswered _ hpc | openMutex _ hpc | openMutexPanics _ hpc
  | send _ hpc | sendFails _ hpc | closeSend _ hpc | closeWrite _ hpc | leave _ hpc
  | dropSync _ hpc =>
    exact idle hpc (by simp) rfl rfl rfl
  | addEpoll _ hpc =>
    obtain ⟨-, hresp, -⟩ := hatt.serving ho hpc
    rcases hdone with hdone | ⟨err, rest, hr⟩ | ⟨err, hq⟩
    · have hleft := hatt.wired.threadRx hdone
      rw [hpc] at hleft
      cases hleft
    · rw [hpc] at hr
      cases hr
    · rw [hresp] at hq
      cases hq
  | @respond result rest chan _ hpc hsend =>
    obtain ⟨-, rfl⟩ := Channel.send_eq_some.mp hsend
    refine keep rfl ?_
    rcases hdone with hdone | ⟨err, rest', hr⟩ | ⟨err, hq⟩
    · exact .inl hdone
    · rw [hpc] at hr
      cases hr
      exact .inr (.inr ⟨err, by simp [(hatt.answering ho hpc).2]⟩)
    · rw [(hatt.answering ho hpc).2] at hq
      cases hq
  | respondFails _ hpc hsend =>
    exact absurd (hatt.wired.ownerRx.mp (Channel.send_eq_none.mp hsend)) hopen
  | dropListener => exact keep rfl (.inl rfl)

/-- The steps of the thread do not answer or receive for a socket that waits but by taking
it. -/
theorem Fate.thread {o : Owner} {b : EnvAct} (h : Fate s.fds a c e mark) (hatt : e.Attached o mark)
    (ho : o = .writing a.passed ∨ o = .waiting a.passed) (hacc : s.Accounted)
    (hi : s.envs a.id = some e) (hst : e.step P b = some e') (he : EnvEffect P s a.id e e' b u)
    (hs : s.step P (.env a.id b) = some { u with envs := Function.update s.envs a.id (some e') }) :
    Fate u.fds a c e' mark := by
  cases h with
  | waits hx hlen hresp => exact thread_waits hx hlen hresp hatt ho hacc hi hst he hs
  | added hadd hlen =>
    cases Env.step_moves hst with
    | addEpoll _ hpc =>
      obtain ⟨-, -, hlen'⟩ := hatt.serving ho hpc
      rw [hadd, List.length_append, hlen] at hlen'
      simp at hlen'
    | _ => exact .added hadd hlen
  | closed halone hlen hdone => exact thread_closed halone hlen hdone hatt ho hst he

/-! ## The steps of the others -/

/-- The others open no descriptor of a connection, but that a thread puts a socket it has
taken into its `SocketSet`. -/
theorem opened_aside {b : Act} {y : RawFd} {h' : Holder} (hs : s.step P b = some t)
    (hb : ∀ b', b ≠ .welcome b') (hy : t.fds y = some ⟨.conn c, h'⟩) :
    s.fds y = some ⟨.conn c, h'⟩ ∨
      ∃ i source, b = .env i (.addEpoll y (.ok source)) ∧ s.fds y = some ⟨.conn c, .queue i⟩ ∧
        h' = .socket i := by
  obtain ⟨-, hp⟩ := step_party hs
  cases hp with
  | main hm => exact .inl (hm.shrinks y _ hy)
  | welcome => exact absurd rfl (hb _)
  | env _ _ he =>
    refine (he.opened hy).imp_right ?_
    rintro ⟨⟨source, rfl⟩, hq, rfl⟩
    exact ⟨_, source, rfl, hq, rfl⟩
  | client => exact .inl hy
  | signal _ hm => exact .inl (hm.fds_eq ▸ hy)

/-- The welcome thread opens none of a connection that was passed on. -/
theorem homed_opened {b : Act} {y : RawFd} {h' : Holder} (hacc : s.Accounted)
    (hs : s.step P b = some t) (hhome : homeOf s.conns c ≠ none)
    (hy : t.fds y = some ⟨.conn c, h'⟩) : s.fds y = some ⟨.conn c, h'⟩ ∨
      ∃ i source, b = .env i (.addEpoll y (.ok source)) ∧ s.fds y = some ⟨.conn c, .queue i⟩ ∧
        h' = .socket i := by
  by_cases hb : ∃ b', b = .welcome b'
  · obtain ⟨b', rfl⟩ := hb
    obtain ⟨-, hp⟩ := step_party hs
    cases hp with
    | welcome hm he => exact .inl ((he.opened hm hacc hy).resolve_right hhome)
  · exact opened_aside hs (fun b' hb' => hb ⟨b', hb'⟩) hy

/-- A connection of which the welcome thread has the only descriptors keeps to that. -/
theorem alone_step {b : Act} (hacc : s.Accounted) (hs : s.step P b = some t)
    (hhome : homeOf s.conns c ≠ none) (h : s.fds.Alone c) : t.fds.Alone c := by
  intro y h' hy
  rcases homed_opened hacc hs hhome hy with hy | ⟨i, source, -, hy, -⟩
  · exact h y h' hy
  · cases h y _ hy

/-- What the others leave of an environment: a signal handler may run on its thread. -/
theorem env_untouched {b : Act} (hs : s.step P b = some t) (hi : s.envs i = some e)
    (hw : ∀ a, b ≠ .welcome a) (hb : ∀ a, b ≠ .env i a) :
    ∃ interrupted, t.envs i = some { e with interrupted := interrupted } := by
  have still (h : t.envs i = s.envs i) :
      ∃ interrupted, t.envs i = some { e with interrupted := interrupted } := ⟨_, h.trans hi⟩
  obtain ⟨-, hp⟩ := step_party hs
  cases hp with
  | main hm => exact still (congrFun hm.envs_eq i)
  | welcome => exact absurd rfl (hw _)
  | @env j b' =>
    have hij : i ≠ j := fun hij => hb b' (by rw [hij])
    exact still (Function.update_of_ne hij ..)
  | client => exact still rfl
  | @signal sig thread interrupts _ _ hm =>
    obtain ⟨shutdown, reload, terminated, reloaded, hshape⟩ := s.handler_shape sig
    cases hm with
    | handled | poll => exact still (by rw [hshape])
    | @wait j f hj =>
      by_cases hij : i = j
      · subst hij
        cases hi.symm.trans hj
        exact ⟨true, Function.update_self ..⟩
      · exact still (Function.update_of_ne hij ..)

/-- A step that leaves alone what the thread and its owner share. -/
theorem Fate.other {b : Act} (h : Fate s.fds a c e mark) (hacc : s.Accounted)
    (hs : s.step P b = some t) (hhome : homeOf s.conns c ≠ none) (hi : s.envs a.id = some e)
    (hi' : t.envs a.id = some e') (hpc : e'.pc = e.pc) (hadd : e'.added = e.added)
    (hchan : e'.addListener = e.addListener) (hsync : e'.syncResponse = e.syncResponse) :
    Fate t.fds a c e' mark := by
  cases h with
  | waits hx hlen hresp =>
    have hmem := hacc.held.of_queue hi hx
    have hkept := queue_kept hacc hs hi' hx (by rwa [Env.waiting, hpc, hchan])
    exact .waits hkept (hadd ▸ hlen) (hsync ▸ hresp)
  | added hpair hlen => exact .added (hadd ▸ hpair) hlen
  | closed halone hlen hdone =>
    refine .closed (alone_step hacc hs hhome halone) (hadd ▸ hlen) ?_
    simpa only [Env.Refusing, hpc, hchan, hsync] using hdone

/-! ## What the calls come to -/

/-- What a step records of `insert_socket` returning `Ok`, and of a response. -/
def attaches (s : Daemon) : Act → List (ConnId × EnvId)
  | .welcome (.insertRecv r _) =>
    match s.welcome.pc with
    | .insertRecv a => s.attaching a r
    | _ => []
  | _ => []

def replies (s : Daemon) : Act → List (ConnId × WelcomeResponse)
  | .welcome (.send (.ok ())) =>
    match s.welcome.pc with
    | .send fd response _ _ _ => s.answering fd response
    | _ => []
  | _ => []

theorem recorded_step {b : Act} (hs : s.step P b = some t) :
    t.history.attached = s.history.attached ++ s.attaches b ∧
      t.history.answers = s.history.answers ++ s.replies b := by
  have still {l l' : List (ConnId × EnvId)} {r r' : List (ConnId × WelcomeResponse)}
      (hl : l = l') (hr : r = r') : l = l' ++ [] ∧ r = r' ++ [] := by simp [hl, hr]
  obtain ⟨-, hp⟩ := step_party hs
  cases hp with
  | main hm => cases hm <;> exact still rfl rfl
  | @welcome b _ _ _ he =>
    cases he with
    | plain hp =>
      cases b with
      | send r =>
        cases r with
        | ok => cases hp
        | error => exact still rfl rfl
      | insertRecv => cases hp
      | _ => exact still rfl rfl
    | insertRecv hpc =>
      refine ⟨?_, (List.append_nil _).symm⟩
      simp only [attaches, hpc]
    | send hpc =>
      refine ⟨(List.append_nil _).symm, ?_⟩
      simp only [replies, hpc]
    | _ => exact still rfl rfl
  | env _ _ he => cases he <;> exact still rfl rfl
  | client => exact still rfl rfl
  | @signal sig _ _ _ _ hm =>
    obtain ⟨shutdown, reload, terminated, reloaded, hshape⟩ := s.handler_shape sig
    cases hm <;> rw [hshape] <;> exact still rfl rfl

/-- What has been added stays added. -/
theorem added_step {b : Act} (hs : s.step P b = some t) (hi : s.envs i = some e)
    (hi' : t.envs i = some e') : e.added <+: e'.added := by
  cases env_change hs hi' with
  | same hj hsame =>
    cases hi.symm.trans hj
    rw [hsame.added]
  | thread hj hst =>
    cases hi.symm.trans hj
    cases Env.step_moves hst with
    | addEpoll => exact List.prefix_append _ _
    | _ => exact List.prefix_refl _
  | made hnone =>
    rw [hi] at hnone
    cases hnone

/-- The duplicate that was passed for the connection has its fate. -/
structure Handed (s : Daemon) (a : Attaching) (c : ConnId) : Prop where
  home : homeOf s.conns c = some a.id
  fate : ∃ e mark, s.envs a.id = some e ∧ e.Attached (s.welcome.pc.stage.call a.id) mark ∧
    Fate s.fds a c e mark

/-- Whoever is attached was added, and whoever is granted the request is attached. -/
structure Attachments (s : Daemon) : Prop where
  handed : ∀ a c, s.welcome.pc.passing = some a → s.connAt a.fd = some c → s.Handed a c
  attached : ∀ c i, (c, i) ∈ s.history.attached →
    homeOf s.conns c = some i ∧ ∃ e x, s.envs i = some e ∧ (x, c) ∈ e.added
  granted : ∀ fd errors abandon fds c, s.welcome.pc = .send fd .openEnvironmentOk errors abandon fds →
    s.connAt fd = some c → ∃ i, (c, i) ∈ s.history.attached
  answered : ∀ c, (c, .openEnvironmentOk) ∈ s.history.answers → ∃ i, (c, i) ∈ s.history.attached

theorem attachments_boot : boot.Attachments := ⟨nofun, nofun, nofun, nofun⟩

end Daemon

/-- The duplicate is in the channel once it is sent, until the answer is received. -/
theorem Welcome.Moves.passing {P : Externals} {w w' : Welcome} {b : WelcomeAct} {a : Attaching}
    (hm : Welcome.Moves P w b w') (ha : w'.pc.passing = some a) :
    (b = .insertSend true ∧ w.pc = .insertSend a ∧ w'.pc = .insertWrite a) ∨
      (b = .insertWrite true ∧ w.pc = .insertWrite a ∧ w'.pc = .insertRecv a) ∨
      ∃ err, b = .sendError err ∧ w'.pc = w.pc := by
  have aside (h : w'.pc.aside = true) : False := by
    cases hpc : w'.pc with
    | insertWrite | insertRecv =>
      rw [hpc] at h
      cases h
    | _ =>
      rw [hpc] at ha
      cases ha
  cases hm with
  | sendError => exact .inr (.inr ⟨_, rfl, rfl⟩)
  | insertSend _ hpc =>
    cases ha
    exact .inl ⟨rfl, hpc, rfl⟩
  | insertWrite _ hpc =>
    cases ha
    exact .inr (.inl ⟨rfl, hpc, rfl⟩)
  | drainUnbound _ hpc | drainDisconnected _ hpc =>
    simp only [hpc, WelcomePc.passing] at ha
    cases ha
  | poll => exact absurd onPoll_aside aside
  | drainEmpty => exact absurd onWelcome_aside aside
  | root | getsockoptFails | recvFails | recvUnanswered | send | close => exact absurd closing_aside aside
  | join | joinPanics => exact absurd resume_aside aside
  | @inserted at' serializes => cases serializes <;> cases ha
  | _ => cases ha

/-- `OpenEnvironmentOk` is sent when `insert_socket` has returned `Ok`. -/
theorem Welcome.Moves.grants {P : Externals} {w w' : Welcome} {b : WelcomeAct} {fd : RawFd}
    {errors : List DetailedError} {abandon : Option EnvId} {fds : List RawFd}
    (hm : Welcome.Moves P w b w') (hpc' : w'.pc = .send fd .openEnvironmentOk errors abandon fds) :
    (∃ a, b = .insertRecv (some (.ok ())) true ∧ w.pc = .insertRecv a ∧ fd = a.fd) ∨
      ∃ err, b = .sendError err ∧ w'.pc = w.pc := by
  have aside (h : w'.pc.aside = true) : False := by
    rw [hpc'] at h
    cases h
  cases hm with
  | sendError => exact .inr ⟨_, rfl, rfl⟩
  | @inserted at' serializes _ hpc =>
    cases serializes with
    | true =>
      cases hpc'
      exact .inl ⟨_, rfl, hpc, rfl⟩
    | false => cases hpc'
  | drainUnbound _ hpc | drainDisconnected _ hpc => cases hpc.symm.trans hpc'
  | poll => exact absurd onPoll_aside aside
  | drainEmpty => exact absurd onWelcome_aside aside
  | root | getsockoptFails | recvFails | recvUnanswered | send | close => exact absurd closing_aside aside
  | join | joinPanics => exact absurd resume_aside aside
  | _ => cases hpc'

namespace Daemon
variable {P : Externals} {s t u : Daemon} {i : EnvId} {e e' : Env} {a : Attaching} {c : ConnId}
  {mark : ℕ}

theorem call_of_passing {pc : WelcomePc} (h : pc.passing = some a) :
    pc.stage.call a.id = .writing a.passed ∨ pc.stage.call a.id = .waiting a.passed := by
  cases pc with
  | insertWrite =>
    cases h
    exact .inl (if_pos rfl)
  | insertRecv =>
    cases h
    exact .inr (if_pos rfl)
  | _ => cases h

/-- The thread, the clients, the signals and the other threads. -/
theorem Handed.other {b : Act} (h : s.Handed a c) (hacc : s.Accounted) (hs : s.step P b = some t)
    (hb : ∀ b', b ≠ .welcome b') (hpc : t.welcome.pc = s.welcome.pc)
    (ha : s.welcome.pc.passing = some a) : t.Handed a c := by
  obtain ⟨e, mark, hi, hatt, hfate⟩ := h.fate
  have hhome : homeOf s.conns c ≠ none := by
    rw [h.home]
    nofun
  refine ⟨home_kept hacc hs h.home, ?_⟩
  rw [hpc]
  by_cases hown : ∃ b', b = .env a.id b'
  · obtain ⟨b', rfl⟩ := hown
    obtain ⟨-, hp⟩ := step_party hs
    cases hp with
    | env hj hst he =>
      cases hi.symm.trans hj
      have hthread := hfate.thread hatt (call_of_passing ha) hacc hi hst he hs
      exact ⟨_, mark, Function.update_self .., hatt.thread hst, hthread⟩
  · obtain ⟨interrupted, hi'⟩ := env_untouched hs hi hb fun b' hb' => hown ⟨b', hb'⟩
    exact ⟨_, mark, hi', hatt.interrupt interrupted,
      hfate.other hacc hs hhome hi hi' rfl rfl rfl rfl⟩

/-- The duplicate is sent. -/
theorem Accounted.handed {at' : Attaching} (hacc : s.Accounted)
    (hs : s.step P (.welcome (.insertSend true)) = some t) (hpc : s.welcome.pc = .insertSend at')
    (hpc' : t.welcome.pc = .insertWrite at') (hc : s.connAt at'.fd = some c) : t.Handed at' c := by
  have hpassed : s.fds at'.passed = some ⟨.conn c, .welcome⟩ := by
    obtain ⟨c₁, hc₁⟩ := hacc.connected.conn_of_welcome (hacc.held.of_passed hpc)
    have hfd := hacc.passing hpc (connAt_eq hc₁)
    cases hc.symm.trans hfd
    exact hc₁
  obtain ⟨-, hp⟩ := step_party hs
  cases hp with
  | welcome _ he =>
    cases he with
    | plain hp => cases hp
    | @insertSend _ e e' hpc₁ hi hsend =>
      cases hpc.symm.trans hpc₁
      have hat : s.welcome.pc.attaching = some at' := by rw [hpc]; rfl
      have hopen := (hacc.instances.kept _ _ hi (hacc.instances.keeper.keeps hat)).2
      obtain ⟨mark, hatt⟩ := (hacc.instances.sound _ _ hi).attached
      simp only [Welcome.owner, hopen, if_false, hpc, WelcomePc.stage, Stage.attaching, if_true] at hatt
      have hquiet : e.syncResponse.queue = [] := by
        by_cases hserver : (e.rendezvous .idle mark).server = .left
        · exact hatt.inv.dead hserver
        · exact (hatt.inv.live hserver).2.2.2
      have hsame := Env.sameThread_insertSend hsend
      obtain ⟨chan, -, rfl⟩ := Option.map_eq_some_iff.mp hsend
      refine ⟨?_, _, e.added.length, Function.update_self .., ?_, .waits ?_ rfl hquiet⟩
      · obtain ⟨conn, hconn⟩ := Option.ne_none_iff_exists'.mp (hacc.connected.known _ c _ hpassed)
        simp [homeOf, connAt_eq hpassed, hconn]
      · rw [hpc']
        simpa only [WelcomePc.stage, Stage.attaching, if_true] using hatt.insertSend hsend
      · show s.fds.pass _ _ _ _ = _
        rw [Fds.pass_eq hpassed, Function.update_self]

theorem Attachments.handed_step {b : Act} (h : s.Attachments) (hacc : s.Accounted)
    (hs : s.step P b = some t) (ha : t.welcome.pc.passing = some a) (hc : t.connAt a.fd = some c) :
    t.Handed a c := by
  by_cases hb : ∃ b', b = .welcome b'
  · obtain ⟨b', rfl⟩ := hb
    have hmoves : ∃ w, Welcome.Moves P s.welcome b' w ∧ t.welcome = w := by
      obtain ⟨-, hp⟩ := step_party hs
      cases hp with
      | welcome hm => exact ⟨_, hm, rfl⟩
    obtain ⟨w, hm, rfl⟩ := hmoves
    rcases hm.passing ha with ⟨rfl, hpc, hpc'⟩ | ⟨rfl, hpc, hpc'⟩ | ⟨err, rfl, hpc'⟩
    · have hconn := (connAt_before hs hc).resolve_right
        (by rintro (⟨heq, -⟩ | ⟨-, -, -, heq, -⟩) <;> cases heq)
      exact hacc.handed hs hpc hpc' hconn
    · have hconn := (connAt_before hs hc).resolve_right
        (by rintro (⟨heq, -⟩ | ⟨-, -, -, heq, -⟩) <;> cases heq)
      have hold := h.handed a c (by rw [hpc]; rfl) hconn
      obtain ⟨e, mark, hi, hatt, hfate⟩ := hold.fate
      have hhome : homeOf s.conns c ≠ none := by
        rw [hold.home]
        nofun
      obtain ⟨e', hi', hwrite⟩ : ∃ e', t.envs a.id = some e' ∧ e.insertWrite = some e' := by
        obtain ⟨-, hp⟩ := step_party hs
        cases hp with
        | welcome _ he =>
          cases he with
          | plain hp => cases hp
          | insertWrite hpc₁ hi₁ hwrite =>
            cases hpc.symm.trans hpc₁
            cases hi.symm.trans hi₁
            exact ⟨_, Function.update_self .., hwrite⟩
      rw [hpc] at hatt
      simp only [WelcomePc.stage, Stage.attaching, if_true] at hatt
      have hatt' := hatt.insertWrite hwrite
      obtain ⟨count, -, rfl⟩ := Option.map_eq_some_iff.mp hwrite
      refine ⟨home_kept hacc hs hold.home, _, mark, hi', ?_,
        hfate.other hacc hs hhome hi hi' rfl rfl rfl rfl⟩
      rw [hpc']
      simpa only [WelcomePc.stage, Stage.attaching, if_true] using hatt'
    · have hconn := (connAt_before hs hc).resolve_right
        (by rintro (⟨heq, -⟩ | ⟨-, -, -, heq, -⟩) <;> cases heq)
      have hold := h.handed a c (hpc' ▸ ha) hconn
      obtain ⟨e, mark, hi, hatt, hfate⟩ := hold.fate
      have hhome : homeOf s.conns c ≠ none := by
        rw [hold.home]
        nofun
      have hi' : t.envs a.id = some e := by
        obtain ⟨-, hp⟩ := step_party hs
        cases hp with
        | welcome _ he =>
          cases he with
          | plain hp => cases hp
          | sendError => exact hi
      refine ⟨home_kept hacc hs hold.home, e, mark, hi', ?_,
        hfate.other hacc hs hhome hi hi' rfl rfl rfl rfl⟩
      rw [hpc']
      exact hatt
  · rcases welcome_other hs fun b' hb' => hb ⟨b', hb'⟩ with hw | hw
    · rw [hw] at ha
      have hconn := (connAt_before hs hc).resolve_right
        (by rintro (⟨heq, -⟩ | ⟨-, -, -, heq, -⟩) <;> exact hb ⟨_, heq⟩)
      exact (h.handed a c ha hconn).other hacc hs (fun b' hb' => hb ⟨b', hb'⟩) hw ha
    · rw [hw] at ha
      cases ha

/-- A client whose `insert_socket` returns `Ok` was added. -/
theorem Handed.attached {serializes : Bool} (h : s.Handed a c)
    (hs : s.step P (.welcome (.insertRecv (some (.ok ())) serializes)) = some t)
    (hpc : s.welcome.pc = .insertRecv a) : ∃ e x, s.envs a.id = some e ∧ (x, c) ∈ e.added := by
  obtain ⟨e, mark, hi, hatt, hfate⟩ := h.fate
  have hgot : e.syncResponse.tryRecv = .got (.ok ()) := by
    obtain ⟨-, hp⟩ := step_party hs
    cases hp with
    | welcome _ he =>
      cases he with
      | plain hp => cases hp
      | insertRecv hpc₁ hi₁ hans =>
        cases hpc.symm.trans hpc₁
        cases hi.symm.trans hi₁
        simp only [answered] at hans
        split at hans
        · assumption
        · cases hans
  rw [hpc] at hatt
  simp only [WelcomePc.stage, Stage.attaching, if_true] at hatt
  obtain ⟨q, hq⟩ := Channel.tryRecv_eq_got.mp hgot
  cases hfate with
  | waits _ _ hresp =>
    rw [hresp] at hq
    cases hq
  | @added before hadd => exact ⟨e, a.passed, hi, by simp [hadd]⟩
  | closed _ hlen =>
    rcases hatt.outcome hgot with ⟨-, hdrop⟩ | ⟨⟨err, herr⟩, -⟩
    · rw [List.drop_eq_nil_of_le (by simp [hlen])] at hdrop
      cases hdrop
    · cases herr

theorem Attachments.step {b : Act} (h : s.Attachments) (hacc : s.Accounted)
    (hs : s.step P b = some t) : t.Attachments := by
  obtain ⟨hattached, hanswers⟩ := recorded_step hs
  -- what was recorded before the step holds after it
  have kept {c : ConnId} {i : EnvId} (hc : (c, i) ∈ s.history.attached) :
      homeOf t.conns c = some i ∧ ∃ e x, t.envs i = some e ∧ (x, c) ∈ e.added := by
    obtain ⟨hhome, e, x, hi, hx⟩ := h.attached c i hc
    obtain ⟨e', hi'⟩ := Option.ne_none_iff_exists'.mp (envs_known hs (i := i) (by rw [hi]; nofun))
    exact ⟨home_kept hacc hs hhome, e', x, hi', (added_step hs hi hi').subset hx⟩
  have still {c : ConnId} (hc : ∃ i, (c, i) ∈ s.history.attached) :
      ∃ i, (c, i) ∈ t.history.attached := by
    obtain ⟨i, hc⟩ := hc
    exact ⟨i, hattached ▸ List.mem_append_left _ hc⟩
  refine ⟨fun a c => h.handed_step hacc hs, fun c i hc => ?_, fun fd errors abandon fds c hpc hc => ?_,
    fun c hc => ?_⟩
  · rw [hattached] at hc
    rcases List.mem_append.mp hc with hc | hc
    · exact kept hc
    · unfold attaches at hc
      split at hc
      · split at hc
        · rename_i r serializes a hpc
          unfold attaching at hc
          split at hc
          · obtain ⟨c', hc', heq⟩ := List.mem_map.mp hc
            cases heq
            have hhanded := h.handed a c (by rw [hpc]; rfl) (Option.mem_toList.mp hc')
            obtain ⟨e, x, hi, hx⟩ := hhanded.attached hs hpc
            obtain ⟨e', hi'⟩ :=
              Option.ne_none_iff_exists'.mp (envs_known hs (i := a.id) (by rw [hi]; nofun))
            exact ⟨home_kept hacc hs hhanded.home, e', x, hi', (added_step hs hi hi').subset hx⟩
          · cases hc
        · cases hc
      · cases hc
  · have before (ha : ∀ x, b ≠ .welcome (.accept (.ok x)) ∧ b ≠ .welcome (.dup (.ok x))) :
        s.connAt fd = some c :=
      (connAt_before hs hc).resolve_right (by
        rintro (⟨heq, -⟩ | ⟨-, -, -, heq, -⟩)
        · exact (ha fd).1 heq
        · exact (ha fd).2 heq)
    by_cases hb : ∃ b', b = .welcome b'
    · obtain ⟨b', rfl⟩ := hb
      have hmoves : ∃ w, Welcome.Moves P s.welcome b' w ∧ t.welcome = w := by
        obtain ⟨-, hp⟩ := step_party hs
        cases hp with
        | welcome hm => exact ⟨_, hm, rfl⟩
      obtain ⟨w, hm, rfl⟩ := hmoves
      rcases hm.grants hpc with ⟨a, rfl, hpc₀, rfl⟩ | ⟨err, rfl, hpc₀⟩
      · have hconn := before fun x => ⟨nofun, nofun⟩
        refine ⟨a.id, hattached ▸ List.mem_append_right _ ?_⟩
        simp [attaches, hpc₀, attaching, hconn]
      · exact still (h.granted fd errors abandon fds c (hpc₀ ▸ hpc) (before fun x => ⟨nofun, nofun⟩))
    · rcases welcome_other hs fun b' hb' => hb ⟨b', hb'⟩ with hw | hw
      · have hconn := before fun x => ⟨fun heq => hb ⟨_, heq⟩, fun heq => hb ⟨_, heq⟩⟩
        exact still (h.granted fd errors abandon fds c (hw ▸ hpc) hconn)
      · cases hw.symm.trans hpc
  · rw [hanswers] at hc
    rcases List.mem_append.mp hc with hc | hc
    · exact still (h.answered c hc)
    · unfold replies at hc
      split at hc
      · split at hc
        · rename_i fd response errors abandon fds hpc
          obtain ⟨c', hc', heq⟩ := List.mem_map.mp hc
          cases heq
          exact still (h.granted fd errors abandon fds c hpc (Option.mem_toList.mp hc'))
        · cases hc
      · cases hc

end Daemon
end Garnd
