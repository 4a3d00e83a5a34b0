import Garnd.Calls
import Garnd.Signals

/- Nobody who is attached is thrown out. An announcement carries the name of an
   environment only, so a late one could be taken for one of the instance that has the
   name now. It never is (`Registry.Inv.taken`): every announcement of an earlier
   instance is consumed before the name is bound again. What is left is that the thread
   of an instance the welcome thread keeps goes on as long as one of its clients is there
   (`Daemon.Staying`), and that the welcome thread keeps what is in its map until it has
   told `main` that it stops. -/
namespace Garnd
open Transition

namespace Welcome
variable {P : Externals} {w w' : Welcome} {a : WelcomeAct} {i : EnvId} {n : String}

/-- What the thread keeps it has kept before, or it has just made it. -/
theorem Moves.keeps (hm : Moves P w a w') (hk : w'.Keeps i) :
    w.Keeps i ∨ a = .envNew (.ok i) := by
  have still {pc : WelcomePc} {st : Stage} (hpc : w.pc = pc) (hst : w'.pc.stage = st)
      (henv : w'.environments = w.environments) (hkept : st.kept = none ∨ st.kept = pc.stage.kept)
      (ht : st.torn = [] ∨ st.torn = pc.stage.torn) : w.Keeps i ∨ a = .envNew (.ok i) :=
    .inl (Daemon.keeps_of (congrArg WelcomePc.stage hpc) hst henv hkept ht i hk)
  have moved {pc : WelcomePc} {v : Welcome} {st : Stage} (hpc : w.pc = pc) (hw : w' = v)
      (hst : v.pc.stage = st) (henv : v.environments = w.environments)
      (hkept : st.kept = none ∨ st.kept = pc.stage.kept) (ht : st.torn = [] ∨ st.torn = pc.stage.torn) :
      w.Keeps i ∨ a = .envNew (.ok i) :=
    still hpc (hw ▸ hst) (hw ▸ henv) hkept ht
  cases hm with
  | sendError => exact still rfl rfl rfl (.inr rfl) (.inr rfl)
  | drainUnbound | drainDisconnected => exact .inl hk
  | createEvent _ hpc | createEventFails _ hpc | listen _ hpc | listenFails _ hpc | pollFails _ hpc
  | shutdownRead _ hpc | reloadRead _ hpc | closeRead _ hpc | accept _ hpc | acceptFails _ hpc
  | notRoot _ hpc | recv _ hpc | recvMalformed _ hpc | occupied _ hpc | vacant _ hpc | dupFails _ hpc
  | envNewFails _ hpc | ended _ hpc =>
    exact still hpc rfl rfl (.inl rfl) (.inl rfl)
  | sendAbandon _ hpc => exact still hpc rfl rfl (.inr rfl) (.inl rfl)
  | insertSend _ hpc | insertWrite _ hpc => exact still hpc rfl rfl (.inr rfl) (.inl rfl)
  | dropWrite _ hpc | dropFields _ hpc => exact still hpc rfl rfl (.inl rfl) (.inr rfl)
  | poll _ hpc =>
    obtain ⟨pc, outbox, ctl, hw, -, hst, -⟩ := w.onPoll_shape _
    exact moved hpc hw hst rfl (.inl rfl) (.inl rfl)
  | drainEmpty _ hpc =>
    obtain ⟨pc, outbox, ctl, hw, -, hst, -⟩ := w.onWelcome_shape _
    exact moved hpc hw hst rfl (.inl rfl) (.inl rfl)
  | root _ hpc | getsockoptFails _ hpc | recvFails _ hpc | recvUnanswered _ hpc | send _ hpc
  | close _ hpc =>
    obtain ⟨pc, outbox, hw, hst, -⟩ := w.closing_shape _ _
    exact moved hpc hw hst rfl (.inl rfl) (.inl rfl)
  | @drainBound name _ j _ hpc hl =>
    rcases hk with ⟨n, hn⟩ | hk | hk
    · by_cases hnn : n = name
      · subst hnn
        simp at hn
      · exact .inl (.inl ⟨n, by rwa [AList.lookup_erase_ne hnn] at hn⟩)
    · obtain rfl := Option.some.inj hk
      exact .inl (.inl ⟨name, hl⟩)
    · cases hk
  | @envNew fd passed name j _ hpc =>
    rcases hk with hk | hk | hk
    · exact .inl (.inl hk)
    · obtain rfl := Option.some.inj hk
      exact .inr rfl
    · cases hk
  | insertSendFails _ hpc | insertWriteFails _ hpc | refused _ hpc | hungUp _ hpc =>
    refine still hpc (failInsert_stage _ _) rfl ?_ ?_ <;> split <;> rename_i hf
    · exact .inr (by simp [Stage.dropping, WelcomePc.stage, Stage.attaching, hf])
    · exact .inl rfl
    · exact .inl rfl
    · exact .inl rfl
  | @inserted at' serializes _ hpc =>
    have hst : (w.inserted at' serializes).pc.stage = .between .idle [] := by
      cases serializes <;> rfl
    have henv : (w.inserted at' serializes).environments =
        if at'.fresh then w.environments.insert at'.name at'.id else w.environments := by
      cases serializes <;> rfl
    rcases hk with ⟨n, hn⟩ | hk | hk
    · rw [henv] at hn
      split at hn
      · rename_i hf
        by_cases hnn : n = at'.name
        · subst hnn
          rw [AList.lookup_insert] at hn
          obtain rfl := Option.some.inj hn
          exact .inl (.inr (.inl (by simp [hpc, WelcomePc.stage, Stage.attaching, hf])))
        · exact .inl (.inl ⟨n, by rwa [AList.lookup_insert_ne hnn] at hn⟩)
      · exact .inl (.inl ⟨n, hn⟩)
    · rw [hst] at hk
      cases hk
    · rw [hst] at hk
      cases hk
  | @dropWritePanics _ k _ hpc =>
    refine still hpc rfl rfl (.inl rfl) ?_
    cases k <;> exact .inl rfl
  | @join _ k _ _ hpc =>
    obtain ⟨pc, outbox, hw, hst, -⟩ := w.resume_shape k
    refine moved hpc hw hst rfl ?_ ?_ <;> cases k <;> first | exact .inl rfl | exact .inr rfl
  | @joinPanics _ k _ hpc =>
    obtain ⟨pc, outbox, hw, hst, -⟩ := (w.panic k).resume_shape k.panics
    refine moved hpc hw hst rfl ?_ ?_ <;> cases k <;> exact .inl rfl
  | dropLocals _ hpc =>
    rcases hk with ⟨n, hn⟩ | hk | hk
    · cases hn
    · cases hk
    · obtain ⟨⟨n, j⟩, hp, rfl⟩ := List.mem_map.mp hk
      exact .inl (.inl ⟨n, AList.mem_lookup_iff.mpr hp⟩)
  | @teardown rest _ _ hpc hi =>
    have htorn : w.pc.stage.torn = rest := by rw [hpc]; rfl
    rcases hk with hk | hk | hk
    · exact .inl (.inl hk)
    · obtain rfl := Option.some.inj hk
      exact .inl (.inr (.inr (htorn ▸ hi)))
    · exact .inl (.inr (.inr (htorn ▸ List.mem_of_mem_erase hk)))

/-- How an instance gets out of the map: it is announced, the map is dropped, or another
one takes its name. -/
theorem Moves.bound (hm : Moves P w a w') (hn : w.environments.lookup n = some i) :
    w'.environments.lookup n = some i ∨
      (a = .tryRecv (.got n) ∧ ∃ r, w.pc = .drain r) ∨
      (w.outbox = [] ∧ ∃ drained, w.pc = .ret drained) ∨
      ∃ at', w.pc = .insertRecv at' ∧ at'.fresh = true ∧ at'.name = n := by
  cases hm with
  | poll =>
    obtain ⟨pc, outbox, ctl, hw, -⟩ := w.onPoll_shape _
    exact .inl (hw ▸ hn)
  | drainEmpty =>
    obtain ⟨pc, outbox, ctl, hw, -⟩ := w.onWelcome_shape _
    exact .inl (hw ▸ hn)
  | root | getsockoptFails | recvFails | recvUnanswered | send | close =>
    obtain ⟨pc, outbox, hw, -⟩ := w.closing_shape _ _
    exact .inl (hw ▸ hn)
  | @join i k =>
    obtain ⟨pc, outbox, hw, -⟩ := w.resume_shape k
    exact .inl (hw ▸ hn)
  | @joinPanics i k =>
    obtain ⟨pc, outbox, hw, -⟩ := (w.panic k).resume_shape k.panics
    exact .inl (hw ▸ hn)
  | @drainBound name _ j _ hpc =>
    by_cases hnn : n = name
    · subst hnn
      exact .inr (.inl ⟨rfl, _, hpc⟩)
    · refine .inl ?_
      show (w.environments.erase name).lookup n = some i
      rw [AList.lookup_erase_ne hnn, hn]
  | dropLocals ho hpc => exact .inr (.inr (.inl ⟨ho, _, hpc⟩))
  | @inserted at' serializes _ hpc =>
    have henv : (w.inserted at' serializes).environments =
        if at'.fresh then w.environments.insert at'.name at'.id else w.environments := by
      cases serializes <;> rfl
    by_cases hnew : at'.fresh = true ∧ at'.name = n
    · exact .inr (.inr (.inr ⟨at', hpc, hnew⟩))
    · refine .inl ?_
      rw [henv]
      split
      · rename_i hf
        rw [AList.lookup_insert_ne fun hnn => hnew ⟨hf, hnn.symm⟩, hn]
      · exact hn
  | _ => exact .inl hn

end Welcome

namespace Daemon
variable {P : Externals} {s t u : Daemon} {a : Act} {i : EnvId} {e e' : Env} {x : RawFd} {c : ConnId}
  {n : String}

/-! ## What is kept -/

/-- The welcome thread has kept what it keeps, unless the instance is new. -/
theorem keeps_before (hs : s.step P a = some t) (hi : s.envs i ≠ none) (hk : t.welcome.Keeps i) :
    s.welcome.Keeps i := by
  obtain ⟨-, hp⟩ := step_party hs
  cases hp with
  | main hm =>
    cases hm with
    | listen => rcases hk with ⟨n, hn⟩ | hk | hk <;> contradiction
    | _ => exact hk
  | welcome hm he =>
    refine (hm.keeps hk).resolve_right ?_
    rintro rfl
    cases he with
    | plain hp => cases hp
    | envNew _ hnone => exact hi hnone
  | env _ _ he => exact he.frame.2.1 ▸ hk
  | client => exact hk
  | @signal sig _ _ _ _ hm =>
    obtain ⟨shutdown, reload, terminated, reloaded, hshape⟩ := s.handler_shape sig
    cases hm <;> rw [hshape] at hk <;> exact hk

/-- A client that has hung up stays so. -/
theorem hungUp_kept (hs : s.step P a = some t) (h : HungUp s.conns c) : HungUp t.conns c := by
  obtain ⟨conn, hconn, hclosed⟩ := h
  have hchange := conn_change hs c
  rw [hconn] at hchange
  unfold HungUp
  generalize t.conns c = after at hchange ⊢
  cases hchange with
  | shut => exact ⟨_, rfl, Conn.closed_shut hclosed⟩
  | close => exact ⟨_, rfl, rfl⟩
  | _ => exact ⟨_, rfl, hclosed⟩

/-- What a descriptor of the `SocketSet` refers to does not change while it is in the set. -/
theorem own_of_mem (hacc : s.Accounted) (hs : s.step P a = some t) (hi' : t.envs i = some e')
    (hx : x ∈ e'.sockets) (hc : s.connAt x = some c) : t.fds.Own i x c := by
  obtain ⟨h', hx'⟩ := connAt_eq_some.mp hc
  obtain ⟨file, hfile⟩ := Fds.heldBy_iff.mp (((hacc.step hs).held.of_sockets hi').mp hx)
  obtain rfl : file = .conn c := keepsFiles_step hs x _ _ hx' hfile
  exact hfile

/-! ## The thread of a client that stays -/

/-- A socket whose client is there is not the one that is removed for a hang-up. -/
theorem Settled.other_removed {data : RawFd} {source : ConnId} {rest : List Event} (h : s.Settled)
    (hi : s.envs i = some e) (hpc : e.pc = .batch (.conn data source true :: rest))
    (hown : s.fds.Own i x c) (hup : ¬HungUp s.conns c) : x ≠ data := by
  obtain ⟨hhung, ho⟩ :=
    (h.registered i e hi).batch data source true (by rw [hpc]; exact List.mem_cons_self)
  rintro rfl
  have hmem : x ∈ e.sockets := (h.held.of_sockets hi).mpr (.of_eq hown)
  have hmine := ho.resolve_right fun hn => hn.2.1 hmem
  cases hmine.symm.trans hown
  exact hup (hhung rfl)

/-- How the thread of an instance that is kept leaves its loop, or does not get there: its
last client is gone, a call of its start fails, or a wait. -/
theorem Instances.leaving {b : EnvAct} (h : s.Instances) (hi : s.envs i = some e)
    (hst : e.step P b = some e') (hk : s.welcome.Keeps i) (hl : e.pc.left = false)
    (hl' : e'.pc.left = true) :
    (∃ x c rest, b = .dispatch (some (.conn x c true)) ∧ e.pc = .batch (.conn x c true :: rest) ∧
        e.sockets.erase x = ∅) ∨
      (e.pc.starting = true ∧ b.fails = true ∧ b.uses = none) ∨
      ∃ errno, b = .wait (.error errno) := by
  obtain ⟨hloc, hmut, -⟩ := h.sound i e hi
  obtain ⟨hkept, hopen⟩ := h.kept i e hi hk
  have hundropped {pc : EnvPc} (hpc : e.pc = pc) : ¬pc.seesDrop := by
    intro hd
    have hpos := hloc.drop (hpc ▸ hd)
    rw [hkept.undropped] at hpos
    cases hpos
  cases Env.step_moves hst with
  | sendError => exact absurd (hl.symm.trans hl') nofun
  | allocFails _ hpc hnew | allocPanics _ hpc hnew =>
    exact .inr (.inl ⟨by rw [hpc]; rfl, by simp [EnvAct.fails, hnew], rfl⟩)
  | epollNewFails _ hpc | epollAddFails _ hpc => exact .inr (.inl ⟨by rw [hpc]; rfl, rfl, rfl⟩)
  | waitFails => exact .inr (.inr ⟨_, rfl⟩)
  | lastGone _ hpc hempty => exact .inl ⟨_, _, _, rfl, hpc, hempty⟩
  | addPanics _ _ hr => exact absurd (Channel.tryRecv_eq_disconnected.mp hr).2 hopen
  | openMutexPanics _ _ hshm hr => exact absurd hr (hmut.no_panic hshm)
  | dropRead _ hpc | dropReadFails _ hpc => exact absurd trivial (hundropped hpc)
  | closeSend _ hpc | closeWrite _ hpc | leave _ hpc | dropSync _ hpc | dropListener _ hpc =>
    rw [hpc] at hl
    cases hl
  | epollAdd =>
    dsimp only at hl'
    split at hl' <;> cases hl'
  | _ => cases hl'

/-- The thread of an instance that is kept stays in its loop as long as one of its clients
is there, but for a wait that fails, and does not take that client's socket out of the set. -/
theorem Settled.stays {b : EnvAct} (h : s.Settled) (hi : s.envs i = some e)
    (hst : e.step P b = some e') (hwait : ∀ errno, b ≠ .wait (.error errno))
    (hk : s.welcome.Keeps i) (hl : e.pc.left = false) (hown : s.fds.Own i x c)
    (hup : ¬HungUp s.conns c) : e'.pc.left = false ∧ x ∈ e'.sockets := by
  have hmem : x ∈ e.sockets := (h.held.of_sockets hi).mpr (.of_eq hown)
  have hin : e'.pc.left = false := by
    cases hl' : e'.pc.left with
    | false => rfl
    | true =>
      rcases h.instances.leaving hi hst hk hl hl' with
        ⟨data, source, rest, -, hpc, hempty⟩ | ⟨hstart, -⟩ | ⟨errno, hb⟩
      · have hrest := Finset.mem_erase.mpr ⟨h.other_removed hi hpc hown hup, hmem⟩
        rw [hempty] at hrest
        cases hrest
      · rw [((h.instances.sound i e hi).loc.start hstart).2.1] at hmem
        cases hmem
      · exact absurd hb (hwait errno)
  refine ⟨hin, ?_⟩
  cases Env.step_moves hst with
  | lastGone | leave => cases hin
  | oneGone _ hpc => exact Finset.mem_erase.mpr ⟨h.other_removed hi hpc hown hup, hmem⟩
  | addEpoll => exact Finset.mem_insert_of_mem hmem
  | _ => exact hmem

/-- The condition on a run: no `epoll_wait` fails. -/
def WaitsSucceed (_ : Daemon) (a : Act) : Prop := ∀ i errno, a ≠ .env i (.wait (.error errno))

/-- Whoever was added to an instance that the welcome thread keeps is in its `SocketSet`,
and its thread in its loop, until the client hangs up. -/
def Staying (s : Daemon) : Prop :=
  ∀ i e x c, s.envs i = some e → s.welcome.Keeps i → (x, c) ∈ e.added → ¬HungUp s.conns c →
    e.pc.left = false ∧ s.fds.Own i x c

theorem staying_boot : boot.Staying := by
  intro i e x c hi
  cases hi

theorem Staying.step (h : s.Staying) (hset : s.Settled) (hok : WaitsSucceed s a)
    (hs : s.step P a = some t) : t.Staying := by
  intro i e' x c hi' hk hadd hup
  have hup₀ : ¬HungUp s.conns c := fun hc => hup (hungUp_kept hs hc)
  have hold {e : Env} (hi : s.envs i = some e) (hx : (x, c) ∈ e.added) :
      e.pc.left = false ∧ s.fds.Own i x c :=
    h i e x c hi (keeps_before hs (by rw [hi]; nofun) hk) hx hup₀
  -- a socket that stays in the set is the descriptor it was
  have still (hx : x ∈ e'.sockets) (hown : s.fds.Own i x c) : t.fds.Own i x c :=
    own_of_mem hset.toAccounted hs hi' hx (connAt_eq hown)
  cases env_change hs hi' with
  | @same _ e hi hsame =>
    obtain ⟨hl, hown⟩ := hold hi (hsame.added ▸ hadd)
    refine ⟨hsame.pc ▸ hl, still ?_ hown⟩
    rw [hsame.sockets]
    exact (hset.held.of_sockets hi).mpr (.of_eq hown)
  | @thread b e hi hst =>
    have stays (hx : (x, c) ∈ e.added) : e'.pc.left = false ∧ t.fds.Own i x c := by
      obtain ⟨hl, hown⟩ := hold hi hx
      have hkeep := keeps_before hs (by rw [hi]; nofun) hk
      obtain ⟨hl', hmem⟩ := hset.stays hi hst (fun errno hb => hok i errno (hb ▸ rfl)) hkeep hl hown hup₀
      exact ⟨hl', still hmem hown⟩
    cases Env.step_moves hst with
    | @addEpoll listener source =>
      rcases List.mem_append.mp hadd with hx | hx
      · exact stays hx
      · cases List.mem_singleton.mp hx
        have hconn : s.connAt x = some c := by
          obtain ⟨-, hp⟩ := step_party hs
          cases hp with
          | env _ _ he =>
            cases he with
            | plain hp => cases hp
            | addEpoll hc => exact hc
        exact ⟨rfl, own_of_mem hset.toAccounted hs hi' (Finset.mem_insert_self ..) hconn⟩
    | _ => exact stays hadd
  | made _ hnew =>
    rw [hnew] at hadd
    cases hadd

/-! ## The name of a client that stays -/

/-- An announcement that is received for a name in the map was sent by the instance that
has the name. -/
theorem Instances.own_announcement (h : s.Instances)
    (hs : s.step P (.welcome (.tryRecv (.got n))) = some t)
    (hn : s.welcome.environments.lookup n = some i) : s.closeChan.queue.head? = some (n, i) := by
  obtain ⟨-, hp⟩ := step_party hs
  cases hp with
  | welcome hm he =>
    cases he with
    | plain hp => cases hp
    | @tryRecv _ j rest hq =>
      have hhand : s.registry.hand = .none := by
        cases hm with
        | drainBound _ hpc | drainUnbound _ hpc =>
          show s.welcome.pc.stage.hand = _
          rw [hpc]
          rfl
      have hmem : (n, j) ∈ s.registry.queue := by
        show (n, j) ∈ s.closeChan.queue
        rw [hq]
        exact List.mem_cons_self
      obtain rfl := h.registry.taken hhand hmem hn
      rw [hq]
      rfl

theorem Instances.left_of_queued (h : s.Instances) (hi : s.envs i = some e)
    (hq : (n, i) ∈ s.closeChan.queue) : e.pc.left = true := by
  have htold := (h.registry.queued n i hq).2.1
  have hphase : s.registry.phase i = e.phase := by simp [Daemon.registry, registryOf, hi]
  rw [hphase] at htold
  cases hl : e.pc.left with
  | true => rfl
  | false =>
    rw [Env.phase_running.mpr hl] at htold
    cases htold

/-- An instance that an `insert_socket` was made for has a name that is not in the map. -/
theorem Instances.name_vacant {at' : Attaching} (h : s.Instances)
    (hpc : s.welcome.pc = .insertRecv at') (hf : at'.fresh = true) :
    s.welcome.environments.lookup at'.name = none := by
  obtain ⟨⟨e, hi, hname⟩, -⟩ := h.keeper.target at' (by rw [hpc]; rfl)
  have hhand : s.registry.hand = .fresh at'.id := by
    simp [Daemon.registry, registryOf, hpc, WelcomePc.stage, Stage.attaching, hf]
  have hvacant := (h.registry.apart at'.id (.inl hhand)).1
  have hn : s.registry.name at'.id = at'.name := by simp [Daemon.registry, registryOf, hi, hname]
  rw [hn] at hvacant
  exact hvacant

/-- An instance whose thread is in its loop stays in the map, as long as the welcome thread
has not sent a `ShutdownSignal` or a `ReloadRequest`. -/
theorem Instances.bound_kept (h : s.Instances)
    (htold : s.main.hasWelcome = true → s.welcome.Told s.history.sent)
    (hquiet : ¬HasTerminal s.history.sent) (hs : s.step P a = some t) (hi : s.envs i = some e)
    (hl : e.pc.left = false) (hn : s.welcome.environments.lookup n = some i) :
    t.welcome.environments.lookup n = some i := by
  obtain ⟨hlive, hp⟩ := step_party hs
  cases hp with
  | main hm =>
    cases hm with
    | listen hmain =>
      obtain ⟨hpc, -⟩ := h.keeper.alone (by rw [hmain]; rfl)
      have hclosed : s.registry.ctl = .closed := by
        simp only [Daemon.registry, registryOf, hpc]
        split <;> rfl
      rw [show s.welcome.environments.lookup n = none from (h.registry.closed hclosed).1 n] at hn
      cases hn
    | _ => exact hn
  | @welcome b w u hm he =>
    rcases hm.bound hn with hn' | ⟨rfl, -⟩ | ⟨ho, drained, hpc⟩ | ⟨at', hpc, hf, rfl⟩
    · exact hn'
    · have hhead := h.own_announcement hs hn
      have hleft := h.left_of_queued hi (List.mem_of_mem_head? hhead)
      rw [hl] at hleft
      cases hleft
    · have hterm := (htold (welcome_runs h hlive hm).1).returning (by rw [hpc]; rfl)
      rw [ho, List.append_nil] at hterm
      exact absurd hterm hquiet
    · rw [h.name_vacant hpc hf] at hn
      cases hn
  | env _ _ he =>
    show _ = _
    rw [he.frame.2.1]
    exact hn
  | client => exact hn
  | @signal sig _ _ _ _ hm =>
    obtain ⟨shutdown, reload, terminated, reloaded, hshape⟩ := s.handler_shape sig
    cases hm <;> rw [hshape] <;> exact hn

/-! ## Nobody is thrown out -/

/-- The condition on a run: no `epoll_wait` fails, and no `JoinGuard` panics when it is
dropped, as it does when a destructor has panicked on its thread, before the welcome
thread returns. -/
def Unshaken (s : Daemon) (a : Act) : Prop := WaitsSucceed s a ∧ CleanJoins s a

/-- The condition on the part of a run from the attachment on: besides, the welcome thread
has not sent a `ShutdownSignal` or a `ReloadRequest` in its incarnation. -/
def Unstopped (s : Daemon) (a : Act) : Prop := Unshaken s a ∧ ¬HasTerminal s.history.sent

/-- The instance has the name in the map, and its thread is in its loop with the client's
socket in its `SocketSet`. -/
structure Hosts (s : Daemon) (n : String) (i : EnvId) (c : ConnId) : Prop where
  bound : s.welcome.environments.lookup n = some i
  runs : ∃ e x, s.envs i = some e ∧ e.pc.left = false ∧ x ∈ e.sockets ∧
    s.fds x = some ⟨.conn c, .socket i⟩

/-- Everything the runs keep. -/
structure Stays (s : Daemon) : Prop where
  settled : s.Settled
  attachments : s.Attachments
  staying : s.Staying
  announcing : s.Announcing

theorem stays_boot : boot.Stays := ⟨settled_boot, attachments_boot, staying_boot, announcing_boot⟩

theorem Stays.step (h : s.Stays) (hok : Unshaken s a) (hs : s.step P a = some t) : t.Stays where
  settled := h.settled.step hs
  attachments := h.attachments.step h.settled.toAccounted hs
  staying := h.staying.step h.settled hok.1 hs
  announcing := h.announcing.step h.settled.instances hok.2 hs

/-- A client that is attached to an instance in the map is served. -/
theorem Stays.hosts (h : s.Stays) (hc : (c, i) ∈ s.history.attached)
    (hn : s.welcome.environments.lookup n = some i) (hup : ¬HungUp s.conns c) : s.Hosts n i c := by
  obtain ⟨-, e, x, hi, hadd⟩ := h.attachments.attached c i hc
  obtain ⟨hl, hown⟩ := h.staying i e x c hi (.inl ⟨n, hn⟩) hadd hup
  exact ⟨hn, e, x, hi, hl, (h.settled.held.of_sockets hi).mpr (.of_eq hown), hown⟩

/-- In every run in which no `epoll_wait` fails and no destructor panics, a close
announcement removes nothing but the instance that has sent it. A client whose
`insert_socket` has returned `Ok` with its instance in the map stays in its
`SocketSet`, its thread in the loop and the instance in the map, as long as the client does
not hang up and no shutdown or reload begins. -/
theorem attached_stays {as : List Act} (hr : Run (Daemon.step P) Unshaken boot as s) :
    (∀ n i t, s.step P (.welcome (.tryRecv (.got n))) = some t →
      s.welcome.environments.lookup n = some i → s.closeChan.queue.head? = some (n, i)) ∧
    ∀ c n i as t, (c, i) ∈ s.history.attached → s.welcome.environments.lookup n = some i →
      Run (Daemon.step P) Unstopped s as t → ¬HungUp t.conns c → t.Hosts n i c := by
  have hs : s.Stays := hr.invariant (I := Stays) (fun _ _ _ hok h ht => h.step hok ht) stays_boot
  refine ⟨fun n i t ht hn => hs.settled.instances.own_announcement ht hn,
    fun c n i as t hc hn hr' hup => ?_⟩
  have hend := hr'.invariant
    (I := fun u => u.Stays ∧ (c, i) ∈ u.history.attached ∧
      (¬HungUp u.conns c → u.welcome.environments.lookup n = some i))
    (fun u b v hok h hv => by
      obtain ⟨hu, hcu, hnu⟩ := h
      refine ⟨hu.step hok.1 hv, ?_, fun hupv => ?_⟩
      · rw [(recorded_step hv).1]
        exact List.mem_append_left _ hcu
      · have hupu : ¬HungUp u.conns c := fun hh => hupv (hungUp_kept hv hh)
        obtain ⟨hbound, e, x, hi, hl, -⟩ := hu.hosts hcu (hnu hupu) hupu
        exact hu.settled.instances.bound_kept hu.announcing.told hok.2 hv hi hl hbound)
    ⟨hs, hc, fun _ => hn⟩
  obtain ⟨ht, hct, hnt⟩ := hend
  exact ht.hosts hct (hnt hup) hup

/-- `Unshaken`, decided. -/
def unshaken (s : Daemon) : Act → Bool
  | .env _ (.wait (.error _)) => false
  | a => s.joinsClean a

theorem unshaken_of (h : s.unshaken a = true) : Unshaken s a := by
  refine ⟨?_, cleanJoins_of ?_⟩
  · rintro i errno rfl
    cases h
  · unfold unshaken at h
    split at h
    · cases h
    · exact h

/-- The client is attached and asks for a mutex. -/
theorem attached_stays_asking : ∃ s t, Run (Daemon.step .oneLetter) Unshaken boot
    (startUp ++ handsOver ++ adds ++ answers) s ∧
      Run (Daemon.step .oneLetter) Unstopped s asks t ∧ t.Hosts "a" 0 0 := by
  have hexec : (exec (Daemon.step .oneLetter) unshaken boot
      (startUp ++ handsOver ++ adds ++ answers)).any (fun s =>
        (0, 0) ∈ s.history.attached ∧ s.welcome.environments.lookup "a" = some 0 ∧
          (exec (Daemon.step .oneLetter) (fun s a => s.unshaken a && !decide (HasTerminal s.history.sent))
            s asks).any (fun t => (t.conns 0).any fun conn => !conn.closed)) := by decide
  obtain ⟨s, hr, hp⟩ := Run.of_exec_any (fun _ _ => unshaken_of) hexec
  obtain ⟨hc, hn, hasks⟩ := of_decide_eq_true hp
  have hok (s : Daemon) (a : Act) (h : (s.unshaken a && !decide (HasTerminal s.history.sent)) = true) :
      Unstopped s a := by
    simp only [Bool.and_eq_true, Bool.not_eq_true', decide_eq_false_iff_not] at h
    exact ⟨unshaken_of h.1, h.2⟩
  obtain ⟨t, hr', hopen⟩ := Run.of_exec_any hok hasks
  refine ⟨s, t, hr, hr', (attached_stays hr).2 0 "a" 0 asks t hc hn hr' ?_⟩
  rintro ⟨conn, hconn, hclosed⟩
  simp [hconn, hclosed] at hopen

end Daemon
end Garnd
