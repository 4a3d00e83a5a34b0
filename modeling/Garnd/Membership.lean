import Garnd.Joining

/- Which environment a client comes to. The welcome thread takes one well-formed request
   from a connection at most, answers it before it takes another, and passes the
   connection to an instance of the name that was asked for (`Daemon.Requested`). The
   thread of the instance adds each connection once, and what is in its `SocketSet` was
   added (`Daemon.Enrolled`). -/
namespace Garnd
open Transition

/-- The name and the connection of the request are those of the message that was
received, until the answer is settled. -/
theorem Welcome.Moves.asking {P : Externals} {w w' : Welcome} {a : WelcomeAct} {name : String} {fd : RawFd}
    (hm : Welcome.Moves P w a w') (hn : w'.pc.asked = some name) (hfd : w'.pc.owes = some fd) :
    w.pc.asked = some name ∧ w.pc.owes = some fd ∨
      ∃ m serializes, a = .recv (.ok m) serializes ∧ w.pc = .recv fd ∧ P.welcomeRequest m = .ok name := by
  have aside (hd : w'.pc.aside = true) : w.pc.asked = some name ∧ w.pc.owes = some fd ∨
      ∃ m serializes, a = .recv (.ok m) serializes ∧ w.pc = .recv fd ∧
        P.welcomeRequest m = .ok name := by
    rw [(WelcomePc.aside_owes hd).1] at hfd
    cases hfd
  cases hm with
  | sendError | drainUnbound | drainDisconnected => exact .inl ⟨hn, hfd⟩
  | recv _ hpc hm =>
    cases hn
    cases hfd
    exact .inr ⟨_, _, rfl, hpc, hm⟩
  | occupied _ hpc | vacant _ hpc | envNew _ hpc | insertSend _ hpc | insertWrite _ hpc =>
    rw [hpc]
    exact .inl ⟨hn, hfd⟩
  | poll => exact aside onPoll_aside
  | drainEmpty => exact aside onWelcome_aside
  | root | getsockoptFails | recvFails | recvUnanswered | send | close => exact aside closing_aside
  | join | joinPanics => exact aside resume_aside
  | @inserted a serializes => cases serializes <;> cases hn
  | _ => cases hn

namespace Daemon
variable {P : Externals} {s t u : Daemon} {i : EnvId} {e e' : Env} {c : ConnId} {a : Act}

/-! ## Connections nothing was taken from -/

/-- A connection is not forgotten. -/
theorem conns_known (hs : s.step P a = some t) (hc : t.conns c = none) : s.conns c = none := by
  by_contra hk
  obtain ⟨-, hp⟩ := step_party hs
  cases hp with
  | main hm => cases hm <;> exact hk hc
  | welcome _ he => exact hk (he.known.1 c hc)
  | env _ _ he => exact he.conns_grow.1.known c hk hc
  | client hcs => exact (clientStep_grow hcs).1.known c hk hc
  | @signal sig _ _ _ _ hm =>
    obtain ⟨shutdown, reload, terminated, reloaded, hshape⟩ := s.handler_shape sig
    cases hm <;> rw [hshape] at hc <;> exact hk hc

/-- A connection waits to be accepted when it is made. -/
theorem backlog_before (hs : s.step P a = some t) (hc : c ∈ t.backlog) :
    c ∈ s.backlog ∨ s.conns c = none := by
  obtain ⟨-, hp⟩ := step_party hs
  cases hp with
  | main hm => cases hm <;> exact .inl hc
  | welcome _ he => exact .inl (he.known.2 c hc)
  | env _ _ he => exact .inl (he.conns_grow.2 ▸ hc)
  | client hcs =>
    obtain ⟨-, -, -, hb | ⟨hnone, hb, -⟩⟩ := clientStep_grow hcs
    · exact .inl (hb ▸ hc)
    · rw [hb] at hc
      rcases List.mem_append.mp hc with hc | hc
      · exact .inl hc
      · exact .inr (List.mem_singleton.mp hc ▸ hnone)
  | @signal sig _ _ _ _ hm =>
    obtain ⟨shutdown, reload, terminated, reloaded, hshape⟩ := s.handler_shape sig
    cases hm <;> rw [hshape] at hc <;> exact .inl hc

theorem untouched_before (hs : s.step P a = some t) (h : t.Untouched c) : s.Untouched c := by
  rcases h with hnone | hmem | ⟨x, hx, hfd⟩
  · exact .inl (conns_known hs hnone)
  · exact (backlog_before hs hmem).elim (fun hb => .inr (.inl hb)) .inl
  · have hconn := connAt_before hs hfd
    by_cases ha : ∃ b, a = .welcome b
    · obtain ⟨b, rfl⟩ := ha
      obtain ⟨-, hp⟩ := step_party hs
      cases hp with
      | @welcome _ w u hm he =>
        rcases hm.unheard hx with hx | rfl
        · rcases hconn with hfd | ⟨-, hmem⟩ | ⟨fd, name, hdup, -⟩
          · exact .inr (.inr ⟨x, hx, hfd⟩)
          · exact .inr (.inl hmem)
          · rw [hdup] at hx
            cases hx
        · rcases hconn with hold | ⟨-, hmem⟩ | ⟨-, -, -, heq, -⟩
          · -- the number was free
            obtain ⟨h', hold⟩ := connAt_eq_some.mp hold
            cases he with
            | accept _ hfree => cases hfree.symm.trans hold
            | plain hp => cases hp
          · exact .inr (.inl hmem)
          · cases heq
    · have hfd := hconn.resolve_right (by
        rintro (⟨heq, -⟩ | ⟨-, -, -, heq, -⟩)
        · exact ha ⟨_, heq⟩
        · exact ha ⟨_, heq⟩)
      rcases welcome_other hs fun b hb => ha ⟨b, hb⟩ with hw | hw
      · exact .inr (.inr ⟨x, hw ▸ hx, hfd⟩)
      · rw [hw] at hx
        cases hx

/-- The connection the welcome thread receives from. -/
theorem Accounted.receiving {fd : RawFd} {m : Message} {serializes : Bool} (h : s.Accounted)
    (hs : s.step P (.welcome (.recv (.ok m) serializes)) = some t) (hpc : s.welcome.pc = .recv fd)
    (hc : s.connAt fd = some c) : s.Untouched c ∧ ¬t.Untouched c := by
  refine ⟨.inr (.inr ⟨fd, by rw [hpc]; rfl, hc⟩), ?_⟩
  obtain ⟨hk, hb⟩ := h.behind hc
  have hdone : t.welcome.pc.unheard = none := by
    obtain ⟨-, hp⟩ := step_party hs
    cases hp with
    | welcome hm =>
      cases hm with
      | recv | recvMalformed => rfl
      | recvUnanswered => exact (WelcomePc.aside_owes Welcome.closing_aside).2
  rintro (hnone | hmem | ⟨x, hx, -⟩)
  · exact hk (conns_known hs hnone)
  · exact (backlog_before hs hmem).elim hb hk
  · rw [hdone] at hx
    cases hx

/-! ## The names -/

/-- A request is kept in the record. -/
theorem opened_kept {name : String} (hs : s.step P a = some t) (h : (c, name) ∈ s.history.opened) :
    (c, name) ∈ t.history.opened := by
  obtain ⟨-, hp⟩ := step_party hs
  cases hp with
  | main hm => cases hm <;> exact h
  | welcome _ he =>
    cases he with
    | recv => exact List.mem_append_left _ h
    | _ => exact h
  | env _ _ he => cases he <;> exact h
  | client => exact h
  | @signal sig _ _ _ _ hm =>
    obtain ⟨shutdown, reload, terminated, reloaded, hshape⟩ := s.handler_shape sig
    cases hm <;> rw [hshape] <;> exact h

/-- Who has asked, has asked once; who is to be answered, and who was passed to an
instance, has asked for the name. -/
structure Requested (s : Daemon) : Prop where
  fresh : ∀ c name, s.Untouched c → (c, name) ∉ s.history.opened
  once : ∀ c m n, (c, m) ∈ s.history.opened → (c, n) ∈ s.history.opened → m = n
  pending : ∀ fd c name, s.welcome.pc.asked = some name → s.welcome.pc.owes = some fd →
    s.connAt fd = some c → (c, name) ∈ s.history.opened
  homed : ∀ c i, homeOf s.conns c = some i →
    ∃ e, s.envs i = some e ∧ (c, e.name) ∈ s.history.opened

theorem requested_boot : boot.Requested where
  fresh c name _ h := by cases h
  once c m n h := by cases h
  pending fd c name h := by cases h
  homed c i h := by cases h

/-- An instance keeps its name. -/
theorem name_kept (hs : s.step P a = some t) (hi : s.envs i = some e) :
    ∃ e', t.envs i = some e' ∧ e'.name = e.name := by
  obtain ⟨e', hi'⟩ := Option.ne_none_iff_exists'.mp (envs_known hs (i := i) (by simp [hi]))
  refine ⟨e', hi', ?_⟩
  cases env_change hs hi' with
  | same hj hsame =>
    cases hi.symm.trans hj
    exact hsame.name
  | thread hj hst =>
    cases hi.symm.trans hj
    exact Env.name_step hst
  | made hnone =>
    rw [hi] at hnone
    cases hnone

/-- A connection comes to an instance when the welcome thread passes it on. -/
theorem home_before (hs : s.step P a = some t) (hacc : s.Accounted)
    (h : homeOf t.conns c = some i) : homeOf s.conns c = some i ∨
      ∃ at', s.welcome.pc = .insertSend at' ∧ at'.id = i ∧ s.connAt at'.fd = some c := by
  obtain ⟨-, hp⟩ := step_party hs
  cases hp with
  | main hm => cases hm <;> exact .inl h
  | welcome _ he =>
    cases he with
    | @insertSend at' e e' hpc =>
      by_cases hcc : s.connAt at'.passed = some c
      · refine .inr ⟨at', hpc, ?_, hacc.passing hpc hcc⟩
        simp only [homeOf, hcc, if_true, Option.bind_eq_some_iff, Option.map_eq_some_iff] at h
        obtain ⟨-, ⟨conn, -, rfl⟩, h⟩ := h
        exact Option.some.inj h
      · exact .inl (by simpa only [homeOf, if_neg hcc] using h)
    | recv _ hr =>
      have hhome := (recvFrom_grow hr).home c
      exact .inl (hhome ▸ h)
    | send _ hr =>
      have hhome := (sendTo_grow hr).home c
      exact .inl (hhome ▸ h)
    | _ => exact .inl h
  | env _ _ he => exact .inl ((he.conns_grow.1.home c).symm.trans h)
  | client hcs => exact .inl (((clientStep_grow hcs).1.home c).symm.trans h)
  | @signal sig _ _ _ _ hm =>
    obtain ⟨shutdown, reload, terminated, reloaded, hshape⟩ := s.handler_shape sig
    cases hm <;> rw [hshape] at h <;> exact .inl h

/-- Who is to be answered after a step has asked. -/
theorem Requested.pending_step {fd : RawFd} {name : String} (h : s.Requested) (hacc : s.Accounted)
    (hs : s.step P a = some t) (hn : t.welcome.pc.asked = some name) (hfd : t.welcome.pc.owes = some fd)
    (hc : t.connAt fd = some c) : (c, name) ∈ t.history.opened := by
  have hconn := connAt_before hs hc
  by_cases ha : ∃ b, a = .welcome b
  · obtain ⟨b, rfl⟩ := ha
    obtain ⟨-, hp⟩ := id (step_party hs)
    cases hp with
    | @welcome _ w u hm he =>
      rcases hm.asking hn hfd with ⟨hn₀, hfd₀⟩ | ⟨m, serializes, rfl, hpc, hname⟩
      · rcases hconn with hold | ⟨heq, -⟩ | ⟨fd', name', hdup, heq, hfree, -⟩
        · exact opened_kept hs (h.pending fd c name hn₀ hfd₀ hold)
        · cases heq
          cases hm with
          | accept => cases hn
        · -- the duplicate is not the number the thread answers on
          rw [hdup] at hfd₀
          cases hfd₀
          have hheld : s.fds.HeldBy .welcome fd := by
            rw [← hacc.held.welcome, Welcome.held, hdup]
            exact List.mem_append_left _ List.mem_cons_self
          simp [Fds.HeldBy, hfree] at hheld
      · rcases hconn with hold | ⟨heq, -⟩ | ⟨-, -, -, heq, -⟩
        · cases he with
          | plain hp => cases hp
          | recv hpc' hr =>
            cases hpc.symm.trans hpc'
            exact List.mem_append_right _ (by simp [opening, hold, hname])
        · cases heq
        · cases heq
  · have hc := hconn.resolve_right (by
      rintro (⟨heq, -⟩ | ⟨-, -, -, heq, -⟩)
      · exact ha ⟨_, heq⟩
      · exact ha ⟨_, heq⟩)
    rcases welcome_other hs fun b hb => ha ⟨b, hb⟩ with hw | hw
    · exact opened_kept hs (h.pending fd c name (hw ▸ hn) (hw ▸ hfd) hc)
    · rw [hw] at hn
      cases hn

theorem Requested.step (h : s.Requested) (hacc : s.Accounted) (hs : s.step P a = some t) : t.Requested := by
  have kept {c : ConnId} {name : String} (hc : (c, name) ∈ s.history.opened) :
      (c, name) ∈ t.history.opened := opened_kept hs hc
  refine ⟨fun c name hun hc => ?_, fun c m n hm hn => ?_, fun fd c name hn hfd hc => ?_,
    fun c i hhome => ?_⟩
  · rcases opened_step hs hc with hc | ⟨fd, m, serializes, rfl, hpc, hconn, -⟩
    · exact h.fresh c name (untouched_before hs hun) hc
    · exact (hacc.receiving hs hpc hconn).2 hun
  · rcases opened_step hs hm with hold | ⟨fd, msg, serializes, rfl, hpc, hconn, hname⟩
    · rcases opened_step hs hn with hold' | ⟨fd, msg, serializes, rfl, hpc, hconn, -⟩
      · exact h.once c m n hold hold'
      · exact absurd hold (h.fresh c m (hacc.receiving hs hpc hconn).1)
    · rcases opened_step hs hn with hold' | ⟨fd', msg', serializes', heq, hpc', -, hname'⟩
      · exact absurd hold' (h.fresh c n (hacc.receiving hs hpc hconn).1)
      · cases heq
        exact Except.ok.inj (hname.symm.trans hname')
  · exact h.pending_step hacc hs hn hfd hc
  · rcases home_before hs hacc hhome with hold | ⟨at', hpc, rfl, hc⟩
    · obtain ⟨e, hi, hc⟩ := h.homed c i hold
      obtain ⟨e', hi', hn⟩ := name_kept hs hi
      exact ⟨e', hi', hn ▸ kept hc⟩
    · obtain ⟨⟨e, hi, hn⟩, -⟩ := hacc.instances.keeper.target at' (by rw [hpc]; rfl)
      obtain ⟨e', hi', hn'⟩ := name_kept hs hi
      refine ⟨e', hi', kept ?_⟩
      rw [hn', hn]
      exact h.pending at'.fd c at'.name (by rw [hpc]; rfl) (by rw [hpc]; rfl) hc

/-! ## Who has joined -/

/-- The sockets of the set were added, and what was added is of a connection that was
passed to the instance and does not wait any more. -/
structure Enrolled (s : Daemon) : Prop where
  member : ∀ i e y c, s.envs i = some e → s.fds.Own i y c → (y, c) ∈ e.added
  passed : ∀ i e y c, s.envs i = some e → (y, c) ∈ e.added →
    homeOf s.conns c = some i ∧ ∀ z j, s.fds z ≠ some ⟨.conn c, .queue j⟩

theorem enrolled_boot : boot.Enrolled where
  member i e y c hi := by cases hi
  passed i e y c hi := by cases hi

/-- The descriptor of the socket that a thread adds. -/
theorem Held.adding {listener : RawFd} {source : ConnId} {rest : List Event} (h : s.Held)
    (hi : s.envs i = some e) (hpc : e.pc = .addEpoll listener rest)
    (hc : s.connAt listener = some source) : s.fds listener = some ⟨.conn source, .queue i⟩ := by
  have hl : s.fds.HeldBy (.queue i) listener := by
    rw [← h.queue, waitingAt_eq hi, Env.waiting, hpc]
    exact List.mem_cons_self
  obtain ⟨file, hl⟩ := Fds.heldBy_iff.mp hl
  obtain ⟨h', hl'⟩ := connAt_eq_some.mp hc
  cases hl.symm.trans hl'
  exact hl

/-- A connection waits for a thread when the welcome thread passes it on. -/
theorem queue_before {z : RawFd} {j : EnvId} (hacc : s.Accounted) (hs : s.step P a = some t)
    (hz : t.fds z = some ⟨.conn c, .queue j⟩) :
    s.fds z = some ⟨.conn c, .queue j⟩ ∨ homeOf s.conns c = none := by
  obtain ⟨-, hp⟩ := step_party hs
  cases hp with
  | main hm => exact .inl (hm.shrinks z _ hz)
  | welcome hm he => exact he.opened hm hacc hz
  | env _ _ he =>
    refine .inl ((he.opened hz).resolve_right ?_)
    rintro ⟨-, -, hq⟩
    cases hq
  | client => exact .inl hz
  | signal _ hm => exact .inl (hm.fds_eq ▸ hz)

theorem Accounted.conn_of_socket {y : RawFd} (h : s.Accounted) (hi : s.envs i = some e)
    (hy : y ∈ e.sockets) : ∃ c, s.fds.Own i y c := by
  obtain ⟨file, hy⟩ := Fds.heldBy_iff.mp ((h.held.of_sockets hi).mp hy)
  cases file with
  | conn c => exact ⟨c, hy⟩
  | memfd k =>
    obtain ⟨j, hj⟩ := h.connected.pages y k _ hy
    cases hj

/-- What a step of a thread adds. -/
theorem added_before {y : RawFd} (hs : s.step P a = some t) (hi : t.envs i = some e')
    (hy : (y, c) ∈ e'.added) : (∃ e, s.envs i = some e ∧ (y, c) ∈ e.added) ∨
      ∃ e rest, a = .env i (.addEpoll y (.ok c)) ∧ s.envs i = some e ∧ e.pc = .addEpoll y rest ∧
        s.connAt y = some c := by
  cases env_change hs hi with
  | same hj hsame => exact .inl ⟨_, hj, hsame.added ▸ hy⟩
  | made _ he =>
    subst he
    cases hy
  | @thread b e hj hst =>
    by_cases hb : ∃ x d, b = .addEpoll x (.ok d)
    · obtain ⟨x, d, rfl⟩ := hb
      obtain ⟨-, hp⟩ := step_party hs
      cases hp with
      | env hj' hst' he =>
        cases hj.symm.trans hj'
        cases Env.step_moves hst with
        | addEpoll _ hpc =>
          rcases List.mem_append.mp hy with hy | hy
          · exact .inl ⟨e, hj, hy⟩
          · cases List.mem_singleton.mp hy
            cases he with
            | plain hp => cases hp
            | addEpoll hc => exact .inr ⟨e, _, rfl, hj, hpc, hc⟩
    · refine .inl ⟨e, hj, ?_⟩
      cases Env.step_moves hst with
      | addEpoll => exact absurd ⟨_, _, rfl⟩ hb
      | _ => exact hy

/-- A socket that was in the set was the same descriptor. -/
theorem own_was {y : RawFd} (hacc : s.Accounted) (hs : s.step P a = some t)
    (hi : s.envs i = some e) (hmem : y ∈ e.sockets) (hy : t.fds.Own i y c) : s.fds.Own i y c := by
  obtain ⟨file, hx⟩ := Fds.heldBy_iff.mp ((hacc.held.of_sockets hi).mp hmem)
  obtain rfl : File.conn c = file := keepsFiles_step hs y _ _ hx hy
  exact hx

/-- A socket is put in the set when its thread adds it. -/
theorem own_before {y : RawFd} (hacc : s.Accounted) (hs : s.step P a = some t)
    (hi' : t.envs i = some e') (hy : t.fds.Own i y c) :
    (∃ e, s.envs i = some e ∧ s.fds.Own i y c) ∨
      ∃ e rest, a = .env i (.addEpoll y (.ok c)) ∧ s.envs i = some e ∧ e.pc = .addEpoll y rest ∧
        s.connAt y = some c := by
  have hmem : y ∈ e'.sockets := ((hacc.step hs).held.of_sockets hi').mpr (.of_eq hy)
  have old {e : Env} (hi : s.envs i = some e) (hmem : y ∈ e.sockets) :
      ∃ e, s.envs i = some e ∧ s.fds.Own i y c := ⟨e, hi, own_was hacc hs hi hmem hy⟩
  cases env_change hs hi' with
  | same hi hsame => exact .inl (old hi (hsame.sockets ▸ hmem))
  | made _ he =>
    subst he
    cases hmem
  | @thread b e hi hst =>
    cases Env.step_moves hst with
    | lastGone | leave => cases hmem
    | oneGone => exact .inl (old hi (Finset.mem_of_mem_erase hmem))
    | @addEpoll listener source rest _ hpc =>
      rcases Finset.mem_insert.mp hmem with rfl | hmem
      · obtain ⟨-, hp⟩ := step_party hs
        cases hp with
        | env hj' hst' he =>
          cases he with
          | plain hp => cases hp
          | addEpoll hc =>
            have hfile := hacc.held.adding hi hpc hc
            have hsource : s.fds.pass y (.queue i) (.socket i) y = some ⟨.conn c, .socket i⟩ := hy
            rw [Fds.pass_eq hfile, Function.update_self] at hsource
            cases hsource
            exact .inr ⟨e, rest, rfl, hi, hpc, hc⟩
      · exact .inl (old hi hmem)
    | _ => exact .inl (old hi hmem)

theorem Enrolled.step (h : s.Enrolled) (hacc : s.Accounted) (hs : s.step P a = some t) : t.Enrolled := by
  have hacc' := hacc.step hs
  refine ⟨fun i e' y c hi' hy => ?_, fun i e' y c hi' hy => ?_⟩
  · rcases own_before hacc hs hi' hy with ⟨e, hi, hold⟩ | ⟨e, rest, rfl, hi, hpc, hc⟩
    · exact (added_step hs hi hi').subset (h.member i e y c hi hold)
    · obtain ⟨-, hp⟩ := step_party hs
      cases hp with
      | env hj hst he =>
        cases (Function.update_self ..).symm.trans hi'
        cases Env.step_moves hst with
        | addEpoll => simp
  · rcases added_before hs hi' hy with ⟨e, hi, hy⟩ | ⟨e, rest, rfl, hi, hpc, hc⟩
    · obtain ⟨hhome, hqueue⟩ := h.passed i e y c hi hy
      refine ⟨home_kept hacc hs hhome, fun z j hz => ?_⟩
      rcases queue_before hacc hs hz with hz | hnone
      · exact hqueue z j hz
      · rw [hnone] at hhome
        cases hhome
    · have hfile := hacc.held.adding hi hpc hc
      have hown : t.fds y = some ⟨.conn c, .socket i⟩ := by
        obtain ⟨-, hp⟩ := step_party hs
        cases hp with
        | env _ _ he =>
          cases he with
          | plain hp => cases hp
          | addEpoll =>
            show s.fds.pass y (.queue i) (.socket i) y = _
            rw [Fds.pass_eq hfile, Function.update_self]
      refine ⟨hacc'.connected.homed y c _ hown (by simp), fun z j hz => ?_⟩
      obtain rfl := hacc'.connected.once z y c _ _ hz hown (by simp [Holder.env]) (by simp [Holder.env])
      cases hz.symm.trans hown

end Daemon
end Garnd
