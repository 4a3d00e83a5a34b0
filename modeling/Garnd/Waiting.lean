import Garnd.Requests

/- Waits on clients. The sockets block: a `recv` on a connection on which nothing is queued
   waits for its client, a `send` to a client that does not read waits for it, and whoever
   waits for a thread that does waits with it (`Daemon.WaitsOnClient`). Nothing in the
   daemon keeps clients from that (`Daemon.held_up`). It does not happen in the runs in
   which a client has sent something by the time the welcome thread turns to it, and
   leaves room for the responses it is due (`Daemon.Prompt`). -/
namespace Garnd
open Transition

/-- The instance whose thread the welcome thread waits for. -/
def WelcomePc.awaits : WelcomePc → Option EnvId
  | .insertRecv a => some a.id
  | .join i _ => some i
  | _ => none

/-- The events the thread has before it, the one that it receives a message for first. -/
def Env.expected (e : Env) : List Event :=
  match e.pc, e.raisedBy with
  | .recv data rest, some source => .conn data source false :: rest
  | pc, _ => pc.rest

/-- The events the thread has before it are those of a new batch, or come from those it had. -/
theorem Env.Moves.expected {P : Externals} {e e' : Env} {b : EnvAct} (hm : Env.Moves P e b e') :
    e'.expected.Sublist e.expected ∨
      ∃ events, b = .wait (.ok events) ∧ e'.expected = events ∧
        (events.map Event.registration).Nodup := by
  have rest {pc : EnvPc} (hpc : e.pc = pc) (hno : ∀ fd rest, pc ≠ .recv fd rest) :
      e.expected = pc.rest := by
    subst hpc
    unfold Env.expected
    split
    · exact absurd ‹e.pc = _› (hno _ _)
    · rfl
  cases hm with
  | sendError => exact .inl (List.Sublist.refl _)
  | wait _ _ _ hn => exact .inr ⟨_, rfl, rfl, hn⟩
  | recv _ hpc | recvMalformed _ hpc | recvFails _ hpc | recvUnanswered _ hpc =>
    refine .inl ?_
    simp only [Env.expected, hpc]
    cases e.raisedBy with
    | none => exact List.Sublist.refl _
    | some c => exact List.sublist_cons_self _ _
  | readable _ hpc =>
    rw [rest hpc nofun]
    exact .inl (List.Sublist.refl _)
  | addEvent _ hpc | dropEvent _ hpc | oneGone _ hpc =>
    rw [rest hpc nofun]
    exact .inl (List.sublist_cons_self _ _)
  | addRead _ hpc | addReadFails _ hpc | addTake _ hpc | addEmpty _ hpc | addEpoll _ hpc
  | addEpollFails _ hpc | respond _ hpc | respondFails _ hpc | openMutex _ hpc | send _ hpc
  | sendFails _ hpc =>
    rw [rest hpc nofun]
    exact .inl (List.Sublist.refl _)
  | epollAdd | dropSync | dropListener =>
    split <;> exact .inl (List.nil_sublist _)
  | _ => exact .inl (List.nil_sublist _)

/-- The thread comes to a receive when it has looked at the peer. -/
theorem Welcome.Moves.receives {P : Externals} {w w' : Welcome} {a : WelcomeAct} {x : RawFd}
    (hm : Welcome.Moves P w a w') (hx : w'.pc = .recv x) :
    (∃ err, a = .sendError err ∧ w.pc = .recv x) ∨
      ∃ uid, a = .getsockopt (.ok uid) ∧ w.pc = .getsockopt x ∧ uid ≠ 0 := by
  have done (hd : w'.pc.aside = true) : (∃ err, a = .sendError err ∧ w.pc = .recv x) ∨
      ∃ uid, a = .getsockopt (.ok uid) ∧ w.pc = .getsockopt x ∧ uid ≠ 0 := by
    rw [hx] at hd
    cases hd
  cases hm with
  | sendError => exact .inl ⟨_, rfl, hx⟩
  | notRoot _ hpc hu =>
    cases hx
    exact .inr ⟨_, rfl, hpc, hu⟩
  | drainUnbound _ hpc | drainDisconnected _ hpc => cases hpc.symm.trans hx
  | poll => exact done onPoll_aside
  | drainEmpty => exact done onWelcome_aside
  | root | getsockoptFails | recvFails | recvUnanswered | send | close => exact done closing_aside
  | join | joinPanics => exact done resume_aside
  | @inserted at' serializes => cases serializes <;> cases hx
  | _ => cases hx

namespace Daemon
variable {P : Externals} {s t u : Daemon} {i : EnvId} {e e' : Env} {c : ConnId}

/-! ## What is waited for -/

/-- A `recv` on the connection returns: a message is queued, or its client sends no more. -/
def heard (s : Daemon) (c : ConnId) : Bool :=
  (s.conns c).any fun conn => !conn.inbox.isEmpty || conn.closed

/-- Thread `i` waits on a client. -/
def EnvWaits (P : Externals) (s : Daemon) (i : EnvId) : Prop :=
  ∃ e c, s.envs i = some e ∧
    ((∃ fd rest, e.pc = .recv fd rest ∧ s.connAt fd = some c ∧ s.heard c = false) ∨
      ∃ fd response errors rest, e.pc = .send fd response errors rest ∧ s.connAt fd = some c ∧
        s.hasRoom P c = false)

/-- The welcome thread waits on a client, or for a thread that does. -/
def WaitsOnClient (P : Externals) (s : Daemon) : Prop :=
  (∃ fd c, s.welcome.pc = .recv fd ∧ s.connAt fd = some c ∧ s.heard c = false) ∨
    (∃ fd response errors abandon fds c, s.welcome.pc = .send fd response errors abandon fds ∧
      s.connAt fd = some c ∧ s.hasRoom P c = false) ∨
    ∃ i, s.welcome.pc.awaits = some i ∧ s.EnvWaits P i

/-- The responses that threads are to send on the connection. -/
def owed (s : Daemon) (c : ConnId) : ℕ :=
  (decide (s.welcome.pc.owes.bind s.connAt = some c)).toNat +
    ((homeOf s.conns c).bind s.envs |>.any fun e => e.pc.owes && e.raisedBy = some c).toNat

/-- The receive queue of the client takes `n` messages more, or the client has closed. -/
def takesMore (P : Externals) (s : Daemon) (c : ConnId) (n : ℕ) : Bool :=
  (s.conns c).any fun conn => conn.gone || conn.unread + n ≤ P.peerQueue

/-- A client that is not root has sent something, or sends no more, when the welcome thread
has looked at its peer, and a thread takes a message only from a connection that has room
for the response and for those that are due already. -/
def prompt (P : Externals) (s : Daemon) (a : Act) : Bool :=
  (match s.welcome.pc, a with
    | .getsockopt fd, .welcome (.getsockopt (.ok uid)) => uid = 0 || (s.connAt fd).all s.heard
    | _, _ => true) &&
  (s.takes a).all fun c => s.takesMore P c (s.owed c + 1)

def Prompt (P : Externals) (s : Daemon) (a : Act) : Prop := s.prompt P a = true

theorem Prompt.heard {fd : RawFd} {uid : ℕ} (h : s.Prompt P (.welcome (.getsockopt (.ok uid))))
    (hpc : s.welcome.pc = .getsockopt fd) (hu : uid ≠ 0) (hc : s.connAt fd = some c) :
    s.heard c = true := by
  simpa [Prompt, prompt, hpc, hu, hc, takes] using h

theorem Prompt.room {a : Act} (h : s.Prompt P a) (hc : s.takes a = some c) :
    s.takesMore P c (s.owed c + 1) = true := by
  have hall := ((Bool.and_eq_true _ _).mp h).2
  rwa [hc] at hall

/-- A connection with something to receive goes on having it until a thread takes it. -/
theorem heard_kept {a : Act} (hs : s.step P a = some t) (hc : s.heard c = true)
    (ha : s.takes a ≠ some c) : t.heard c = true := by
  have hchange := conn_change hs c
  unfold heard at hc ⊢
  generalize s.conns c = old at hchange hc
  generalize t.conns c = new at hchange ⊢
  cases hchange with
  | same => exact hc
  | connect => cases hc
  | take ht => exact absurd ht ha
  | hungUp ht => exact absurd ht ha
  | send => simp
  | shut =>
    rw [Option.any_some] at hc ⊢
    exact (Bool.or_eq_true _ _).mpr (((Bool.or_eq_true _ _).mp hc).imp_right Conn.closed_shut)
  | close => simp [Conn.close]
  | read | respond | pass => exact hc

/-! ## Who is to send a response -/

/-- The welcome thread that is to answer on the connection was to before the step, or has
taken the message now. -/
theorem welcome_serves_before {a : Act} (hs : s.step P a = some t) (hc : t.Serves c .welcome) :
    s.Serves c .welcome ∧ (a.isOf .welcome = true → s.responds a = none) ∨
      s.takes a = some c ∧ a.isOf .welcome = true := by
  obtain ⟨x, hx, hconn⟩ := hc
  by_cases ha : ∃ b, a = .welcome b
  · obtain ⟨b, rfl⟩ := ha
    have hbefore := connAt_before hs hconn
    obtain ⟨-, hp⟩ := step_party hs
    cases hp with
    | welcome hm he =>
      rcases hm.owes hx with hold | ⟨m, serializes, rfl, hpc⟩
      · refine .inl ⟨⟨x, hold, ?_⟩, fun _ => ?_⟩
        · refine hbefore.resolve_right ?_
          rintro (⟨heq, -⟩ | ⟨fd, name, hdup, heq, hfree, hfd⟩) <;> cases heq
          · cases hm with
            | accept _ hpc =>
              rw [hpc] at hold
              cases hold
          · -- the duplicate is not the number the thread answers on
            rw [hdup] at hold
            cases hold
            rw [Daemon.connAt, Fds.connAt, hfree] at hfd
            cases hfd
        · cases hm with
          | sendAbandon | send =>
            exfalso
            first
              | cases hx
              | rw [(WelcomePc.aside_owes Welcome.closing_aside).1] at hx
                cases hx
          | _ => rfl
      · refine .inr ⟨?_, rfl⟩
        simp only [takes, hpc]
        exact hbefore.resolve_right (by rintro (⟨heq, -⟩ | ⟨-, -, -, heq, -⟩) <;> cases heq)
  · rcases welcome_other hs fun b hb => ha ⟨b, hb⟩ with hw | hw
    · refine .inl ⟨⟨x, hw ▸ hx, (connAt_before hs hconn).resolve_right ?_⟩, fun hof => ?_⟩
      · rintro (⟨hb, -⟩ | ⟨-, -, -, hb, -⟩) <;> exact ha ⟨_, hb⟩
      · exact absurd (Act.of_isOf_welcome hof) ha
    · rw [hw] at hx
      cases hx

/-- The same for an environment thread. -/
theorem Settled.env_serves_before {a : Act} (h : s.Settled) (hs : s.step P a = some t)
    (hc : t.Serves c (.env i)) :
    s.Serves c (.env i) ∧ (a.isOf (.env i) = true → s.responds a = none) ∨
      s.takes a = some c ∧ a.isOf (.env i) = true := by
  obtain ⟨e', hi', ho, hr⟩ := hc
  by_cases ha : ∃ b, a = .env i b
  · obtain ⟨b, rfl⟩ := ha
    obtain ⟨-, hp⟩ := step_party hs
    cases hp with
    | @env _ _ e f u hi hst he =>
      cases (Function.update_self ..).symm.trans hi'
      have hm := Env.step_moves hst
      obtain ⟨hraised, hold | ⟨fd, m, serializes, rfl⟩⟩ := hm.owes ho
      · refine .inl ⟨⟨e, hi, hold, hraised ▸ hr⟩, fun _ => ?_⟩
        cases hm with
        | send => cases ho
        | _ => rfl
      · obtain ⟨c', hc', hown⟩ := (h.registered i e hi).serving fd (uses_serving hst rfl)
        cases (hraised.symm.trans hr).symm.trans hc'
        exact .inr ⟨connAt_eq hown, by simp [Act.isOf]⟩
  · obtain ⟨e, hi⟩ : ∃ e, s.envs i = some e := by
      cases env_change hs hi' with
      | same hj | thread hj => exact ⟨_, hj⟩
      | made _ hnew =>
        rw [hnew] at ho
        cases ho
    obtain ⟨e₂, hi₂, hsame⟩ := env_still hs hi fun b hb => ha ⟨b, hb⟩
    cases hi'.symm.trans hi₂
    refine .inl ⟨⟨e, hi, hsame.pc ▸ ho, hsame.raisedBy ▸ hr⟩, fun hof => ?_⟩
    exact absurd (Act.of_isOf_env hof) ha

/-- A response is sent by a thread that serves the connection. -/
theorem Settled.serves_of_responds {a : Act} (h : s.Settled) (hs : s.step P a = some t)
    (hc : s.responds a = some c) : ∃ thread, a.isOf thread = true ∧ s.Serves c thread := by
  obtain ⟨-, hp⟩ := step_party hs
  cases hp with
  | @welcome a w u hm he =>
    refine ⟨.welcome, rfl, ?_⟩
    cases a with
    | send r =>
      cases r with
      | ok =>
        simp only [responds] at hc
        split at hc
        · rename_i hpc
          exact ⟨_, by rw [hpc]; rfl, hc⟩
        · cases hc
      | error => cases hc
    | _ => cases hc
  | @env i b e e' u hi hst he =>
    refine ⟨.env i, by simp [Act.isOf], ?_⟩
    cases b with
    | send fd response r =>
      cases r with
      | ok =>
        obtain ⟨c', hc', hown⟩ := (h.registered i e hi).serving fd (uses_serving hst rfl)
        cases hc.symm.trans (connAt_eq hown)
        cases Env.step_moves hst with
        | send _ hpc => exact ⟨e, hi, by rw [hpc]; rfl, hc'⟩
      | error => cases hc
    | _ => cases hc
  | _ => cases hc

/-- The environment thread that serves a connection is the one it was passed to. -/
theorem Settled.home_of_serves (h : s.Settled) (hc : s.Serves c (.env i)) :
    homeOf s.conns c = some i := by
  obtain ⟨e, hi, ho, hr⟩ := hc
  obtain ⟨x, hx⟩ := EnvPc.serving_of_owes ho
  obtain ⟨c', hc', hown⟩ := (h.registered i e hi).serving x hx
  cases hr.symm.trans hc'
  exact h.connected.homed x c _ hown nofun

/-! ## What is due -/

theorem welcome_owes_iff : s.welcome.pc.owes.bind s.connAt = some c ↔ s.Serves c .welcome :=
  Option.bind_eq_some_iff

theorem Settled.env_owes_iff (h : s.Settled) :
    ((homeOf s.conns c).bind s.envs).any (fun e => e.pc.owes && e.raisedBy = some c) = true ↔
      ∃ i, s.Serves c (.env i) := by
  constructor
  · intro hany
    obtain ⟨e, he, hp⟩ := (Option.any_eq_true _ _).mp hany
    obtain ⟨i, -, hi⟩ := Option.bind_eq_some_iff.mp he
    obtain ⟨ho, hr⟩ := (Bool.and_eq_true _ _).mp hp
    exact ⟨i, e, hi, ho, of_decide_eq_true hr⟩
  · rintro ⟨i, hc⟩
    have hhome := h.home_of_serves hc
    obtain ⟨e, hi, ho, hr⟩ := hc
    simp [hhome, hi, ho, hr]

open Classical in
theorem Settled.owed_eq (h : s.Settled) (c : ConnId) : s.owed c =
    (if s.Serves c .welcome then 1 else 0) + if ∃ i, s.Serves c (.env i) then 1 else 0 := by
  have toNat {b : Bool} {p : Prop} (hb : b = true ↔ p) : b.toNat = if p then 1 else 0 := by
    cases b with
    | false => exact (if_neg fun hp => nomatch hb.mpr hp).symm
    | true => exact (if_pos (hb.mp rfl)).symm
  rw [owed, toNat h.env_owes_iff, toNat (decide_eq_true_iff.trans welcome_owes_iff)]

theorem responds_takes {a : Act} (hr : s.responds a = some c) : s.takes a ≠ some c := by
  cases a with
  | welcome b =>
    cases b with
    | recv => cases hr
    | _ => nofun
  | env i b =>
    cases b with
    | recv => cases hr
    | _ => nofun
  | _ => nofun

open Classical in
/-- A step leaves one response more to be sent where it takes a message, and one less where
it sends one. -/
theorem Settled.owed_step {a : Act} (h : s.Settled) (hs : s.step P a = some t) (c : ConnId) :
    t.owed c + (if s.responds a = some c then 1 else 0) ≤
      s.owed c + if s.takes a = some c then 1 else 0 := by
  rw [(h.step hs).owed_eq, h.owed_eq]
  have hwelcome (ht : t.Serves c .welcome) :
      s.Serves c .welcome ∧ (a.isOf .welcome = true → s.responds a ≠ some c) ∨
        s.takes a = some c ∧ a.isOf .welcome = true := by
    refine (welcome_serves_before hs ht).imp_left fun hold => ⟨hold.1, fun hof => ?_⟩
    rw [hold.2 hof]
    nofun
  have apart {i : EnvId} (hof : a.isOf (.env i) = true) : a.isOf .welcome = false := by
    obtain ⟨b, rfl⟩ := Act.of_isOf_env hof
    rfl
  have hresponds (hr : s.responds a = some c) :
      a.isOf .welcome = true ∧ s.Serves c .welcome ∨
        a.isOf .welcome = false ∧ ∃ i, a.isOf (.env i) = true ∧ s.Serves c (.env i) := by
    obtain ⟨thread, hof, hc⟩ := h.serves_of_responds hs hr
    cases thread with
    | main => cases hc
    | welcome => exact .inl ⟨hof, hc⟩
    | env i => exact .inr ⟨apart hof, i, hof, hc⟩
  have henv (ht : ∃ i, t.Serves c (.env i)) :
      (∃ i, s.Serves c (.env i)) ∧ (a.isOf .welcome = false → s.responds a ≠ some c) ∨
        s.takes a = some c ∧ a.isOf .welcome = false := by
    obtain ⟨i, ht⟩ := ht
    rcases h.env_serves_before hs ht with ⟨hc, hno⟩ | ⟨htake, hof⟩
    · refine .inl ⟨⟨i, hc⟩, fun hw hr => ?_⟩
      rcases hresponds hr with ⟨hw', -⟩ | ⟨-, j, hof, hj⟩
      · cases hw.symm.trans hw'
      · have hij := (h.home_of_serves hj).symm.trans (h.home_of_serves hc)
        cases hij
        rw [hno hof] at hr
        cases hr
    · exact .inr ⟨htake, apart hof⟩
  have counted {p q : Prop} (hpq : p → q) : (if p then 1 else 0) ≤ (if q then 1 else 0 : ℕ) := by
    split_ifs with hp hq
    · exact Nat.le_refl 1
    · exact absurd (hpq hp) hq
    · exact Nat.zero_le _
    · exact Nat.le_refl 0
  have one (p : Prop) : (if p then 1 else 0 : ℕ) ≤ 1 := by split_ifs <;> omega
  by_cases hr : s.responds a = some c
  · have htakes := responds_takes hr
    rw [if_pos hr, if_neg htakes]
    rcases hresponds hr with ⟨hw, hc⟩ | ⟨hw, i, -, hc⟩
    · have hgone : ¬ t.Serves c .welcome := fun ht =>
        (hwelcome ht).elim (fun hold => hold.2 hw hr) fun htake => htakes htake.1
      have hrest := counted fun ht => ((henv ht).resolve_right fun htake => htakes htake.1).1
      rw [if_neg hgone, if_pos hc]
      omega
    · have hgone : ¬ ∃ i, t.Serves c (.env i) := fun ht =>
        (henv ht).elim (fun hold => hold.2 hw hr) fun htake => htakes htake.1
      have hrest := counted fun ht => ((hwelcome ht).resolve_right fun htake => htakes htake.1).1
      have hone : ∃ i, s.Serves c (.env i) := ⟨i, hc⟩
      rw [if_neg hgone, if_pos hone]
      omega
  · rw [if_neg hr]
    by_cases htake : s.takes a = some c
    · rw [if_pos htake]
      cases hw : a.isOf .welcome with
      | true =>
        have hrest := counted fun ht => ((henv ht).resolve_right fun hnew => nomatch hw.symm.trans hnew.2).1
        have hnew := one (t.Serves c .welcome)
        omega
      | false =>
        have hrest := counted fun ht => ((hwelcome ht).resolve_right fun hnew => nomatch hw.symm.trans hnew.2).1
        have hnew := one (∃ i, t.Serves c (.env i))
        omega
    · have hrest := counted fun ht => ((hwelcome ht).resolve_right fun hnew => htake hnew.1).1
      have hrest' := counted fun ht => ((henv ht).resolve_right fun hnew => htake hnew.1).1
      omega

/-! ## The invariant -/

/-- The sockets behind the events a thread has before it are its own. -/
theorem Settled.expected_own {data : RawFd} {source : ConnId} (h : s.Settled)
    (hi : s.envs i = some e) (hev : .conn data source false ∈ e.expected) :
    s.fds.Own i data source := by
  have rest (hev : .conn data source false ∈ e.pc.rest) : s.fds.Own i data source :=
    ((h.registered i e hi).batch data source false hev).2.resolve_right fun hno => nomatch hno.1
  unfold Env.expected at hev
  split at hev
  · rename_i fd rest' c hpc hr
    rcases List.mem_cons.mp hev with hev | hev
    · cases hev
      obtain ⟨c', hc', hown⟩ := (h.registered i e hi).serving data (by rw [hpc]; rfl)
      cases hr.symm.trans hc'
      exact hown
    · exact rest (by rw [hpc]; exact hev)
  · exact rest hev

/-- Whatever a thread is to receive is there, and there is room for whatever is due. -/
structure Responsive (P : Externals) (s : Daemon) : Prop where
  heard : ∀ fd c, s.welcome.pc = .recv fd → s.connAt fd = some c → s.heard c = true
  once : ∀ i e, s.envs i = some e → (e.expected.map Event.registration).Nodup
  expected : ∀ i e data source, s.envs i = some e → .conn data source false ∈ e.expected →
    s.heard source = true
  room : ∀ c, s.owed c ≠ 0 → s.takesMore P c (s.owed c) = true

theorem responsive_boot : boot.Responsive P where
  heard fd c hpc := by cases hpc
  once i e hi := by cases hi
  expected i e data source hi := by cases hi
  room c hc := absurd rfl hc

/-- There is room for what is due, unless the client has closed. -/
theorem takesMore_of {n : ℕ} {conn : Conn} (hc : s.conns c = some conn)
    (hn : conn.gone = true ∨ conn.unread + n ≤ P.peerQueue) : s.takesMore P c n = true := by
  simpa [takesMore, hc] using hn

theorem of_takesMore {n : ℕ} {conn : Conn} (hc : s.conns c = some conn)
    (h : s.takesMore P c n = true) : conn.gone = true ∨ conn.unread + n ≤ P.peerQueue := by
  simpa [takesMore, hc] using h

/-- Room for one is room for the next `send`. -/
theorem hasRoom_of {n : ℕ} (h : s.takesMore P c n = true) (hn : n ≠ 0) : s.hasRoom P c = true := by
  unfold takesMore at h
  unfold hasRoom
  cases hc : s.conns c with
  | none =>
    rw [hc] at h
    cases h
  | some conn =>
    simp only [hc, Option.any_some, Bool.or_eq_true, decide_eq_true_eq] at h ⊢
    rcases h with h | h
    · exact .inr h
    · exact .inl (by omega)

/-- Nobody waits on a client. -/
theorem Responsive.not_waiting (h : s.Responsive P) (hset : s.Settled) : ¬ s.WaitsOnClient P := by
  have due {c : ConnId} {thread : Thread} (hc : s.Serves c thread) :
      s.hasRoom P c = true := by
    have howed : s.owed c ≠ 0 := by
      classical
      rw [hset.owed_eq]
      cases thread with
      | main => cases hc
      | welcome =>
        rw [if_pos hc]
        omega
      | env i =>
        have hone : ∃ i, s.Serves c (.env i) := ⟨i, hc⟩
        rw [if_pos hone]
        omega
    exact hasRoom_of (h.room c howed) howed
  rintro (⟨fd, c, hpc, hc, hno⟩ | ⟨fd, response, errors, abandon, fds, c, hpc, hc, hno⟩ | ⟨i, -, hwait⟩)
  · exact absurd ((h.heard fd c hpc hc).symm.trans hno) nofun
  · have hserves : s.Serves c .welcome := ⟨fd, by rw [hpc]; rfl, hc⟩
    exact absurd ((due hserves).symm.trans hno) nofun
  · obtain ⟨e, c, hi, ⟨fd, rest, hpc, hc, hno⟩ | ⟨fd, response, errors, rest, hpc, hc, hno⟩⟩ := hwait
    · obtain ⟨c', hr, hown⟩ := (hset.registered i e hi).serving fd (by rw [hpc]; rfl)
      cases hc.symm.trans (connAt_eq hown)
      have hev : .conn fd c false ∈ e.expected := by
        simp only [Env.expected, hpc, hr]
        exact List.mem_cons_self
      exact absurd ((h.expected i e fd c hi hev).symm.trans hno) nofun
    · obtain ⟨c', hr, hown⟩ := (hset.registered i e hi).serving fd (by rw [hpc]; rfl)
      cases hc.symm.trans (connAt_eq hown)
      have hserves : s.Serves c (.env i) := ⟨e, hi, by rw [hpc]; rfl, hr⟩
      exact absurd ((due hserves).symm.trans hno) nofun

/-! ## The steps -/

/-- A message is taken by the welcome thread, or by the thread the connection was passed to. -/
theorem Settled.takes_cases {a : Act} (h : s.Settled) (hs : s.step P a = some t)
    (ht : s.takes a = some c) :
    (∃ b fd, a = .welcome b ∧ s.welcome.pc = .recv fd ∧ s.connAt fd = some c) ∨
      ∃ i fd m serializes, a = .env i (.recv fd (.ok m) serializes) ∧ s.fds.Own i fd c := by
  cases a with
  | welcome b =>
    cases b with
    | recv r serializes =>
      cases r with
      | error => cases ht
      | ok m =>
        simp only [takes] at ht
        split at ht
        · exact .inl ⟨_, _, rfl, ‹_›, ht⟩
        · cases ht
    | _ => cases ht
  | env i b =>
    cases b with
    | recv fd r serializes =>
      cases r with
      | error => cases ht
      | ok m =>
        obtain ⟨-, hp⟩ := step_party hs
        cases hp with
        | @env _ _ e _ _ hi hst =>
          obtain ⟨c', -, hown⟩ := (h.registered i e hi).serving fd (uses_serving hst rfl)
          cases ht.symm.trans (connAt_eq hown)
          exact .inr ⟨i, fd, m, serializes, rfl, hown⟩
    | _ => cases ht
  | _ => cases ht

theorem Responsive.heard_step {a : Act} {fd : RawFd} (h : s.Responsive P) (hset : s.Settled)
    (hok : s.Prompt P a) (hs : s.step P a = some t) (hpc : t.welcome.pc = .recv fd)
    (hc : t.connAt fd = some c) : t.heard c = true := by
  have hbefore := connAt_before hs hc
  by_cases ha : ∃ b, a = .welcome b
  · obtain ⟨b, rfl⟩ := ha
    have hmoves : ∃ w, Welcome.Moves P s.welcome b w ∧ w.pc = .recv fd := by
      obtain ⟨-, hp⟩ := step_party hs
      cases hp with
      | welcome hm => exact ⟨_, hm, hpc⟩
    obtain ⟨w, hm, hw⟩ := hmoves
    rcases hm.receives hw with ⟨err, rfl, hold⟩ | ⟨uid, rfl, hold, hu⟩
    · have hconn := hbefore.resolve_right (by rintro (⟨hb, -⟩ | ⟨-, -, -, hb, -⟩) <;> cases hb)
      exact heard_kept hs (h.heard fd c hold hconn) nofun
    · have hconn := hbefore.resolve_right (by rintro (⟨hb, -⟩ | ⟨-, -, -, hb, -⟩) <;> cases hb)
      exact heard_kept hs (hok.heard hold hu hconn) nofun
  · rcases welcome_other hs fun b hb => ha ⟨b, hb⟩ with hw | hw
    · rw [hw] at hpc
      have hconn := hbefore.resolve_right (by rintro (⟨hb, -⟩ | ⟨-, -, -, hb, -⟩) <;> exact ha ⟨_, hb⟩)
      refine heard_kept hs (h.heard fd c hpc hconn) fun ht => ?_
      rcases hset.takes_cases hs ht with ⟨b, -, hb, -⟩ | ⟨i, fd', m, serializes, -, hown⟩
      · exact ha ⟨b, hb⟩
      · have hhome := hset.connected.homed fd' c _ hown nofun
        exact hset.toAccounted.not_untouched hhome (.inr (.inr ⟨fd, by rw [hpc]; rfl, hconn⟩))
    · cases hw.symm.trans hpc

theorem Responsive.once_step {a : Act} (h : s.Responsive P) (hs : s.step P a = some t)
    (hi : t.envs i = some e') : (e'.expected.map Event.registration).Nodup := by
  cases env_change hs hi with
  | @same _ e hj hsame =>
    have heq : e'.expected = e.expected := by simp only [Env.expected, hsame.pc, hsame.raisedBy]
    rw [heq]
    exact h.once i e hj
  | thread hj hst =>
    rcases (Env.step_moves hst).expected with hsub | ⟨events, -, rfl, hn⟩
    · exact (h.once i _ hj).sublist (hsub.map _)
    · exact hn
  | made _ hnew =>
    rw [hnew]
    exact List.nodup_nil

/-- The message that the thread takes is not among those it has yet to take. -/
theorem Responsive.taken_once {fd : RawFd} {m : Message} {serializes : Bool} {data : RawFd}
    (h : s.Responsive P) (hset : s.Settled) (hi : s.envs i = some e)
    (hm : Env.Moves P e (.recv fd (.ok m) serializes) e') (hown : s.fds.Own i fd c) :
    .conn data c false ∉ e'.expected := by
  intro hev
  have taken {rest : List Event} (hpc : e.pc = .recv fd rest) (hrest : e'.expected = rest) : False := by
    obtain ⟨c', hr, hown'⟩ := (hset.registered i e hi).serving fd (by rw [hpc]; rfl)
    cases hown.symm.trans hown'
    have hex : e.expected = .conn fd c false :: rest := by simp only [Env.expected, hpc, hr]
    rw [hrest] at hev
    have hdata := hset.expected_own hi (hex ▸ List.mem_cons_of_mem _ hev)
    have hfd : data = fd := hset.connected.once data fd c _ _ hdata hown nofun nofun
    have hn := h.once i e hi
    rw [hex, List.map_cons, List.nodup_cons] at hn
    exact hn.1 (hfd ▸ List.mem_map_of_mem hev)
  cases hm with
  | recv _ hpc | recvMalformed _ hpc | recvUnanswered _ hpc => exact taken hpc rfl

theorem Responsive.expected_step {a : Act} {data : RawFd} {source : ConnId} (h : s.Responsive P)
    (hset : s.Settled) (hs : s.step P a = some t) (hi : t.envs i = some e')
    (hev : .conn data source false ∈ e'.expected) : t.heard source = true := by
  by_cases ha : ∃ b, a = .env i b
  · obtain ⟨b, rfl⟩ := ha
    have hmoves : ∃ e u, s.envs i = some e ∧ Env.Moves P e b e' ∧ EnvEffect P s i e e' b u := by
      obtain ⟨-, hp⟩ := step_party hs
      cases hp with
      | env hj hst he =>
        cases (Function.update_self ..).symm.trans hi
        exact ⟨_, _, hj, Env.step_moves hst, he⟩
    obtain ⟨e, u, hj, hm, he⟩ := hmoves
    rcases hm.expected with hsub | ⟨events, rfl, hevents, -⟩
    · refine heard_kept hs (h.expected i e data source hj (hsub.subset hev)) fun ht => ?_
      rcases hset.takes_cases hs ht with ⟨b, -, hb, -⟩ | ⟨j, fd, m, serializes, hb, hown⟩
      · cases hb
      · cases hb
        exact h.taken_once hset hj hm hown hev
    · refine heard_kept hs ?_ (by simp [takes])
      cases he with
      | plain hp => cases hp
      | wait _ hready =>
        have hr := hready _ (hevents ▸ hev)
        simp only [ready] at hr
        split at hr
        · rename_i conn hc
          have hqueued := ((Bool.and_eq_true _ _).mp hr).2
          rw [Bool.false_or] at hqueued
          simp [Daemon.heard, hc, hqueued]
        · cases hr
  · obtain ⟨e, hj⟩ : ∃ e, s.envs i = some e := by
      cases env_change hs hi with
      | same hj | thread hj => exact ⟨_, hj⟩
      | made _ hnew =>
        rw [hnew] at hev
        cases hev
    obtain ⟨e₂, hi₂, hsame⟩ := env_still hs hj fun b hb => ha ⟨b, hb⟩
    cases hi.symm.trans hi₂
    have heq : e'.expected = e.expected := by simp only [Env.expected, hsame.pc, hsame.raisedBy]
    rw [heq] at hev
    have hown := hset.expected_own hj hev
    have hhome := hset.connected.homed data source _ hown (by simp)
    refine heard_kept hs (h.expected i e data source hj hev) fun ht => ?_
    rcases hset.takes_cases hs ht with ⟨b, fd, -, hpc, hc⟩ | ⟨j, fd, m, serializes, hb, hown'⟩
    · exact hset.toAccounted.not_untouched hhome (.inr (.inr ⟨fd, by rw [hpc]; rfl, hc⟩))
    · have hhome' := hset.connected.homed fd source _ hown' (by simp)
      cases hhome.symm.trans hhome'
      exact ha ⟨_, hb⟩

theorem Responsive.room_step {a : Act} (h : s.Responsive P) (hset : s.Settled) (hok : s.Prompt P a)
    (hs : s.step P a = some t) (ho : t.owed c ≠ 0) : t.takesMore P c (t.owed c) = true := by
  have howed := hset.owed_step hs c
  have hchange := conn_change hs c
  -- what is due after the step is due before it, or the step takes a message
  have kept (ht : s.takes a ≠ some c) : s.owed c ≠ 0 ∧
      t.owed c + (if s.responds a = some c then 1 else 0) ≤ s.owed c := by
    rw [if_neg ht] at howed
    exact ⟨by omega, howed⟩
  generalize hold : s.conns c = old at hchange
  generalize hnew : t.conns c = new at hchange
  have room {conn : Conn} (hc : s.conns c = some conn) (ht : s.takes a ≠ some c) :
      conn.gone = true ∨ conn.unread + s.owed c ≤ P.peerQueue :=
    of_takesMore hc (h.room c (kept ht).1)
  cases hchange with
  | same ht hr =>
    obtain ⟨hs₀, hle⟩ := kept ht
    cases hc : s.conns c with
    | none =>
      have hroom := h.room c hs₀
      simp only [takesMore, hc, Option.any_none] at hroom
      cases hroom
    | some conn =>
      have hc' : t.conns c = some conn := by rw [hnew, ← hold, hc]
      refine takesMore_of hc' ((room hc ht).imp_right fun hn => ?_)
      omega
  | connect =>
    have hroom := h.room c (kept nofun).1
    simp only [takesMore, hold, Option.any_none] at hroom
    cases hroom
  | @send _ conn | @shut conn | @pass _ conn =>
    have hle := (kept nofun).2
    refine takesMore_of hnew ((room hold nofun).imp_right fun hn => ?_)
    show conn.unread + _ ≤ _
    omega
  | @read conn =>
    have hle := (kept nofun).2
    refine takesMore_of hnew ((room hold nofun).imp_right fun hn => ?_)
    show conn.unread - 1 + _ ≤ _
    omega
  | close => exact takesMore_of hnew (.inl rfl)
  | @take _ conn m rest ht =>
    refine takesMore_of hnew ((of_takesMore hold (hok.room ht)).imp_right fun hn => ?_)
    rw [if_pos ht] at howed
    show conn.unread + _ ≤ _
    omega
  | @hungUp _ conn ht =>
    -- the empty message is answered as well
    refine takesMore_of hnew ((of_takesMore hold (hok.room ht)).imp_right fun hn => ?_)
    rw [if_pos ht] at howed
    omega
  | @respond _ conn hr =>
    obtain ⟨-, hle⟩ := kept (responds_takes hr)
    rw [if_pos hr] at hle
    refine takesMore_of hnew ((room hold (responds_takes hr)).imp_right fun hn => ?_)
    show conn.unread + 1 + _ ≤ _
    omega

theorem Responsive.step {a : Act} (h : s.Responsive P) (hset : s.Settled) (hok : s.Prompt P a)
    (hs : s.step P a = some t) : t.Responsive P where
  heard _ _ := h.heard_step hset hok hs
  once _ _ := h.once_step hs
  expected _ _ _ _ := h.expected_step hset hs
  room _ := h.room_step hset hok hs

/-- No client holds up the service, whatever the clients do otherwise, in the runs in which
those that connect have sent something when it is their turn and leave room for their
responses. -/
theorem no_client_holds_up {as : List Act} (hr : Run (Daemon.step P) (Prompt P) boot as s) :
    ¬ s.WaitsOnClient P := by
  have hinv : s.Settled ∧ s.Responsive P :=
    hr.invariant (I := fun s => s.Settled ∧ s.Responsive P)
      (fun _ _ _ hok hs ht => ⟨hs.1.step ht, hs.2.step hs.1 hok ht⟩)
      ⟨settled_boot, responsive_boot⟩
  exact hinv.2.not_waiting hinv.1

/-- A client that is answered, and asks for a mutex when it has read the response. -/
theorem no_client_holds_up_mutex : ∃ as s, Run (Daemon.step .oneLetter) (Prompt .oneLetter) boot as s ∧
    s.exchange.length = 4 ∧ ¬ s.WaitsOnClient .oneLetter := by
  have hexec : (exec (Daemon.step .oneLetter) (fun s a => s.prompt .oneLetter a) boot
      (startUp ++ handsOver ++ adds ++ answers ++ [.client 0 .read] ++ asks ++ opensMutex)).any
        (fun s => s.exchange.length = 4) := by decide
  obtain ⟨s, hr, hp⟩ := Run.of_exec_any (fun _ _ h => h) hexec
  exact ⟨_, s, hr, of_decide_eq_true hp, no_client_holds_up hr⟩

/-- A client connects and sends nothing: the welcome thread waits in `recv` for it. -/
theorem held_up : ¬ ∀ P as s, Run (Daemon.step P) anyStep boot as s → ¬ s.WaitsOnClient P := by
  intro h
  have hexec : (exec (Daemon.step .oneLetter) (fun _ _ => true) boot
      (startUp ++ [.client 0 (.connect 1000),
        .welcome (.poll (.ok ⟨.none, .none, .none, .readable⟩)), .welcome (.accept (.ok 0)),
        .welcome (.getsockopt (.ok 1000))])).any
      (fun s => s.welcome.pc = .recv 0 ∧ s.connAt 0 = some 0 ∧ s.heard 0 = false) := by decide
  obtain ⟨s, hrun, hp⟩ := Run.of_exec_any (fun _ _ h => h) hexec
  have hr : Run (Daemon.step .oneLetter) anyStep boot _ s := hrun.mono fun _ _ _ => trivial
  exact h _ _ _ hr (.inl ⟨0, 0, of_decide_eq_true hp⟩)

end Daemon
end Garnd
