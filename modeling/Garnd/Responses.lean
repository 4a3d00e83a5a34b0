import Garnd.Sockets
import Garnd.Lib.Exchange

/- The order of the responses on a connection, which two threads serve through two
   duplicates of one socket: the welcome thread for its one request, and from the
   hand-over on the environment thread. Nothing keeps the latter from taking the next
   message before the welcome thread has sent its response, so the order holds in the
   runs where that does not happen (`Daemon.TakesAnswered`) and fails in others
   (`Daemon.overtaken`). -/
namespace Garnd
open Transition Exchange

def Traffic.entry (c : ConnId) : Traffic → Entry ConnId Thread
  | .request t => .request c t
  | .response t => .response c t

/-- The number on which the thread is to answer a message it has taken. -/
def WelcomePc.owes : WelcomePc → Option RawFd
  | .dup fd _ | .envNew fd _ _ | .send fd _ _ _ _ => some fd
  | .insertSend a | .insertWrite a | .insertRecv a => some a.fd
  | _ => none

/-- The number of a connection from which the thread has taken nothing yet. -/
def WelcomePc.unheard : WelcomePc → Option RawFd
  | .getsockopt fd | .recv fd => some fd
  | _ => none

/-- The thread is to answer a message it has taken. -/
def EnvPc.owes : EnvPc → Bool
  | .openMutex _ _ _ | .send _ _ _ _ => true
  | _ => false

/-- A thread comes to owe an answer by receiving a message. -/
theorem Env.Moves.owes {P : Externals} {e e' : Env} {b : EnvAct} (hm : Env.Moves P e b e')
    (ho : e'.pc.owes = true) : e'.raisedBy = e.raisedBy ∧
      (e.pc.owes = true ∨ ∃ fd m serializes, b = .recv fd (.ok m) serializes) := by
  cases hm with
  | sendError => exact ⟨rfl, .inl ho⟩
  | recv | recvMalformed => exact ⟨rfl, .inr ⟨_, _, _, rfl⟩⟩
  | openMutex _ hpc =>
    refine ⟨rfl, .inl ?_⟩
    rw [hpc]
    rfl
  | epollAdd | dropSync | dropListener =>
    dsimp only at ho
    split at ho <;> cases ho
  | _ => cases ho

/-- The thread has no request in hand, or is done with it. -/
def WelcomePc.aside : WelcomePc → Bool
  | .poll | .shutdownRead | .reloadRead | .closeRead _ | .drain _ | .accept | .close _ _ | .ret _
  | .teardown _ => true
  | _ => false

theorem WelcomePc.aside_owes {pc : WelcomePc} (h : pc.aside = true) :
    pc.owes = none ∧ pc.unheard = none := by
  cases pc <;> cases h <;> exact ⟨rfl, rfl⟩

namespace Welcome
variable {P : Externals} {w w' : Welcome} {a : WelcomeAct} {x : RawFd}

theorem closing_aside {fds : List RawFd} {errors : List DetailedError} :
    (w.closing fds errors).pc.aside = true := by
  unfold closing
  repeat' split
  all_goals rfl

theorem onWelcome_aside {r : Revents} : (w.onWelcome r).pc.aside = true := by
  unfold onWelcome
  repeat' split
  all_goals rfl

theorem onPoll_aside {r : PollResult} : (w.onPoll r).pc.aside = true := by
  unfold onPoll
  repeat' split
  all_goals first | rfl | exact onWelcome_aside

theorem resume_aside {k : After} : (w.resume k).pc.aside = true := by
  cases k <;> first | rfl | exact closing_aside

/-- The thread comes to owe an answer by receiving a message. -/
theorem Moves.owes (hm : Moves P w a w') (hx : w'.pc.owes = some x) :
    w.pc.owes = some x ∨ ∃ m serializes, a = .recv (.ok m) serializes ∧ w.pc = .recv x := by
  have done (hd : w'.pc.aside = true) :
      w.pc.owes = some x ∨ ∃ m serializes, a = .recv (.ok m) serializes ∧ w.pc = .recv x := by
    rw [(WelcomePc.aside_owes hd).1] at hx
    cases hx
  cases hm with
  | sendError | drainUnbound | drainDisconnected => exact .inl hx
  | recv _ hpc | recvMalformed _ hpc =>
    cases hx
    exact .inr ⟨_, _, rfl, hpc⟩
  | occupied _ hpc | vacant _ hpc | dupFails _ hpc | envNew _ hpc | envNewFails _ hpc
  | insertSend _ hpc | insertSendFails _ hpc | insertWrite _ hpc | insertWriteFails _ hpc
  | refused _ hpc | hungUp _ hpc =>
    rw [hpc]
    exact .inl hx
  | @inserted at' serializes _ hpc =>
    rw [hpc]
    cases serializes <;> exact .inl hx
  | poll => exact done onPoll_aside
  | drainEmpty => exact done onWelcome_aside
  | root | getsockoptFails | recvFails | recvUnanswered | send | close => exact done closing_aside
  | join | joinPanics => exact done resume_aside
  | _ => cases hx

/-- The thread comes to a connection it has not received from by `accept`. -/
theorem Moves.unheard (hm : Moves P w a w') (hx : w'.pc.unheard = some x) :
    w.pc.unheard = some x ∨ a = .accept (.ok x) := by
  have done (hd : w'.pc.aside = true) : w.pc.unheard = some x ∨ a = .accept (.ok x) := by
    rw [(WelcomePc.aside_owes hd).2] at hx
    cases hx
  cases hm with
  | sendError | drainUnbound | drainDisconnected => exact .inl hx
  | accept =>
    cases hx
    exact .inr rfl
  | notRoot _ hpc =>
    rw [hpc]
    exact .inl hx
  | poll => exact done onPoll_aside
  | drainEmpty => exact done onWelcome_aside
  | root | getsockoptFails | recvFails | recvUnanswered | send | close => exact done closing_aside
  | join | joinPanics => exact done resume_aside
  | @inserted at' serializes => cases serializes <;> cases hx
  | _ => cases hx

end Welcome

namespace Daemon
variable {P : Externals} {s t u : Daemon} {i : EnvId} {e e' : Env}

/-- What was taken from the connections and sent on them. -/
def exchange (s : Daemon) : List (Entry ConnId Thread) := s.history.traffic.map fun x => x.2.entry x.1

/-- The connection from which an environment thread takes a message. -/
def envTakes (s : Daemon) : Act → Option ConnId
  | .env _ (.recv fd (.ok _) _) => s.connAt fd
  | _ => none

/-- An environment thread takes a message only from a connection on which every message
that was taken before has been answered. -/
def TakesAnswered (s : Daemon) (a : Act) : Prop := ∀ c ∈ s.envTakes a, Answered s.exchange c

instance (s : Daemon) (a : Act) : Decidable (s.TakesAnswered a) :=
  inferInstanceAs (Decidable (∀ c ∈ s.envTakes a, Answered s.exchange c))

/-- The n-th response on the connection answers the n-th message taken from it, and the
response of the welcome thread comes before any of an environment thread. -/
structure ResponsesInOrder (l : List (Entry ConnId Thread)) (c : ConnId) : Prop where
  inOrder : InOrder l c
  welcomeFirst : ∀ before after i, l = before ++ .response c (.env i) :: after →
    .response c .welcome ∈ before

/-- The thread has taken a message from the connection that it is to answer. -/
def Serves (s : Daemon) (c : ConnId) : Thread → Prop
  | .main => False
  | .welcome => ∃ x, s.welcome.pc.owes = some x ∧ s.connAt x = some c
  | .env i => ∃ e, s.envs i = some e ∧ e.pc.owes = true ∧ e.raisedBy = some c

/-- Nothing was taken from the connection yet: it does not exist, it waits for `accept`,
or the welcome thread is about to receive from it. -/
def Untouched (s : Daemon) (c : ConnId) : Prop :=
  s.conns c = none ∨ c ∈ s.backlog ∨
    ∃ x, s.welcome.pc.unheard = some x ∧ s.connAt x = some c

/-! ## The record -/

/-- The record against who serves which connection. -/
structure OrderedOf (l : List (Entry ConnId Thread)) (untouched passed : ConnId → Prop)
    (serves : ConnId → Thread → Prop) : Prop where
  untouched : ∀ c, untouched c → ∀ x ∈ l, x.conn ≠ c
  serving : ∀ c t, serves c t → Open l c t
  passed : ∀ c, passed c → .request c .welcome ∈ l
  begun : ∀ c, .request c .welcome ∈ l → Answered l c → .response c .welcome ∈ l
  welcomed : ∀ c i, .request c (.env i) ∈ l → .response c .welcome ∈ l
  inOrder : ∀ c, ResponsesInOrder l c

namespace OrderedOf
variable {l : List (Entry ConnId Thread)} {untouched passed untouched' passed' : ConnId → Prop}
  {serves serves' : ConnId → Thread → Prop} {c : ConnId} {thread : Thread}

/-- Nothing is taken or sent. -/
theorem still (h : OrderedOf l untouched passed serves) (hu : ∀ c, untouched' c → untouched c)
    (hp : ∀ c, passed' c → passed c ∨ ∃ t, serves c t ∧ t = .welcome)
    (hs : ∀ c t, serves' c t → serves c t) : OrderedOf l untouched' passed' serves' := by
  refine { h with untouched := fun c hc => h.untouched c (hu c hc), serving := ?_, passed := ?_ }
  · exact fun c t hc => h.serving c t (hs c t hc)
  · intro c hc
    rcases hp c hc with hc | ⟨t, hc, rfl⟩
    · exact h.passed c hc
    · exact (h.serving c .welcome hc).mem

/-- A thread takes a message from a connection whose messages are answered. -/
theorem take (h : OrderedOf l untouched passed serves) (hc : Answered l c)
    (hfirst : thread = .welcome ∨ passed c) (hu : ∀ c', untouched' c' → untouched c' ∧ c' ≠ c)
    (hp : ∀ c, passed' c → passed c)
    (hs : ∀ c' t', serves' c' t' → (c' = c ∧ t' = thread) ∨ serves c' t' ∧ t' ≠ thread) :
    OrderedOf (l ++ [.request c thread]) untouched' passed' serves' where
  untouched c' hc' x hx := by
    obtain ⟨hold, hne⟩ := hu c' hc'
    rcases List.mem_append.mp hx with hx | hx
    · exact h.untouched c' hold x hx
    · rw [List.mem_singleton.mp hx]
      exact hne.symm
  serving c' t' hc' := by
    rcases hs c' t' hc' with ⟨rfl, rfl⟩ | ⟨hold, hne⟩
    · exact hc.request
    · have hopen := h.serving c' t' hold
      apply hopen.snoc
      · rintro rfl
        exact hopen.not_answered hc
      · intro c'' heq
        exact hne (Entry.request.inj heq).2.symm
  passed c' hc' := List.mem_append_left _ (h.passed c' (hp c' hc'))
  begun c' hreq hans := by
    by_cases hcc : c' = c
    · subst hcc
      exact absurd hans (hc.request (t := thread)).not_answered
    · have hother : ∀ x ∈ [Entry.request c thread], x.conn ≠ c' := by
        intro x hx
        rw [List.mem_singleton.mp hx]
        exact Ne.symm hcc
      rw [Answered, requests_append, responses_append, requests_elsewhere hother,
        responses_elsewhere hother] at hans
      refine List.mem_append_left _ (h.begun c' ?_ hans)
      refine (List.mem_append.mp hreq).resolve_right fun hx => ?_
      exact hother _ hx rfl
  welcomed c' i hreq := by
    apply List.mem_append_left
    rcases List.mem_append.mp hreq with hreq | hreq
    · exact h.welcomed c' i hreq
    · cases List.mem_singleton.mp hreq
      have hpassed : passed c := hfirst.resolve_left (by simp)
      exact h.begun c (h.passed c hpassed) hc
  inOrder c' := by
    refine ⟨(h.inOrder c').inOrder.snoc (by simp), fun before after i heq => ?_⟩
    rcases snoc_split heq with ⟨-, hx⟩ | ⟨after', hl⟩
    · cases hx
    · exact (h.inOrder c').welcomeFirst before after' i hl

/-- The thread that serves a connection responds on it. -/
theorem respond (h : OrderedOf l untouched passed serves) (hc : serves c thread)
    (hmain : thread ≠ .main) (hu : ∀ c', untouched' c' → untouched c' ∧ c' ≠ c) (hp : ∀ c, passed' c → passed c)
    (hs : ∀ c' t', serves' c' t' → serves c' t' ∧ t' ≠ thread) :
    OrderedOf (l ++ [.response c thread]) untouched' passed' serves' where
  untouched c' hc' x hx := by
    obtain ⟨hold, hne⟩ := hu c' hc'
    rcases List.mem_append.mp hx with hx | hx
    · exact h.untouched c' hold x hx
    · rw [List.mem_singleton.mp hx]
      exact hne.symm
  serving c' t' hc' := by
    obtain ⟨hold, hne⟩ := hs c' t' hc'
    have hopen := h.serving c' t' hold
    apply hopen.snoc
    · rintro rfl
      exact hne (hopen.unique (h.serving c thread hc))
    · exact nofun
  passed c' hc' := List.mem_append_left _ (h.passed c' (hp c' hc'))
  begun c' hreq hans := by
    have hreq' : .request c' .welcome ∈ l :=
      (List.mem_append.mp hreq).resolve_right fun hx => nomatch List.mem_singleton.mp hx
    by_cases hcc : c' = c
    · subst hcc
      cases thread with
      | welcome => exact List.mem_append_right _ List.mem_cons_self
      | env i => exact List.mem_append_left _ (h.welcomed c' i (h.serving c' _ hc).mem)
      | main => exact absurd rfl hmain
    · have hother : ∀ x ∈ [Entry.response c thread], x.conn ≠ c' := by
        intro x hx
        rw [List.mem_singleton.mp hx]
        exact Ne.symm hcc
      rw [Answered, requests_append, responses_append, requests_elsewhere hother,
        responses_elsewhere hother] at hans
      exact List.mem_append_left _ (h.begun c' hreq' hans)
  welcomed c' i hreq := by
    apply List.mem_append_left
    refine h.welcomed c' i ((List.mem_append.mp hreq).resolve_right fun hx => ?_)
    cases List.mem_singleton.mp hx
  inOrder c' := by
    refine ⟨(h.inOrder c').inOrder.snoc fun t' heq => ?_, fun before after i heq => ?_⟩
    · cases heq
      exact h.serving c thread hc
    · rcases snoc_split heq with ⟨rfl, hx⟩ | ⟨after', hl⟩
      · cases hx
        exact h.welcomed c i (h.serving c _ hc).mem
      · exact (h.inOrder c').welcomeFirst before after' i hl

end OrderedOf

/-! ## The steps -/

abbrev Ordered (s : Daemon) : Prop :=
  OrderedOf s.exchange s.Untouched (fun c => homeOf s.conns c ≠ none) s.Serves

theorem ordered_boot : boot.Ordered where
  untouched _ _ := nofun
  serving c t hc := by
    cases t with
    | main => cases hc
    | welcome =>
      obtain ⟨x, hx, -⟩ := hc
      cases hx
    | env i =>
      obtain ⟨e, hi, -⟩ := hc
      cases hi
  passed c hc := absurd rfl hc
  begun _ := nofun
  welcomed _ _ := nofun
  inOrder c := by
    refine ⟨inOrder_nil, fun before after i hl => ?_⟩
    cases before <;> cases hl

theorem exchange_passing {fd : RawFd} {c : ConnId} {x : Traffic} (hc : s.connAt fd = some c) :
    (s.history.traffic ++ s.passing fd x).map (fun x => x.2.entry x.1) = s.exchange ++ [x.entry c] := by
  simp [exchange, passing, hc]

theorem WelcomePc.early_of_unheard {pc : WelcomePc} {x : RawFd} (h : pc.unheard = some x) :
    pc.early = true := by
  cases pc with
  | getsockopt | recv => rfl
  | _ => cases h

theorem Held.of_unheard {x : RawFd} (h : s.Held) (hx : s.welcome.pc.unheard = some x) :
    s.fds.HeldBy .welcome x := by
  rw [← h.welcome, Welcome.held]
  apply List.mem_append_left
  cases hpc : s.welcome.pc with
  | getsockopt fd | recv fd =>
    rw [hpc] at hx
    cases hx
    exact List.mem_cons_self
  | _ =>
    rw [hpc] at hx
    cases hx

/-- A connection that was passed to an environment has been received from. -/
theorem Accounted.not_untouched {c : ConnId} (h : s.Accounted) (hc : homeOf s.conns c = some i) :
    ¬ s.Untouched c := by
  rintro (hnone | hmem | ⟨x, hx, hfd⟩)
  · rw [homeOf, hnone] at hc
    cases hc
  · rw [(h.connected.unseen c hmem).2.1] at hc
    cases hc
  · obtain ⟨c', hc'⟩ := h.connected.conn_of_welcome (h.held.of_unheard hx)
    cases (connAt_eq hc').symm.trans hfd
    rw [(h.connected.unpassed (WelcomePc.early_of_unheard hx) x c hc').1] at hc
    cases hc

theorem connAt_eq_some {x : RawFd} {c : ConnId} :
    s.connAt x = some c ↔ ∃ h, s.fds x = some ⟨.conn c, h⟩ := by
  constructor
  · intro h
    simp only [connAt, Fds.connAt] at h
    split at h
    · rename_i c' h' hx
      cases h
      exact ⟨h', hx⟩
    · cases h
  · rintro ⟨h, hx⟩
    exact connAt_eq hx

/-- What is behind a number is neither new nor waiting to be accepted. -/
theorem Accounted.behind {x : RawFd} {c : ConnId} (h : s.Accounted) (hc : s.connAt x = some c) :
    s.conns c ≠ none ∧ c ∉ s.backlog := by
  obtain ⟨h', hx⟩ := connAt_eq_some.mp hc
  exact ⟨h.connected.known x c h' hx, fun hmem => (h.connected.unseen c hmem).2.2 x h' hx⟩

/-- The step of an environment thread. -/
theorem Ordered.env {b : EnvAct} (h : s.Ordered) (hset : s.Settled) (hi : s.envs i = some e)
    (hst : e.step P b = some e') (he : EnvEffect P s i e e' b u)
    (htakes : s.TakesAnswered (.env i b)) :
    Ordered { u with envs := Function.update s.envs i (some e') } := by
  obtain ⟨hgrow, hback⟩ := he.conns_grow
  have hw := he.frame.2.1
  have hm := Env.step_moves hst
  -- no descriptor of a connection is new
  have hconn {x : RawFd} {c : ConnId} (hx : u.connAt x = some c) : s.connAt x = some c := by
    obtain ⟨h', hx⟩ := connAt_eq_some.mp hx
    rcases he.opened hx with hx | ⟨-, hx, -⟩ <;> exact connAt_eq hx
  generalize ht : ({ u with envs := Function.update s.envs i (some e') } : Daemon) = t
  have hunt : ∀ c, t.Untouched c → s.Untouched c := by
    subst ht
    rintro c (hnone | hmem | ⟨x, hx, hfd⟩)
    · exact .inl (by_contra fun hk => hgrow.known c hk hnone)
    · exact .inr (.inl (hback ▸ hmem))
    · exact .inr (.inr ⟨x, hw ▸ hx, hconn hfd⟩)
  have hpassed : ∀ c, homeOf t.conns c ≠ none → homeOf s.conns c ≠ none := by
    subst ht
    exact fun c hc => hgrow.home c ▸ hc
  have hothers : ∀ c t', t.Serves c t' → t' ≠ .env i → s.Serves c t' := by
    subst ht
    intro c t' hc hne
    cases t' with
    | main => exact hc
    | welcome =>
      obtain ⟨x, hx, hfd⟩ := hc
      exact ⟨x, hw ▸ hx, hconn hfd⟩
    | env j =>
      obtain ⟨f, hj, hf⟩ := hc
      have hji : j ≠ i := fun hji => hne (hji ▸ rfl)
      exact ⟨f, (Function.update_of_ne hji ..).symm.trans hj, hf⟩
  have hown : ∀ c, t.Serves c (.env i) → e.raisedBy = some c ∧
      (s.Serves c (.env i) ∨ ∃ fd m serializes, b = .recv fd (.ok m) serializes) := by
    subst ht
    rintro c ⟨f, hf, ho, hr⟩
    obtain rfl : e' = f := by simpa using hf
    obtain ⟨hraised, ho⟩ := hm.owes ho
    rw [hraised] at hr
    exact ⟨hr, ho.imp_left fun ho => ⟨e, hi, ho, hr⟩⟩
  -- the number the thread takes from or sends to is its socket of the connection it serves
  have huses {fd : RawFd} (hfd : b.uses = some fd) :
      ∃ c, e.raisedBy = some c ∧ s.connAt fd = some c ∧ homeOf s.conns c = some i := by
    obtain ⟨c, hc, hown⟩ := (hset.registered i e hi).serving fd (uses_serving hst hfd)
    exact ⟨c, hc, connAt_eq hown, hset.connected.homed fd c _ hown nofun⟩
  cases he with
  | @recv fd m serializes v hr =>
    obtain ⟨c, hraised, hc, hhome⟩ := huses rfl
    have hl : t.exchange = s.exchange ++ [.request c (.env i)] := by
      rw [← ht]
      exact exchange_passing hc
    rw [Ordered, hl]
    refine h.take (htakes c hc) (.inr (by rw [hhome]; nofun)) (fun c' hc' => ⟨hunt c' hc', ?_⟩)
      hpassed fun c' t' hc' => ?_
    · rintro rfl
      exact hset.toAccounted.not_untouched hhome (hunt _ hc')
    · by_cases ht' : t' = .env i
      · subst ht'
        exact .inl ⟨Option.some.inj ((hown c' hc').1.symm.trans hraised), rfl⟩
      · exact .inr ⟨hothers c' t' hc' ht', ht'⟩
  | @send fd response v hr =>
    obtain ⟨c, hraised, hc, hhome⟩ := huses rfl
    have hl : t.exchange = s.exchange ++ [.response c (.env i)] := by
      rw [← ht]
      exact exchange_passing hc
    have hserves : s.Serves c (.env i) := by
      refine ⟨e, hi, ?_, hraised⟩
      cases hm with
      | send _ hpc =>
        rw [hpc]
        rfl
    rw [Ordered, hl]
    refine h.respond hserves nofun (fun c' hc' => ⟨hunt c' hc', ?_⟩) hpassed fun c' t' hc' => ?_
    · rintro rfl
      exact hset.toAccounted.not_untouched hhome (hunt _ hc')
    · have ht' : t' ≠ .env i := by
        rintro rfl
        subst ht
        obtain ⟨f, hf, ho, -⟩ := hc'
        obtain rfl : e' = f := by simpa using hf
        cases hm with
        | send => cases ho
      exact ⟨hothers c' t' hc' ht', ht'⟩
  | plain hp =>
    have hl : t.exchange = s.exchange := by rw [← ht]; rfl
    rw [Ordered, hl]
    refine h.still hunt (fun c hc => .inl (hpassed c hc)) fun c t' hc => ?_
    by_cases ht' : t' = .env i
    · subst ht'
      refine (hown c hc).2.resolve_right ?_
      rintro ⟨fd, m, serializes, rfl⟩
      cases hp
    · exact hothers c t' hc ht'
  | _ =>
    have hl : t.exchange = s.exchange := by rw [← ht]; rfl
    rw [Ordered, hl]
    refine h.still hunt (fun c hc => .inl (hpassed c hc)) fun c t' hc => ?_
    by_cases ht' : t' = .env i
    · subst ht'
      exact (hown c hc).2.resolve_right nofun
    · exact hothers c t' hc ht'

/-- What a step of the welcome thread finds behind the numbers it goes on with. -/
theorem WelcomeEffect.connAt {a : WelcomeAct} (he : WelcomeEffect P s a u) {x : RawFd} {c : ConnId}
    (hx : u.connAt x = some c) : s.connAt x = some c ∨ (a = .accept (.ok x) ∧ c ∈ s.backlog) ∨
      ∃ fd name, s.welcome.pc = .dup fd name ∧ a = .dup (.ok x) ∧ s.fds x = none ∧ s.connAt fd = some c := by
  obtain ⟨h', hx⟩ := connAt_eq_some.mp hx
  cases he with
  | accept hb =>
    rcases Fds.open_some hx with ⟨rfl, hd⟩ | ⟨-, hx⟩
    · cases hd
      exact .inr (.inl ⟨rfl, hb ▸ List.mem_cons_self⟩)
    · exact .inl (connAt_eq hx)
  | @dup fd name passed d hpc hfd hfree =>
    rcases Fds.open_some hx with ⟨rfl, hd⟩ | ⟨-, hx⟩
    · obtain ⟨file, holder⟩ := d
      cases hd
      exact .inr (.inr ⟨fd, name, hpc, rfl, hfree, connAt_eq hfd⟩)
    · exact .inl (connAt_eq hx)
  | insertSend =>
    rcases Fds.pass_some hx with ⟨rfl, file, hy, hd⟩ | hx
    · cases hd
      exact .inl (connAt_eq hy)
    · exact .inl (connAt_eq hx)
  | close => exact .inl (connAt_eq (Fds.shrinks_closeHeld x _ hx))
  | @sendError err =>
    cases hsock : err.socket with
    | none =>
      simp only [Fds.handOver, hsock] at hx
      exact .inl (connAt_eq hx)
    | some y =>
      simp only [Fds.handOver, hsock] at hx
      rcases Fds.pass_some hx with ⟨rfl, file, hy, hd⟩ | hx
      · cases hd
        exact .inl (connAt_eq hy)
      · exact .inl (connAt_eq hx)
  | recv _ hr =>
    have hold : s.fds x = some ⟨.conn c, h'⟩ := by
      rw [← (recvFrom_frame hr).1]
      exact hx
    exact .inl (connAt_eq hold)
  | send _ hr =>
    have hold : s.fds x = some ⟨.conn c, h'⟩ := by
      rw [← (sendTo_frame hr).1]
      exact hx
    exact .inl (connAt_eq hold)
  | _ => exact .inl (connAt_eq hx)

/-- A number comes to refer to a connection by `accept`, or by `dup`. -/
theorem connAt_before {a : Act} {x : RawFd} {c : ConnId} (hs : s.step P a = some t)
    (hx : t.connAt x = some c) : s.connAt x = some c ∨
      (a = .welcome (.accept (.ok x)) ∧ c ∈ s.backlog) ∨
      ∃ fd name, s.welcome.pc = .dup fd name ∧ a = .welcome (.dup (.ok x)) ∧ s.fds x = none ∧
        s.connAt fd = some c := by
  have shrunk (hf : s.fds.Shrinks t.fds) : s.connAt x = some c := by
    obtain ⟨h', hx⟩ := connAt_eq_some.mp hx
    exact connAt_eq (hf x _ hx)
  obtain ⟨-, hp⟩ := step_party hs
  cases hp with
  | welcome _ he =>
    rcases he.connAt hx with hx | ⟨rfl, hmem⟩ | ⟨fd, name, hdup, rfl, hfree, hfd⟩
    · exact .inl hx
    · exact .inr (.inl ⟨rfl, hmem⟩)
    · exact .inr (.inr ⟨fd, name, hdup, rfl, hfree, hfd⟩)
  | env _ _ he =>
    obtain ⟨h', hx⟩ := connAt_eq_some.mp hx
    rcases he.opened hx with hx | ⟨-, hx, -⟩ <;> exact .inl (connAt_eq hx)
  | main hm => exact .inl (shrunk hm.shrinks)
  | client => exact .inl hx
  | signal _ hm => exact .inl (shrunk (hm.fds_eq ▸ .refl _))

/-- No connection is new to the welcome thread. -/
theorem WelcomeEffect.known {a : WelcomeAct} (he : WelcomeEffect P s a u) :
    (∀ c, u.conns c = none → s.conns c = none) ∧ ∀ c ∈ u.backlog, c ∈ s.backlog := by
  have grow {v : Daemon} (hg : ConnsGrow s.conns v.conns) (hb : v.backlog = s.backlog) :
      (∀ c, v.conns c = none → s.conns c = none) ∧ ∀ c ∈ v.backlog, c ∈ s.backlog :=
    ⟨fun c hc => by_contra fun hk => hg.known c hk hc, fun c hc => hb ▸ hc⟩
  cases he with
  | accept hb => exact ⟨fun _ hc => hc, fun c hc => hb ▸ List.mem_cons_of_mem _ hc⟩
  | insertSend =>
    refine ⟨fun c hc => ?_, fun _ hc => hc⟩
    dsimp only at hc
    split at hc
    · exact Option.map_eq_none_iff.mp hc
    · exact hc
  | ended => exact ⟨fun _ hc => hc, nofun⟩
  | recv _ hr =>
    have hgrow := grow (recvFrom_grow hr) (recvFrom_frame hr).2
    exact hgrow
  | send _ hr =>
    have hgrow := grow (sendTo_grow hr) (sendTo_frame hr).2
    exact hgrow
  | _ => exact grow (.refl _) rfl

/-- A connection is passed to an environment when its duplicate is sent to the thread. -/
theorem WelcomeEffect.passes {a : WelcomeAct} (he : WelcomeEffect P s a u) {c : ConnId}
    (hc : homeOf u.conns c ≠ none) :
    homeOf s.conns c ≠ none ∨ ∃ at', s.welcome.pc = .insertSend at' ∧ s.connAt at'.passed = some c := by
  cases he with
  | @insertSend at' e e' hpc =>
    by_cases hcc : s.connAt at'.passed = some c
    · exact .inr ⟨at', hpc, hcc⟩
    · refine .inl ?_
      simpa only [homeOf, if_neg hcc] using hc
  | recv _ hr =>
    have hhome := (recvFrom_grow hr).home c
    exact .inl (hhome ▸ hc)
  | send _ hr =>
    have hhome := (sendTo_grow hr).home c
    exact .inl (hhome ▸ hc)
  | _ => exact .inl hc

/-- The duplicate that is passed is of the connection the thread answers on. -/
theorem Accounted.passing {at' : Attaching} (h : s.Accounted) (hpc : s.welcome.pc = .insertSend at')
    (hc : s.connAt at'.passed = some c) : s.connAt at'.fd = some c := by
  obtain ⟨c₁, hc₁⟩ := h.connected.conn_of_welcome (h.held.of_passed hpc)
  have hheld : s.fds.HeldBy .welcome at'.fd := by
    rw [← h.held.welcome, Welcome.held, hpc]
    exact List.mem_append_left _ (List.mem_cons_of_mem _ List.mem_cons_self)
  obtain ⟨c₂, hc₂⟩ := h.connected.conn_of_welcome hheld
  cases (connAt_eq hc₁).symm.trans hc
  rw [h.connected.single _ _ _ _ hc₁ hc₂]
  exact connAt_eq hc₂

/-- The step of the welcome thread. -/
theorem Ordered.welcome {a : WelcomeAct} {w : Welcome} (h : s.Ordered) (hacc : s.Accounted)
    (hm : Welcome.Moves P s.welcome a w) (he : WelcomeEffect P s a u)
    (hs : s.step P (.welcome a) = some { u with welcome := w }) :
    Ordered { u with welcome := w } := by
  obtain ⟨hknown, hback⟩ := he.known
  generalize ht : ({ u with welcome := w } : Daemon) = t at hs ⊢
  have hpc : t.welcome.pc = w.pc := by rw [← ht]
  have hconns : t.conns = u.conns := by rw [← ht]
  have hbacklog : t.backlog = u.backlog := by rw [← ht]
  have hfds : t.fds = u.fds := by rw [← ht]
  have hconn {x : RawFd} {c : ConnId} (hx : t.connAt x = some c) := he.connAt (x := x) (c := c) (by
    rw [Daemon.connAt, ← hfds]
    exact hx)
  have hunt : ∀ c, t.Untouched c → s.Untouched c := by
    rintro c (hnone | hmem | ⟨x, hx, hfd⟩)
    · exact .inl (hknown c (hconns ▸ hnone))
    · exact .inr (.inl (hback c (hbacklog ▸ hmem)))
    · rcases hconn hfd with hfd | ⟨-, hmem⟩ | ⟨fd, name, hdup, rfl, -⟩
      · rcases hm.unheard (hpc ▸ hx) with hx | rfl
        · exact .inr (.inr ⟨x, hx, hfd⟩)
        · -- the number was free
          cases he with
          | accept _ hfree =>
            rw [Daemon.connAt, Fds.connAt, hfree] at hfd
            cases hfd
          | plain hp => cases hp
      · exact .inr (.inl hmem)
      · rcases hm.unheard (hpc ▸ hx) with hx | hx
        · rw [hdup] at hx
          cases hx
        · cases hx
  have hothers : ∀ c t', t.Serves c t' → t' ≠ .welcome → s.Serves c t' := by
    intro c t' hc hne
    cases t' with
    | main => exact hc
    | welcome => exact absurd rfl hne
    | env j =>
      obtain ⟨f, hj, ho, hr⟩ := hc
      cases env_change hs hj with
      | same hj hsame => exact ⟨_, hj, hsame.pc ▸ ho, hsame.raisedBy ▸ hr⟩
      | made _ hnew =>
        rw [hnew] at ho
        cases ho
  have hserves : ∀ c, t.Serves c .welcome → (∀ m serializes, a ≠ .recv (.ok m) serializes) →
      s.Serves c .welcome := by
    rintro c ⟨x, hx, hfd⟩ hno
    rcases hm.owes (hpc ▸ hx) with hx | ⟨m, serializes, ha, -⟩
    · rcases hconn hfd with hfd | ⟨rfl, -⟩ | ⟨fd, name, hdup, rfl, hfree, hfd⟩
      · exact ⟨x, hx, hfd⟩
      · cases hm with
        | accept _ hacc =>
          rw [hacc] at hx
          cases hx
      · -- the duplicate is not the number the thread answers on
        rw [hdup] at hx
        cases hx
        rw [Daemon.connAt, Fds.connAt, hfree] at hfd
        cases hfd
    · exact absurd ha (hno m serializes)
  have hpassed : ∀ c, homeOf t.conns c ≠ none → homeOf s.conns c ≠ none ∨
      ∃ at', s.welcome.pc = .insertSend at' ∧ s.connAt at'.passed = some c := by
    rw [hconns]
    exact fun c hc => he.passes hc
  -- what the thread took from or sends to is out of the backlog for good
  have hbehind {fd : RawFd} {c : ConnId} (hc : s.connAt fd = some c) (hdone : w.pc.unheard = none) :
      ¬ t.Untouched c := by
    obtain ⟨hk, hb⟩ := hacc.behind hc
    rintro (hnone | hmem | ⟨x, hx, -⟩)
    · exact hk (hknown c (hconns ▸ hnone))
    · exact hb (hback c (hbacklog ▸ hmem))
    · rw [hpc, hdone] at hx
      cases hx
  have rest (hl : t.exchange = s.exchange) (hno : ∀ m serializes, a ≠ .recv (.ok m) serializes) :
      t.Ordered := by
    rw [Ordered, hl]
    refine h.still hunt (fun c hc => ?_) fun c t' hc => ?_
    · rcases hpassed c hc with hc | ⟨at', hinsert, hc⟩
      · exact .inl hc
      · exact .inr ⟨.welcome, ⟨at'.fd, by rw [hinsert]; rfl, hacc.passing hinsert hc⟩, rfl⟩
    · by_cases ht' : t' = .welcome
      · subst ht'
        exact hserves c hc hno
      · exact hothers c t' hc ht'
  cases he with
  | @recv fd m serializes v hrecv hr =>
    have hheld : s.fds.HeldBy .welcome fd := hacc.held.of_unheard (by rw [hrecv]; rfl)
    obtain ⟨c, hfd⟩ := hacc.connected.conn_of_welcome hheld
    have hc := connAt_eq hfd
    have hl : t.exchange = s.exchange ++ [.request c .welcome] := by
      rw [← ht]
      exact exchange_passing hc
    have huntouched : s.Untouched c := .inr (.inr ⟨fd, by rw [hrecv]; rfl, hc⟩)
    have hdone : w.pc.unheard = none := by
      cases hm with
      | recv | recvMalformed => rfl
      | recvUnanswered => exact (WelcomePc.aside_owes Welcome.closing_aside).2
    rw [Ordered, hl]
    refine h.take (answered_elsewhere (h.untouched c huntouched)) (.inl rfl)
      (fun c' hc' => ⟨hunt c' hc', ?_⟩) (fun c' hc' => ?_) fun c' t' hc' => ?_
    · rintro rfl
      exact hbehind hc hdone hc'
    · refine (hpassed c' hc').resolve_right ?_
      rintro ⟨at', hinsert, -⟩
      cases hrecv.symm.trans hinsert
    · by_cases ht' : t' = .welcome
      · subst ht'
        obtain ⟨x, hx, hfd'⟩ := hc'
        rcases hm.owes (hpc ▸ hx) with hx | ⟨-, -, -, hx⟩
        · rw [hrecv] at hx
          cases hx
        · cases hrecv.symm.trans hx
          refine .inl ⟨?_, rfl⟩
          rcases hconn hfd' with hfd' | ⟨hno, -⟩ | ⟨-, -, -, hno, -⟩
          · exact Option.some.inj (hfd'.symm.trans hc)
          · cases hno
          · cases hno
      · exact .inr ⟨hothers c' t' hc' ht', ht'⟩
  | @send fd response errors abandon fds v hsend hr =>
    obtain ⟨c, conn, hc, -⟩ := sendTo_eq_some hr
    have hl : t.exchange = s.exchange ++ [.response c .welcome] := by
      rw [← ht]
      exact exchange_passing hc
    have hdone : w.pc.owes = none ∧ w.pc.unheard = none := by
      cases hm with
      | sendAbandon => exact ⟨rfl, rfl⟩
      | send => exact WelcomePc.aside_owes Welcome.closing_aside
    rw [Ordered, hl]
    refine h.respond ⟨fd, by rw [hsend]; rfl, hc⟩ (by simp) (fun c' hc' => ⟨hunt c' hc', ?_⟩)
      (fun c' hc' => ?_) fun c' t' hc' => ?_
    · rintro rfl
      exact hbehind hc hdone.2 hc'
    · refine (hpassed c' hc').resolve_right ?_
      rintro ⟨at', hinsert, -⟩
      cases hsend.symm.trans hinsert
    · have ht' : t' ≠ .welcome := by
        rintro rfl
        obtain ⟨x, hx, -⟩ := hc'
        rw [hpc, hdone.1] at hx
        cases hx
      exact ⟨hothers c' t' hc' ht', ht'⟩
  | plain hp =>
    apply rest (by rw [← ht]; rfl)
    rintro m serializes rfl
    cases hp
  | _ => exact rest (by rw [← ht]; rfl) (by simp)

/-- Where the threads stay what they are, nothing is taken or sent. -/
theorem Ordered.frame (h : s.Ordered) (hl : t.exchange = s.exchange)
    (hw : t.welcome.pc = s.welcome.pc ∨ t.welcome.pc = .createEvent)
    (henvs : ∀ i e', t.envs i = some e' → ∃ e, s.envs i = some e ∧ Env.SameThread e e')
    (hf : s.fds.Shrinks t.fds) (hc : ConnsGrow s.conns t.conns)
    (hb : ∀ c ∈ t.backlog, c ∈ s.backlog ∨ s.conns c = none) : t.Ordered := by
  have hconn {x : RawFd} {c : ConnId} (hx : t.connAt x = some c) : s.connAt x = some c := by
    obtain ⟨h', hx⟩ := connAt_eq_some.mp hx
    exact connAt_eq (hf x _ hx)
  rw [Ordered, hl]
  refine h.still (fun c hu => ?_) (fun c hp => .inl (hc.home c ▸ hp)) fun c t' hs => ?_
  · rcases hu with hnone | hmem | ⟨x, hx, hfd⟩
    · exact .inl (by_contra fun hk => hc.known c hk hnone)
    · exact (hb c hmem).elim (fun hmem => .inr (.inl hmem)) .inl
    · rcases hw with hw | hw <;> rw [hw] at hx
      · exact .inr (.inr ⟨x, hx, hconn hfd⟩)
      · cases hx
  · cases t' with
    | main => exact hs
    | welcome =>
      obtain ⟨x, hx, hfd⟩ := hs
      rcases hw with hw | hw <;> rw [hw] at hx
      · exact ⟨x, hx, hconn hfd⟩
      · cases hx
    | env i =>
      obtain ⟨e', hi, ho, hr⟩ := hs
      obtain ⟨e, hi, hsame⟩ := henvs i e' hi
      exact ⟨e, hi, hsame.pc ▸ ho, hsame.raisedBy ▸ hr⟩

theorem Ordered.step {a : Act} (h : s.Ordered) (hset : s.Settled) (hs : s.step P a = some t)
    (htakes : s.TakesAnswered a) : t.Ordered := by
  have henvs (hnothread : ∀ i b, a ≠ .env i b) (hnowelcome : ∀ b, a ≠ .welcome b) :
      ∀ i e', t.envs i = some e' → ∃ e, s.envs i = some e ∧ Env.SameThread e e' := by
    intro i e' hi
    cases env_change hs hi with
    | same hi hsame => exact ⟨_, hi, hsame⟩
    | thread => exact absurd rfl (hnothread _ _)
    | made => exact absurd rfl (hnowelcome _)
  obtain ⟨-, hp⟩ := step_party hs
  cases hp with
  | welcome hm he =>
    have hw := h.welcome hset.toAccounted hm he hs
    exact hw
  | env hi hst he =>
    have he := h.env hset hi hst he htakes
    exact he
  | @main a _ hm =>
    have hsame : t.exchange = s.exchange ∧ t.conns = s.conns ∧ t.backlog = s.backlog ∧
        (t.welcome.pc = s.welcome.pc ∨ t.welcome.pc = .createEvent) := by
      cases hm with
      | listen => exact ⟨rfl, rfl, rfl, .inr rfl⟩
      | _ => exact ⟨rfl, rfl, rfl, .inl rfl⟩
    obtain ⟨hl, hconns, hb, hw⟩ := hsame
    apply h.frame hl hw (henvs (fun _ _ ha => nomatch ha) fun _ ha => nomatch ha) hm.shrinks
    · exact hconns ▸ .refl _
    · exact fun c hc => .inl (hb ▸ hc)
  | @client c a conns backlog hc =>
    obtain ⟨hgrow, -, -, hb⟩ := clientStep_grow hc
    refine h.frame rfl (.inl rfl) (henvs (fun _ _ ha => nomatch ha) fun _ ha => nomatch ha) (.refl _) hgrow fun c' hc' => ?_
    rcases hb with hb | ⟨hnone, hb, -⟩
    · exact .inl (hb ▸ hc')
    · rw [hb] at hc'
      rcases List.mem_append.mp hc' with hc' | hc'
      · exact .inl hc'
      · exact .inr (List.mem_singleton.mp hc' ▸ hnone)
  | @signal sig thread interrupts _ _ hm =>
    obtain ⟨shutdown, reload, terminated, reloaded, hshape⟩ := s.handler_shape sig
    have hsame : t.exchange = s.exchange ∧ t.conns = s.conns ∧ t.backlog = s.backlog ∧
        t.welcome.pc = s.welcome.pc := by
      cases hm <;> rw [hshape] <;> exact ⟨rfl, rfl, rfl, rfl⟩
    obtain ⟨hl, hconns, hb, hw⟩ := hsame
    apply h.frame hl (.inl hw) (henvs (fun _ _ ha => nomatch ha) fun _ ha => nomatch ha)
    · exact hm.fds_eq ▸ .refl _
    · exact hconns ▸ .refl _
    · exact fun c hc => .inl (hb ▸ hc)

/-! ## The order -/

/-- In every run in which no environment thread takes a message from a connection with an
unanswered one, the responses on each attached connection come in the order of the
requests, the one of the welcome thread first. -/
theorem responses_in_order {as : List Act} {c : ConnId}
    (hr : Run (Daemon.step P) TakesAnswered boot as s) (_ : (c, i) ∈ s.history.attached) :
    ResponsesInOrder s.exchange c := by
  have h : s.Settled ∧ s.Ordered := by
    refine hr.invariant (I := fun s => s.Settled ∧ s.Ordered) ?_ ⟨settled_boot, ordered_boot⟩
    exact fun s a t hok h hs => ⟨h.1.step hs, h.2.step h.1 hs hok⟩
  exact h.2.inOrder c

/-- The client waits for the response to its first request before it asks for a mutex. -/
theorem responses_in_order_mutex : ∃ as s, Run (Daemon.step .oneLetter) TakesAnswered boot as s ∧
    (0, 0) ∈ s.history.attached ∧ s.exchange.length = 4 ∧ ResponsesInOrder s.exchange 0 := by
  have hexec : (exec (Daemon.step .oneLetter) (fun s a => decide (s.TakesAnswered a)) boot
      (startUp ++ handsOver ++ adds ++ answers ++ [.client 0 .read] ++ asks ++ opensMutex)).any
        (fun s => (0, 0) ∈ s.history.attached ∧ s.exchange.length = 4) := by decide
  obtain ⟨s, hr, hp⟩ := Run.of_exec_any (fun _ _ h => of_decide_eq_true h) hexec
  obtain ⟨hatt, hlen⟩ := of_decide_eq_true hp
  exact ⟨_, s, hr, hatt, hlen, responses_in_order hr hatt⟩

/-- A client queues its request for a mutex right behind the one for the environment, and
is answered the second one first. -/
theorem overtaken : ¬ ∀ P as s c i, Run (Daemon.step P) anyStep boot as s →
    (c, i) ∈ s.history.attached → ResponsesInOrder s.exchange c := by
  intro h
  have hexec : (exec (Daemon.step .oneLetter) (fun _ _ => true) boot
      (startUp ++ handsOver ++ adds ++ [.welcome (.insertRecv (some (.ok ())) true)] ++ asks ++
        opensMutex)).any (fun s => (0, 0) ∈ s.history.attached ∧
          s.exchange = [.request 0 .welcome, .request 0 (.env 0), .response 0 (.env 0)]) := by decide
  obtain ⟨s, hrun, hp⟩ := Run.of_exec_any (fun _ _ h => h) hexec
  have hr : Run (Daemon.step .oneLetter) anyStep boot _ s := hrun.mono fun _ _ _ => trivial
  obtain ⟨hatt, hl⟩ := of_decide_eq_true hp
  have hfirst := (h _ _ _ _ _ hr hatt).welcomeFirst [.request 0 .welcome, .request 0 (.env 0)] [] 0 hl
  exact absurd hfirst (by decide)

end Daemon
end Garnd
