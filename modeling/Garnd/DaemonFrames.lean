import Garnd.Instances

/- What a step of the daemon leaves alone: the reports of the incarnation
   (`Daemon.Reported`), the two events of the handlers, and the environments but for
   the one that steps (`Daemon.EnvChange`). -/
namespace Garnd

/-- What a step of the thread sends on the error channel. -/
def WelcomeAct.reports : WelcomeAct → List DetailedError
  | .sendError err => [err]
  | _ => []

def EnvAct.reports : EnvAct → List DetailedError
  | .sendError err => [err]
  | _ => []

theorem WelcomeAct.reports_length (a : WelcomeAct) : a.reports.length ≤ 1 := by
  cases a <;> first | exact Nat.zero_le 1 | exact Nat.le_refl 1

theorem EnvAct.reports_length (a : EnvAct) : a.reports.length ≤ 1 := by
  cases a <;> first | exact Nat.zero_le 1 | exact Nat.le_refl 1

/-- The queue of a thread that has ended is gone. -/
structure Env.Shut (e : Env) : Prop where
  empty : e.addListener.receiver = false → e.addListener.queue = []
  ended : e.pc = .ended → e.addListener.receiver = false

namespace Env.Shut
variable {P : Externals} {e e' : Env} {b : EnvAct}

/-- The channel stays what it is, and the thread does not end. -/
theorem goto (h : e.Shut) (hc : e'.addListener = e.addListener) (hpc : e'.pc ≠ .ended) : e'.Shut :=
  ⟨by rw [hc]; exact h.empty, fun he => absurd he hpc⟩

theorem same (h : e.Shut) (hc : e'.addListener = e.addListener) (hpc : e'.pc = e.pc) : e'.Shut :=
  ⟨by rw [hc]; exact h.empty, by rw [hc, hpc]; exact h.ended⟩

theorem thread (h : e.Shut) (hm : Env.Moves P e b e') : e'.Shut := by
  cases hm with
  | sendError => exact h.same rfl rfl
  | addTake _ _ hr =>
    obtain ⟨q, hq⟩ := Channel.tryRecv_eq_got.mp hr
    refine ⟨fun hrx => ?_, nofun⟩
    rw [h.empty hrx] at hq
    cases hq
  | epollAdd =>
    refine h.goto rfl ?_
    dsimp only
    split <;> nofun
  | dropSync =>
    refine ⟨h.empty, ?_⟩
    dsimp only
    split
    · nofun
    · rename_i hrx
      exact fun _ => by simpa using hrx
  | dropListener => exact ⟨fun _ => rfl, fun _ => rfl⟩
  | _ => exact h.goto rfl nofun

theorem insertSend {x : RawFd} (h : e.Shut) (hs : e.insertSend x = some e') : e'.Shut := by
  obtain ⟨chan, hc, rfl⟩ := Option.map_eq_some_iff.mp hs
  obtain ⟨hrx, rfl⟩ := Channel.send_eq_some.mp hc
  refine ⟨fun hno => ?_, fun he => ?_⟩
  · cases hrx.symm.trans hno
  · cases hrx.symm.trans (h.ended he)

end Env.Shut

namespace Daemon
variable {P : Externals} {s t u : Daemon}

/-- The threads have reported `new`, and `main` has done nothing. -/
structure Reported (s u : Daemon) (new : List DetailedError) : Prop where
  errors : u.errors = s.errors ++ new
  sent : u.history.sent = s.history.sent ++ new
  logged : u.history.logged = s.history.logged
  received : u.history.received = s.history.received
  errorRx : u.errorRx = s.errorRx
  open' : new ≠ [] → s.errorRx = true

theorem reported_nil (he : u.errors = s.errors) (hs : u.history.sent = s.history.sent)
    (hl : u.history.logged = s.history.logged) (hr : u.history.received = s.history.received)
    (hrx : u.errorRx = s.errorRx) : Reported s u [] :=
  ⟨he.trans (List.append_nil _).symm, hs.trans (List.append_nil _).symm, hl, hr, hrx,
    fun hn => absurd rfl hn⟩

theorem WelcomeEffect.reported {a : WelcomeAct} (he : WelcomeEffect P s a u) :
    Reported s u a.reports := by
  cases he with
  | @plain a hp =>
    cases a with
    | sendError err => cases hp
    | _ => exact reported_nil rfl rfl rfl rfl rfl
  | sendError hrx => exact ⟨rfl, rfl, rfl, rfl, rfl, fun _ => hrx⟩
  | recv _ hr =>
    obtain ⟨c, conn, -, -, ⟨rest, -, rfl⟩ | ⟨-, -, rfl⟩⟩ := recvFrom_eq_some hr <;>
      exact reported_nil rfl rfl rfl rfl rfl
  | send _ hr =>
    obtain ⟨c, conn, -, -, -, rfl⟩ := sendTo_eq_some hr
    exact reported_nil rfl rfl rfl rfl rfl
  | _ => exact reported_nil rfl rfl rfl rfl rfl

theorem EnvEffect.reported {i : EnvId} {e e' : Env} {a : EnvAct} (he : EnvEffect P s i e e' a u) :
    Reported s u a.reports := by
  cases he with
  | @plain a hp =>
    cases a with
    | sendError err => cases hp
    | _ => exact reported_nil rfl rfl rfl rfl rfl
  | sendError hrx => exact ⟨rfl, rfl, rfl, rfl, rfl, fun _ => hrx⟩
  | recv hr =>
    obtain ⟨c, conn, -, -, ⟨rest, -, rfl⟩ | ⟨-, -, rfl⟩⟩ := recvFrom_eq_some hr <;>
      exact reported_nil rfl rfl rfl rfl rfl
  | send hr =>
    obtain ⟨c, conn, -, -, -, rfl⟩ := sendTo_eq_some hr
    exact reported_nil rfl rfl rfl rfl rfl
  | _ => exact reported_nil rfl rfl rfl rfl rfl

/-- What the handlers have done, and the events they have written. -/
structure SameEvents (s u : Daemon) : Prop where
  shutdown : u.shutdownEvent = s.shutdownEvent
  reload : u.reloadEvent = s.reloadEvent
  terminated : u.history.terminated = s.history.terminated
  reloaded : u.history.reloaded = s.history.reloaded

theorem SameEvents.refl (s : Daemon) : SameEvents s s := ⟨rfl, rfl, rfl, rfl⟩

theorem EnvEffect.events {i : EnvId} {e e' : Env} {a : EnvAct} (he : EnvEffect P s i e e' a u) :
    SameEvents s u := by
  cases he with
  | recv hr =>
    obtain ⟨c, conn, -, -, ⟨rest, -, rfl⟩ | ⟨-, -, rfl⟩⟩ := recvFrom_eq_some hr <;>
      exact ⟨rfl, rfl, rfl, rfl⟩
  | send hr =>
    obtain ⟨c, conn, -, -, -, rfl⟩ := sendTo_eq_some hr
    exact ⟨rfl, rfl, rfl, rfl⟩
  | _ => exact ⟨rfl, rfl, rfl, rfl⟩

/-- The welcome thread takes an event down, or leaves both alone. -/
theorem WelcomeEffect.events {a : WelcomeAct} (he : WelcomeEffect P s a u) :
    SameEvents s u ∨ (∃ r, a = .shutdownRead r ∧ u = { s with shutdownEvent := some 0 }) ∨
      ∃ r, a = .reloadRead r ∧ u = { s with reloadEvent := some 0 } := by
  cases he with
  | shutdownRead hr =>
    obtain rfl := readEvent_zero hr
    exact .inr (.inl ⟨_, rfl, rfl⟩)
  | reloadRead hr =>
    obtain rfl := readEvent_zero hr
    exact .inr (.inr ⟨_, rfl, rfl⟩)
  | recv _ hr =>
    obtain ⟨c, conn, -, -, ⟨rest, -, rfl⟩ | ⟨-, -, rfl⟩⟩ := recvFrom_eq_some hr <;>
      exact .inl ⟨rfl, rfl, rfl, rfl⟩
  | send _ hr =>
    obtain ⟨c, conn, -, -, -, rfl⟩ := sendTo_eq_some hr
    exact .inl ⟨rfl, rfl, rfl, rfl⟩
  | _ => exact .inl ⟨rfl, rfl, rfl, rfl⟩

/-! ## The environments -/

/-- How environment `i` came to be `e'` by the step: its owner or a signal handler
did something to it, or nothing was done; its thread has stepped; it was made. -/
inductive EnvChange (P : Externals) (s : Daemon) (i : EnvId) (e' : Env) : Act → Prop
  | same {a e} : s.envs i = some e → Env.SameThread e e' → EnvChange P s i e' a
  | thread {b e} : s.envs i = some e → e.step P b = some e' → EnvChange P s i e' (.env i b)
  | made {name} : s.envs i = none → e' = .new name i →
      EnvChange P s i e' (.welcome (.envNew (.ok i)))

theorem EnvChange.still {i : EnvId} {e' : Env} {a : Act} (henvs : u.envs = s.envs)
    (hi : u.envs i = some e') : EnvChange P s i e' a :=
  .same (henvs ▸ hi) (.refl e')

/-- One environment is replaced by what its owner or a handler made of it. -/
theorem EnvChange.update {i j : EnvId} {e e' f : Env} {a : Act} (hj : s.envs j = some e)
    (hsame : Env.SameThread e f) (hi : Function.update s.envs j (some f) i = some e') :
    EnvChange P s i e' a := by
  by_cases hij : i = j
  · subst hij
    rw [Function.update_self] at hi
    cases hi
    exact .same hj hsame
  · rw [Function.update_of_ne hij] at hi
    exact .same hi (.refl e')

theorem WelcomeEffect.env_change {a : WelcomeAct} {i : EnvId} {e' : Env}
    (he : WelcomeEffect P s a u) (hi : u.envs i = some e') : EnvChange P s i e' (.welcome a) := by
  cases he with
  | @envNew _ _ name j _ hj =>
    by_cases hij : i = j
    · subst hij
      simp only [Function.update_self, Option.some.injEq] at hi
      exact .made hj hi.symm
    · simp only [Function.update_of_ne hij] at hi
      exact .same hi (.refl e')
  | insertSend _ hj hs => exact .update hj (Env.sameThread_insertSend hs) hi
  | insertWrite _ hj hs => exact .update hj (Env.sameThread_insertWrite hs) hi
  | insertRecv _ hj hs => exact .update hj (answered_attached (x := 0) hs).1 hi
  | dropWrite _ hj hs => exact .update hj (Env.sameThread_dropWrite hs) hi
  | dropFields _ hj => exact .update hj Env.sameThread_dropFields hi
  | recv _ hr =>
    obtain ⟨c, conn, -, -, ⟨rest, -, rfl⟩ | ⟨-, -, rfl⟩⟩ := recvFrom_eq_some hr <;>
      exact .still rfl hi
  | send _ hr =>
    obtain ⟨c, conn, -, -, -, rfl⟩ := sendTo_eq_some hr
    exact .still rfl hi
  | _ => exact .still rfl hi

theorem EnvEffect.envs_eq {i : EnvId} {e e' : Env} {a : EnvAct} (he : EnvEffect P s i e e' a u) :
    u.envs = s.envs := by
  cases he with
  | recv hr =>
    obtain ⟨c, conn, -, -, ⟨rest, -, rfl⟩ | ⟨-, -, rfl⟩⟩ := recvFrom_eq_some hr <;> rfl
  | send hr =>
    obtain ⟨c, conn, -, -, -, rfl⟩ := sendTo_eq_some hr
    rfl
  | _ => rfl

theorem MainMoves.envs_eq {a : MainAct} (hm : MainMoves s a t) : t.envs = s.envs := by
  cases hm <;> rfl

/-- What a step does to an environment. -/
theorem env_change {a : Act} {i : EnvId} {e' : Env} (hs : s.step P a = some t)
    (hi : t.envs i = some e') : EnvChange P s i e' a := by
  obtain ⟨-, hp⟩ := step_party hs
  cases hp with
  | main hm => exact .still hm.envs_eq hi
  | welcome _ he => exact he.env_change hi
  | @env j b e f u hj hstep he =>
    by_cases hij : i = j
    · subst hij
      simp only [Function.update_self, Option.some.injEq] at hi
      subst hi
      exact .thread hj hstep
    · simp only [Function.update_of_ne hij] at hi
      exact .same hi (.refl e')
  | client => exact .still rfl hi
  | @signal sig thread interrupts _ _ hm =>
    obtain ⟨shutdown, reload, terminated, reloaded, hshape⟩ := s.handler_shape sig
    cases hm with
    | handled | poll =>
      rw [hshape] at hi
      exact .still rfl hi
    | @wait j e hj =>
      have hsame : Env.SameThread e { e with interrupted := true } :=
        ⟨rfl, rfl, rfl, rfl, rfl, rfl, rfl, rfl, rfl, rfl, rfl⟩
      exact .update hj hsame hi

theorem update_known {envs : EnvId → Option Env} {i j : EnvId} {e : Env} (hi : envs i ≠ none) :
    Function.update envs j (some e) i ≠ none := by
  by_cases hij : i = j
  · subst hij
    rw [Function.update_self]
    nofun
  · rwa [Function.update_of_ne hij]

/-- An environment is never forgotten. -/
theorem envs_known {a : Act} {i : EnvId} (hs : s.step P a = some t) (hi : s.envs i ≠ none) :
    t.envs i ≠ none := by
  obtain ⟨-, hp⟩ := step_party hs
  cases hp with
  | main hm =>
    rw [hm.envs_eq]
    exact hi
  | welcome _ he =>
    cases he with
    | envNew | insertSend | insertWrite | insertRecv | dropWrite | dropFields =>
      exact update_known hi
    | recv _ hr =>
      obtain ⟨c, conn, -, -, ⟨rest, -, rfl⟩ | ⟨-, -, rfl⟩⟩ := recvFrom_eq_some hr <;> exact hi
    | send _ hr =>
      obtain ⟨c, conn, -, -, -, rfl⟩ := sendTo_eq_some hr
      exact hi
    | _ => exact hi
  | env => exact update_known hi
  | client => exact hi
  | @signal sig _ _ _ _ hm =>
    obtain ⟨shutdown, reload, terminated, reloaded, hshape⟩ := s.handler_shape sig
    cases hm with
    | handled | poll =>
      rw [hshape]
      exact hi
    | wait =>
      rw [hshape]
      exact update_known hi

/-- Somebody else's step. -/
theorem env_still {a : Act} {i : EnvId} {e : Env} (hs : s.step P a = some t) (hi : s.envs i = some e)
    (ha : ∀ b, a ≠ .env i b) : ∃ e', t.envs i = some e' ∧ Env.SameThread e e' := by
  obtain ⟨e', hi'⟩ := Option.ne_none_iff_exists'.mp (envs_known hs (i := i) (by rw [hi]; nofun))
  cases env_change hs hi' with
  | same hj hsame =>
    cases hi.symm.trans hj
    exact ⟨e', hi', hsame⟩
  | thread => exact absurd rfl (ha _)
  | made hnone =>
    rw [hi] at hnone
    cases hnone

/-- What holds of a new environment and is kept by its thread holds of every
environment. -/
theorem forall_env {J : Env → Prop} (hnew : ∀ name i, J (.new name i))
    (hsame : ∀ e e', Env.SameThread e e' → J e → J e')
    (hthread : ∀ e b e', e.step P b = some e' → J e → J e') {a : Act} (hs : s.step P a = some t)
    (h : ∀ i e, s.envs i = some e → J e) : ∀ i e, t.envs i = some e → J e := by
  intro i e' hi
  cases env_change hs hi with
  | same hj hsm => exact hsame _ _ hsm (h i _ hj)
  | thread hj hst => exact hthread _ _ _ hst (h i _ hj)
  | made _ he => exact he ▸ hnew _ _

/-- The others leave the welcome thread where it is, but for `main`, which starts a new one. -/
theorem welcome_other {a : Act} (hs : s.step P a = some t) (ha : ∀ b, a ≠ .welcome b) :
    t.welcome.pc = s.welcome.pc ∨ t.welcome.pc = .createEvent := by
  obtain ⟨-, hp⟩ := step_party hs
  cases hp with
  | main hm =>
    cases hm with
    | listen => exact .inr rfl
    | _ => exact .inl rfl
  | welcome => exact absurd rfl (ha _)
  | env _ _ he => exact .inl (congrArg Welcome.pc he.frame.2.1)
  | client => exact .inl rfl
  | @signal sig _ _ _ _ hm =>
    obtain ⟨shutdown, reload, terminated, reloaded, hshape⟩ := s.handler_shape sig
    cases hm <;> rw [hshape] <;> exact .inl rfl

/-! ## The connections -/

/-- The connection from which a step takes a message. -/
def takes (s : Daemon) : Act → Option ConnId
  | .welcome (.recv (.ok _) _) =>
    match s.welcome.pc with
    | .recv fd => s.connAt fd
    | _ => none
  | .env _ (.recv fd (.ok _) _) => s.connAt fd
  | _ => none

/-- The connection on which a step sends a response. -/
def responds (s : Daemon) : Act → Option ConnId
  | .welcome (.send (.ok ())) =>
    match s.welcome.pc with
    | .send fd _ _ _ _ => s.connAt fd
    | _ => none
  | .env _ (.send fd _ (.ok ())) => s.connAt fd
  | _ => none

/-- What a step does to connection `c`: nothing, or something its client or one of the
threads does with it. -/
inductive ConnChange (P : Externals) (s : Daemon) (c : ConnId) : Act → Option Conn → Option Conn → Prop
  | same {a conn} : s.takes a ≠ some c → s.responds a ≠ some c → ConnChange P s c a conn conn
  | connect {uid} : ConnChange P s c (.client c (.connect uid)) none (some ⟨uid, [], 0, false, false, false, none⟩)
  | send {m conn} : ConnChange P s c (.client c (.send m)) (some conn)
      (some { conn with inbox := conn.inbox ++ [m] })
  | read {conn} : conn.unread ≠ 0 → ConnChange P s c (.client c .read) (some conn)
      (some { conn with unread := conn.unread - 1 })
  | shut {conn sending receiving} : ConnChange P s c (.client c (.shutdown sending receiving))
      (some conn) (some (conn.shut sending receiving))
  | close {conn} : ConnChange P s c (.client c .close) (some conn) (some conn.close)
  | take {a conn m rest} : s.takes a = some c → conn.inbox = m :: rest →
      ConnChange P s c a (some conn) (some { conn with inbox := rest })
  | hungUp {a conn} : s.takes a = some c → conn.closed = true →
      ConnChange P s c a (some conn) (some conn)
  | respond {a conn} : s.responds a = some c → conn.unread < P.peerQueue → conn.refuses = false →
      ConnChange P s c a (some conn) (some { conn with unread := conn.unread + 1 })
  | pass {at' conn} : s.welcome.pc = .insertSend at' → s.connAt at'.passed = some c →
      ConnChange P s c (.welcome (.insertSend true)) (some conn)
        (some { conn with home := some at'.id })

section
variable {a : Act} {c : ConnId} {x : RawFd}

theorem recvFrom_change {m : Message} (hr : s.recvFrom x m = some t) (ht : s.takes a = s.connAt x)
    (hn : s.responds a = none) : ConnChange P s c a (s.conns c) (t.conns c) := by
  obtain ⟨c', conn, hx, hc', hcase⟩ := recvFrom_eq_some hr
  rw [hx] at ht
  have other (hne : c ≠ c') : ConnChange P s c a (s.conns c) (s.conns c) :=
    .same (fun hc => hne (Option.some.inj (hc.symm.trans ht))) (by rw [hn]; nofun)
  rcases hcase with ⟨rest, hin, rfl⟩ | ⟨-, hcl, rfl⟩ <;> by_cases hne : c = c'
  · subst hne
    simp only [Function.update_self, hc']
    exact .take ht hin
  · simp only [Function.update_of_ne hne]
    exact other hne
  · subst hne
    rw [hc']
    exact .hungUp ht hcl
  · exact other hne

theorem sendTo_change (hr : s.sendTo P x = some t) (hs : s.responds a = s.connAt x)
    (hn : s.takes a = none) : ConnChange P s c a (s.conns c) (t.conns c) := by
  obtain ⟨c', conn, hx, hc', hroom, rfl⟩ := sendTo_eq_some hr
  rw [hx] at hs
  by_cases hne : c = c'
  · subst hne
    simp only [Function.update_self, hc']
    exact .respond hs hroom.1 hroom.2
  · simp only [Function.update_of_ne hne]
    exact .same (by rw [hn]; nofun) fun hc => hne (Option.some.inj (hc.symm.trans hs))

theorem clientStep_change {c' : ConnId} {b : ClientAct} (hs : s.clientStep c' b = some t) :
    ConnChange P s c (.client c' b) (s.conns c) (t.conns c) := by
  by_cases hne : c = c'
  · subst hne
    cases b with
    | connect uid =>
      simp only [clientStep] at hs
      split at hs
      · rename_i hc
        cases hs
        simp only [Function.update_self, hc.2]
        exact .connect
      · cases hs
    | send m =>
      simp only [clientStep] at hs
      split at hs
      · rename_i conn hc
        split at hs
        · cases hs
        · cases hs
          simp only [Function.update_self, hc]
          exact .send
      · cases hs
    | read =>
      simp only [clientStep] at hs
      split at hs
      · rename_i conn hc
        split at hs
        · cases hs
        · rename_i hu
          cases hs
          simp only [Function.update_self, hc]
          exact .read hu
      · cases hs
    | shutdown | close =>
      simp only [clientStep] at hs
      split at hs
      · rename_i conn hc
        cases hs
        simp only [Function.update_self, hc]
        first
          | exact .shut
          | exact .close
      · cases hs
  · have hsame : t.conns c = s.conns c := by
      cases b <;> simp only [clientStep] at hs <;> repeat' split at hs
      all_goals first
        | cases hs
          exact Function.update_of_ne hne ..
        | cases hs
    rw [hsame]
    exact .same (by simp [takes]) (by simp [responds])

theorem conn_change (hs : s.step P a = some t) (c : ConnId) :
    ConnChange P s c a (s.conns c) (t.conns c) := by
  obtain ⟨-, hp⟩ := step_party hs
  cases hp with
  | main hm =>
    have hsame : t.conns = s.conns := by cases hm <;> rfl
    rw [hsame]
    exact .same nofun nofun
  | @welcome a w u _ he =>
    have still (hu : u.conns = s.conns) (ht : s.takes (.welcome a) = none)
        (hn : s.responds (.welcome a) = none) :
        ConnChange P s c (.welcome a) (s.conns c) (u.conns c) := by
      rw [hu]
      exact .same (by rw [ht]; nofun) (by rw [hn]; nofun)
    cases he with
    | plain hpl =>
      apply still rfl
      · cases a with
        | recv r => cases r <;> first | rfl | cases hpl
        | _ => rfl
      · cases a with
        | send r => cases r <;> first | rfl | cases hpl
        | _ => rfl
    | @recv fd m serializes v hpc hr =>
      have ht : s.takes (.welcome (.recv (.ok m) serializes)) = s.connAt fd := by
        simp only [takes, hpc]
      have hc := recvFrom_change (P := P) (c := c) hr ht rfl
      exact hc
    | @send fd response errors abandon fds v hpc hr =>
      have hn : s.responds (.welcome (.send (.ok ()))) = s.connAt fd := by
        simp only [responds, hpc]
      have hc := sendTo_change (c := c) hr hn rfl
      exact hc
    | @insertSend at' e e' hpc =>
      dsimp only
      split
      · rename_i hx
        cases hconn : s.conns c with
        | none => exact .same nofun nofun
        | some conn => exact .pass hpc hx
      · exact .same nofun nofun
    | _ => exact still rfl rfl rfl
  | @env i b e e' u _ _ he =>
    cases he with
    | plain hpl =>
      refine .same ?_ ?_
      · cases b with
        | recv fd r =>
          cases r with
          | ok m => cases hpl
          | error errno => simp [takes]
        | _ => simp [takes]
      · cases b with
        | send fd response r =>
          cases r with
          | ok u => cases hpl
          | error errno => simp [responds]
        | _ => simp [responds]
    | @recv fd m serializes v hr =>
      have hc := recvFrom_change (P := P) (a := .env i (.recv fd (.ok m) serializes)) (c := c) hr rfl rfl
      exact hc
    | @send fd response v hr =>
      have hc := sendTo_change (a := .env i (.send fd response (.ok ()))) (c := c) hr rfl rfl
      exact hc
    | _ => exact .same nofun nofun
  | client hc => exact clientStep_change hc
  | @signal sig thread interrupts _ _ hm =>
    obtain ⟨shutdown, reload, terminated, reloaded, hshape⟩ := s.handler_shape sig
    have hsame : t.conns = s.conns := by cases hm <;> rw [hshape]
    rw [hsame]
    exact .same nofun nofun

end

/-! ## The threads that have ended -/

theorem shut_boot : ∀ i e, boot.envs i = some e → e.Shut := by
  intro i e hi
  cases hi

theorem shut_step {a : Act} (hs : s.step P a = some t) (h : ∀ i e, s.envs i = some e → e.Shut) :
    ∀ i e, t.envs i = some e → e.Shut := by
  have replaced {j : EnvId} {f : Env} (hf : f.Shut) (i : EnvId) (e : Env)
      (hi : Function.update s.envs j (some f) i = some e) : e.Shut := by
    by_cases hij : i = j
    · subst hij
      cases (Function.update_self ..).symm.trans hi
      exact hf
    · rw [Function.update_of_ne hij] at hi
      exact h i e hi
  obtain ⟨-, hp⟩ := step_party hs
  cases hp with
  | main hm =>
    rw [hm.envs_eq]
    exact h
  | @welcome a w u _ he =>
    have kept (ha : a.handsOff = true) : ∀ i e, u.envs i = some e → e.Shut := by
      rw [he.envs_eq ha]
      exact h
    cases he with
    | envNew => exact replaced ⟨nofun, nofun⟩
    | insertSend _ hi hsend => exact replaced ((h _ _ hi).insertSend hsend)
    | insertWrite _ hi hwrite | dropWrite _ hi hwrite =>
      obtain ⟨count, -, rfl⟩ := Option.map_eq_some_iff.mp hwrite
      exact replaced ((h _ _ hi).same rfl rfl)
    | insertRecv _ hi hans =>
      refine replaced ?_
      unfold answered at hans
      split at hans <;> split at hans <;> cases hans
      · exact (h _ _ hi).same rfl rfl
      · exact (h _ _ hi).same rfl rfl
      · exact h _ _ hi
    | dropFields _ hi =>
      exact replaced ⟨(h _ _ hi).empty, (h _ _ hi).ended⟩
    | plain => exact h
    | _ => exact kept rfl
  | @env j b e e' u hi hst he =>
    exact replaced ((h j e hi).thread (Env.step_moves hst))
  | client => exact h
  | @signal sig _ _ _ _ hm =>
    obtain ⟨shutdown, reload, terminated, reloaded, hshape⟩ := s.handler_shape sig
    cases hm with
    | handled | poll =>
      rw [hshape]
      exact h
    | wait hi =>
      rw [hshape]
      exact replaced ((h _ _ hi).same rfl rfl)

end Daemon
end Garnd
