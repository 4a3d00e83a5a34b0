import Garnd.Calls

/- `handle_open_environment` that fails. A request that was refused leaves nothing behind,
   but for three cases (`Mishap`): the client was added and is not told so, the channel of
   the thread was closed and the error keeps the socket, or the thread of an instance that
   was there has left with the socket in its channel. `Daemon.Course` is where a call is
   and what it has left so far, over every interleaving with the threads, the clients and
   the signals. -/
namespace Garnd
open Transition Handler

/-- What a request that fails may not undo. -/
inductive Mishap where
  | untold
  | unsent
  | deserted (i : EnvId)
  deriving DecidableEq

/-- The errors the request has left. -/
def Welcome.failures (w : Welcome) : List DetailedError := w.pc.errors ++ w.outbox

/-- The request has not been answered to the thread's knowledge. -/
def WelcomePc.pending : WelcomePc → Bool
  | .dup _ _ | .envNew _ _ _ | .insertSend _ | .insertWrite _ | .insertRecv _ => true
  | _ => false

/-- The instance made for the request, as long as it is not in the map. -/
def WelcomePc.spare : WelcomePc → Option EnvId
  | .insertSend a | .insertWrite a | .insertRecv a => if a.fresh then some a.id else none
  | .send _ _ _ abandon _ => abandon
  | .dropWrite i _ | .dropFields i _ | .join i _ => some i
  | _ => none

namespace Welcome
variable {P : Externals} {w w' : Welcome} {a : WelcomeAct}

theorem failures_closing {fds : List RawFd} {errors : List DetailedError} (hp : w.panicking = false)
    (ho : w.outbox = []) : (w.closing fds errors).failures = errors := by
  unfold closing
  split
  · simp [hp, failures, WelcomePc.errors]
  · simp [failures, WelcomePc.errors, ho]

theorem closing_settled (w : Welcome) (fds : List RawFd) (errors : List DetailedError) :
    (w.closing fds errors).pc.pending = false ∧ (w.closing fds errors).pc.spare = none ∧
      (w.closing fds errors).environments = w.environments := by
  unfold closing
  split
  · split <;> exact ⟨rfl, rfl, rfl⟩
  · exact ⟨rfl, rfl, rfl⟩

/-- How a request that has been settled goes on: the response is sent, or not, an instance
made for it is dropped, and the sockets are closed. -/
structure Settles (w : Welcome) (a : WelcomeAct) (w' : Welcome) : Prop where
  pending : w'.pc.pending = false
  sent : ∀ fd response errors abandon fds, w'.pc ≠ .send fd response errors abandon fds
  environments : w'.environments = w.environments
  spare : w'.pc.spare = w.pc.spare ∨ ∃ i k, w.pc = .join i k ∧ w'.pc.spare = none
  failures : ∃ extra, w'.failures = w.failures ++ extra ∧ socketsOf extra = [] ∧
    ((∀ errno, a ≠ .send (.error errno)) → extra = [])
  label : a = .dropFields ∨ (∃ r, a = .send r) ∨ (∃ written, a = .dropWrite written) ∨
    (∃ panicked, a = .join panicked) ∨ ∃ fd, a = .close fd

theorem Moves.settles (hm : Moves P w a w') (hh : w.pc.handling = true) (ho : w.outbox = [])
    (hp : w.pc.pending = false) (hcalm : w'.panicking = false) : w.Settles a w' := by
  have hcalm' : w.panicking = false := by
    cases h : w.panicking with
    | false => rfl
    | true => exact absurd ((hm.panicking h).symm.trans hcalm) (by simp)
  have closes {fds : List RawFd} {errors : List DetailedError} :
      ∀ fd response errors' abandon fds', (w.closing fds errors).pc ≠ .send fd response errors' abandon fds' := by
    intro fd response errors' abandon fds' hpc
    have haside : (w.closing fds errors).pc.aside = true := closing_aside
    rw [hpc] at haside
    cases haside
  have more {fd : RawFd} {response : WelcomeResponse} {errors : List DetailedError}
      {abandon : Option EnvId} {fds : List RawFd} {r : Except Errno Unit}
      (hpc : w.pc = .send fd response errors abandon fds) :
      ∃ extra, sendErrors errors r = w.failures ++ extra ∧ socketsOf extra = [] ∧
        ((∀ errno, WelcomeAct.send r ≠ .send (.error errno)) → extra = []) := by
    cases r with
    | ok => exact ⟨[], by simp [sendErrors, failures, hpc, WelcomePc.errors, ho], rfl, fun _ => rfl⟩
    | error errno =>
      exact ⟨[.sys .send errno], by simp [sendErrors, failures, hpc, WelcomePc.errors, ho], rfl,
        fun hno => absurd rfl (hno errno)⟩
  cases hm with
  | sendError ho' =>
    rw [ho] at ho'
    cases ho'
  | @sendAbandon fd response errors i fds r _ hpc =>
    refine ⟨rfl, by simp, rfl, .inl (by rw [hpc]; rfl), ?_, .inr (.inl ⟨r, rfl⟩)⟩
    obtain ⟨extra, heq, hrest⟩ := more (r := r) hpc
    refine ⟨extra, ?_, hrest⟩
    show sendErrors errors r ++ w.outbox = _
    rw [ho, List.append_nil, heq]
  | @send fd response errors fds r _ hpc =>
    obtain ⟨hpend, hspare, henv⟩ := w.closing_settled fds (sendErrors errors r)
    refine ⟨hpend, closes, henv, .inl (by rw [hspare, hpc]; rfl), ?_, .inr (.inl ⟨r, rfl⟩)⟩
    obtain ⟨extra, heq, hrest⟩ := more (r := r) hpc
    exact ⟨extra, by rw [failures_closing hcalm' ho, heq], hrest⟩
  | dropWrite _ hpc =>
    refine ⟨rfl, by simp, rfl, .inl (by rw [hpc]; rfl), ⟨[], ?_, rfl, fun _ => rfl⟩,
      .inr (.inr (.inl ⟨_, rfl⟩))⟩
    simp [failures, hpc, WelcomePc.errors]
  | dropFields _ hpc =>
    refine ⟨rfl, by simp, rfl, .inl (by rw [hpc]; rfl), ⟨[], ?_, rfl, fun _ => rfl⟩, .inl rfl⟩
    simp [failures, hpc, WelcomePc.errors]
  | @join i k panicked _ hpc =>
    have hk : k.ofRequest = true := by
      rw [hpc] at hh
      exact hh
    have finishes {fds : List RawFd} {errors : List DetailedError} (hres : w.resume k = w.closing fds errors)
        (herr : k.errors = errors) : w.Settles (.join panicked) (w.resume k) := by
      obtain ⟨hpend, hspare, henv⟩ := w.closing_settled fds errors
      rw [hres]
      refine ⟨hpend, closes, henv, .inr ⟨i, k, hpc, hspare⟩, ⟨[], ?_, rfl, fun _ => rfl⟩,
        .inr (.inr (.inr (.inl ⟨_, rfl⟩)))⟩
      rw [failures_closing hcalm' ho, ← herr]
      simp [failures, hpc, WelcomePc.errors, ho]
    cases k with
    | finish fds errors => exact finishes rfl rfl
    | unwind fds => exact finishes rfl rfl
    | _ => cases hk
  | @close fd fds errors _ hpc =>
    obtain ⟨hpend, hspare, henv⟩ := w.closing_settled fds errors
    refine ⟨hpend, closes, henv, .inl (by rw [hspare, hpc]; rfl), ⟨[], ?_, rfl, fun _ => rfl⟩,
      .inr (.inr (.inr (.inr ⟨fd, rfl⟩)))⟩
    rw [failures_closing hcalm' ho]
    simp [failures, hpc, WelcomePc.errors, ho]
  | dropWritePanics => cases hcalm
  | @joinPanics i k =>
    rw [resume_panicking] at hcalm
    cases hcalm
  | dupFails _ hpc | occupied _ hpc | vacant _ hpc | envNew _ hpc | envNewFails _ hpc
  | insertSend _ hpc | insertSendFails _ hpc | insertWrite _ hpc | insertWriteFails _ hpc
  | inserted _ hpc | refused _ hpc | hungUp _ hpc =>
    rw [hpc] at hp
    cases hp
  | _ =>
    rw [‹w.pc = _›] at hh
    cases hh

end Welcome

namespace Env
variable {P : Externals} {e e' : Env} {b : EnvAct}

/-- A thread that has left its loop leaves alone what is in its channel, until it drops the
receiver. -/
theorem left_kept (hl : e.pc.left = true) (hs : e.step P b = some e')
    (hrx : e'.addListener.receiver = true) :
    e'.waiting = e.waiting ∧ e.addListener.receiver = true := by
  have idle {pc pc' : EnvPc} (hpc : e.pc = pc) (hpc' : e'.pc = pc') (ht : pc.taken = [])
      (ht' : pc'.taken = []) (hq : e'.addListener = e.addListener) :
      e'.waiting = e.waiting ∧ e.addListener.receiver = true := by
    rw [Env.waiting, Env.waiting, hpc, hpc', ht, ht', hq]
    exact ⟨rfl, hq ▸ hrx⟩
  cases step_moves hs with
  | sendError => exact ⟨rfl, hrx⟩
  | closeSend _ hpc | closeWrite _ hpc | leave _ hpc => exact idle hpc rfl rfl rfl rfl
  | dropSync _ hpc => exact idle hpc rfl rfl (by split <;> rfl) rfl
  | dropListener => cases hrx
  | _ => simp_all [EnvPc.left]

end Env

namespace Daemon
variable {P : Externals} {s t u : Daemon} {i : EnvId} {e e' : Env} {a : Attaching} {c : ConnId}
  {l : List Mishap}

/-! ## The course of a call -/

/-- What a step leaves that is not undone. -/
def mishaps (s : Daemon) : Act → List Mishap
  | .welcome b =>
    match s.welcome.pc, b with
    | .insertSend _, .insertSend false => [.unsent]
    | .insertWrite a, .insertWrite false => if a.fresh then [] else [.deserted a.id]
    | .insertRecv a, .insertRecv none _ => if a.fresh then [] else [.deserted a.id]
    | .insertRecv _, .insertRecv (some (.ok ())) false => [.untold]
    | .send _ .openEnvironmentOk _ _ _, .send (.error _) => [.untold]
    | _, _ => []
  | _ => []

/-- The client was not attached, and the rest is being undone. -/
structure Undoing (c : ConnId) (s : Daemon) (l : List Mishap) : Prop where
  told : .untold ∉ l
  settled : s.welcome.pc.pending = false
  failed : s.welcome.failures ≠ []
  /-- What the welcome thread does not hold is in the channel of a thread that has left. -/
  left : ∀ y h, s.fds y = some ⟨.conn c, h⟩ → h ≠ .welcome → ∃ i e, h = .queue i ∧
    s.envs i = some e ∧ e.pc.left = true ∧ (s.welcome.pc.spare = some i ∨ .deserted i ∈ l)
  deserted : ∀ i, .deserted i ∈ l → ∃ e, s.envs i = some e ∧ e.pc.left = true ∧
    (e.addListener.receiver = true → ∃ x, s.fds x = some ⟨.conn c, .queue i⟩)
  unsent : .unsent ∈ l → ∃ x ∈ socketsOf s.welcome.failures, s.connAt x = some c
  sent : .unsent ∉ l → socketsOf s.welcome.failures = []

/-- The client was attached, and the thread is to answer, or has. -/
inductive Granted (c : ConnId) (s : Daemon) : List Mishap → Prop
  | due {fd} : s.welcome.pc = .send fd .openEnvironmentOk [] none [fd] → s.welcome.outbox = [] →
      (c, .openEnvironmentOk) ∉ s.history.answers → Granted c s []
  | untold : s.welcome.pc.pending = false →
      (∀ fd errors abandon fds, s.welcome.pc ≠ .send fd .openEnvironmentOk errors abandon fds) →
      s.welcome.failures ≠ [] → (c, .openEnvironmentOk) ∉ s.history.answers → Granted c s [.untold]
  | told : (∀ fd response errors abandon fds, s.welcome.pc ≠ .send fd response errors abandon fds) →
      s.welcome.pc.pending = false → s.welcome.failures = [] →
      (c, .openEnvironmentOk) ∈ s.history.answers → Granted c s []

/-- The client was not attached, and what was there before the call is as it was. -/
structure Unattached (s₀ : Daemon) (c : ConnId) (s : Daemon) : Prop where
  unattached : ∀ i, (c, i) ∉ s.history.attached
  environments : s.welcome.environments = s₀.welcome.environments
  ended : ∀ i e, s₀.envs i = none → s.envs i = some e → s.welcome.pc.spare ≠ some i → e.pc = .ended

/-- Where a call that began in `s₀` is, and what it leaves that is not undone. -/
inductive Course (s₀ : Daemon) (c : ConnId) (s : Daemon) (l : List Mishap) : Prop
  | pending : l = [] → s.welcome.pc.pending = true → Unattached s₀ c s → Course s₀ c s l
  | undoing : Undoing c s l → Unattached s₀ c s → Course s₀ c s l
  | granted : Granted c s l → (∃ i, (c, i) ∈ s.history.attached) → Course s₀ c s l
  | unwinding : s.welcome.panicking = true → Course s₀ c s l

/-! ## The steps of the others -/

/-- A thread that has left its loop stays out of it. -/
theorem left_step {b : Act} (hs : s.step P b = some t) (hi : s.envs i = some e)
    (hl : e.pc.left = true) : ∃ e', t.envs i = some e' ∧ e'.pc.left = true := by
  obtain ⟨e', hi'⟩ := Option.ne_none_iff_exists'.mp (envs_known hs (i := i) (by rw [hi]; nofun))
  refine ⟨e', hi', ?_⟩
  cases env_change hs hi' with
  | same hj hsame =>
    cases hi.symm.trans hj
    rw [hsame.pc]
    exact hl
  | thread hj hst =>
    cases hi.symm.trans hj
    exact Env.left_step hl hst
  | made hnone =>
    rw [hi] at hnone
    cases hnone

/-- The sockets of the errors are the welcome thread's. -/
theorem Held.of_failures {x : RawFd} (h : s.Held) (hx : x ∈ socketsOf s.welcome.failures) :
    s.fds.HeldBy .welcome x := by
  rw [← h.welcome, Welcome.held, WelcomePc.held, List.append_assoc, ← socketsOf_append]
  exact List.mem_append_right _ hx

theorem Undoing.other {b : Act} (h : Undoing c s l) (hacc : s.Accounted) (hs : s.step P b = some t)
    (hb : ∀ b', b ≠ .welcome b') (hw : t.welcome = s.welcome) : Undoing c t l where
  told := h.told
  settled := hw ▸ h.settled
  failed := hw ▸ h.failed
  left y h' hy hne := by
    rcases opened_aside hs hb hy with hold | ⟨j, source, rfl, hq, -⟩
    · obtain ⟨i, e, rfl, hi, hl, hwhy⟩ := h.left y h' hold hne
      obtain ⟨e', hi', hl'⟩ := left_step hs hi hl
      exact ⟨i, e', rfl, hi', hl', hw ▸ hwhy⟩
    · -- a thread that has left does not add what it was passed
      obtain ⟨i, e, hij, hi, hl, -⟩ := h.left y _ hq nofun
      cases hij
      obtain ⟨-, hp⟩ := step_party hs
      cases hp with
      | env hj hst =>
        cases hi.symm.trans hj
        cases Env.step_moves hst with
        | addEpoll _ hpc =>
          rw [hpc] at hl
          cases hl
  deserted i hmem := by
    obtain ⟨e, hi, hl, hx⟩ := h.deserted i hmem
    have queued {e' : Env} (hi' : t.envs i = some e') (hwait : e'.waiting = e.waiting)
        (hrx : e.addListener.receiver = true) : ∃ x, t.fds x = some ⟨.conn c, .queue i⟩ := by
      obtain ⟨x, hfd⟩ := hx hrx
      exact ⟨x, queue_kept hacc hs hi' hfd (hwait ▸ hacc.held.of_queue hi hfd)⟩
    by_cases hown : ∃ b', b = .env i b'
    · obtain ⟨b', rfl⟩ := hown
      obtain ⟨e', hi', hst⟩ : ∃ e', t.envs i = some e' ∧ e.step P b' = some e' := by
        obtain ⟨-, hp⟩ := step_party hs
        cases hp with
        | env hj hst =>
          cases hi.symm.trans hj
          exact ⟨_, Function.update_self .., hst⟩
      refine ⟨e', hi', Env.left_step hl hst, fun hrx => ?_⟩
      obtain ⟨hwait, hrx'⟩ := Env.left_kept hl hst hrx
      exact queued hi' hwait hrx'
    · obtain ⟨interrupted, hi'⟩ := env_untouched hs hi hb fun b' hb' => hown ⟨b', hb'⟩
      exact ⟨_, hi', hl, queued hi' rfl⟩
  unsent hmem := by
    obtain ⟨x, hx, hc⟩ := h.unsent hmem
    obtain ⟨h', hfd⟩ := connAt_eq_some.mp hc
    have hx' : x ∈ socketsOf t.welcome.failures := hw ▸ hx
    obtain ⟨file, hfd'⟩ := Fds.heldBy_iff.mp ((hacc.step hs).held.of_failures hx')
    cases keepsFiles_step hs x _ _ hfd hfd'
    exact ⟨x, hx', connAt_eq hfd'⟩
  sent hmem := hw ▸ h.sent hmem

/-- A thread that has ended takes no more steps but to send what it has to report. -/
theorem ended_step {b : Act} (hs : s.step P b = some t) (hi : s.envs i = some e)
    (hi' : t.envs i = some e') (hend : e.pc = .ended) : e'.pc = .ended := by
  cases env_change hs hi' with
  | same hj hsame =>
    cases hi.symm.trans hj
    rw [hsame.pc]
    exact hend
  | thread hj hst =>
    cases hi.symm.trans hj
    cases Env.step_moves hst with
    | sendError => exact hend
    | _ => simp_all
  | made hnone =>
    rw [hi] at hnone
    cases hnone

theorem recorded_aside {b : Act} (hs : s.step P b = some t) (hb : ∀ b', b ≠ .welcome b') :
    t.history.attached = s.history.attached ∧ t.history.answers = s.history.answers := by
  obtain ⟨hattached, hanswers⟩ := recorded_step hs
  cases b with
  | welcome => exact absurd rfl (hb _)
  | _ => exact ⟨hattached.trans (List.append_nil _), hanswers.trans (List.append_nil _)⟩

theorem Unattached.other {s₀ : Daemon} {b : Act} (h : Unattached s₀ c s) (hs : s.step P b = some t)
    (hb : ∀ b', b ≠ .welcome b') (hw : t.welcome = s.welcome) : Unattached s₀ c t where
  unattached i := by
    rw [(recorded_aside hs hb).1]
    exact h.unattached i
  environments := hw ▸ h.environments
  ended i e' hnone hi' hne := by
    obtain ⟨e, hi⟩ : ∃ e, s.envs i = some e := by
      cases env_change hs hi' with
      | same hj | thread hj => exact ⟨_, hj⟩
      | made => exact absurd rfl (hb _)
    exact ended_step hs hi hi' (h.ended i e hnone hi (hw ▸ hne))

theorem Granted.other {b : Act} (h : Granted c s l) (hs : s.step P b = some t)
    (hb : ∀ b', b ≠ .welcome b') (hw : t.welcome = s.welcome) : Granted c t l := by
  obtain ⟨-, hanswers⟩ := recorded_aside hs hb
  cases h with
  | due hpc ho hno => exact .due (hw ▸ hpc) (hw ▸ ho) (hanswers ▸ hno)
  | untold hp hpc hf hno => exact .untold (hw ▸ hp) (hw ▸ hpc) (hw ▸ hf) (hanswers ▸ hno)
  | told hpc hp hf hc => exact .told (hw ▸ hpc) (hw ▸ hp) (hw ▸ hf) (hanswers ▸ hc)

theorem Course.other {s₀ : Daemon} {b : Act} (h : Course s₀ c s l) (hacc : s.Accounted)
    (hs : s.step P b = some t) (hb : ∀ b', b ≠ .welcome b') (hw : t.welcome = s.welcome) :
    Course s₀ c t l := by
  cases h with
  | pending hl hp hu => exact .pending hl (hw ▸ hp) (hu.other hs hb hw)
  | undoing hundo hu => exact .undoing (hundo.other hacc hs hb hw) (hu.other hs hb hw)
  | granted hg hatt => exact .granted (hg.other hs hb hw) ((recorded_aside hs hb).1 ▸ hatt)
  | unwinding hp => exact .unwinding (hw ▸ hp)

/-! ## The request is settled -/

/-- What the thread does to the rest once the request is settled: descriptors are closed, and
the instance made for it is told to end. -/
structure Releases (s u : Daemon) : Prop where
  fds : s.fds.Shrinks u.fds
  envs : ∀ i e', u.envs i = some e' → ∃ e, s.envs i = some e ∧ e'.pc = e.pc ∧
    e'.waiting = e.waiting ∧ e'.addListener.receiver = e.addListener.receiver

theorem WelcomeEffect.releases {a : WelcomeAct} {w : Welcome} (he : WelcomeEffect P s a u)
    (hl : s.welcome.Settles a w) : Releases s u := by
  have still {v : Daemon} (hfds : s.fds.Shrinks v.fds) (henvs : v.envs = s.envs) : Releases s v :=
    ⟨hfds, fun i e' hi => ⟨e', henvs ▸ hi, rfl, rfl, rfl⟩⟩
  have replace {j : EnvId} {e f : Env} (hj : s.envs j = some e) (hpc : f.pc = e.pc)
      (hwait : f.waiting = e.waiting) (hrx : f.addListener.receiver = e.addListener.receiver) :
      Releases s { s with envs := Function.update s.envs j (some f) } := by
    refine ⟨.refl _, fun i e' hi => ?_⟩
    by_cases hij : i = j
    · subst hij
      cases (Function.update_self ..).symm.trans hi
      exact ⟨e, hj, hpc, hwait, hrx⟩
    · exact ⟨e', (Function.update_of_ne hij ..).symm.trans hi, rfl, rfl, rfl⟩
  cases he with
  | plain | dropWriteFails | join => exact still (.refl _) rfl
  | close => exact still Fds.shrinks_closeHeld rfl
  | send _ hr =>
    obtain ⟨c, conn, -, -, -, rfl⟩ := sendTo_eq_some hr
    exact still (.refl _) rfl
  | @dropWrite j k e _ _ hj hwrite =>
    obtain ⟨count, -, rfl⟩ := Option.map_eq_some_iff.mp hwrite
    have hrel := replace (f := { e with dropEvent := count }) hj rfl rfl rfl
    exact hrel
  | @dropFields j k e _ hj =>
    have hrel := replace (f := e.dropFields) hj rfl rfl rfl
    exact hrel
  | _ => exact absurd hl.label (by simp)

theorem mishaps_settled {a : WelcomeAct} (hp : s.welcome.pc.pending = false)
    (hno : ∀ fd errors abandon fds, s.welcome.pc ≠ .send fd .openEnvironmentOk errors abandon fds) :
    s.mishaps (.welcome a) = [] := by
  unfold mishaps
  cases hpc : s.welcome.pc with
  | insertSend | insertWrite | insertRecv =>
    rw [hpc] at hp
    cases hp
  | send fd response errors abandon fds =>
    cases response with
    | openEnvironmentOk => exact absurd hpc (hno _ _ _ _)
    | _ => rfl
  | _ => rfl

theorem attaches_settled {a : WelcomeAct} (hp : s.welcome.pc.pending = false) :
    s.attaches (.welcome a) = [] := by
  unfold attaches
  split
  · split
    · rename_i hpc
      rw [hpc] at hp
      cases hp
    · rfl
  · rfl

section
variable {b : WelcomeAct} {w : Welcome}

/-- A thread that was joined has ended. -/
theorem joined_ended {k : After} (hm : Welcome.Moves P s.welcome b w) (he : WelcomeEffect P s b u)
    (hset : s.welcome.Settles b w) (hjoin : s.welcome.pc = .join i k) (hi : s.envs i = some e) :
    e.pc = .ended := by
  have hat := hm.at
  rw [hjoin] at hat
  cases he with
  | join hpc₁ hj hend =>
    cases hjoin.symm.trans hpc₁
    cases hi.symm.trans hj
    exact hend
  | @plain b hp =>
    cases b with
    | join => cases hp
    | sendError => cases hp
    | _ => cases hat
  | sendError => exact absurd hset.label (by simp)
  | _ => cases hat

theorem Undoing.settles (h : Undoing c s l) (hacc : s.Accounted)
    (hshut : ∀ i e, s.envs i = some e → e.Shut)
    (hs : s.step P (.welcome b) = some { u with welcome := w }) (hm : Welcome.Moves P s.welcome b w)
    (he : WelcomeEffect P s b u) (hset : s.welcome.Settles b w) : Undoing c { u with welcome := w } l := by
  have hrel := he.releases hset
  obtain ⟨extra, hfail, hnone, -⟩ := hset.failures
  have hsockets : socketsOf w.failures = socketsOf s.welcome.failures := by
    rw [hfail, socketsOf_append, hnone, List.append_nil]
  have hhere {i : EnvId} {e : Env} (hi : s.envs i = some e) : ∃ e', u.envs i = some e' ∧
      e'.pc = e.pc ∧ e'.waiting = e.waiting ∧
        e'.addListener.receiver = e.addListener.receiver := by
    have hknown : u.envs i ≠ none := by
      have hk := envs_known hs (i := i) (by rw [hi]; nofun)
      exact hk
    obtain ⟨e', hi'⟩ := Option.ne_none_iff_exists'.mp hknown
    obtain ⟨e₀, hi₀, hsame⟩ := hrel.envs i e' hi'
    cases hi.symm.trans hi₀
    exact ⟨e', hi', hsame⟩
  refine ⟨h.told, hset.pending, ?_, fun y h' hy hne => ?_, fun i hmem => ?_, fun hmem => ?_,
    fun hmem => hsockets.trans (h.sent hmem)⟩
  · show w.failures ≠ []
    rw [hfail]
    exact fun hnil => h.failed (List.append_eq_nil_iff.mp hnil).1
  · have hy' := hrel.fds y _ hy
    obtain ⟨i, e, rfl, hi, hl, hwhy⟩ := h.left y h' hy' hne
    obtain ⟨e', hi', hpc, -⟩ := hhere hi
    refine ⟨i, e', rfl, hi', hpc ▸ hl, hwhy.imp_left fun hspare => ?_⟩
    rcases hset.spare with hkept | ⟨j, k, hjoin, -⟩
    · exact hkept.trans hspare
    · -- a thread that was joined has dropped what was queued
      exfalso
      rw [hjoin] at hspare
      cases hspare
      have hend := joined_ended hm he hset hjoin hi
      have hmem := hacc.held.of_queue hi hy'
      rw [Env.waiting, hend, (hshut i e hi).empty ((hshut i e hi).ended hend)] at hmem
      cases hmem
  · obtain ⟨e, hi, hl, hx⟩ := h.deserted i hmem
    obtain ⟨e', hi', hpc, hwait, hrx⟩ := hhere hi
    refine ⟨e', hi', hpc ▸ hl, fun hr => ?_⟩
    obtain ⟨x, hfd⟩ := hx (hrx ▸ hr)
    exact ⟨x, queue_kept hacc hs hi' hfd (hwait ▸ hacc.held.of_queue hi hfd)⟩
  · obtain ⟨x, hx, hc⟩ := h.unsent hmem
    obtain ⟨h', hfd⟩ := connAt_eq_some.mp hc
    have hx' : x ∈ socketsOf w.failures := hsockets ▸ hx
    obtain ⟨file, hfd'⟩ := Fds.heldBy_iff.mp ((hacc.step hs).held.of_failures hx')
    cases keepsFiles_step hs x _ _ hfd hfd'
    exact ⟨x, hx', connAt_eq hfd'⟩

theorem Unattached.settles {s₀ : Daemon} (h : Unattached s₀ c s)
    (hs : s.step P (.welcome b) = some { u with welcome := w }) (hm : Welcome.Moves P s.welcome b w)
    (he : WelcomeEffect P s b u) (hset : s.welcome.Settles b w) (hp : s.welcome.pc.pending = false) :
    Unattached s₀ c { u with welcome := w } where
  unattached i := by
    rw [(recorded_step hs).1, attaches_settled hp, List.append_nil]
    exact h.unattached i
  environments := hset.environments.trans h.environments
  ended i e' hnone hi' hne := by
    obtain ⟨e, hi, hpc, -⟩ := (he.releases hset).envs i e' hi'
    rw [hpc]
    by_cases hspare : s.welcome.pc.spare = some i
    · rcases hset.spare with hkept | ⟨j, k, hjoin, -⟩
      · exact absurd (hkept.trans hspare) hne
      · rw [hjoin] at hspare
        cases hspare
        exact joined_ended hm he hset hjoin hi
    · exact h.ended i e hnone hi hspare

theorem Granted.settles (h : Granted c s l) (hs : s.step P (.welcome b) = some { u with welcome := w })
    (hm : Welcome.Moves P s.welcome b w) (hset : s.welcome.Settles b w)
    (ho : s.welcome.outbox = []) (hcalm : s.welcome.panicking = false)
    (hconn : ∀ x, s.welcome.pc.owes = some x → s.connAt x = some c) :
    Granted c { u with welcome := w } (l ++ s.mishaps (.welcome b)) := by
  obtain ⟨-, hanswers⟩ := recorded_step hs
  obtain ⟨extra, hfail, -, hextra⟩ := hset.failures
  have hat := hm.at
  cases h with
  | @due fd hpc _ hno =>
    have hc := hconn fd (by rw [hpc]; rfl)
    have hquiet : s.welcome.failures = [] := by
      simp [Welcome.failures, hpc, WelcomePc.errors, ho]
    rw [hpc] at hat
    cases b with
    | send r =>
      cases r with
      | ok =>
        have hl : s.mishaps (.welcome (.send (.ok ()))) = [] := by simp [mishaps, hpc]
        rw [hl]
        refine .told hset.sent hset.pending ?_ ?_
        · exact hfail.trans (by rw [hquiet, hextra (by simp), List.append_nil])
        · rw [hanswers]
          apply List.mem_append_right
          simp [replies, hpc, answering, hc]
      | error errno =>
        have hl : s.mishaps (.welcome (.send (.error errno))) = [.untold] := by simp [mishaps, hpc]
        rw [hl]
        refine .untold hset.pending (fun fd' errors abandon fds => hset.sent fd' _ errors abandon fds) ?_ ?_
        · cases hm with
          | sendAbandon _ hpc₁ => cases hpc.symm.trans hpc₁
          | send _ hpc₁ =>
            cases hpc.symm.trans hpc₁
            show Welcome.failures _ ≠ []
            rw [Welcome.failures_closing hcalm ho]
            simp [sendErrors]
        · rw [hanswers]
          simpa [replies] using hno
    | sendError => exact absurd hset.label (by simp)
    | _ => cases hat
  | untold hp hpc hf hno =>
    rw [mishaps_settled hp hpc]
    refine .untold hset.pending (fun fd' errors abandon fds => hset.sent fd' _ errors abandon fds) ?_ ?_
    · show w.failures ≠ []
      rw [hfail]
      exact fun hnil => hf (List.append_eq_nil_iff.mp hnil).1
    · rw [hanswers]
      intro hmem
      rcases List.mem_append.mp hmem with hmem | hmem
      · exact hno hmem
      · unfold replies at hmem
        split at hmem
        · split at hmem
          · rename_i fd response errors abandon fds hpc'
            obtain ⟨c', -, heq⟩ := List.mem_map.mp hmem
            cases heq
            exact hpc _ _ _ _ hpc'
          · cases hmem
        · cases hmem
  | told hpc hp hf hc =>
    rw [mishaps_settled hp fun fd errors abandon fds => hpc fd _ errors abandon fds]
    refine .told hset.sent hset.pending ?_ ?_
    · refine hfail.trans ?_
      rw [hf, hextra, List.append_nil]
      rintro errno rfl
      cases hpc' : s.welcome.pc with
      | send => exact hpc _ _ _ _ _ hpc'
      | _ =>
        rw [hpc'] at hat
        cases hat
    · rw [hanswers]
      exact List.mem_append_left _ hc

/-! ## The request is pending -/

/-- The request goes on, or is refused: `insert_socket` does not return `Ok`. -/
theorem Unattached.pends {s₀ : Daemon} (h : Unattached s₀ c s)
    (hs : s.step P (.welcome b) = some { u with welcome := w }) (hm : Welcome.Moves P s.welcome b w)
    (hp : s.welcome.pc.pending = true) (hno : ∀ serializes, b ≠ .insertRecv (some (.ok ())) serializes) :
    Unattached s₀ c { u with welcome := w } := by
  -- an instance made for the request is the spare one until it is dropped
  have hpend : w.environments = s.welcome.environments ∧
      ((∃ j, b = .envNew (.ok j) ∧ w.pc.spare = some j ∧ s.welcome.pc.spare = none) ∨
        (∀ j, b ≠ .envNew (.ok j)) ∧ w.pc.spare = s.welcome.pc.spare) := by
    cases hm with
    | sendError => exact ⟨rfl, .inr ⟨nofun, rfl⟩⟩
    | occupied _ hpc | vacant _ hpc | dupFails _ hpc | envNewFails _ hpc | insertSend _ hpc
    | insertSendFails _ hpc | insertWrite _ hpc | insertWriteFails _ hpc | refused _ hpc
    | hungUp _ hpc =>
      exact ⟨rfl, .inr ⟨nofun, by rw [hpc]; rfl⟩⟩
    | envNew _ hpc => exact ⟨rfl, .inl ⟨_, rfl, rfl, by rw [hpc]; rfl⟩⟩
    | inserted => exact absurd rfl (hno _)
    | _ =>
      rw [‹s.welcome.pc = _›] at hp
      cases hp
  obtain ⟨henv, hspare⟩ := hpend
  refine ⟨fun i => ?_, henv.trans h.environments, fun i e' hnone hi' hne => ?_⟩
  · rw [(recorded_step hs).1]
    have hnil : s.attaches (.welcome b) = [] := by
      cases b with
      | insertRecv r serializes =>
        match r, hno with
        | some (.ok ()), hno => exact absurd rfl (hno serializes)
        | some (.error _), _ | none, _ =>
          simp only [attaches]
          split <;> rfl
      | _ => rfl
    rw [hnil, List.append_nil]
    exact h.unattached i
  · cases env_change hs hi' with
    | @same _ e hi hsame =>
      rw [hsame.pc]
      refine h.ended i e hnone hi fun hs' => ?_
      rcases hspare with ⟨j, -, -, hno'⟩ | ⟨-, heq⟩
      · cases hno'.symm.trans hs'
      · exact hne (heq.trans hs')
    | made =>
      rcases hspare with ⟨j, hj, hj', -⟩ | ⟨hno', -⟩
      · cases hj
        exact absurd hj' hne
      · exact absurd rfl (hno' _)

end

/-- The internal-error response is sent next. -/
theorem Undoing.begin {fd : RawFd} {err : DetailedError} {abandon : Option EnvId} {fds : List RawFd}
    (hpc : s.welcome.pc = .send fd .internalError [err] abandon fds) (ho : s.welcome.outbox = [])
    (htold : .untold ∉ l)
    (hleft : ∀ y h, s.fds y = some ⟨.conn c, h⟩ → h ≠ .welcome → ∃ i e, h = .queue i ∧
      s.envs i = some e ∧ e.pc.left = true ∧ (abandon = some i ∨ .deserted i ∈ l))
    (hdeserted : ∀ i, .deserted i ∈ l → ∃ e, s.envs i = some e ∧ e.pc.left = true ∧
      (e.addListener.receiver = true → ∃ x, s.fds x = some ⟨.conn c, .queue i⟩))
    (hunsent : .unsent ∈ l → ∃ x, err.socket = some x ∧ s.connAt x = some c)
    (hsent : .unsent ∉ l → err.socket = none) : Undoing c s l := by
  have hfail : s.welcome.failures = [err] := by simp [Welcome.failures, hpc, WelcomePc.errors, ho]
  refine ⟨htold, by rw [hpc]; rfl, by simp [hfail], by rw [hpc]; exact hleft, hdeserted,
    fun hmem => ?_, fun hmem => ?_⟩
  · obtain ⟨x, hx, hc⟩ := hunsent hmem
    exact ⟨x, by simp [hfail, socketsOf, hx], hc⟩
  · simp [hfail, socketsOf, hsent hmem]

/-- A thread that leaves without an answer leaves the socket in its channel, or has closed it. -/
theorem Fate.deserted {mark : ℕ} (h : Fate s.fds a c e mark) (hacc : s.Accounted)
    (hl : e.pc.left = true) (hq : e.syncResponse.queue = []) (hlen : e.added.length = mark) :
    (∀ y h', s.fds y = some ⟨.conn c, h'⟩ → h' ≠ .welcome → h' = .queue a.id) ∧
      (e.addListener.receiver = true → s.fds a.passed = some ⟨.conn c, .queue a.id⟩) := by
  cases h with
  | waits hx =>
    refine ⟨fun y h' hy hne => ?_, fun _ => hx⟩
    have hhome := (hacc.connected.homed y c h' hy hne).symm.trans (hacc.connected.homed _ c _ hx nofun)
    cases hacc.connected.once y _ c h' _ hy hx (by rw [hhome]; nofun) nofun
    cases hy.symm.trans hx
    rfl
  | @added before hadd hmark =>
    exfalso
    rw [hadd, List.length_append, hmark] at hlen
    simp at hlen
  | closed halone _ hdone =>
    refine ⟨fun y h' hy hne => absurd (halone y h' hy) hne, fun hrx => ?_⟩
    rcases hdone with hno | ⟨err, rest, hpc⟩ | ⟨err, herr⟩
    · cases hno.symm.trans hrx
    · rw [hpc] at hl
      cases hl
    · rw [hq] at herr
      cases herr

/-- The answer of `insert_socket` other than `Ok`: the thread has closed the socket, or has
left. -/
theorem Handed.refused {b : WelcomeAct} {call : Call} {errno : Errno} {serializes : Bool}
    (h : s.Handed a c) (hpc : s.welcome.pc = .insertRecv a) (he : WelcomeEffect P s b u)
    (hb : b = .insertRecv (some (.error (call, errno))) serializes) :
    u.fds = s.fds ∧ s.fds.Alone c := by
  obtain ⟨e, mark, hi, hatt, hfate⟩ := h.fate
  rw [hpc] at hatt
  simp only [WelcomePc.stage, Stage.attaching, if_true] at hatt
  cases he with
  | @insertRecv _ _ _ r _ hpc₁ hi₁ hans =>
    cases hb
    cases hpc.symm.trans hpc₁
    cases hi.symm.trans hi₁
    refine ⟨rfl, ?_⟩
    simp only [answered] at hans
    split at hans
    · rename_i hgot
      obtain ⟨q, hq⟩ := Channel.tryRecv_eq_got.mp hgot
      rcases hatt.outcome hgot with ⟨hok, -⟩ | ⟨-, hlen⟩
      · cases hok
      · cases hfate with
        | waits _ _ hresp =>
          rw [hresp] at hq
          cases hq
        | @added before hadd hmark =>
          rw [hadd, List.length_append, hmark] at hlen
          simp at hlen
        | closed halone => exact halone
    · cases hans
  | plain hp =>
    subst hb
    cases hp
  | _ => cases hb

/-- No answer of `insert_socket`: the thread has left. -/
theorem Handed.undoing (h : s.Handed a c) (hacc : s.Accounted) {e : Env} (hi : s.envs a.id = some e)
    (hcase : (s.welcome.pc = .insertWrite a ∧ e.insertWrite = none) ∨
      s.welcome.pc = .insertRecv a ∧ e.syncResponse.tryRecv = .disconnected)
    (err : DetailedError) (herr : err.socket = none) (ho : s.welcome.outbox = [])
    {envs : EnvId → Option Env} (history : History) (hi' : envs a.id = some e) :
    Undoing c { s with
      envs := envs, history := history, welcome := s.welcome.failInsert a err }
      (if a.fresh then [] else [.deserted a.id]) := by
  obtain ⟨e₀, mark, hi₀, hatt, hfate⟩ := h.fate
  cases hi.symm.trans hi₀
  have hgone : e.pc.left = true ∧ e.syncResponse.queue = [] ∧ e.added.length = mark := by
    rcases hcase with ⟨hpc, hnone⟩ | ⟨hpc, hnone⟩ <;> rw [hpc] at hatt <;>
      simp only [WelcomePc.stage, Stage.attaching, if_true] at hatt
    · obtain ⟨hl, hidle, hlen⟩ := hatt.insertWrite_none hnone
      exact ⟨hl, hidle.inv.dead (EnvPc.server_left hl), hlen⟩
    · obtain ⟨hq, hsend⟩ := Channel.tryRecv_eq_disconnected.mp hnone
      exact ⟨hatt.wired.thread hsend, hq, (hatt.hangup hnone).2⟩
  obtain ⟨hl, hq, hlen⟩ := hgone
  obtain ⟨honly, hqueued⟩ := hfate.deserted hacc hl hq hlen
  cases hf : a.fresh with
  | true =>
    refine Undoing.begin (by simp only [Welcome.failInsert, Welcome.fail, hf]; rfl) ho (by simp)
      (fun y h' hy hne => ?_) (by simp) (by simp) fun _ => herr
    exact ⟨a.id, e, honly y h' hy hne, hi', hl, .inl rfl⟩
  | false =>
    refine Undoing.begin (by simp only [Welcome.failInsert, Welcome.fail, hf]; rfl) ho (by simp)
      (fun y h' hy hne => ?_) (fun i hmem => ?_) (by simp) fun _ => herr
    · exact ⟨a.id, e, honly y h' hy hne, hi', hl, .inr (by simp)⟩
    · obtain rfl : i = a.id := by simpa using hmem
      exact ⟨e, hi', hl, fun hrx => ⟨_, hqueued hrx⟩⟩

/-- Before the duplicate is sent the thread has the only descriptors. -/
theorem Connected.alone_early {x : RawFd} (h : s.Connected) (hearly : s.welcome.pc.early = true)
    (hx : s.fds.HeldBy .welcome x) (hc : s.connAt x = some c) : s.fds.Alone c := by
  obtain ⟨c', hc'⟩ := h.conn_of_welcome hx
  cases hc.symm.trans (connAt_eq hc')
  exact (h.unpassed hearly x c hc').2

section
variable {b : WelcomeAct} {w : Welcome}

theorem Course.pends {s₀ : Daemon} (hu : Unattached s₀ c s) (hacc : s.Accounted)
    (hatt : s.Attachments) (hs : s.step P (.welcome b) = some { u with welcome := w })
    (hm : Welcome.Moves P s.welcome b w) (he : WelcomeEffect P s b u)
    (hp : s.welcome.pc.pending = true) (ho : s.welcome.outbox = [])
    (hheld : ∀ x, s.welcome.pc.owes = some x → s.fds.HeldBy .welcome x)
    (hconn : ∀ x, s.welcome.pc.owes = some x → s.connAt x = some c) :
    Course s₀ c { u with welcome := w } (s.mishaps (.welcome b)) := by
  have clean {fd : RawFd} {err : DetailedError} {abandon : Option EnvId} {fds : List RawFd}
      (hw : w.pc = .send fd .internalError [err] abandon fds) (ho' : w.outbox = [])
      (hfds : u.fds = s.fds) (halone : s.fds.Alone c) (herr : err.socket = none) :
      Undoing c { u with welcome := w } [] := by
    refine Undoing.begin hw ho' (by simp) (fun y h' hy hne => ?_) (by simp) (by simp) fun _ => herr
    exact absurd (halone y h' (hfds ▸ hy)) hne
  have hpends := hu.pends hs hm hp
  have alone {x : RawFd} (hearly : s.welcome.pc.early = true) (hx : s.welcome.pc.owes = some x) :
      s.fds.Alone c := hacc.connected.alone_early hearly (hheld x hx) (hconn x hx)
  have handed {a : Attaching} (ha : s.welcome.pc.passing = some a)
      (hx : s.welcome.pc.owes = some a.fd) : s.Handed a c := hatt.handed a c ha (hconn _ hx)
  cases hm with
  | sendError ho' =>
    rw [ho] at ho'
    cases ho'
  | occupied _ hpc | vacant _ hpc | envNew _ hpc | insertSend _ hpc | insertWrite _ hpc =>
    exact .pending (by simp [mishaps, hpc]) rfl (hpends (by simp))
  | dupFails _ hpc =>
    cases he with
    | plain =>
      have halone := alone (by rw [hpc]; rfl) (by rw [hpc]; rfl)
      simp only [mishaps, hpc]
      exact .undoing (clean rfl ho rfl halone rfl) (hpends (by simp))
  | envNewFails _ hpc =>
    cases he with
    | plain =>
      have halone := alone (by rw [hpc]; rfl) (by rw [hpc]; rfl)
      simp only [mishaps, hpc]
      exact .undoing (clean rfl ho rfl halone rfl) (hpends (by simp))
  | @insertSendFails a _ hpc =>
    cases he with
    | plain hp => cases hp
    | insertSendFails =>
      have halone := alone (by rw [hpc]; rfl) (by rw [hpc]; rfl)
      simp only [mishaps, hpc]
      refine .undoing (Undoing.begin rfl ho (by simp) (fun y h' hy hne => ?_) (by simp) (fun _ => ?_)
        (by simp)) (hpends (by simp))
      · exact absurd (halone y h' hy) hne
      · obtain ⟨c', hc'⟩ := hacc.connected.conn_of_welcome (hacc.held.of_passed hpc)
        have hfd := hacc.passing hpc (connAt_eq hc')
        cases (hconn a.fd (by rw [hpc]; rfl)).symm.trans hfd
        exact ⟨a.passed, rfl, connAt_eq hc'⟩
  | @insertWriteFails a _ hpc =>
    cases he with
    | plain hp => cases hp
    | insertWriteFails hpc₁ hi hnone =>
      cases hpc.symm.trans hpc₁
      have hundo := (handed (by rw [hpc]; rfl) (by rw [hpc]; rfl)).undoing hacc hi (.inl ⟨hpc, hnone⟩)
        (.sys .eventWrite eagain) rfl ho s.history hi
      simp only [mishaps, hpc]
      exact .undoing hundo (hpends (by simp))
  | @refused a call errno serializes _ hpc =>
    obtain ⟨hfds, halone⟩ := (handed (by rw [hpc]; rfl) (by rw [hpc]; rfl)).refused hpc he rfl
    simp only [mishaps, hpc]
    exact .undoing (clean rfl ho hfds halone rfl) (hpends (by simp))
  | @hungUp a serializes _ hpc =>
    have hhanded := handed (by rw [hpc]; rfl) (by rw [hpc]; rfl)
    cases he with
    | plain hp => cases hp
    | insertRecv hpc₁ hi hans =>
      cases hpc.symm.trans hpc₁
      simp only [answered] at hans
      split at hans
      · rename_i hnone
        cases hans
        simp only [mishaps, hpc]
        refine .undoing (hhanded.undoing hacc hi (.inr ⟨hpc, hnone⟩) .recvFailed rfl ho _ ?_) (hpends (by simp))
        exact Function.update_self ..
      · cases hans
  | @inserted a serializes _ hpc =>
    obtain ⟨hattached, hanswers⟩ := recorded_step hs
    have hc := hconn a.fd (by rw [hpc]; rfl)
    have hmem : ∃ i, (c, i) ∈ u.history.attached := by
      refine ⟨a.id, hattached ▸ List.mem_append_right _ ?_⟩
      simp [attaches, hpc, attaching, hc]
    have hno : (c, .openEnvironmentOk) ∉ u.history.answers := by
      intro hans
      have hans' : (c, .openEnvironmentOk) ∈ s.history.answers ++ [] := hanswers ▸ hans
      rw [List.append_nil] at hans'
      obtain ⟨i, hi⟩ := hatt.answered c hans'
      exact hu.unattached i hi
    simp only [mishaps, hpc]
    cases serializes with
    | true => exact .granted (.due rfl ho hno) hmem
    | false =>
      refine .granted (.untold rfl (by rintro fd errors abandon fds ⟨⟩) ?_ hno) hmem
      show Welcome.failures _ ≠ []
      simp [Welcome.failures, Welcome.inserted, Welcome.fail, WelcomePc.errors]
  | _ =>
    rw [‹s.welcome.pc = _›] at hp
    cases hp

end

/-! ## The run of a call -/

theorem Course.step {s₀ : Daemon} {b : Act} {parsed : Except DetailedError String}
    {r : List (Record WelcomeResponse DetailedError ConnId)} (h : Course s₀ c s l)
    (hcall : WelcomeHandling parsed c s r) (hatt : s.Attachments)
    (hshut : ∀ i e, s.envs i = some e → e.Shut) (hh : s.WelcomeHandles b)
    (hs : s.step P b = some t) : Course s₀ c t (l ++ s.mishaps b) := by
  have hacc := hcall.accounted
  have ho := hcall.handles.quiet hh
  by_cases hb : ∃ b', b = .welcome b'
  · obtain ⟨b', rfl⟩ := hb
    obtain ⟨-, hp⟩ := step_party hs
    cases hp with
    | @welcome _ w u hm he =>
      by_cases hpanic : w.panicking = true
      · exact .unwinding hpanic
      have hcalm : w.panicking = false := by simpa using hpanic
      have hcalm' : s.welcome.panicking = false := by
        cases hq : s.welcome.panicking with
        | false => rfl
        | true => exact absurd (hm.panicking hq) hpanic
      cases h with
      | pending hl hp hu =>
        subst hl
        exact .pends hu hacc hatt hs hm he hp ho (fun x => hacc.held.of_owes hcall.handles) hcall.conn
      | undoing hundo hu =>
        have hset := hm.settles hh ho hundo.settled hcalm
        have hno (fd : RawFd) (errors : List DetailedError) (abandon : Option EnvId) (fds : List RawFd) :
            s.welcome.pc ≠ .send fd .openEnvironmentOk errors abandon fds := by
          intro hpc
          obtain ⟨i, hi⟩ := hatt.granted fd errors abandon fds c hpc (hcall.conn fd (by rw [hpc]; rfl))
          exact hu.unattached i hi
        rw [mishaps_settled hundo.settled hno, List.append_nil]
        exact .undoing (hundo.settles hacc hshut hs hm he hset)
          (hu.settles hs hm he hset hundo.settled)
      | granted hg hmem =>
        have hp : s.welcome.pc.pending = false := by
          cases hg with
          | due hpc =>
            rw [hpc]
            rfl
          | untold hp => exact hp
          | told _ hp => exact hp
        have hset := hm.settles hh ho hp hcalm
        refine .granted (hg.settles hs hm hset ho hcalm' hcall.conn) ?_
        obtain ⟨i, hi⟩ := hmem
        exact ⟨i, (recorded_step hs).1 ▸ List.mem_append_left _ hi⟩
      | unwinding hq => exact absurd (hm.panicking hq) hpanic
  · have hb' : ∀ b', b ≠ .welcome b' := fun b' hb' => hb ⟨b', hb'⟩
    have hnil : s.mishaps b = [] := by
      cases b with
      | welcome => exact absurd rfl (hb' _)
      | _ => rfl
    rw [hnil, List.append_nil]
    exact h.other hacc hs hb' (hacc.instances.welcome_still hs hb' hh)

/-- A request either attaches the client and tells it so, or leaves nothing behind. -/
structure AllOrNothing (s u : Daemon) (c : ConnId) : Prop where
  /-- If the call returns `Err`, the map is as it was, no descriptor of the connection is
  left, in a `SocketSet` or elsewhere, and the threads made during the call have ended. -/
  undone : u.welcome.outbox ≠ [] → u.welcome.environments = s.welcome.environments ∧
    (∀ x h, u.fds x ≠ some ⟨.conn c, h⟩) ∧
      (∀ i e, u.envs i = some e → ∀ x ∈ e.sockets, u.connAt x ≠ some c) ∧
        ∀ i e, s.envs i = none → u.envs i = some e → e.pc = .ended
  told : (∃ i, (c, i) ∈ u.history.attached) ↔ (c, .openEnvironmentOk) ∈ u.history.answers

/-- Nothing went wrong that is not undone: a client that was added is told so, the channel of
the thread is open, and a thread that leaves without an answer drops its receiver before the
call returns. -/
structure Undone (u : Daemon) (l : List Mishap) : Prop where
  told : .untold ∉ l
  sent : .unsent ∉ l
  dropped : ∀ i, .deserted i ∈ l → ∀ e, u.envs i = some e → e.addListener.receiver = false

theorem Course.allOrNothing {s₀ : Daemon} (h : Course s₀ c u l) (hacc : u.Accounted)
    (hatt : u.Attachments) (hshut : ∀ i e, u.envs i = some e → e.Shut)
    (hpc : u.welcome.pc = .poll) : AllOrNothing s₀ u c ↔ Undone u l := by
  have hfail : u.welcome.failures = u.welcome.outbox := by
    rw [Welcome.failures, hpc]
    rfl
  cases h with
  | pending _ hp =>
    rw [hpc] at hp
    cases hp
  | unwinding hp =>
    have hun := hacc.held.unwinds hp
    rw [hpc] at hun
    cases hun
  | undoing h hu =>
    constructor
    · intro hall
      obtain ⟨-, hfds, -, -⟩ := hall.undone (hfail ▸ h.failed)
      refine ⟨h.told, fun hmem => ?_, fun i hmem e hi => ?_⟩
      · obtain ⟨x, -, hx⟩ := h.unsent hmem
        obtain ⟨h', hx⟩ := connAt_eq_some.mp hx
        exact hfds x h' hx
      · obtain ⟨e₀, hi₀, -, hx⟩ := h.deserted i hmem
        cases hi.symm.trans hi₀
        by_contra hrx
        obtain ⟨x, hx⟩ := hx (by simpa using hrx)
        exact hfds x _ hx
    · intro hundone
      have hfds : ∀ x h', u.fds x ≠ some ⟨.conn c, h'⟩ := by
        intro x h' hx
        by_cases hw : h' = .welcome
        · subst hw
          have hmem : x ∈ u.welcome.held := (hacc.held.welcome x).mpr (.of_eq hx)
          rw [Welcome.held, hpc, ← hfail, h.sent hundone.sent] at hmem
          cases hmem
        · obtain ⟨i, e, rfl, hi, hl, hwhy⟩ := h.left x h' hx hw
          rw [hpc] at hwhy
          have hrx := hundone.dropped i (hwhy.resolve_left (by rintro ⟨⟩)) e hi
          have hmem := hacc.held.of_queue hi hx
          have htaken : e.pc.taken = [] := by
            cases hp : e.pc with
            | addEpoll =>
              rw [hp] at hl
              cases hl
            | _ => rfl
          rw [Env.waiting, htaken, (hshut i e hi).empty hrx] at hmem
          cases hmem
      refine ⟨fun _ => ⟨hu.environments, hfds, fun i e hi x hx hc => ?_, fun i e hnone hi => ?_⟩,
        fun hatt => hatt.elim fun i hi => absurd hi (hu.unattached i), fun hans => ?_⟩
      · obtain ⟨h', hx⟩ := connAt_eq_some.mp hc
        exact hfds x h' hx
      · exact hu.ended i e hnone hi (by rw [hpc]; rintro ⟨⟩)
      · exact hatt.answered c hans
  | granted hg hmem =>
    cases hg with
    | due hpc' => cases hpc.symm.trans hpc'
    | untold _ _ hf hno =>
      constructor
      · intro hall
        exact absurd (hall.told.mp hmem) hno
      · intro hundone
        exact absurd (List.mem_singleton_self _) hundone.told
    | told _ _ hf hans =>
      constructor
      · exact fun _ => ⟨by simp, by simp, by simp⟩
      · intro _
        exact ⟨fun hne => absurd (hfail.symm.trans hf) hne, fun _ => hans, fun _ => hmem⟩

/-- A request to open an environment is all or nothing if and only if nothing went wrong
that is not undone. -/
theorem attach_all_or_nothing {as bs : List Act} {m : Message} {serializes : Bool} {fd : RawFd}
    {name : String} (hr : Run (Daemon.step P) anyStep boot as s)
    (hs : s.step P (.welcome (.recv (.ok m) serializes)) = some t)
    (hm : P.welcomeRequest m = .ok name) (hpc : s.welcome.pc = .recv fd)
    (hc : s.connAt fd = some c) (hrun : Run (Daemon.step P) WelcomeHandles t bs u)
    (hu : u.welcome.pc = .poll) :
    AllOrNothing t u c ↔ Undone u (collect (Daemon.step P) mishaps t bs) := by
  have hreach : s.Accounted ∧ s.Attachments ∧ ∀ i e, s.envs i = some e → e.Shut :=
    hr.invariant (I := fun s => s.Accounted ∧ s.Attachments ∧ ∀ i e, s.envs i = some e → e.Shut)
      (fun _ _ _ _ h hs => ⟨h.1.step hs, h.2.1.step h.1 hs, shut_step hs h.2.2⟩)
      ⟨accounted_boot, attachments_boot, shut_boot⟩
  obtain ⟨hacc, hatt, hshut⟩ := hreach
  obtain ⟨-, fd', c', hpc', hc', hcall⟩ := hacc.welcome_received hs fun e he => by
    rw [hm] at he
    cases he
  cases hpc.symm.trans hpc'
  cases hc.symm.trans hc'
  have hdup : t.welcome.pc = .dup fd name := by
    obtain ⟨-, hp⟩ := step_party hs
    cases hp with
    | welcome hmove =>
      cases hmove with
      | recv _ hpc₁ hm₁ =>
        cases hpc.symm.trans hpc₁
        cases hm.symm.trans hm₁
        rfl
      | recvMalformed _ _ hm₁ => cases hm.symm.trans hm₁
      | recvUnanswered _ _ hm₁ => cases hm.symm.trans hm₁
  have hatt' := hatt.step hacc hs
  have hstart : Unattached t c t := by
    refine ⟨fun i hi => ?_, rfl, fun i e hnone hi => absurd (hnone.symm.trans hi) nofun⟩
    have hearly : t.welcome.pc.early = true := by
      rw [hdup]
      rfl
    have howes : t.welcome.pc.owes = some fd := by
      rw [hdup]
      rfl
    obtain ⟨c', hfd⟩ := hcall.accounted.connected.conn_of_welcome
      (hcall.accounted.held.of_owes hcall.handles howes)
    cases (hcall.conn fd howes).symm.trans (connAt_eq hfd)
    have hhome := (hcall.accounted.connected.unpassed hearly fd c hfd).1
    cases (hatt'.attached c i hi).1.symm.trans hhome
  have hend := hrun.invariant_collect (f := mishaps) (l := [])
    (I := fun s l => (∃ r, WelcomeHandling (P.welcomeRequest m) c s r) ∧ s.Attachments ∧
      (∀ i e, s.envs i = some e → e.Shut) ∧ Course t c s l)
    (fun s b v l hh h hs => by
      obtain ⟨⟨r, hcall⟩, hatt, hshut, hcourse⟩ := h
      exact ⟨⟨_, hcall.step hh hs⟩, hatt.step hcall.accounted hs, shut_step hs hshut,
        hcourse.step hcall hatt hshut hh hs⟩)
    ⟨⟨_, hcall⟩, hatt', shut_step hs hshut, .pending rfl (by rw [hdup]; rfl) hstart⟩
  obtain ⟨⟨r, hover⟩, hattu, hshutu, hcourse⟩ := hend
  exact hcourse.allOrNothing hover.accounted hattu hshutu hu

/-- The first client of the environment `a` is attached and told so. -/
theorem attach_all_or_nothing_open : ∃ as s t bs u, Run (Daemon.step .oneLetter) anyStep boot as s ∧
    s.step .oneLetter (.welcome (.recv (.ok [97]) true)) = some t ∧
    Run (Daemon.step .oneLetter) WelcomeHandles t bs u ∧ u.welcome.pc = .poll ∧
    (0, 0) ∈ u.history.attached ∧ AllOrNothing t u 0 := by
  have hexec : (exec (Daemon.step .oneLetter) (fun _ _ => true) boot (startUp ++ handsOver.take 5)).any
      (fun s => decide (s.welcome.pc = .recv 0 ∧ s.connAt 0 = some 0) &&
        (s.step .oneLetter (.welcome (.recv (.ok [97]) true))).any fun t =>
          (exec (Daemon.step .oneLetter) (fun s _ => s.welcome.pc.handling) t
            (handsOver.drop 6 ++ adds ++ answers)).any fun u =>
              decide (u.welcome.pc = .poll ∧ (0, 0) ∈ u.history.attached ∧
                collect (Daemon.step .oneLetter) mishaps t (handsOver.drop 6 ++ adds ++ answers) = [])) := by
    decide
  obtain ⟨s, hrun, hs⟩ := Run.of_exec_any (fun _ _ h => h) hexec
  have hr : Run (Daemon.step .oneLetter) anyStep boot _ s := hrun.mono fun _ _ _ => trivial
  obtain ⟨hat, ht⟩ := (Bool.and_eq_true _ _).mp hs
  obtain ⟨hpc, hc⟩ := of_decide_eq_true hat
  obtain ⟨t, ht, hu⟩ := (Option.any_eq_true _ _).mp ht
  obtain ⟨u, hrun', hp⟩ := Run.of_exec_any (fun _ _ h => h) hu
  obtain ⟨hpoll, hmem, hnone⟩ := of_decide_eq_true hp
  have hundone : Undone u (collect (Daemon.step .oneLetter) mishaps t
      (handsOver.drop 6 ++ adds ++ answers)) := by
    rw [hnone]
    exact ⟨nofun, nofun, nofun⟩
  exact ⟨_, s, t, _, u, hr, ht, hrun', hpoll, hmem,
    (attach_all_or_nothing hr ht (by decide : Externals.oneLetter.welcomeRequest [97] = .ok "a") hpc hc
      hrun' hpoll).mpr hundone⟩

/-- A client goes away once it is added: `OpenEnvironmentOk` cannot be sent, the call fails,
and the new environment stays in the map. -/
theorem left_in_map : ¬ ∀ P as bs m serializes fd name c s t u,
    Run (Daemon.step P) anyStep boot as s →
    s.step P (.welcome (.recv (.ok m) serializes)) = some t → P.welcomeRequest m = .ok name →
    s.welcome.pc = .recv fd → s.connAt fd = some c → Run (Daemon.step P) WelcomeHandles t bs u →
    u.welcome.pc = .poll → AllOrNothing t u c := by
  intro h
  have hexec : (exec (Daemon.step .oneLetter) (fun _ _ => true) boot (startUp ++ handsOver.take 5)).any
      (fun s => decide (s.welcome.pc = .recv 0 ∧ s.connAt 0 = some 0) &&
        (s.step .oneLetter (.welcome (.recv (.ok [97]) true))).any fun t =>
          (exec (Daemon.step .oneLetter) (fun s _ => s.welcome.pc.handling) t
            (handsOver.drop 6 ++ adds ++ [.client 0 .close,
              .welcome (.insertRecv (some (.ok ())) true), .welcome (.send (.error 32)),
              .welcome (.close 0)])).any fun u =>
                decide (u.welcome.pc = .poll ∧ u.welcome.outbox ≠ [] ∧
                  u.welcome.environments.lookup "a" ≠ t.welcome.environments.lookup "a")) := by
    decide
  obtain ⟨s, hrun, hs⟩ := Run.of_exec_any (fun _ _ h => h) hexec
  have hr : Run (Daemon.step .oneLetter) anyStep boot _ s := hrun.mono fun _ _ _ => trivial
  obtain ⟨hat, ht⟩ := (Bool.and_eq_true _ _).mp hs
  obtain ⟨hpc, hc⟩ := of_decide_eq_true hat
  obtain ⟨t, ht, hu⟩ := (Option.any_eq_true _ _).mp ht
  obtain ⟨u, hrun', hp⟩ := Run.of_exec_any (fun _ _ h => h) hu
  obtain ⟨hpoll, hout, hmap⟩ := of_decide_eq_true hp
  have hall := h _ _ _ _ _ _ _ _ _ _ _ hr ht (by decide : Externals.oneLetter.welcomeRequest [97] = .ok "a")
    hpc hc hrun' hpoll
  exact hmap (congrArg (AList.lookup "a") (hall.undone hout).1)

end Daemon
end Garnd
