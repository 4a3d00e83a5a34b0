import Garnd.Isolation
import Garnd.Membership
import Garnd.Lib.Sessions

/- What the daemon is for: it realizes the service of `Sessions`, where a session is an
   instance of an environment, its resources are mutexes, and the points of their regions
   the bytes of the shared memory of the process. A session begins when the instance is
   made, a client joins when its socket is put in the `SocketSet`, a mutex is where the
   first client was told it is, a client leaves when its socket is taken out of the set,
   and a session is over when the thread drops its locals (`Daemon.Realizes`). What
   passes on the connections is what the service shows. -/
namespace Garnd
open Transition

/-- The bytes of the mutex: a `memfd` and an offset. -/
def MutexOk.region (P : Externals) (r : MutexOk) : Set (ℕ × ℕ) :=
  {p | p.1 = r.memfd ∧ p.2 ∈ r.bytes P}

theorem MutexOk.Same.region {P : Externals} {r q : MutexOk} (h : r.Same q) : r.region P = q.region P := by
  simp only [MutexOk.region, MutexOk.bytes, h.memfd, h.offset]

/-- Regions on different `memfd`s, or of different bytes. -/
theorem MutexOk.region_disjoint {P : Externals} {r q : MutexOk}
    (h : r.memfd ≠ q.memfd ∨ Disjoint (r.bytes P) (q.bytes P)) :
    Disjoint (r.region P) (q.region P) := by
  rw [Set.disjoint_left]
  rintro p ⟨hr, hb⟩ ⟨hq, hb'⟩
  rcases h with h | h
  · exact h (hr.symm.trans hq)
  · exact Set.disjoint_left.mp h hb hb'

/-- Two states of an instance that are the same for its clients. -/
structure Env.Alike (e e' : Env) : Prop where
  name : e'.name = e.name
  emptied : e'.pc.emptied = e.pc.emptied
  added : e'.added = e.added
  sockets : e'.sockets = e.sockets

theorem Env.SameThread.alike {e e' : Env} (h : Env.SameThread e e') : e.Alike e' :=
  ⟨h.name, by rw [h.pc], h.added, h.sockets⟩

/-- A step of the thread that is not about a socket or its locals. -/
theorem Env.Moves.alike {P : Externals} {e e' : Env} {b : EnvAct} (hm : Env.Moves P e b e')
    (hadd : ∀ x c, b ≠ .addEpoll x (.ok c)) (hgone : ∀ x c, b ≠ .dispatch (some (.conn x c true)))
    (hleave : ∀ panics, b ≠ .leave panics) : e.Alike e' := by
  cases hm with
  | sendError => exact ⟨rfl, rfl, rfl, rfl⟩
  | addEpoll => exact absurd rfl (hadd _ _)
  | lastGone | oneGone => exact absurd rfl (hgone _ _)
  | leave => exact absurd rfl (hleave _)
  | epollAdd _ hpc =>
    refine ⟨rfl, ?_, rfl, rfl⟩
    rw [hpc]
    dsimp only
    split <;> rfl
  | dropSync _ hpc | dropListener _ hpc =>
    refine ⟨rfl, ?_, rfl, rfl⟩
    rw [hpc]
    dsimp only
    split <;> rfl
  | _ => exact ⟨rfl, by rw [‹e.pc = _›]; rfl, rfl, rfl⟩

/-- What a hang-up leaves alone. -/
theorem Env.Moves.hangsUp {P : Externals} {e e' : Env} {data : RawFd} {source : ConnId}
    (hm : Env.Moves P e (.dispatch (some (.conn data source true))) e') :
    e'.name = e.name ∧ e'.added = e.added ∧ e'.pc.emptied = e.pc.emptied ∧
      e'.sockets = e.sockets.erase data := by
  cases hm with
  | lastGone _ hpc hlast => exact ⟨rfl, rfl, by rw [hpc]; rfl, hlast.symm⟩
  | oneGone _ hpc => exact ⟨rfl, rfl, by rw [hpc]; rfl, rfl⟩

namespace Daemon
variable {P : Externals} {s t u : Daemon} {i : EnvId} {e e' : Env} {c : ConnId} {a : Act}

/-! ## The service -/

/-- What passes between the clients and the daemon in a step: a well-formed request to
open an environment, an `OpenEnvironmentOk`, an `OpenMutexOk`. -/
def speaks (P : Externals) (s : Daemon) : Act → List (Sessions.Message ConnId String String (ℕ × ℕ))
  | .welcome (.recv (.ok m) _) =>
    match s.welcome.pc with
    | .recv fd => (s.opening P fd m).map fun p => .asked p.1 p.2
    | _ => []
  | .welcome (.send (.ok ())) =>
    match s.welcome.pc with
    | .send fd .openEnvironmentOk _ _ _ => (s.connAt fd).toList.map .granted
    | _ => []
  | .env i (.send fd response (.ok ())) =>
    (s.delivering i fd response).map fun r => .told r.conn r.name (r.region P)
  | _ => []

/-- The instances are the sessions. -/
structure Hosting (s : Daemon) (x : Sessions.State EnvId ConnId String String (ℕ × ℕ)) : Prop where
  name : ∀ i n, x.name i = some n ↔ ∃ e, s.envs i = some e ∧ e.name = n
  live : ∀ i, i ∈ x.live ↔ ∃ e, s.envs i = some e ∧ e.pc.emptied = false
  session : ∀ c i, x.session c = some i ↔ ∃ e, s.envs i = some e ∧ ∃ y, (y, c) ∈ e.added
  present : ∀ c, c ∈ x.present ↔ ∃ i y, s.fds.Own i y c

/-- The state of the service that the daemon is in. -/
structure Realizes (P : Externals) (s : Daemon)
    (x : Sessions.State EnvId ConnId String String (ℕ × ℕ)) : Prop extends Hosting s x where
  asked : ∀ c n, x.asked c = some n ↔ (c, n) ∈ s.history.opened
  region : ∀ i m r, x.region i m = some r ↔
    ∃ q ∈ s.history.mutexes, q.instance' = i ∧ q.name = m ∧ q.region P = r

variable {x : Sessions.State EnvId ConnId String String (ℕ × ℕ)}

theorem realizes_boot (P : Externals) : boot.Realizes P .empty where
  asked c n := ⟨by rintro ⟨⟩, by rintro ⟨⟩⟩
  name i n := ⟨by rintro ⟨⟩, by rintro ⟨e, hi, -⟩; cases hi⟩
  live i := ⟨by rintro ⟨⟩, by rintro ⟨e, hi, -⟩; cases hi⟩
  session c i := ⟨by rintro ⟨⟩, by rintro ⟨e, hi, -⟩; cases hi⟩
  present c := ⟨by rintro ⟨⟩, by rintro ⟨i, y, hy⟩; cases hy⟩
  region i m r := ⟨by rintro ⟨⟩, by rintro ⟨q, hq, -⟩; cases hq⟩

theorem Held.known {y : RawFd} (h : s.Held) (hy : s.fds.Own i y c) : ∃ e, s.envs i = some e := by
  have hmem := (h.sockets i y).mpr (.of_eq hy)
  cases hi : s.envs i with
  | none => simp [socketsAt, hi] at hmem
  | some e => exact ⟨e, rfl⟩

/-- The instances of `t` are those of `s`, and the same for their clients. -/
structure Resembles (s t : Daemon) : Prop where
  forward : ∀ i e, s.envs i = some e → ∃ e', t.envs i = some e' ∧ e.Alike e'
  alike : ∀ i e', t.envs i = some e' → ∃ e, s.envs i = some e ∧ e.Alike e'
  own : ∀ i y c, t.fds.Own i y c ↔ s.fds.Own i y c

theorem resembles_step (hacc : s.Accounted) (hs : s.step P a = some t)
    (halike : ∀ i e', t.envs i = some e' → ∃ e, s.envs i = some e ∧ e.Alike e') : s.Resembles t := by
  have hforward {i : EnvId} {e : Env} (hi : s.envs i = some e) : ∃ e', t.envs i = some e' ∧ e.Alike e' := by
    obtain ⟨e', hi'⟩ := Option.ne_none_iff_exists'.mp (envs_known hs (i := i) (by simp [hi]))
    obtain ⟨e₀, hi₀, hsame⟩ := halike i e' hi'
    cases hi.symm.trans hi₀
    exact ⟨e', hi', hsame⟩
  refine ⟨fun _ _ hi => hforward hi, halike, fun i y c => ⟨fun hy => ?_, fun hy => ?_⟩⟩
  · obtain ⟨e', hi'⟩ := (hacc.step hs).held.known hy
    obtain ⟨e, hi, hsame⟩ := halike i e' hi'
    have hmem := ((hacc.step hs).held.of_sockets hi').mpr (.of_eq hy)
    exact own_was hacc hs hi (hsame.sockets ▸ hmem) hy
  · obtain ⟨e, hi⟩ := hacc.held.known hy
    obtain ⟨e', hi', hsame⟩ := hforward hi
    exact own_kept hacc hs hi hi' hsame.sockets hy

/-- What depends on what the clients see of an instance. -/
theorem Resembles.iff {p : Env → Prop} (h : s.Resembles t) (hp : ∀ e e', e.Alike e' → (p e' ↔ p e))
    (i : EnvId) : (∃ e, t.envs i = some e ∧ p e) ↔ ∃ e, s.envs i = some e ∧ p e := by
  constructor
  · rintro ⟨e', hi', he⟩
    obtain ⟨e, hi, hsame⟩ := h.alike i e' hi'
    exact ⟨e, hi, (hp e e' hsame).mp he⟩
  · rintro ⟨e, hi, he⟩
    obtain ⟨e', hi', hsame⟩ := h.forward i e hi
    exact ⟨e', hi', (hp e e' hsame).mpr he⟩

/-- A step that is not about the instances. -/
theorem Hosting.resembles (h : s.Hosting x) (hr : s.Resembles t) : t.Hosting x where
  name i n := (h.name i n).trans (hr.iff (fun e e' ha => by rw [ha.name]) i).symm
  live i := (h.live i).trans (hr.iff (fun e e' ha => by rw [ha.emptied]) i).symm
  session c i := (h.session c i).trans (hr.iff (fun e e' ha => by rw [ha.added]) i).symm
  present c := by simp only [hr.own, h.present]

/-- What is said of an instance, after a step of the thread of one. -/
theorem said_iff {p : Env → Prop} (hi : s.envs i = some e)
    (henvs : t.envs = Function.update s.envs i (some e')) (hp : p e' ↔ p e) (j : EnvId) :
    (∃ f, t.envs j = some f ∧ p f) ↔ ∃ f, s.envs j = some f ∧ p f := by
  by_cases hj : j = i
  · subst hj
    simp [henvs, hi, hp]
  · simp [henvs, hj]

/-! ## The steps -/

/-- What the relation between the daemon and the service rests on. -/
structure Servicing (P : Externals) (s : Daemon) : Prop where
  agreeing : s.Agreeing
  isolated : s.Isolated P
  attachments : s.Attachments
  requested : s.Requested
  enrolled : s.Enrolled

theorem servicing_boot (P : Externals) : boot.Servicing P :=
  ⟨agreeing_boot, isolated_boot P, attachments_boot, requested_boot, enrolled_boot⟩

theorem Servicing.step (h : s.Servicing P) (hs : s.step P a = some t) : t.Servicing P := by
  have hacc := h.agreeing.settled.toAccounted
  exact ⟨h.agreeing.step hs, h.isolated.step h.agreeing hs, h.attachments.step hacc hs,
    h.requested.step hacc hs, h.enrolled.step hacc hs⟩

/-- The step is matched by a run of the service. -/
def Matched (P : Externals) (s : Daemon) (x : Sessions.State EnvId ConnId String String (ℕ × ℕ))
    (a : Act) (t : Daemon) : Prop :=
  ∃ bs y, Run Sessions.State.step anyStep x bs y ∧ bs.flatMap Sessions.Act.shown = s.speaks P a ∧
    t.Realizes P y

theorem Realizes.stutters (h : s.Realizes P x) (hr : s.Resembles t)
    (hopened : t.history.opened = s.history.opened) (hmutexes : t.history.mutexes = s.history.mutexes)
    (hspeaks : s.speaks P a = []) : s.Matched P x a t := by
  refine ⟨[], x, .nil x, hspeaks.symm, h.toHosting.resembles hr, ?_, ?_⟩
  · rw [hopened]
    exact h.asked
  · rw [hmutexes]
    exact h.region

/-- One step matches it. -/
theorem matched_of {b : Sessions.Act EnvId ConnId String String (ℕ × ℕ)} (hen : x.Enabled b)
    (hspeaks : b.shown = s.speaks P a) (hr : t.Realizes P (x.effect b)) : s.Matched P x a t :=
  ⟨[b], x.effect b, hen.run, by simpa using hspeaks, hr⟩

/-- The instances change, and the records do not. -/
theorem Realizes.rehosts {y : Sessions.State EnvId ConnId String String (ℕ × ℕ)} (h : s.Realizes P x)
    (hhist : t.history = s.history) (hasked : y.asked = x.asked) (hregion : y.region = x.region)
    (hy : t.Hosting y) : t.Realizes P y := by
  refine { hy with asked := ?_, region := ?_ }
  · rw [hasked, hhist]
    exact h.asked
  · rw [hregion, hhist]
    exact h.region

/-- Only a message to the welcome thread is a request for an environment. -/
theorem opened_other (hs : s.step P a = some t)
    (ha : ∀ m serializes, a ≠ .welcome (.recv (.ok m) serializes)) :
    t.history.opened = s.history.opened := by
  obtain ⟨-, hp⟩ := step_party hs
  cases hp with
  | main hm => cases hm <;> rfl
  | welcome _ he =>
    cases he with
    | recv => exact absurd rfl (ha _ _)
    | _ => rfl
  | env _ _ he => cases he <;> rfl
  | client => rfl
  | @signal sig _ _ _ _ hm =>
    obtain ⟨shutdown, reload, terminated, reloaded, hshape⟩ := s.handler_shape sig
    cases hm <;> rw [hshape]

theorem mutexes_other (hs : s.step P a = some t)
    (ha : ∀ i fd response, a ≠ .env i (.send fd response (.ok ()))) :
    t.history.mutexes = s.history.mutexes := by
  rcases mutexes_step hs with hl | ⟨i, fd, response, heq, -⟩
  · exact hl
  · exact absurd heq (ha i fd response)

theorem resembles_other (hacc : s.Accounted) (hs : s.step P a = some t) (ha : ∀ i b, a ≠ .env i b)
    (hnew : ∀ i, a ≠ .welcome (.envNew (.ok i))) : s.Resembles t := by
  refine resembles_step hacc hs fun i e' hi' => ?_
  cases env_change hs hi' with
  | same hi hsame => exact ⟨_, hi, hsame.alike⟩
  | thread => exact absurd rfl (ha _ _)
  | made => exact absurd rfl (hnew _)

theorem resembles_thread {b : EnvAct} (hacc : s.Accounted) (hs : s.step P (.env i b) = some t)
    (halike : ∀ e e', s.envs i = some e → e.step P b = some e' → e.Alike e') : s.Resembles t := by
  refine resembles_step hacc hs fun j e' hi' => ?_
  cases env_change hs hi' with
  | same hi hsame => exact ⟨_, hi, hsame.alike⟩
  | thread hi hst => exact ⟨_, hi, halike _ _ hi hst⟩

/-- The welcome thread receives a request. -/
theorem Realizes.asks {m : Message} {serializes : Bool} (h : s.Realizes P x) (hserv : s.Servicing P)
    (hs : s.step P (.welcome (.recv (.ok m) serializes)) = some t) :
    s.Matched P x (.welcome (.recv (.ok m) serializes)) t := by
  have hacc := hserv.agreeing.settled.toAccounted
  have hr := resembles_other hacc hs (by simp) (by simp)
  have hmutexes := mutexes_other hs (by simp)
  obtain ⟨fd, hpc, hopened⟩ : ∃ fd, s.welcome.pc = .recv fd ∧
      t.history.opened = s.history.opened ++ s.opening P fd m := by
    obtain ⟨-, hp⟩ := step_party hs
    cases hp with
    | welcome _ he =>
      cases he with
      | plain hp => cases hp
      | recv hpc => exact ⟨_, hpc, rfl⟩
  have hspeaks : s.speaks P (.welcome (.recv (.ok m) serializes)) =
      (s.opening P fd m).map fun p => .asked p.1 p.2 := by simp [speaks, hpc]
  unfold opening at hopened hspeaks
  split at hopened
  · rename_i c name hc hname
    simp only [hc, hname, List.map_cons, List.map_nil] at hspeaks
    have hnone : ∀ n, (c, n) ∉ s.history.opened :=
      fun n => hserv.requested.fresh c n (hacc.receiving hs hpc hc).1
    have hen : x.Enabled (.ask c name) := by
      refine Option.eq_none_iff_forall_not_mem.mpr fun n hn => hnone n ?_
      exact (h.asked c n).mp hn
    refine matched_of hen hspeaks.symm { h.toHosting.resembles hr with asked := ?_, region := ?_ }
    · intro d n
      rw [hopened, List.mem_append, List.mem_singleton, Prod.mk.injEq, ← h.asked d n]
      by_cases hd : d = c
      · subst hd
        rw [Sessions.State.asked_ask, show x.asked d = none from hen]
        simp [eq_comm]
      · rw [Sessions.State.asked_ask_of_ne _ _ hd]
        simp [hd]
    · rw [hmutexes]
      exact h.region
  · rename_i hno
    refine h.stutters hr (by rw [hopened, List.append_nil]) hmutexes ?_
    rw [hspeaks]
    split
    · rename_i hc hname
      exact absurd hname (hno _ _ hc)
    · rfl

/-- The welcome thread answers a request. -/
theorem Realizes.answers (h : s.Realizes P x) (hserv : s.Servicing P)
    (hs : s.step P (.welcome (.send (.ok ()))) = some t) :
    s.Matched P x (.welcome (.send (.ok ()))) t := by
  have hr := resembles_other hserv.agreeing.settled.toAccounted hs (by simp) (by simp)
  have hmutexes := mutexes_other hs (by simp)
  have hopened := opened_other hs (by simp)
  obtain ⟨fd, response, errors, abandon, fds, hpc⟩ : ∃ fd response errors abandon fds,
      s.welcome.pc = .send fd response errors abandon fds := by
    obtain ⟨-, hp⟩ := step_party hs
    cases hp with
    | welcome _ he =>
      cases he with
      | plain hp => cases hp
      | send hpc => exact ⟨_, _, _, _, _, hpc⟩
  cases response with
  | malformedRequest | internalError => exact h.stutters hr hopened hmutexes (by simp [speaks, hpc])
  | openEnvironmentOk =>
    cases hc : s.connAt fd with
    | none => exact h.stutters hr hopened hmutexes (by simp [speaks, hpc, hc])
    | some c =>
      obtain ⟨i, hatt⟩ := hserv.attachments.granted fd errors abandon fds c hpc hc
      obtain ⟨-, e, y, hi, hy⟩ := hserv.attachments.attached c i hatt
      have hen : x.Enabled (.grant c) := by
        have hsession := (h.session c i).mpr ⟨e, hi, y, hy⟩
        simp [Sessions.State.Enabled, hsession]
      refine matched_of hen (by simp [speaks, hpc, hc, Sessions.Act.shown])
        { h.toHosting.resembles hr with asked := ?_, region := ?_ }
      · rw [hopened]
        exact h.asked
      · rw [hmutexes]
        exact h.region

/-- A thread that has its locals has not ended. -/
theorem alive_of_emptied {e : Env} (h : e.pc.emptied = false) : e.phase.alive = true := by
  cases hpc : e.pc with
  | ended =>
    rw [hpc] at h
    cases h
  | _ => simp only [Env.phase, hpc, Registry.Phase.alive]

/-- The welcome thread makes an instance. -/
theorem Realizes.begins (h : s.Realizes P x) (hserv : s.Servicing P)
    (hs : s.step P (.welcome (.envNew (.ok i))) = some t) :
    s.Matched P x (.welcome (.envNew (.ok i))) t := by
  have hunique := (hserv.step hs).agreeing.unique
  obtain ⟨name, hnone, henvs, hfds, hhist⟩ : ∃ name, s.envs i = none ∧
      t.envs = Function.update s.envs i (some (.new name i)) ∧ t.fds = s.fds ∧
      t.history = s.history := by
    obtain ⟨-, hp⟩ := step_party hs
    cases hp with
    | welcome _ he =>
      cases he with
      | plain hb => cases hb
      | envNew _ hnone => exact ⟨_, hnone, rfl, rfl, rfl⟩
  have hnew : t.envs i = some (.new name i) := by rw [henvs, Function.update_self]
  have hother {j : EnvId} (hj : j ≠ i) : t.envs j = s.envs j := by
    rw [henvs, Function.update_of_ne hj]
  have hen : x.Enabled (.begin i name) := by
    refine ⟨Option.eq_none_iff_forall_not_mem.mpr fun n hn => ?_, fun j hj hn => ?_⟩
    · obtain ⟨e, hi, -⟩ := (h.name i n).mp hn
      cases hi.symm.trans hnone
    · obtain ⟨f, hj, hlive⟩ := (h.live j).mp hj
      obtain ⟨f', hj', hname⟩ := (h.name j name).mp hn
      cases hj.symm.trans hj'
      have hne : j ≠ i := by
        rintro rfl
        cases hj.symm.trans hnone
      exact hne (hunique j i f _ ((hother hne).trans hj) hnew (alive_of_emptied hlive) rfl hname)
  refine matched_of hen rfl (h.rehosts hhist rfl rfl
    ⟨fun j n => ?_, fun j => ?_, fun c j => ?_, fun c => ?_⟩)
  · by_cases hj : j = i
    · subst hj
      rw [Sessions.State.name_begin, hnew]
      simp [Env.new]
    · rw [Sessions.State.name_begin_of_ne _ _ hj, hother hj, h.name]
  · show j ∈ insert i x.live ↔ _
    by_cases hj : j = i
    · subst hj
      simp [hnew, Env.new, EnvPc.emptied]
    · rw [Set.mem_insert_iff, or_iff_right hj, hother hj, h.live]
  · show x.session c = some j ↔ _
    rw [h.session]
    by_cases hj : j = i
    · subst hj
      simp [hnew, hnone, Env.new]
    · rw [hother hj]
  · rw [hfds]
    exact h.present c

/-- What a step of a thread is for the rest. -/
theorem thread_effect {b : EnvAct} (hs : s.step P (.env i b) = some t) : ∃ e e' u,
    s.envs i = some e ∧ e.step P b = some e' ∧ EnvEffect P s i e e' b u ∧
      t.envs = Function.update s.envs i (some e') ∧ t.fds = u.fds ∧ t.history = u.history := by
  obtain ⟨-, hp⟩ := step_party hs
  cases hp with
  | env hi hst he => exact ⟨_, _, _, hi, hst, he, rfl, rfl, rfl⟩

/-- A thread puts the socket of a client in its set. -/
theorem Realizes.joins {y : RawFd} (h : s.Realizes P x) (hserv : s.Servicing P)
    (hs : s.step P (.env i (.addEpoll y (.ok c))) = some t) :
    s.Matched P x (.env i (.addEpoll y (.ok c))) t := by
  have hacc := hserv.agreeing.settled.toAccounted
  obtain ⟨e, e', u, hi, hst, he, henvs, hfds, hhist⟩ := thread_effect hs
  cases Env.step_moves hst with
  | addEpoll _ hpc =>
    cases he with
    | plain hb => cases hb
    | addEpoll hc =>
      have hfile := hacc.held.adding hi hpc hc
      have hnone : x.session c = none := by
        refine Option.eq_none_iff_forall_not_mem.mpr fun j hj => ?_
        obtain ⟨e₀, hj, z, hz⟩ := (h.session c j).mp hj
        exact (hserv.enrolled.passed j e₀ z c hj hz).2 y i hfile
      have hen : x.Enabled (.join c i) := by
        obtain ⟨e₁, hi₁, hasked⟩ :=
          hserv.requested.homed c i (hacc.connected.homed y c _ hfile (by simp))
        cases hi.symm.trans hi₁
        exact ⟨(h.live i).mpr ⟨e, hi, by rw [hpc]; rfl⟩, hnone, e.name,
          (h.name i _).mpr ⟨e, hi, rfl⟩, (h.asked c _).mpr hasked⟩
      refine matched_of hen rfl (h.rehosts hhist rfl rfl
        ⟨fun j n => ?_, fun j => ?_, fun d j => ?_, fun d => ?_⟩)
      · exact (h.name j n).trans (said_iff hi henvs (by rfl) j).symm
      · exact (h.live j).trans (said_iff hi henvs (by rw [hpc]; rfl) j).symm
      · by_cases hd : d = c
        · subst hd
          rw [Sessions.State.session_join]
          by_cases hj : j = i
          · subst hj
            simp [henvs]
          · rw [henvs, Function.update_of_ne hj, ← h.session, hnone]
            simp [Ne.symm hj]
        · rw [Sessions.State.session_join_of_ne _ _ hd]
          exact (h.session d j).trans (said_iff hi henvs (by simp [hd]) j).symm
      · show d ∈ insert c x.present ↔ _
        rw [hfds, Fds.pass_eq hfile]
        by_cases hd : d = c
        · subst hd
          simp only [Set.mem_insert_iff, true_or, true_iff]
          exact ⟨i, y, Function.update_self ..⟩
        · rw [Set.mem_insert_iff, or_iff_right hd, h.present]
          refine exists₂_congr fun j z => ?_
          by_cases hz : z = y
          · subst hz
            simp [Fds.Own, hfile, Function.update_self, Ne.symm hd]
          · simp [Fds.Own, Function.update_of_ne hz]

/-- A client whose socket is taken out of the set. -/
theorem Realizes.hangsUp {data : RawFd} {source : ConnId} (h : s.Realizes P x) (hserv : s.Servicing P)
    (hs : s.step P (.env i (.dispatch (some (.conn data source true)))) = some t) :
    s.Matched P x (.env i (.dispatch (some (.conn data source true)))) t := by
  have hacc := hserv.agreeing.settled.toAccounted
  obtain ⟨e, e', u, hi, hst, he, henvs, hfds, hhist⟩ := thread_effect hs
  obtain ⟨hname, hadded, hemptied, hsockets⟩ := (Env.step_moves hst).hangsUp
  cases he with
  | plain hb => cases hb
  | hangup =>
    by_cases hmem : data ∈ e.sockets
    · rw [if_pos hmem] at hfds
      obtain ⟨d, hd⟩ := hacc.conn_of_socket hi hmem
      have hen : x.Enabled (.leave d) := (h.present d).mpr ⟨i, data, hd⟩
      refine matched_of hen rfl (h.rehosts hhist rfl rfl
        ⟨fun j n => ?_, fun j => ?_, fun c j => ?_, fun c => ?_⟩)
      · exact (h.name j n).trans (said_iff hi henvs (by rw [hname]) j).symm
      · exact (h.live j).trans (said_iff hi henvs (by rw [hemptied]) j).symm
      · exact (h.session c j).trans (said_iff hi henvs (by rw [hadded]) j).symm
      · show c ∈ x.present \ {d} ↔ _
        rw [hfds, Set.mem_sdiff, Set.mem_singleton_iff, h.present]
        constructor
        · rintro ⟨⟨j, y, hy⟩, hne⟩
          have hyd : y ≠ data := by
            rintro rfl
            cases hy.symm.trans hd
            exact hne rfl
          exact ⟨j, y, by simpa [Fds.Own, Fds.closeNumbers, hyd] using hy⟩
        · rintro ⟨j, y, hy⟩
          have hold : s.fds.Own j y c := Fds.shrinks_closeNumbers y _ hy
          refine ⟨⟨j, y, hold⟩, ?_⟩
          rintro rfl
          obtain rfl := hacc.connected.once y data c _ _ hold hd (by simp [Holder.env]) (by simp [Holder.env])
          simp [Fds.Own, Fds.closeNumbers] at hy
    · -- an event of a socket that an earlier one of the batch has removed
      have hr : s.Resembles t := resembles_thread hacc hs fun e₀ e₁ hi₀ hst₀ => by
        cases hi.symm.trans hi₀
        cases hst.symm.trans hst₀
        exact ⟨hname, hemptied, hadded, hsockets.trans (Finset.erase_eq_of_notMem hmem)⟩
      exact h.stutters hr (by rw [hhist]) (by rw [hhist]) rfl

/-- A client that is there is in the session it joined. -/
theorem Hosting.session_of_own {y : RawFd} (h : s.Hosting x) (hserv : s.Servicing P)
    (hy : s.fds.Own i y c) : x.session c = some i := by
  obtain ⟨e, hi⟩ := hserv.agreeing.settled.held.known hy
  exact (h.session c i).mpr ⟨e, hi, y, hserv.enrolled.member i e y c hi hy⟩

/-- A thread drops its locals. -/
theorem Realizes.finishes {panics : Bool} (h : s.Realizes P x) (hserv : s.Servicing P)
    (hs : s.step P (.env i (.leave panics)) = some t) : s.Matched P x (.env i (.leave panics)) t := by
  have hacc := hserv.agreeing.settled.toAccounted
  obtain ⟨e, e', u, hi, hst, he, henvs, hfds, hhist⟩ := thread_effect hs
  cases Env.step_moves hst with
  | leave _ hpc =>
    cases he with
    | plain hb => cases hb
    | leave =>
      have hen : x.Enabled (.finish i) := (h.live i).mpr ⟨e, hi, by rw [hpc]; rfl⟩
      refine matched_of hen rfl (h.rehosts hhist rfl rfl
        ⟨fun j n => ?_, fun j => ?_, fun c j => ?_, fun c => ?_⟩)
      · exact (h.name j n).trans (said_iff hi henvs (by rfl) j).symm
      · show j ∈ x.live \ {i} ↔ _
        rw [Set.mem_sdiff, Set.mem_singleton_iff, h.live, henvs]
        by_cases hj : j = i
        · subst hj
          simp [EnvPc.emptied]
        · simp [hj]
      · exact (h.session c j).trans (said_iff hi henvs (by rfl) j).symm
      · show c ∈ x.present ∧ x.session c ≠ some i ↔ _
        rw [hfds, h.present]
        constructor
        · rintro ⟨⟨j, y, hy⟩, hne⟩
          have hmem : y ∉ e.sockets := by
            intro hmem
            obtain ⟨d, hd⟩ := hacc.conn_of_socket hi hmem
            cases hy.symm.trans hd
            exact hne (h.session_of_own hserv hy)
          have hfd : s.fds y = some ⟨.conn c, .socket j⟩ := hy
          exact ⟨j, y, by simp [Fds.Own, Fds.closeNumbers, Fds.closeAll, hmem, hfd]⟩
        · rintro ⟨j, y, hy⟩
          have hold : s.fds.Own j y c := (Fds.shrinks_closeAll.trans Fds.shrinks_closeNumbers) y _ hy
          refine ⟨⟨j, y, hold⟩, fun hsession => ?_⟩
          obtain rfl : j = i :=
            Option.some.inj ((h.session_of_own hserv hold).symm.trans hsession)
          have hmem : y ∈ e.sockets := (hacc.held.of_sockets hi).mpr (.of_eq hold)
          simp [Fds.Own, Fds.closeNumbers, hmem] at hy

/-- One message tells of one mutex at most. -/
theorem delivering_cases (s : Daemon) (i : EnvId) (fd : RawFd) (response : EnvironmentResponse) :
    s.delivering i fd response = [] ∨ ∃ r, s.delivering i fd response = [r] := by
  unfold delivering
  split
  · split
    · exact .inr ⟨_, rfl⟩
    · exact .inl rfl
  · exact .inl rfl

/-- The mutex of a message is where the session has it, or apart from all others. -/
theorem Realizes.offers {r : MutexOk} (h : s.Realizes P x) (ht : t.Servicing P)
    (hmutexes : t.history.mutexes = s.history.mutexes ++ [r]) :
    x.Offers r.instance' r.name (r.region P) := by
  have hr : r ∈ t.history.mutexes := by simp [hmutexes]
  have old {q : MutexOk} (hq : q ∈ s.history.mutexes) : q ∈ t.history.mutexes := by simp [hmutexes, hq]
  by_cases hex : ∃ q ∈ s.history.mutexes, q.instance' = r.instance' ∧ q.name = r.name
  · obtain ⟨q, hq, hinst, hname⟩ := hex
    have hsame := ht.agreeing.agrees.same q (old hq) r hr hinst hname
    exact .inl ((h.region _ _ _).mpr ⟨q, hq, hinst, hname, hsame.region⟩)
  · refine .inr ⟨Option.eq_none_iff_forall_not_mem.mpr fun p hp => ?_, fun j k p hp => ?_⟩
    · obtain ⟨q, hq, hinst, hname, -⟩ := (h.region _ _ _).mp hp
      exact hex ⟨q, hq, hinst, hname⟩
    · obtain ⟨q, hq, rfl, rfl, rfl⟩ := (h.region _ _ _).mp hp
      have hapart := ht.isolated.apart r hr q (old hq)
      refine MutexOk.region_disjoint (or_iff_not_imp_left.mpr fun hmem => ?_)
      obtain ⟨hinst, hpage⟩ := hapart.memfd.mp (not_not.mp hmem)
      exact hapart.bytes hinst hpage fun hname => hex ⟨q, hq, hinst.symm, hname.symm⟩

/-- A thread answers a request for a mutex. -/
theorem Realizes.tells {fd : RawFd} {response : EnvironmentResponse} (h : s.Realizes P x)
    (hserv : s.Servicing P) (hs : s.step P (.env i (.send fd response (.ok ()))) = some t) :
    s.Matched P x (.env i (.send fd response (.ok ()))) t := by
  have hset := hserv.agreeing.settled
  have hr : s.Resembles t := resembles_thread hset.toAccounted hs fun e e' _ hst =>
    (Env.step_moves hst).alike (by simp) (by simp) (by simp)
  have hopened := opened_other hs (by simp)
  obtain ⟨e, e', u, hi, hst, he, -, -, hhist⟩ := thread_effect hs
  have hmutexes : t.history.mutexes = s.history.mutexes ++ s.delivering i fd response := by
    cases he with
    | plain hb => cases hb
    | send => rw [hhist]
  rcases s.delivering_cases i fd response with hd | ⟨r, hd⟩
  · exact h.stutters hr hopened (by rw [hmutexes, hd, List.append_nil]) (by simp [speaks, hd])
  · have hmem : r ∈ s.delivering i fd response := by simp [hd]
    rw [hd] at hmutexes
    obtain ⟨rfl, hc, -⟩ := of_delivering hmem
    obtain ⟨c, -, hown⟩ := (hset.registered _ e hi).serving fd (uses_serving hst rfl)
    cases hc.symm.trans (connAt_eq hown)
    have hlive : e.pc.emptied = false := by
      cases Env.step_moves hst with
      | send _ hpc =>
        rw [hpc]
        rfl
    have hoffers := h.offers (hserv.step hs) hmutexes
    have hen : x.Enabled (.tell r.conn r.instance' r.name (r.region P)) :=
      ⟨(h.live _).mpr ⟨e, hi, hlive⟩, h.session_of_own hserv hown, (h.present _).mpr ⟨_, fd, hown⟩,
        hoffers⟩
    refine matched_of hen (by simp [speaks, hd, Sessions.Act.shown])
      { h.toHosting.resembles hr with asked := ?_, region := fun j k p => ?_ }
    · rw [hopened]
      exact h.asked
    · rw [hmutexes]
      by_cases hjk : j = r.instance' ∧ k = r.name
      · obtain ⟨rfl, rfl⟩ := hjk
        rw [Sessions.State.region_tell]
        constructor
        · rintro ⟨⟩
          exact ⟨r, by simp, rfl, rfl, rfl⟩
        · rintro ⟨q, hq, hinst, hname, rfl⟩
          have hagrees := (hserv.step hs).agreeing.agrees
          rw [(hagrees.same r (by simp [hmutexes]) q (hmutexes ▸ hq) hinst.symm hname.symm).region]
      · rw [Sessions.State.region_tell_of_ne _ _ _ (not_and_or.mp hjk), h.region]
        constructor
        · rintro ⟨q, hq, hrest⟩
          exact ⟨q, List.mem_append_left _ hq, hrest⟩
        · rintro ⟨q, hq, hinst, hname, hp⟩
          rcases List.mem_append.mp hq with hq | hq
          · exact ⟨q, hq, hinst, hname, hp⟩
          · obtain rfl := List.mem_singleton.mp hq
            exact absurd ⟨hinst.symm, hname.symm⟩ hjk

/-- What is not a request for an environment, its answer or an `OpenMutexOk`. -/
theorem speaks_other (hask : ∀ m serializes, a ≠ .welcome (.recv (.ok m) serializes))
    (hgrant : a ≠ .welcome (.send (.ok ())))
    (htell : ∀ i fd response, a ≠ .env i (.send fd response (.ok ()))) : s.speaks P a = [] := by
  unfold speaks
  split
  · exact absurd rfl (hask _ _)
  · exact absurd rfl hgrant
  · exact absurd rfl (htell _ _ _)
  · rfl

theorem Realizes.step (h : s.Realizes P x) (hserv : s.Servicing P) (hs : s.step P a = some t) :
    s.Matched P x a t := by
  have hacc := hserv.agreeing.settled.toAccounted
  cases a with
  | welcome b =>
    by_cases hnew : ∃ i, b = .envNew (.ok i)
    · obtain ⟨i, rfl⟩ := hnew
      exact h.begins hserv hs
    by_cases hask : ∃ m serializes, b = .recv (.ok m) serializes
    · obtain ⟨m, serializes, rfl⟩ := hask
      exact h.asks hserv hs
    by_cases hgrant : b = .send (.ok ())
    · subst hgrant
      exact h.answers hserv hs
    have hask' : ∀ m serializes, Act.welcome b ≠ .welcome (.recv (.ok m) serializes) := by
      rintro m serializes ⟨⟩
      exact hask ⟨m, serializes, rfl⟩
    refine h.stutters (resembles_other hacc hs (by simp) ?_) (opened_other hs hask')
      (mutexes_other hs (by simp)) (speaks_other hask' (by simpa using hgrant) (by simp))
    rintro i ⟨⟩
    exact hnew ⟨i, rfl⟩
  | env i b =>
    by_cases hadd : ∃ y c, b = .addEpoll y (.ok c)
    · obtain ⟨y, c, rfl⟩ := hadd
      exact h.joins hserv hs
    by_cases hgone : ∃ data source, b = .dispatch (some (.conn data source true))
    · obtain ⟨data, source, rfl⟩ := hgone
      exact h.hangsUp hserv hs
    by_cases hleave : ∃ panics, b = .leave panics
    · obtain ⟨panics, rfl⟩ := hleave
      exact h.finishes hserv hs
    by_cases htell : ∃ fd response, b = .send fd response (.ok ())
    · obtain ⟨fd, response, rfl⟩ := htell
      exact h.tells hserv hs
    have htell' : ∀ j fd response, Act.env i b ≠ .env j (.send fd response (.ok ())) := by
      rintro j fd response ⟨⟩
      exact htell ⟨fd, response, rfl⟩
    have halike : ∀ e e', s.envs i = some e → e.step P b = some e' → e.Alike e' := by
      intro e e' _ hst
      refine (Env.step_moves hst).alike (fun y c hb => hadd ⟨y, c, hb⟩) ?_ fun panics hb =>
        hleave ⟨panics, hb⟩
      exact fun data source hb => hgone ⟨data, source, hb⟩
    exact h.stutters (resembles_thread hacc hs halike) (opened_other hs (by simp))
      (mutexes_other hs htell') (speaks_other (by simp) (by simp) htell')
  | _ =>
    exact h.stutters (resembles_other hacc hs (by simp) (by simp)) (opened_other hs (by simp))
      (mutexes_other hs (by simp)) rfl

/-! ## Whole runs -/

theorem simulates (P : Externals) : Simulation (Daemon.step P) Sessions.State.step (speaks P)
    Sessions.Act.shown (Servicing P) (Realizes P) where
  keep _ _ _ h hs := h.step hs
  matched _ _ _ _ h hr hs := hr.step h hs

/-- Both clients are attached and were told of the mutex. -/
theorem shares_run : ∃ s, Run (Daemon.step .oneLetter) anyStep boot
      (startUp ++ handsOver ++ adds ++ answers ++ joinsSecond ++ bothAsk) s ∧
    s.history.opened = [(0, "a"), (1, "a")] ∧
    s.history.mutexes = [⟨0, 0, "b", 0, 0, 0⟩, ⟨1, 0, "b", 0, 0, 0⟩] ∧
    s.fds.Own 0 1 0 ∧ s.fds.Own 0 2 1 := by
  have hexec : (exec (Daemon.step .oneLetter) (fun _ _ => true) boot
      (startUp ++ handsOver ++ adds ++ answers ++ joinsSecond ++ bothAsk)).any (fun s =>
        s.history.opened = [(0, "a"), (1, "a")] ∧
          s.history.mutexes = [⟨0, 0, "b", 0, 0, 0⟩, ⟨1, 0, "b", 0, 0, 0⟩] ∧
          s.fds 1 = some ⟨.conn 0, .socket 0⟩ ∧ s.fds 2 = some ⟨.conn 1, .socket 0⟩) := by decide
  obtain ⟨s, hrun, hs⟩ := Run.of_exec_any (fun _ _ h => h) hexec
  obtain ⟨hopened, hl, hfd, hfd'⟩ := of_decide_eq_true hs
  exact ⟨s, hrun.mono fun _ _ _ => trivial, hopened, hl, hfd, hfd'⟩

/-- What is recorded of a mutex was told. -/
theorem told_of_recorded {as : List Act} (hr : Run (Daemon.step P) anyStep boot as s) :
    ∀ r ∈ s.history.mutexes,
      .told r.conn r.name (r.region P) ∈ collect (Daemon.step P) (speaks P) boot as := by
  refine hr.invariant_collect (f := speaks P) (l := [])
    (I := fun s l => ∀ r ∈ s.history.mutexes, .told r.conn r.name (r.region P) ∈ l) ?_ ?_
  · intro s a t l _ h hs r hr
    rcases mutexes_step hs with hl | ⟨i, fd, response, rfl, hl⟩
    · exact List.mem_append_left _ (h r (hl ▸ hr))
    · rw [hl] at hr
      rcases List.mem_append.mp hr with hr | hr
      · exact List.mem_append_left _ (h r hr)
      · exact List.mem_append_right _ (List.mem_map.mpr ⟨r, hr, rfl⟩)
  · rintro r ⟨⟩

/-- In every run, clients that were told of mutexes with a byte in common asked for
environments of one name and for one mutex by name, and were told the same. -/
theorem bytes_shared {as : List Act} (hr : Run (Daemon.step P) anyStep boot as s) :
    ∀ r ∈ s.history.mutexes, ∀ q ∈ s.history.mutexes, ¬Disjoint (r.region P) (q.region P) →
      r.name = q.name ∧ r.region P = q.region P ∧
        ∃ n, (r.conn, n) ∈ s.history.opened ∧ (q.conn, n) ∈ s.history.opened := by
  intro r hr₁ q hq hov
  obtain ⟨bs, x, hrun, hshow, hreal⟩ := (simulates P).run hr (servicing_boot P) (realizes_boot P)
  have htold {p : MutexOk} (hp : p ∈ s.history.mutexes) :
      .told p.conn p.name (p.region P) ∈ bs.flatMap Sessions.Act.shown := by
    rw [hshow]
    exact told_of_recorded hr p hp
  obtain ⟨hname, hregion, n, hc, hd⟩ := Sessions.overlap hrun (htold hr₁) (htold hq) hov
  exact ⟨hname, hregion, n, (hreal.asked _ n).mp hc, (hreal.asked _ n).mp hd⟩

/-- Two clients and one mutex. -/
theorem bytes_shared_two : ∃ as s r q, Run (Daemon.step .oneLetter) anyStep boot as s ∧
    s.history.mutexes = [r, q] ∧ r.conn ≠ q.conn ∧ r.region .oneLetter = q.region .oneLetter ∧
      ∃ n, (r.conn, n) ∈ s.history.opened ∧ (q.conn, n) ∈ s.history.opened := by
  obtain ⟨s, hr, -, hl, -, -⟩ := shares_run
  have hfirst (c : ConnId) : ((0, 0) : ℕ × ℕ) ∈ MutexOk.region .oneLetter ⟨c, 0, "b", 0, 0, 0⟩ :=
    ⟨rfl, by simp [MutexOk.bytes, Externals.oneLetter, ShmType.pthreadMutex]⟩
  have h := bytes_shared hr ⟨0, 0, "b", 0, 0, 0⟩ (by simp [hl]) ⟨1, 0, "b", 0, 0, 0⟩ (by simp [hl])
    (Set.not_disjoint_iff.mpr ⟨(0, 0), hfirst 0, hfirst 1⟩)
  exact ⟨_, s, _, _, hr, hl, by simp, h.2.1, h.2.2⟩

/-- In every run, clients that asked for environments of one name and are both attached
were told of the same bytes under the same name. -/
theorem bytes_agree {as : List Act} (hr : Run (Daemon.step P) anyStep boot as s) :
    ∀ r ∈ s.history.mutexes, ∀ q ∈ s.history.mutexes, ∀ n, (r.conn, n) ∈ s.history.opened →
      (q.conn, n) ∈ s.history.opened → (∃ i y, s.fds.Own i y r.conn) → (∃ i y, s.fds.Own i y q.conn) →
      r.name = q.name → r.region P = q.region P := by
  intro r hr₁ q hq n hrn hqn hrp hqp hname
  obtain ⟨bs, x, hrun, hshow, hreal⟩ := (simulates P).run hr (servicing_boot P) (realizes_boot P)
  have htold : .told r.conn r.name (r.region P) ∈ bs.flatMap Sessions.Act.shown := by
    rw [hshow]
    exact told_of_recorded hr r hr₁
  have htold' : .told q.conn r.name (q.region P) ∈ bs.flatMap Sessions.Act.shown := by
    rw [hshow, hname]
    exact told_of_recorded hr q hq
  exact Sessions.together hrun htold htold' ((hreal.present _).mpr hrp) ((hreal.present _).mpr hqp)
    ((hreal.asked _ n).mpr hrn) ((hreal.asked _ n).mpr hqn)

/-- The two clients of `shares`, while both are there. -/
theorem bytes_agree_two : ∃ as s r q, Run (Daemon.step .oneLetter) anyStep boot as s ∧
    s.history.mutexes = [r, q] ∧ r.conn ≠ q.conn ∧ s.fds.Own 0 1 r.conn ∧ s.fds.Own 0 2 q.conn ∧
      r.region .oneLetter = q.region .oneLetter := by
  obtain ⟨s, hr, hopened, hl, hown, hown'⟩ := shares_run
  have h := bytes_agree hr ⟨0, 0, "b", 0, 0, 0⟩ (by simp [hl]) ⟨1, 0, "b", 0, 0, 0⟩ (by simp [hl]) "a"
    (by simp [hopened]) (by simp [hopened]) ⟨0, 1, hown⟩ ⟨0, 2, hown'⟩ rfl
  exact ⟨_, s, _, _, hr, hl, by simp, hown, hown', h⟩

end Daemon
end Garnd
