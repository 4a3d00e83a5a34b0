import Garnd.Responses

/- Agreement on mutexes. The pages of an instance stay open as long as its thread is in
   its loop (`Daemon.PagesHeld`), so what an `OpenMutexOk` said of a mutex goes on being
   where its name is registered (`Daemon.Placed`), and a later one says the same. Two
   instances of one name are never there at once (`Daemon.Unique`). -/
namespace Garnd
open Transition

namespace Fds
variable {P : Externals} {f g : Fds} {x y : RawFd} {d : Descriptor} {h h' : Holder}

theorem pass_kept (hd : f y = some d) (hh : d.holder ≠ h) : f.pass x h h' y = some d := by
  by_cases hx : f.HeldBy h x
  · obtain ⟨file, hx⟩ := heldBy_iff.mp hx
    have hne : y ≠ x := by
      rintro rfl
      rw [hx] at hd
      cases hd
      exact hh rfl
    rw [pass_eq hx, Function.update_of_ne hne, hd]
  · rw [pass_of_not hx, hd]

theorem closeHeld_kept (hd : f y = some d) (hh : d.holder ≠ h) : f.closeHeld x h y = some d := by
  unfold closeHeld
  split
  · rename_i hx
    have hne : y ≠ x := by
      rintro rfl
      rw [hd] at hx
      exact hh (Option.some.inj hx)
    rw [Function.update_of_ne hne, hd]
  · exact hd

theorem closeAll_kept (hd : f y = some d) (hh : d.holder ≠ h) : f.closeAll h y = some d := by
  rw [closeAll, hd, Option.map_some, if_neg fun heq => hh (Option.some.inj heq)]

theorem open_kept {d' : Descriptor} (hx : f x = none) (hd : f y = some d) :
    Function.update f x (some d') y = some d := by
  have hne : y ≠ x := by
    rintro rfl
    rw [hx] at hd
    cases hd
  rw [Function.update_of_ne hne, hd]

/-- Each page gets its descriptor. -/
theorem addPages_opened {i : EnvId} {pages : List Page} {k k' : ℕ}
    (ha : f.addPages P i pages k = some (g, k')) :
    ∀ page ∈ pages, ∃ n, g page.fd = some ⟨.memfd n, .page i⟩ := by
  induction pages generalizing f k with
  | nil => nofun
  | cons page rest ih =>
    simp only [addPages] at ha
    split at ha
    · rename_i f' hf
      obtain ⟨-, hfree, rfl⟩ := openAt_eq_some.mp hf
      intro p hp
      rcases List.mem_cons.mp hp with rfl | hp
      · exact ⟨k, (addPages_some ha).1 _ _ (Function.update_self ..)⟩
      · exact ih ha p hp
    · cases ha

end Fds

/-- A thread that has entered its loop is past its start for good. -/
theorem Env.Moves.started {P : Externals} {e e' : Env} {b : EnvAct} (hm : Env.Moves P e b e')
    (hs : e.pc.starting = false) : e'.pc.starting = false := by
  cases hm with
  | sendError => exact hs
  | allocNew _ hpc | epollNew _ hpc | epollAdd _ hpc =>
    rw [hpc] at hs
    cases hs
  | dropSync | dropListener =>
    dsimp only
    split <;> rfl
  | _ => rfl

/-- What the thread has of its pages and mutexes is kept, until it leaves. -/
theorem Env.Moves.extends {P : Externals} {e e' : Env} {b : EnvAct} (hm : Env.Moves P e b e')
    (h : e.Mutexes) (hs : e.pc.starting = false) {shm' : ShmAllocator} (hshm : e'.shm = some shm') :
    ∃ shm, e.shm = some shm ∧ shm.Extends shm' := by
  cases hm with
  | allocNew _ hpc =>
    rw [hpc] at hs
    cases hs
  | openMutex _ _ hshm' | openMutexPanics _ _ hshm' =>
    cases hshm
    exact ⟨_, hshm', (findOrConstruct_sees P (h.alloc _ hshm') _ _).extends'⟩
  | leave => cases hshm
  | _ => exact ⟨shm', hshm, .refl shm'⟩

/-- Two messages say the same of a mutex. -/
structure MutexOk.Same (r q : MutexOk) : Prop where
  memfd : r.memfd = q.memfd
  page : r.page = q.page
  offset : r.offset = q.offset

namespace Daemon
variable {P : Externals} {s t u : Daemon} {i : EnvId} {e e' : Env} {c : ConnId}

/-! ## The pages -/

/-- A page stays open under its number until the thread of its instance leaves. -/
theorem page_kept {a : Act} {y : RawFd} {k : ℕ} (h : s.Held) (hs : s.step P a = some t)
    (hy : s.fds y = some ⟨.memfd k, .page i⟩) (ha : ∀ panics, a ≠ .env i (.leave panics)) :
    t.fds y = some ⟨.memfd k, .page i⟩ := by
  obtain ⟨-, hp⟩ := step_party hs
  cases hp with
  | main hm =>
    have hdrop (err : DetailedError) : s.dropError err y = some ⟨.memfd k, .page i⟩ := by
      cases hsock : err.socket with
      | none =>
        simp only [dropError, hsock]
        exact hy
      | some x =>
        simp only [dropError, hsock]
        exact Fds.closeHeld_kept hy (by simp)
    cases hm with
    | @recv _ err => exact hdrop err
    | recvShutdown => exact hdrop .shutdownSignal
    | recvReload => exact hdrop .reloadRequest
    | drain => exact hdrop _
    | fails | joinExits | success => exact Fds.closeAll_kept hy (by simp)
    | _ => exact hy
  | welcome _ he =>
    cases he with
    | accept _ hfree | dup _ _ hfree => exact Fds.open_kept hfree hy
    | insertSend => exact Fds.pass_kept hy (by simp)
    | close => exact Fds.closeHeld_kept hy (by simp)
    | @sendError err =>
      cases hsock : err.socket with
      | none =>
        simp only [Fds.handOver, hsock]
        exact hy
      | some x =>
        simp only [Fds.handOver, hsock]
        exact Fds.pass_kept hy (by simp)
    | recv _ hr =>
      rw [← (recvFrom_frame hr).1] at hy
      exact hy
    | send _ hr =>
      rw [← (sendTo_frame hr).1] at hy
      exact hy
    | _ => exact hy
  | @env j b e e' u hj hst he =>
    by_cases hji : j = i
    · subst hji
      cases he with
      | hangup =>
        dsimp only
        split
        · rename_i hx
          rw [Fds.closeNumbers, if_neg, hy]
          intro hmem
          obtain rfl := Finset.mem_singleton.mp hmem
          cases ((h.of_sockets hj).mp hx).unique (.of_eq hy)
        · exact hy
      | addEpoll => exact Fds.pass_kept hy (by simp)
      | addEpollFails => exact Fds.closeHeld_kept hy (by simp)
      | openMutex hadd => exact (Fds.addPages_some hadd).1 y _ hy
      | leave => exact absurd rfl (ha _)
      | dropListener =>
        simp only [Fds.closeAll, hy]
        exact if_neg (by simp)
      | recv hr =>
        rw [← (recvFrom_frame hr).1] at hy
        exact hy
      | send hr =>
        rw [← (sendTo_frame hr).1] at hy
        exact hy
      | _ => exact hy
    · refine (he.closes h hj hy).resolve_right ?_
      rintro (hq | hq | hq) <;> cases hq
      exact hji rfl
  | client => exact hy
  | signal _ hm => exact hm.fds_eq ▸ hy

/-- Every page of an instance is a `memfd` that the instance holds. -/
def PagesHeld (s : Daemon) : Prop :=
  ∀ i e, s.envs i = some e → ∀ page ∈ pagesOf e, ∃ k, s.fds page.fd = some ⟨.memfd k, .page i⟩

theorem pagesHeld_boot : boot.PagesHeld := by
  intro i e hi
  cases hi

/-- The pages that `handle_open_mutex` adds get their descriptors, and the others stay. -/
theorem PagesHeld.opened {fds : Fds} {memfds : ℕ} (h : s.PagesHeld) (hi : s.envs i = some e)
    (hadd : s.fds.addPages P i ((pagesOf e').drop (pagesOf e).length) s.memfds = some (fds, memfds))
    (hpages : pagesOf e <+: pagesOf e') :
    ∀ page ∈ pagesOf e', ∃ k, fds page.fd = some ⟨.memfd k, .page i⟩ := by
  obtain ⟨new, hnew⟩ := hpages
  intro page hp
  rw [← hnew] at hp hadd
  rw [List.drop_left] at hadd
  rcases List.mem_append.mp hp with hp | hp
  · obtain ⟨k, hk⟩ := h i e hi page hp
    exact ⟨k, (Fds.addPages_some hadd).1 _ _ hk⟩
  · exact Fds.addPages_opened hadd page hp

/-- The step of the thread itself. -/
theorem PagesHeld.own {b : EnvAct} (h : s.PagesHeld) (hacc : s.Accounted)
    (hs : s.step P (.env i b) = some t) (hu : t.fds = u.fds) (hi : s.envs i = some e)
    (hst : e.step P b = some e') (he : EnvEffect P s i e e' b u) :
    ∀ page ∈ pagesOf e', ∃ k, u.fds page.fd = some ⟨.memfd k, .page i⟩ := by
  have kept (hshm : e'.shm = e.shm) (hb : ∀ panics, b ≠ .leave panics) :
      ∀ page ∈ pagesOf e', ∃ k, u.fds page.fd = some ⟨.memfd k, .page i⟩ := by
    intro page hp
    rw [pagesOf, hshm] at hp
    obtain ⟨k, hk⟩ := h i e hi page hp
    refine ⟨k, ?_⟩
    rw [← hu]
    exact page_kept hacc.held hs hk fun panics hb' => hb panics (by cases hb'; rfl)
  cases Env.step_moves hst with
  | @allocNew _ shm _ _ hnew =>
    intro page hp
    have hnone : page ∈ shm.pages := hp
    rw [(ShmAllocator.new_empty hnew).1] at hnone
    cases hnone
  | openMutex _ _ hshm | openMutexPanics _ _ hshm =>
    cases he with
    | plain hp => cases hp
    | openMutex hadd =>
      refine h.opened hi hadd ?_
      have halloc := (hacc.instances.sound i e hi).mutexes.alloc _ hshm
      simp only [pagesOf, hshm, Option.map_some, Option.getD_some]
      exact (Env.findOrConstruct_sees P halloc _ _).extends'.pages
  | leave => nofun
  | _ => exact kept rfl nofun

theorem PagesHeld.step {a : Act} (h : s.PagesHeld) (hacc : s.Accounted) (hs : s.step P a = some t) :
    t.PagesHeld := by
  intro i e' hi page hp
  have kept {e : Env} (hi : s.envs i = some e) (hshm : e'.shm = e.shm)
      (ha : ∀ b, a ≠ .env i b) : ∃ k, t.fds page.fd = some ⟨.memfd k, .page i⟩ := by
    obtain ⟨k, hk⟩ := h i e hi page (by rw [pagesOf, ← hshm]; exact hp)
    exact ⟨k, page_kept hacc.held hs hk fun panics => ha _⟩
  by_cases ha : ∃ b, a = .env i b
  · obtain ⟨b, rfl⟩ := ha
    obtain ⟨-, hparty⟩ := step_party hs
    cases hparty with
    | @env _ _ e₁ e₂ u hj hst he =>
      cases (Function.update_self ..).symm.trans hi
      exact h.own (u := u) hacc hs rfl hj hst he page hp
  · cases env_change hs hi with
    | same hj hsame => exact kept hj hsame.shm fun b hb => ha ⟨b, hb⟩
    | thread => exact absurd ⟨_, rfl⟩ ha
    | made _ hnew =>
      subst hnew
      cases hp

/-! ## What was handed out -/

/-- What the message said of the mutex is where its name is registered, for as long as
the instance has its pages. -/
structure Placed (s : Daemon) (r : MutexOk) : Prop where
  home : homeOf s.conns r.conn = some r.instance'
  registered : ∃ e, s.envs r.instance' = some e ∧ e.pc.starting = false ∧
    ∀ shm, e.shm = some shm → ∃ fd, shm.At r.name ⟨r.page, r.offset, fd⟩ ∧
      s.fds fd = some ⟨.memfd r.memfd, .page r.instance'⟩

theorem Placed.step {a : Act} {r : MutexOk} (h : s.Placed r) (hacc : s.Accounted)
    (hs : s.step P a = some t) : t.Placed r := by
  obtain ⟨e, hi, hstarted, hplace⟩ := h.registered
  refine ⟨home_kept hacc hs h.home, ?_⟩
  obtain ⟨e', hi'⟩ := Option.ne_none_iff_exists'.mp (envs_known hs (i := r.instance') (by rw [hi]; nofun))
  have still {shm : ShmAllocator} (hshm : e.shm = some shm)
      (ha : ∀ panics, a ≠ .env r.instance' (.leave panics)) :
      ∃ fd, shm.At r.name ⟨r.page, r.offset, fd⟩ ∧
        t.fds fd = some ⟨.memfd r.memfd, .page r.instance'⟩ := by
    obtain ⟨fd, hat, hfd⟩ := hplace shm hshm
    exact ⟨fd, hat, page_kept hacc.held hs hfd ha⟩
  by_cases ha : ∃ b, a = .env r.instance' b
  · obtain ⟨b, rfl⟩ := ha
    obtain ⟨-, hparty⟩ := step_party hs
    cases hparty with
    | env hj hst =>
      cases hi.symm.trans hj
      cases (Function.update_self ..).symm.trans hi'
      have hm := Env.step_moves hst
      refine ⟨e', hi', hm.started hstarted, fun shm' hshm' => ?_⟩
      obtain ⟨shm, hshm, hext⟩ := hm.extends (hacc.instances.sound _ e hi).mutexes hstarted hshm'
      have hleave : ∀ panics, Act.env r.instance' b ≠ .env r.instance' (.leave panics) := by
        rintro panics ⟨⟩
        cases hm with
        | leave => cases hshm'
      obtain ⟨fd, hat, hfd⟩ := still hshm hleave
      exact ⟨fd, hat.extends hext, hfd⟩
  · obtain ⟨e₂, hi₂, hsame⟩ := env_still hs hi fun b hb => ha ⟨b, hb⟩
    cases hi'.symm.trans hi₂
    refine ⟨e', hi', hsame.pc ▸ hstarted, fun shm' hshm' => ?_⟩
    exact still (hsame.shm ▸ hshm') fun panics hb => ha ⟨_, hb⟩

/-- While the instance has its pages, two messages about a name say the same. -/
theorem Placed.same {r q : MutexOk} {shm : ShmAllocator} (hr : s.Placed r) (hq : s.Placed q)
    (hi : s.envs r.instance' = some e) (hshm : e.shm = some shm) (hn : r.name = q.name)
    (hinst : r.instance' = q.instance') : r.Same q := by
  obtain ⟨e₁, hi₁, -, hr⟩ := hr.registered
  obtain ⟨e₂, hi₂, -, hq⟩ := hq.registered
  cases hi.symm.trans hi₁
  rw [← hinst] at hi₂
  cases hi.symm.trans hi₂
  obtain ⟨fd, hat, hfd⟩ := hr shm hshm
  obtain ⟨fd', hat', hfd'⟩ := hq shm hshm
  rw [hn] at hat
  have hplace := hat.unique hat'
  simp only [ClientResourceLocation.mk.injEq] at hplace
  obtain ⟨hpage, hoffset, rfl⟩ := hplace
  have hmemfd := hfd.symm.trans hfd'
  simp only [Option.some.injEq, Descriptor.mk.injEq, File.memfd.injEq] at hmemfd
  exact ⟨hmemfd.1, hpage, hoffset⟩

/-- The mutexes that were handed out. -/
structure Agrees (s : Daemon) : Prop where
  placed : ∀ r ∈ s.history.mutexes, s.Placed r
  same : ∀ r ∈ s.history.mutexes, ∀ q ∈ s.history.mutexes, r.instance' = q.instance' →
    r.name = q.name → r.Same q

theorem agrees_boot : boot.Agrees := ⟨nofun, nofun⟩

/-- What the step of a thread adds to the mutexes that were handed out. -/
theorem mutexes_step {a : Act} (hs : s.step P a = some t) :
    t.history.mutexes = s.history.mutexes ∨ ∃ i fd response, a = .env i (.send fd response (.ok ())) ∧
      t.history.mutexes = s.history.mutexes ++ s.delivering i fd response := by
  obtain ⟨-, hp⟩ := step_party hs
  cases hp with
  | main hm => exact .inl (by cases hm <;> rfl)
  | welcome _ he =>
    cases he with
    | _ => exact .inl rfl
  | env _ _ he =>
    cases he with
    | send => exact .inr ⟨_, _, _, rfl, rfl⟩
    | _ => exact .inl rfl
  | client => exact .inl rfl
  | @signal sig _ _ _ _ hm =>
    obtain ⟨shutdown, reload, terminated, reloaded, hshape⟩ := s.handler_shape sig
    cases hm <;> rw [hshape] <;> exact .inl rfl

theorem of_delivering {fd : RawFd} {response : EnvironmentResponse} {r : MutexOk}
    (h : r ∈ s.delivering i fd response) : r.instance' = i ∧ s.connAt fd = some r.conn ∧
      ∃ x holder, response = .openMutexOk r.name ⟨r.page, r.offset, x⟩ ∧
        s.fds x = some ⟨.memfd r.memfd, holder⟩ := by
  unfold delivering at h
  split at h
  · rename_i name location c hc
    split at h
    · rename_i k holder hfd
      obtain rfl := List.mem_singleton.mp h
      exact ⟨rfl, hc, location.fd, holder, rfl, hfd⟩
    · cases h
  · cases h

/-- What is delivered is where the name is registered. -/
theorem Settled.delivers {fd : RawFd} {response : EnvironmentResponse} {r : MutexOk} (h : s.Settled)
    (hpages : s.PagesHeld) (hs : s.step P (.env i (.send fd response (.ok ()))) = some t)
    (hr : r ∈ s.delivering i fd response) :
    s.Placed r ∧ r.instance' = i ∧ ∃ e shm, s.envs i = some e ∧ e.shm = some shm := by
  obtain ⟨rfl, hc, x, holder, rfl, hx⟩ := of_delivering hr
  obtain ⟨-, hp⟩ := step_party hs
  cases hp with
  | @env _ _ e e' u hi hst he =>
    obtain ⟨c, -, hown⟩ := (h.registered _ e hi).serving fd (uses_serving hst rfl)
    cases hc.symm.trans (connAt_eq hown)
    cases Env.step_moves hst with
    | send _ hpc =>
      obtain ⟨shm, hshm, hat⟩ := (h.instances.sound _ e hi).mutexes.offered _ _ _ _ _ hpc
      refine ⟨⟨h.connected.homed _ _ _ hown nofun, e, hi, by rw [hpc]; rfl, ?_⟩, rfl, e, shm, hi, hshm⟩
      intro shm' hshm'
      cases hshm.symm.trans hshm'
      refine ⟨x, hat, ?_⟩
      obtain ⟨q, page, -, -, -, hpage, hfd⟩ := hat
      have hmem : page ∈ pagesOf e := by
        simp only [pagesOf, hshm, Option.map_some, Option.getD_some]
        exact List.mem_of_getElem? hpage
      obtain ⟨k, hk⟩ := hpages _ e hi page hmem
      have hxk : s.fds x = some ⟨.memfd k, .page r.instance'⟩ := (congrArg s.fds hfd).symm.trans hk
      cases hx.symm.trans hxk
      exact hxk

theorem Agrees.step {a : Act} (h : s.Agrees) (hset : s.Settled) (hpages : s.PagesHeld)
    (hs : s.step P a = some t) : t.Agrees := by
  have keep {r : MutexOk} (hr : s.Placed r) : t.Placed r := hr.step hset.toAccounted hs
  rcases mutexes_step hs with hl | ⟨i, fd, response, rfl, hl⟩
  · refine ⟨fun r hr => keep (h.placed r (hl ▸ hr)), ?_⟩
    rw [hl]
    exact h.same
  · have hnew {r : MutexOk} (hr : r ∈ s.delivering i fd response) := hset.delivers hpages hs hr
    have hplaced {r : MutexOk} (hr : r ∈ t.history.mutexes) : s.Placed r := by
      rw [hl] at hr
      rcases List.mem_append.mp hr with hr | hr
      · exact h.placed r hr
      · exact (hnew hr).1
    refine ⟨fun r hr => keep (hplaced hr), fun r hr q hq hinst hn => ?_⟩
    have hpr := hplaced hr
    have hpq := hplaced hq
    rw [hl] at hr hq
    rcases List.mem_append.mp hr with hr | hr
    · rcases List.mem_append.mp hq with hq | hq
      · exact h.same r hr q hq hinst hn
      · obtain ⟨-, rfl, e, shm, hi, hshm⟩ := hnew hq
        exact hpr.same hpq (hinst ▸ hi) hshm hn hinst
    · obtain ⟨-, rfl, e, shm, hi, hshm⟩ := hnew hr
      exact hpr.same hpq hi hshm hn hinst

/-! ## The instances of a name -/

/-- Two instances of one name are never there at once. -/
def Unique (s : Daemon) : Prop :=
  ∀ i j e f, s.envs i = some e → s.envs j = some f → e.phase.alive = true → f.phase.alive = true →
    e.name = f.name → i = j

theorem unique_boot : boot.Unique := by
  intro i j e f hi
  cases hi

/-- A thread that has ended does not come back. -/
theorem alive_before {a : Act} (hs : s.step P a = some t) (hi : t.envs i = some e')
    (ha : e'.phase.alive = true) :
    (∃ e, s.envs i = some e ∧ e.name = e'.name ∧ e.phase.alive = true) ∨
      a = .welcome (.envNew (.ok i)) := by
  cases env_change hs hi with
  | same hj hsame => exact .inl ⟨_, hj, hsame.name.symm, hsame.phase ▸ ha⟩
  | @thread b e hj hst =>
    refine .inl ⟨e, hj, (Env.name_step hst).symm, ?_⟩
    cases hpc : e.pc with
    | ended =>
      cases Env.step_moves hst with
      | sendError => exact ha
      | _ => cases hpc.symm.trans ‹e.pc = _›
    | _ => simp only [Env.phase, hpc, Registry.Phase.alive]
  | made => exact .inr rfl

theorem Unique.step {a : Act} (h : s.Unique) (hacc : s.Accounted) (hs : s.step P a = some t) :
    t.Unique := by
  have hinst := hacc.instances.step hs
  intro i j e f hi hj he hf hn
  cases hforgot : t.welcome.forgot with
  | false =>
    have hphase {k : EnvId} {x : Env} (hk : t.envs k = some x) : t.registry.phase k = x.phase := by
      simp [registry, registryOf, hk]
    have hname {k : EnvId} {x : Env} (hk : t.envs k = some x) : t.registry.name k = x.name := by
      simp [registry, registryOf, hk]
    apply hinst.registry.unique hforgot
    · rw [hphase hi, he]
    · rw [hphase hj, hf]
    · rw [hname hi, hname hj, hn]
  | true =>
    -- a thread that forgets its instances unwinds, and makes none
    have hold {k : EnvId} {x : Env} (hk : t.envs k = some x) (hx : x.phase.alive = true) :
        ∃ y, s.envs k = some y ∧ y.name = x.name ∧ y.phase.alive = true := by
      refine (alive_before hs hk hx).resolve_right ?_
      rintro rfl
      have hpanic := hinst.keeper.forgets hforgot
      obtain ⟨-, hp⟩ := step_party hs
      cases hp with
      | welcome hm =>
        cases hm with
        | envNew _ hpc =>
          have hun := hacc.held.unwinds hpanic
          rw [hpc] at hun
          cases hun
    obtain ⟨e₀, hi₀, hn₀, he₀⟩ := hold hi he
    obtain ⟨f₀, hj₀, hm₀, hf₀⟩ := hold hj hf
    exact h i j e₀ f₀ hi₀ hj₀ he₀ hf₀ (hn₀.trans (hn.trans hm₀.symm))

/-- The instance holds a client's socket, in its `SocketSet` or in the channel to its
thread. -/
def HoldsSocket (s : Daemon) (i : EnvId) : Prop :=
  ∃ x c h, s.fds x = some ⟨.conn c, h⟩ ∧ h.env = some i

/-- The client is attached to the environment of the name. -/
def AttachedTo (s : Daemon) (c : ConnId) (name : String) : Prop :=
  ∃ i e x, s.envs i = some e ∧ e.name = name ∧ s.fds x = some ⟨.conn c, .socket i⟩

theorem HoldsSocket.alive (h : s.HoldsSocket i) (hacc : s.Accounted)
    (hshut : ∀ i e, s.envs i = some e → e.Shut) :
    ∃ e, s.envs i = some e ∧ e.phase.alive = true := by
  obtain ⟨x, c, h', hx, hh⟩ := h
  have alive {e : Env} (hend : e.pc ≠ .ended) : e.phase.alive = true := by
    cases hpc : e.pc with
    | ended => exact absurd hpc hend
    | _ => simp only [Env.phase, hpc, Registry.Phase.alive]
  cases h' with
  | queue j =>
    cases hh
    have hmem := (hacc.held.queue i x).mpr (.of_eq hx)
    cases hi : s.envs i with
    | none =>
      rw [waitingAt, hi] at hmem
      cases hmem
    | some e =>
      rw [waitingAt_eq hi] at hmem
      refine ⟨e, rfl, alive fun hend => ?_⟩
      rw [Env.waiting, hend, (hshut i e hi).empty ((hshut i e hi).ended hend)] at hmem
      cases hmem
  | socket j =>
    cases hh
    have hmem := (hacc.held.sockets i x).mpr (.of_eq hx)
    cases hi : s.envs i with
    | none =>
      rw [socketsAt, hi] at hmem
      cases hmem
    | some e =>
      rw [socketsAt_eq hi] at hmem
      refine ⟨e, rfl, alive fun hend => ?_⟩
      rw [((hacc.instances.sound i e hi).loc.empty (by rw [hend]; rfl)).1] at hmem
      cases hmem
  | _ => cases hh

/-- Everything the agreement rests on. -/
structure Agreeing (s : Daemon) : Prop where
  settled : s.Settled
  pages : s.PagesHeld
  agrees : s.Agrees
  unique : s.Unique
  shut : ∀ i e, s.envs i = some e → e.Shut

theorem agreeing_boot : boot.Agreeing where
  settled := settled_boot
  pages := pagesHeld_boot
  agrees := agrees_boot
  unique := unique_boot
  shut := shut_boot

theorem Agreeing.step {a : Act} (h : s.Agreeing) (hs : s.step P a = some t) : t.Agreeing where
  settled := h.settled.step hs
  pages := h.pages.step h.settled.toAccounted hs
  agrees := h.agrees.step h.settled h.pages hs
  unique := h.unique.step h.settled.toAccounted hs
  shut := shut_step hs h.shut

theorem Agreeing.run {as : List Act} (h : s.Agreeing) (hr : Run (Daemon.step P) anyStep s as t) :
    t.Agreeing :=
  hr.invariant (I := Agreeing) (fun _ _ _ _ hs ht => hs.step ht) h

/-- One instance of a name is there. -/
theorem Agreeing.one {j : EnvId} {f : Env} (h : s.Agreeing) (hi : s.envs i = some e)
    (hj : s.envs j = some f) (hn : e.name = f.name) (hholds : s.HoldsSocket i)
    (hholds' : s.HoldsSocket j) : i = j := by
  obtain ⟨e₀, hi₀, he⟩ := hholds.alive h.settled.toAccounted h.shut
  obtain ⟨f₀, hj₀, hf⟩ := hholds'.alive h.settled.toAccounted h.shut
  cases hi.symm.trans hi₀
  cases hj.symm.trans hj₀
  exact h.unique i j e f hi hj he hf hn

/-- What was handed out to clients that are attached to one name at the same time. -/
theorem Agreeing.mutexes {c d : ConnId} {name : String} {bs : List Act} {r q : MutexOk}
    (h : s.Agreeing) (hc : s.AttachedTo c name) (hd : s.AttachedTo d name)
    (hrun : Run (Daemon.step P) anyStep s bs t) (hr : r ∈ t.history.mutexes)
    (hq : q ∈ t.history.mutexes) (hrc : r.conn = c) (hqd : q.conn = d) (hn : r.name = q.name) :
    r.Same q := by
  obtain ⟨i, e, x, hi, hname, hx⟩ := hc
  obtain ⟨j, f, y, hj, hname', hy⟩ := hd
  obtain rfl : i = j := h.one hi hj (hname.trans hname'.symm) ⟨x, c, _, hx, rfl⟩ ⟨y, d, _, hy, rfl⟩
  have hend := h.run hrun
  -- each message came from the environment the connection was passed to
  have hinst {k : ConnId} {z : RawFd} {p : MutexOk} (hz : s.fds z = some ⟨.conn k, .socket i⟩)
      (hp : p ∈ t.history.mutexes) (hk : p.conn = k) : p.instance' = i := by
    have hhome : homeOf s.conns k = some i := h.settled.connected.homed z k _ hz nofun
    have hlater : s.Agreeing ∧ homeOf s.conns k = some i → t.Agreeing ∧ homeOf t.conns k = some i :=
      hrun.invariant (I := fun s => s.Agreeing ∧ homeOf s.conns k = some i)
        fun s a u _ hI hs => ⟨hI.1.step hs, home_kept hI.1.settled.toAccounted hs hI.2⟩
    have hplaced := (hend.agrees.placed p hp).home
    rw [hk, (hlater ⟨h, hhome⟩).2] at hplaced
    exact (Option.some.inj hplaced).symm
  exact hend.agrees.same r hr q hq ((hinst hx hr hrc).trans (hinst hy hq hqd).symm) hn

/-- In every run, at most one instance of a name holds clients' sockets; what clients that
are attached to one name at the same time were and are told of a mutex is the same
`memfd`, page and offset; and an instance constructs a mutex once at most. -/
theorem mutexes_agree {as : List Act} (hr : Run (Daemon.step P) anyStep boot as s) :
    (∀ i j e f, s.envs i = some e → s.envs j = some f → e.name = f.name → s.HoldsSocket i →
      s.HoldsSocket j → i = j) ∧
    (∀ c d name bs t r q, s.AttachedTo c name → s.AttachedTo d name →
      Run (Daemon.step P) anyStep s bs t → r ∈ t.history.mutexes → q ∈ t.history.mutexes →
      r.conn = c → q.conn = d → r.name = q.name → r.Same q) ∧
    ∀ i e, s.envs i = some e → e.constructed.Nodup := by
  have h : s.Agreeing := agreeing_boot.run hr
  refine ⟨?_, ?_, ?_⟩
  · intro i j e f hi hj hn hholds hholds'
    exact h.one hi hj hn hholds hholds'
  · intro c d name bs t r q hc hd hrun hr hq hrc hqd hn
    exact h.mutexes hc hd hrun hr hq hrc hqd hn
  · intro i e hi
    exact (h.settled.instances.sound i e hi).mutexes.once

/-- Two clients of the instance ask for the mutex `b`: it is made for the first, and found for
the second. -/
theorem mutexes_agree_two : ∃ as s bs t r q, Run (Daemon.step .oneLetter) anyStep boot as s ∧
    s.AttachedTo 0 "a" ∧ s.AttachedTo 1 "a" ∧ Run (Daemon.step .oneLetter) anyStep s bs t ∧
    t.history.mutexes = [r, q] ∧ r.conn = 0 ∧ q.conn = 1 ∧ r.name = "b" ∧ q.name = "b" ∧
    r.Same q := by
  have hexec : (exec (Daemon.step .oneLetter) (fun _ _ => true) boot
      (startUp ++ handsOver ++ adds ++ answers ++ joinsSecond)).any (fun s =>
        (s.envs 0).any (fun e => e.name = "a") && decide (s.fds 1 = some ⟨.conn 0, .socket 0⟩) &&
        decide (s.fds 2 = some ⟨.conn 1, .socket 0⟩) &&
        (exec (Daemon.step .oneLetter) (fun _ _ => true) s bothAsk).any (fun t =>
          t.history.mutexes.map (fun r => (r.conn, r.name)) = [(0, "b"), (1, "b")])) := by decide
  obtain ⟨s, hrun, hs⟩ := Run.of_exec_any (fun _ _ h => h) hexec
  have hr : Run (Daemon.step .oneLetter) anyStep boot _ s := hrun.mono fun _ _ _ => trivial
  simp only [Bool.and_eq_true] at hs
  obtain ⟨⟨⟨hname, hx⟩, hy⟩, ht⟩ := hs
  obtain ⟨e, hi, hn⟩ := (Option.any_eq_true _ _).mp hname
  have hzero : s.AttachedTo 0 "a" := ⟨0, e, 1, hi, of_decide_eq_true hn, of_decide_eq_true hx⟩
  have hone : s.AttachedTo 1 "a" := ⟨0, e, 2, hi, of_decide_eq_true hn, of_decide_eq_true hy⟩
  obtain ⟨t, hrun', hp⟩ := Run.of_exec_any (fun _ _ h => h) ht
  have hr' : Run (Daemon.step .oneLetter) anyStep s _ t := hrun'.mono fun _ _ _ => trivial
  have hmap := of_decide_eq_true hp
  match hl : t.history.mutexes with
  | [r, q] =>
    simp only [hl, List.map_cons, List.map_nil, List.cons.injEq, Prod.mk.injEq] at hmap
    obtain ⟨⟨hrc, hrn⟩, ⟨hqc, hqn⟩, -⟩ := hmap
    have hsame : r.Same q := (mutexes_agree hr).2.1 0 1 "a" _ t r q hzero hone hr' (by simp [hl])
      (by simp [hl]) hrc hqc (hrn.trans hqn.symm)
    exact ⟨_, s, _, t, r, q, hr, hzero, hone, hr', hl, hrc, hqc, hrn, hqn, hsame⟩
  | [] | [_] | _ :: _ :: _ :: _ => simp [hl] at hmap

end Daemon
end Garnd
