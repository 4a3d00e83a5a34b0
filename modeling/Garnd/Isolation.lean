import Garnd.Agreement
import Garnd.ShmDirectory

/- What no one shares. A `memfd` is created for one page of one instance and never
   duplicated (`Fds.Numbered`), an instance's pages have numbers of their own, and the
   allocator's layout keeps names apart on a page. So two mutexes that were handed out
   have a byte of memory in common exactly where they are the same mutex of the same
   instance (`Daemon.mutexes_isolated`), whoever holds what is left of an instance that
   is gone. -/
namespace Garnd
open Transition

namespace Fds
variable {P : Externals} {f g : Fds} {x y : RawFd} {h h' : Holder} {n : ℕ}

/-- A `memfd` was numbered before `n` and has one descriptor at most. -/
structure Numbered (f : Fds) (n : ℕ) : Prop where
  below : ∀ x k h, f x = some ⟨.memfd k, h⟩ → k < n
  alone : ∀ x y k h h', f x = some ⟨.memfd k, h⟩ → f y = some ⟨.memfd k, h'⟩ → x = y

/-- No `memfd` is opened and none changes hands. -/
def KeepsPages (f g : Fds) : Prop := ∀ x k h, g x = some ⟨.memfd k, h⟩ → f x = some ⟨.memfd k, h⟩

theorem Shrinks.keepsPages (hg : f.Shrinks g) : f.KeepsPages g := fun x _ _ hx => hg x _ hx

theorem keepsPages_open {c : ConnId} : f.KeepsPages (Function.update f x (some ⟨.conn c, h⟩)) := by
  intro y k h' hy
  rcases open_some hy with ⟨-, hd⟩ | ⟨-, hy⟩
  · cases hd
  · exact hy

/-- Pages stay where they are: only sockets change hands. -/
theorem keepsPages_pass (hx : ∀ k, f x ≠ some ⟨.memfd k, h⟩) : f.KeepsPages (f.pass x h h') := by
  intro y k h₁ hy
  rcases pass_some hy with ⟨-, file, hfile, hd⟩ | hy
  · cases hd
    exact absurd hfile (hx k)
  · exact hy

theorem Numbered.keep (hn : f.Numbered n) (hg : f.KeepsPages g) : g.Numbered n where
  below x k h hx := hn.below x k h (hg x k h hx)
  alone x y k h h' hx hy := hn.alone x y k h h' (hg x k h hx) (hg y k h' hy)

/-- One page more, with the next number. -/
theorem Numbered.opened (hn : f.Numbered n) {i : EnvId} :
    Numbered (Function.update f x (some ⟨.memfd n, .page i⟩)) (n + 1) := by
  have hold {y : RawFd} {k : ℕ} {h : Holder}
      (hy : Function.update f x (some ⟨.memfd n, .page i⟩) y = some ⟨.memfd k, h⟩) :
      (y = x ∧ k = n) ∨ (f y = some ⟨.memfd k, h⟩ ∧ k < n) := by
    rcases open_some hy with ⟨rfl, hd⟩ | ⟨-, hy⟩
    · cases hd
      exact .inl ⟨rfl, rfl⟩
    · exact .inr ⟨hy, hn.below y k h hy⟩
  constructor
  · intro y k h hy
    rcases hold hy with ⟨-, rfl⟩ | ⟨-, hlt⟩
    · exact Nat.lt_succ_self k
    · exact Nat.lt_succ_of_lt hlt
  · intro y z k h h' hy hz
    rcases hold hy with ⟨rfl, rfl⟩ | ⟨hy, hlt⟩ <;> rcases hold hz with ⟨rfl, hk⟩ | ⟨hz, hlt'⟩
    · rfl
    · exact absurd hlt' (Nat.lt_irrefl k)
    · exact absurd hlt (hk ▸ Nat.lt_irrefl k)
    · exact hn.alone y z k h h' hy hz

/-- The pages come under numbers of their own, each with a new `memfd`. -/
theorem Numbered.addPages {i : EnvId} {pages : List Page} {m : ℕ} (hn : f.Numbered n)
    (ha : f.addPages P i pages n = some (g, m)) :
    g.Numbered m ∧ n ≤ m ∧ (pages.map Page.fd).Nodup ∧ (∀ page ∈ pages, f page.fd = none) ∧
      ∀ x k h, g x = some ⟨.memfd k, h⟩ → f x = some ⟨.memfd k, h⟩ ∨ n ≤ k := by
  induction pages generalizing f n with
  | nil =>
    cases ha
    exact ⟨hn, Nat.le_refl _, List.nodup_nil, by simp, fun _ _ _ hx => .inl hx⟩
  | cons page rest ih =>
    simp only [Fds.addPages] at ha
    split at ha
    · rename_i f' hf
      obtain ⟨-, hfree, rfl⟩ := openAt_eq_some.mp hf
      obtain ⟨hnum, hle, hnodup, hnone, hnew⟩ := ih hn.opened ha
      -- the rest finds the number of this page in use
      have hother (p : Page) (hp : p ∈ rest) : p.fd ≠ page.fd := by
        intro he
        have hused := hnone p hp
        rw [he, Function.update_self] at hused
        cases hused
      refine ⟨hnum, by omega, ?_, ?_, ?_⟩
      · rw [List.map_cons, List.nodup_cons]
        refine ⟨fun hmem => ?_, hnodup⟩
        obtain ⟨p, hp, he⟩ := List.mem_map.mp hmem
        exact hother p hp he
      · intro p hp
        rcases List.mem_cons.mp hp with rfl | hp
        · exact hfree
        · have hunused := hnone p hp
          rwa [Function.update_of_ne (hother p hp)] at hunused
      · intro x k h hx
        rcases hnew x k h hx with hx | hle'
        · rcases open_some hx with ⟨-, hd⟩ | ⟨-, hx⟩
          · cases hd
            exact .inr (Nat.le_refl n)
          · exact .inl hx
        · exact .inr (by omega)
    · cases ha

end Fds

/-- The pages of an instance are kept and added to, until its thread leaves. -/
theorem Env.Moves.pages {P : Externals} {e e' : Env} {b : EnvAct} (hm : Env.Moves P e b e')
    (h : e.Mutexes) (hnil : e.pc = .allocNew → e.shm = none) :
    Daemon.pagesOf e <+: Daemon.pagesOf e' ∨ ∃ panics, b = .leave panics := by
  cases hm with
  | allocNew _ hpc =>
    left
    rw [Daemon.pagesOf, hnil hpc]
    exact List.nil_prefix
  | openMutex _ _ hshm | openMutexPanics _ _ hshm =>
    left
    simp only [Daemon.pagesOf, hshm, Option.map_some, Option.getD_some]
    exact (findOrConstruct_sees P (h.alloc _ hshm) _ _).extends'.pages
  | leave => exact .inr ⟨_, rfl⟩
  | _ => exact .inl List.prefix_rfl

/-- What an instance has constructed are mutexes. -/
def Env.Typed (P : Externals) (e : Env) : Prop :=
  ∀ shm, e.shm = some shm → shm.Typed {P.pthreadMutex}

theorem Env.findOrConstruct_typed {P : Externals} {shm : ShmAllocator} (h : shm.Inv)
    (ht : shm.Typed {P.pthreadMutex}) (name : String) (os : ShmAllocator.ConstructCalls) :
    (Env.findOrConstruct P shm name os).self.Typed {P.pthreadMutex} := by
  unfold Env.findOrConstruct
  split
  · exact ht
  · exact ShmAllocator.construct_typed h ht name (Set.mem_singleton _) os
  · exact ht
  · exact ht

/-- A thread makes its allocator once and drops it when it goes, and an allocator starts
empty. -/
structure Env.Stocked (P : Externals) (e : Env) : Prop where
  unmade : e.pc = .allocNew → e.shm = none
  typed : e.Typed P
  cleared : e.pc.emptied = true → e.shm = none

theorem Env.stocked_new (P : Externals) (name : String) (i : EnvId) : (Env.new name i).Stocked P :=
  ⟨fun _ => rfl, by rintro shm ⟨⟩, fun _ => rfl⟩

theorem Env.Stocked.step {P : Externals} {e e' : Env} {b : EnvAct} (h : e.Stocked P) (hm : e.Mutexes)
    (hs : e.step P b = some e') : e'.Stocked P := by
  cases Env.step_moves hs with
  | sendError => exact ⟨h.unmade, h.typed, h.cleared⟩
  | allocNew _ _ hnew =>
    refine ⟨by rintro ⟨⟩, ?_, by rintro ⟨⟩⟩
    rintro shm ⟨⟩ n r hr
    simp [(ShmAllocator.new_empty hnew).2] at hr
  | openMutex _ _ hshm | openMutexPanics _ _ hshm =>
    refine ⟨by rintro ⟨⟩, ?_, by rintro ⟨⟩⟩
    rintro shm ⟨⟩
    exact Env.findOrConstruct_typed (hm.alloc _ hshm) (h.typed _ hshm) _ _
  | leave => exact ⟨fun _ => rfl, by rintro shm ⟨⟩, fun _ => rfl⟩
  | epollAdd =>
    refine ⟨?_, h.typed, ?_⟩ <;> dsimp only <;> split <;> rintro ⟨⟩
  | dropSync _ hpc | dropListener _ hpc =>
    refine ⟨?_, h.typed, fun _ => h.cleared (by rw [hpc]; rfl)⟩
    dsimp only
    split <;> rintro ⟨⟩
  | _ => exact ⟨by rintro ⟨⟩, h.typed, by rintro ⟨⟩⟩

/-! ## Records -/

/-- The bytes of the mutex on its page. -/
def MutexOk.bytes (P : Externals) (r : MutexOk) : Set ℕ :=
  Set.Ico r.offset (r.offset + P.pthreadMutex.size)

/-- Two messages speak of one page where they speak of one `memfd`, and of different
bytes where they speak of different names. -/
structure MutexOk.Apart (P : Externals) (r q : MutexOk) : Prop where
  memfd : r.memfd = q.memfd ↔ r.instance' = q.instance' ∧ r.page = q.page
  bytes : r.instance' = q.instance' → r.page = q.page → r.name ≠ q.name →
    Disjoint (r.bytes P) (q.bytes P)

namespace MutexOk
variable {P : Externals} {r q : MutexOk}

theorem apart_self (P : Externals) (r : MutexOk) : r.Apart P r :=
  ⟨⟨fun _ => ⟨rfl, rfl⟩, fun _ => rfl⟩, fun _ _ hn => absurd rfl hn⟩

theorem Apart.symm (h : r.Apart P q) : q.Apart P r where
  memfd := by rw [eq_comm, h.memfd, eq_comm, @eq_comm _ r.page]
  bytes hi hp hn := (h.bytes hi.symm hp.symm hn.symm).symm

end MutexOk

/-- Names that are registered on one page have bytes of their own. -/
theorem ShmAllocator.At.disjoint {P : Externals} {shm : ShmAllocator} {n m : String}
    {l k : ClientResourceLocation} (h : shm.Inv) (ht : shm.Typed {P.pthreadMutex})
    (hn : shm.At n l) (hm : shm.At m k) (hne : n ≠ m) (hp : l.page = k.page) :
    Disjoint (Set.Ico l.offset (l.offset + P.pthreadMutex.size))
      (Set.Ico k.offset (k.offset + P.pthreadMutex.size)) := by
  obtain ⟨r, -, hr, hrp, hro, -⟩ := hn
  obtain ⟨q, -, hq, hqp, hqo, -⟩ := hm
  have hsize := ht n r hr
  have hsize' := ht m q hq
  have hdisj := h.sound.disjoint n m _ _ (layout_entry hr) (layout_entry hq) hne
    (hrp.trans (hp.trans hqp.symm))
  simp only [PageLayout.Entry.bytes, ResourceMetadata.entry, Set.mem_singleton_iff.mp hsize,
    Set.mem_singleton_iff.mp hsize', hro, hqo] at hdisj
  exact hdisj

namespace Daemon
variable {P : Externals} {s t u : Daemon} {i : EnvId} {e e' : Env}

/-! ## The table -/

theorem WelcomeEffect.keepsPages {a : WelcomeAct} (he : WelcomeEffect P s a u) (h : s.Accounted) :
    s.fds.KeepsPages u.fds ∧ u.memfds = s.memfds := by
  have pass {x : RawFd} {h' : Holder} : s.fds.KeepsPages (s.fds.pass x .welcome h') := by
    refine Fds.keepsPages_pass fun k hk => ?_
    obtain ⟨i, hi⟩ := h.connected.pages x k _ hk
    cases hi
  cases he with
  | accept => exact ⟨Fds.keepsPages_open, rfl⟩
  | @dup fd name passed d hpc hfd =>
    have hmem : s.fds.HeldBy .welcome fd := by
      rw [← h.held.welcome, Welcome.held, hpc]
      exact List.mem_append_left _ List.mem_cons_self
    obtain ⟨c, hc⟩ := h.connected.conn_of_welcome hmem
    cases hfd.symm.trans hc
    exact ⟨Fds.keepsPages_open, rfl⟩
  | insertSend => exact ⟨pass, rfl⟩
  | close => exact ⟨Fds.shrinks_closeHeld.keepsPages, rfl⟩
  | @sendError err =>
    refine ⟨?_, rfl⟩
    cases hsock : err.socket with
    | none =>
      simp only [Fds.handOver, hsock]
      exact (Fds.Shrinks.refl s.fds).keepsPages
    | some x =>
      simp only [Fds.handOver, hsock]
      exact pass
  | recv _ hr =>
    obtain ⟨c, conn, -, -, ⟨rest, -, rfl⟩ | ⟨-, -, rfl⟩⟩ := recvFrom_eq_some hr <;>
      exact ⟨(Fds.Shrinks.refl _).keepsPages, rfl⟩
  | send _ hr =>
    obtain ⟨c, conn, -, -, -, rfl⟩ := sendTo_eq_some hr
    exact ⟨(Fds.Shrinks.refl s.fds).keepsPages, rfl⟩
  | _ => exact ⟨(Fds.Shrinks.refl s.fds).keepsPages, rfl⟩

theorem EnvEffect.keepsPages {b : EnvAct} (he : EnvEffect P s i e e' b u) (h : s.Accounted)
    (hb : ∀ os serializes, b ≠ .openMutex os serializes) :
    s.fds.KeepsPages u.fds ∧ u.memfds = s.memfds := by
  cases he with
  | openMutex => exact absurd rfl (hb _ _)
  | addEpoll =>
    refine ⟨Fds.keepsPages_pass fun k hk => ?_, rfl⟩
    obtain ⟨j, hj⟩ := h.connected.pages _ k _ hk
    cases hj
  | hangup =>
    refine ⟨?_, rfl⟩
    dsimp only
    split
    · exact Fds.shrinks_closeNumbers.keepsPages
    · exact (Fds.Shrinks.refl s.fds).keepsPages
  | addEpollFails => exact ⟨Fds.shrinks_closeHeld.keepsPages, rfl⟩
  | leave => exact ⟨(Fds.shrinks_closeAll.trans Fds.shrinks_closeNumbers).keepsPages, rfl⟩
  | dropListener => exact ⟨Fds.shrinks_closeAll.keepsPages, rfl⟩
  | recv hr =>
    obtain ⟨c, conn, -, -, ⟨rest, -, rfl⟩ | ⟨-, -, rfl⟩⟩ := recvFrom_eq_some hr <;>
      exact ⟨(Fds.Shrinks.refl _).keepsPages, rfl⟩
  | send hr =>
    obtain ⟨c, conn, -, -, -, rfl⟩ := sendTo_eq_some hr
    exact ⟨(Fds.Shrinks.refl s.fds).keepsPages, rfl⟩
  | _ => exact ⟨(Fds.Shrinks.refl s.fds).keepsPages, rfl⟩

/-- Only `handle_open_mutex` makes pages. -/
theorem keepsPages_step {a : Act} (h : s.Accounted) (hs : s.step P a = some t)
    (ha : ∀ i os serializes, a ≠ .env i (.openMutex os serializes)) :
    s.fds.KeepsPages t.fds ∧ t.memfds = s.memfds := by
  obtain ⟨-, hp⟩ := step_party hs
  cases hp with
  | main hm => exact ⟨hm.shrinks.keepsPages, by cases hm <;> rfl⟩
  | welcome _ he => exact he.keepsPages h
  | env _ _ he =>
    refine he.keepsPages h fun os serializes => ?_
    rintro rfl
    exact ha _ _ _ rfl
  | client => exact ⟨(Fds.Shrinks.refl s.fds).keepsPages, rfl⟩
  | @signal sig _ _ _ _ hm =>
    obtain ⟨shutdown, reload, terminated, reloaded, hshape⟩ := s.handler_shape sig
    rw [hm.fds_eq]
    refine ⟨(Fds.Shrinks.refl s.fds).keepsPages, ?_⟩
    cases hm <;> rw [hshape]

/-- What a step does to the pages of the process: the numbers go on from where they
were, and what was numbered before is where it was. -/
structure Paging (s t : Daemon) : Prop where
  numbered : t.fds.Numbered t.memfds
  le : s.memfds ≤ t.memfds
  old : ∀ x k h, t.fds x = some ⟨.memfd k, h⟩ → s.fds x = some ⟨.memfd k, h⟩ ∨ s.memfds ≤ k

theorem paging_step {a : Act} (h : s.Accounted) (hn : s.fds.Numbered s.memfds)
    (hs : s.step P a = some t) : s.Paging t := by
  by_cases ha : ∃ i os serializes, a = .env i (.openMutex os serializes)
  · obtain ⟨i, os, serializes, rfl⟩ := ha
    obtain ⟨-, hp⟩ := step_party hs
    cases hp with
    | env _ _ he =>
      cases he with
      | plain hb => cases hb
      | openMutex hadd =>
        obtain ⟨hnum, hle, -, -, hold⟩ := hn.addPages hadd
        exact ⟨hnum, hle, hold⟩
  · obtain ⟨hkeep, hmem⟩ := keepsPages_step h hs fun i os serializes hb => ha ⟨i, os, serializes, hb⟩
    exact ⟨hmem ▸ hn.keep hkeep, hmem.ge, fun x k h' hx => .inl (hkeep x k h' hx)⟩

/-! ## The pages of an instance -/

theorem pagesOf_other {b : EnvAct} (hm : Env.Moves P e b e')
    (hb : ∀ os serializes, b ≠ .openMutex os serializes) :
    pagesOf e' = pagesOf e ∨ pagesOf e' = [] := by
  cases hm with
  | allocNew _ _ hnew => exact .inr (ShmAllocator.new_empty hnew).1
  | openMutex | openMutexPanics => exact absurd rfl (hb _ _)
  | leave => exact .inr rfl
  | _ => exact .inl rfl

theorem pagesOf_same (h : Env.SameThread e e') : pagesOf e' = pagesOf e := by
  rw [pagesOf, h.shm, pagesOf]

/-- The pages of an instance have numbers of their own. -/
def OwnNumbers (s : Daemon) : Prop := ∀ i e, s.envs i = some e → ((pagesOf e).map Page.fd).Nodup

theorem OwnNumbers.step {a : Act} (h : s.OwnNumbers) (hacc : s.Accounted) (hpages : s.PagesHeld)
    (hn : s.fds.Numbered s.memfds) (hstock : ∀ i e, s.envs i = some e → e.Stocked P)
    (hs : s.step P a = some t) : t.OwnNumbers := by
  intro i e' hi
  cases env_change hs hi with
  | same hj hsame =>
    rw [pagesOf_same hsame]
    exact h i _ hj
  | made _ he => exact he ▸ List.nodup_nil
  | @thread b e hj hst =>
    have hm := Env.step_moves hst
    by_cases hb : ∃ os serializes, b = .openMutex os serializes
    · obtain ⟨os, serializes, rfl⟩ := hb
      have hpre := (hm.pages (hacc.instances.sound i e hj).mutexes (hstock i e hj).unmade).resolve_right
        (by rintro ⟨panics, hb⟩; cases hb)
      obtain ⟨new, hnew⟩ := hpre
      obtain ⟨-, hp⟩ := step_party hs
      cases hp with
      | @env _ _ e₁ e₂ u hj' hst' he =>
        cases hj.symm.trans hj'
        cases hst.symm.trans hst'
        cases he with
        | plain hb => cases hb
        | openMutex hadd =>
          rw [← hnew, List.drop_left] at hadd
          obtain ⟨-, -, hnodup, hfree, -⟩ := hn.addPages hadd
          rw [← hnew, List.map_append]
          refine (h i e hj).append hnodup fun x hx hx' => ?_
          -- an old page is open, a new one was given a free number
          obtain ⟨page, hpage, rfl⟩ := List.mem_map.mp hx
          obtain ⟨page', hpage', heq⟩ := List.mem_map.mp hx'
          obtain ⟨k, hk⟩ := hpages i e hj page hpage
          have hnone := hfree page' hpage'
          rw [heq, hk] at hnone
          cases hnone
    · rcases pagesOf_other hm fun os serializes hb' => hb ⟨os, serializes, hb'⟩ with he | he
      · rw [he]
        exact h i e hj
      · rw [he]
        exact List.nodup_nil

/-! ## What is behind a record -/

/-- The `memfd` of the record is a page of its instance, where it is still open. -/
structure Backed (s : Daemon) (r : MutexOk) : Prop where
  below : r.memfd < s.memfds
  page : ∀ x h, s.fds x = some ⟨.memfd r.memfd, h⟩ → h = .page r.instance' ∧
    ∃ e page, s.envs r.instance' = some e ∧ (pagesOf e)[r.page]? = some page ∧ page.fd = x

theorem Backed.step {a : Act} {r : MutexOk} (h : s.Backed r) (hacc : s.Accounted)
    (hn : s.fds.Numbered s.memfds) (hstock : ∀ i e, s.envs i = some e → e.Stocked P)
    (hs : s.step P a = some t) : t.Backed r := by
  have hpaging := paging_step hacc hn hs
  refine ⟨h.below.trans_le hpaging.le, fun x h' hx => ?_⟩
  have hx₀ := (hpaging.old x _ h' hx).resolve_right (Nat.not_le_of_lt h.below)
  obtain ⟨rfl, e, page, hi, hpage, hfd⟩ := h.page x h' hx₀
  obtain ⟨e', hi'⟩ := Option.ne_none_iff_exists'.mp
    (envs_known hs (i := r.instance') (by rw [hi]; rintro ⟨⟩))
  refine ⟨rfl, e', page, hi', ?_, hfd⟩
  cases env_change hs hi' with
  | same hj hsame =>
    cases hi.symm.trans hj
    rwa [pagesOf_same hsame]
  | made hnone =>
    rw [hi] at hnone
    cases hnone
  | @thread b _ hj hst =>
    cases hi.symm.trans hj
    rcases (Env.step_moves hst).pages (hacc.instances.sound _ e hi).mutexes (hstock _ e hi).unmade with
      ⟨new, hnew⟩ | ⟨panics, rfl⟩
    · rw [← hnew]
      exact List.getElem?_append_left (List.getElem?_eq_some_iff.mp hpage).1 ▸ hpage
    · -- the thread takes its pages with it
      obtain ⟨-, hp⟩ := step_party hs
      cases hp with
      | env _ _ he =>
        cases he with
        | plain hb => cases hb
        | leave =>
          dsimp only [Fds.closeNumbers, Fds.closeAll] at hx
          rw [hx₀] at hx
          simp at hx

/-- What was said of a mutex of an instance that has its pages, against any record. -/
theorem Placed.apart {r q : MutexOk} {shm : ShmAllocator} (hr : s.Placed r) (hq : s.Placed q)
    (hback : s.Backed q) (hi : s.envs r.instance' = some e) (hshm : e.shm = some shm)
    (halloc : shm.Inv) (htyped : shm.Typed {P.pthreadMutex})
    (hown : ((pagesOf e).map Page.fd).Nodup) : r.Apart P q := by
  obtain ⟨e₁, hi₁, -, hreg⟩ := hr.registered
  cases hi.symm.trans hi₁
  obtain ⟨fd, hat, hfd⟩ := hreg shm hshm
  have hpages : pagesOf e = shm.pages := by simp [pagesOf, hshm]
  obtain ⟨-, page, -, -, -, hpage, hpfd⟩ := id hat
  dsimp only at hpage hpfd
  -- the other one, where it is of the same instance
  have hother (hinst : r.instance' = q.instance') : ∃ fd', shm.At q.name ⟨q.page, q.offset, fd'⟩ ∧
      s.fds fd' = some ⟨.memfd q.memfd, .page q.instance'⟩ := by
    obtain ⟨e₂, hi₂, -, hreg'⟩ := hq.registered
    rw [← hinst] at hi₂
    cases hi.symm.trans hi₂
    exact hreg' shm hshm
  refine ⟨⟨fun hmem => ?_, fun hboth => ?_⟩, fun hinst hp hne => ?_⟩
  · rw [hmem] at hfd
    obtain ⟨hholder, e₂, page', hi₂, hpage', hpfd'⟩ := hback.page fd _ hfd
    obtain hinst : r.instance' = q.instance' := by simpa using hholder
    rw [← hinst] at hi₂
    cases hi.symm.trans hi₂
    rw [hpages] at hpage' hown
    refine ⟨hinst, ?_⟩
    obtain ⟨hlt, hget⟩ := List.getElem?_eq_some_iff.mp hpage
    obtain ⟨hlt', hget'⟩ := List.getElem?_eq_some_iff.mp hpage'
    have hinj := hown.get_inj_iff (i := ⟨r.page, by simpa using hlt⟩) (j := ⟨q.page, by simpa using hlt'⟩)
    simpa [hget, hget', hpfd, hpfd'] using hinj
  · obtain ⟨hinst, hp⟩ := hboth
    obtain ⟨fd', ⟨-, page', -, -, -, hpage', hpfd'⟩, hfd'⟩ := hother hinst
    dsimp only at hpage' hpfd'
    rw [← hp, hpage] at hpage'
    cases hpage'
    obtain rfl : fd = fd' := hpfd.symm.trans hpfd'
    have hmem := hfd.symm.trans hfd'
    simp only [Option.some.injEq, Descriptor.mk.injEq, File.memfd.injEq] at hmem
    exact hmem.1
  · obtain ⟨fd', hat', -⟩ := hother hinst
    exact hat.disjoint halloc htyped hat' hne hp

/-- What keeps instances, pages and mutexes apart. -/
structure Isolated (P : Externals) (s : Daemon) : Prop where
  numbered : s.fds.Numbered s.memfds
  stocked : ∀ i e, s.envs i = some e → e.Stocked P
  own : s.OwnNumbers
  backed : ∀ r ∈ s.history.mutexes, s.Backed r
  apart : ∀ r ∈ s.history.mutexes, ∀ q ∈ s.history.mutexes, r.Apart P q

theorem isolated_boot (P : Externals) : boot.Isolated P where
  numbered := ⟨by rintro x k h ⟨⟩, by rintro x y k h h' ⟨⟩⟩
  stocked := by rintro i e ⟨⟩
  own := by rintro i e ⟨⟩
  backed := by rintro r ⟨⟩
  apart := by rintro r ⟨⟩

/-- What an `OpenMutexOk` that goes out says is backed. -/
theorem Placed.backed {r : MutexOk} {shm : ShmAllocator} (hr : s.Placed r)
    (hn : s.fds.Numbered s.memfds) (hi : s.envs r.instance' = some e) (hshm : e.shm = some shm) :
    s.Backed r := by
  obtain ⟨e₁, hi₁, -, hreg⟩ := hr.registered
  cases hi.symm.trans hi₁
  obtain ⟨fd, ⟨-, page, -, -, -, hpage, hpfd⟩, hfd⟩ := hreg shm hshm
  refine ⟨hn.below fd _ _ hfd, fun x h' hx => ?_⟩
  obtain rfl := hn.alone x fd _ _ _ hx hfd
  cases hx.symm.trans hfd
  refine ⟨rfl, e, page, hi, ?_, hpfd⟩
  simpa [pagesOf, hshm] using hpage

/-- One message tells of one mutex. -/
theorem delivering_unique {fd : RawFd} {response : EnvironmentResponse} {r q : MutexOk}
    (hr : r ∈ s.delivering i fd response) (hq : q ∈ s.delivering i fd response) : r = q := by
  obtain ⟨hi, hc, x, holder, rfl, hx⟩ := of_delivering hr
  obtain ⟨hi', hc', y, holder', heq, hy⟩ := of_delivering hq
  simp only [EnvironmentResponse.openMutexOk.injEq, ClientResourceLocation.mk.injEq] at heq
  obtain ⟨hn, hp, ho, rfl⟩ := heq
  have hmem := hx.symm.trans hy
  simp only [Option.some.injEq, Descriptor.mk.injEq, File.memfd.injEq] at hmem
  cases r
  cases q
  simp_all

theorem Isolated.step {a : Act} (h : s.Isolated P) (hagree : s.Agreeing) (hs : s.step P a = some t) :
    t.Isolated P := by
  have hacc := hagree.settled.toAccounted
  have kept {r : MutexOk} (hr : s.Backed r) : t.Backed r := hr.step hacc h.numbered h.stocked hs
  refine ⟨(paging_step hacc h.numbered hs).numbered, ?_,
    h.own.step hacc hagree.pages h.numbered h.stocked hs, ?_, ?_⟩
  · intro i e' hi
    cases env_change hs hi with
    | same hj hsame =>
      have hold := h.stocked i _ hj
      refine ⟨?_, ?_, ?_⟩
      · rw [hsame.pc, hsame.shm]
        exact hold.unmade
      · rw [Env.Typed, hsame.shm]
        exact hold.typed
      · rw [hsame.pc, hsame.shm]
        exact hold.cleared
    | thread hj hst => exact (h.stocked i _ hj).step (hacc.instances.sound i _ hj).mutexes hst
    | made _ he => exact he ▸ Env.stocked_new P _ i
  · intro r hr
    rcases mutexes_step hs with hl | ⟨i, fd, response, rfl, hl⟩
    · exact kept (h.backed r (hl ▸ hr))
    · rw [hl] at hr
      rcases List.mem_append.mp hr with hr | hr
      · exact kept (h.backed r hr)
      · obtain ⟨hplaced, rfl, e, shm, hi, hshm⟩ := hagree.settled.delivers hagree.pages hs hr
        exact kept (hplaced.backed h.numbered hi hshm)
  · rcases mutexes_step hs with hl | ⟨i, fd, response, rfl, hl⟩
    · rw [hl]
      exact h.apart
    · -- a new record against an old one
      have hnew {r q : MutexOk} (hr : r ∈ s.delivering i fd response)
          (hq : q ∈ s.history.mutexes) : r.Apart P q := by
        obtain ⟨hplaced, rfl, e, shm, hi, hshm⟩ := hagree.settled.delivers hagree.pages hs hr
        exact hplaced.apart (hagree.agrees.placed q hq) (h.backed q hq) hi hshm
          ((hacc.instances.sound _ e hi).mutexes.alloc shm hshm) ((h.stocked _ e hi).typed shm hshm)
          (h.own _ e hi)
      intro r hr q hq
      rw [hl] at hr hq
      rcases List.mem_append.mp hr with hr | hr <;> rcases List.mem_append.mp hq with hq | hq
      · exact h.apart r hr q hq
      · exact (hnew hq hr).symm
      · exact hnew hr hq
      · obtain rfl : r = q := delivering_unique hr hq
        exact r.apart_self P

theorem isolated_run {as : List Act} (hr : Run (Daemon.step P) anyStep boot as s) :
    s.Agreeing ∧ s.Isolated P :=
  hr.invariant (I := fun s => s.Agreeing ∧ s.Isolated P)
    (fun _ _ _ _ hs ht => ⟨hs.1.step ht, hs.2.step hs.1 ht⟩) ⟨agreeing_boot, isolated_boot P⟩

/-- In every run: the memory of a mutex that was handed out is open in no one's name but
its instance's; two mutexes are on one `memfd` exactly where they are on one page of one
instance; the same name of the same instance is the same bytes of it, and anything else
that was ever handed out is other bytes or another `memfd`. -/
theorem mutexes_isolated {as : List Act} (hr : Run (Daemon.step P) anyStep boot as s) :
    ∀ r ∈ s.history.mutexes,
      (∀ x h, s.fds x = some ⟨.memfd r.memfd, h⟩ → h = .page r.instance') ∧
      ∀ q ∈ s.history.mutexes,
        (r.memfd = q.memfd ↔ r.instance' = q.instance' ∧ r.page = q.page) ∧
        (r.instance' = q.instance' → r.name = q.name →
          r.memfd = q.memfd ∧ r.bytes P = q.bytes P) ∧
        (r.instance' ≠ q.instance' ∨ r.name ≠ q.name →
          r.memfd ≠ q.memfd ∨ Disjoint (r.bytes P) (q.bytes P)) := by
  obtain ⟨hagree, h⟩ := isolated_run hr
  intro r hr
  refine ⟨fun x h' hx => ((h.backed r hr).page x h' hx).1, fun q hq => ?_⟩
  have hapart := h.apart r hr q hq
  refine ⟨hapart.memfd, fun hinst hn => ?_, fun hne => ?_⟩
  · have hsame := hagree.agrees.same r hr q hq hinst hn
    exact ⟨hsame.memfd, by rw [MutexOk.bytes, hsame.offset, MutexOk.bytes]⟩
  · by_cases hmem : r.memfd = q.memfd
    · obtain ⟨hinst, hp⟩ := hapart.memfd.mp hmem
      exact .inr (hapart.bytes hinst hp (hne.resolve_left fun hn => hn hinst))
    · exact .inl hmem

/-- The client asks for one more mutex, `c`. -/
def opensAnother : List Act :=
  let page : ShmAllocator.PageCalls := ⟨.ok 2, .ok (), .ok (), .ok 8192⟩
  [.env 0 (.dispatch none), .client 0 .read, .client 0 (.send [99]),
    .env 0 (.wait (.ok [.conn 1 0 false])), .env 0 (.dispatch (some (.conn 1 0 false))),
    .env 0 (.recv 1 (.ok [99]) true), .env 0 (.openMutex ⟨page, page, .ok ()⟩ true),
    .env 0 (.send 1 (.openMutexOk "c" ⟨0, 40, 2⟩) (.ok ()))]

/-- Two mutexes of one client, on one page. -/
theorem mutexes_isolated_two : ∃ as s r q, Run (Daemon.step .oneLetter) anyStep boot as s ∧
    s.history.mutexes = [r, q] ∧ r.memfd = q.memfd ∧
      Disjoint (r.bytes .oneLetter) (q.bytes .oneLetter) := by
  have hexec : (exec (Daemon.step .oneLetter) (fun _ _ => true) boot
      (startUp ++ handsOver ++ adds ++ answers ++ [.client 0 .read] ++ asks ++ opensMutex ++
        opensAnother)).any (fun s =>
          s.history.mutexes = [⟨0, 0, "b", 0, 0, 0⟩, ⟨0, 0, "c", 0, 40, 0⟩]) := by decide
  obtain ⟨s, hrun, hs⟩ := Run.of_exec_any (fun _ _ h => h) hexec
  have hr : Run (Daemon.step .oneLetter) anyStep boot _ s := hrun.mono fun _ _ _ => trivial
  have hl := of_decide_eq_true hs
  have h := (mutexes_isolated hr ⟨0, 0, "b", 0, 0, 0⟩ (by simp [hl])).2 ⟨0, 0, "c", 0, 40, 0⟩
    (by simp [hl])
  exact ⟨_, s, _, _, hr, hl, rfl, (h.2.2 (.inr (by decide))).resolve_left fun hne => hne rfl⟩

end Daemon
end Garnd
