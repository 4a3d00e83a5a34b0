import Garnd.Isolation
import Garnd.Reports

/- Who owns which descriptor. The welcome thread, the channels and the `SocketSet`s have
   theirs (`Daemon.Held`); the errors on their way to `main` own those they were handed
   over with, and an instance those of its pages (`Daemon.Owned`). So every open
   descriptor has an owner that closes it when it goes, and when an incarnation is over
   there is none left (`Daemon.nothing_left`). -/
namespace Garnd
open Transition

/-- `main` is between two incarnations, or has returned. A process that the circuit breaker
kills does not return. -/
def MainPc.over : MainPc → Bool
  | .start => true
  | .exited e => e ≠ .killed
  | _ => false

theorem MainPc.not_over {m : MainPc} (h : m.settingUp = true) (hne : m ≠ .start) :
    m.over = false := by
  cases m with
  | start => exact absurd rfl hne
  | exited => cases h
  | _ => rfl

namespace Fds
variable {P : Externals} {f g : Fds} {x : RawFd} {h : Holder}

/-- What is held as a page after pages were added was held before, or is one of them. -/
theorem addPages_held {i j : EnvId} {pages : List Page} {k k' : ℕ}
    (ha : f.addPages P i pages k = some (g, k')) (hx : g.HeldBy (.page j) x) :
    f.HeldBy (.page j) x ∨ j = i ∧ ∃ page ∈ pages, page.fd = x := by
  induction pages generalizing f k with
  | nil =>
    cases ha
    exact .inl hx
  | cons page rest ih =>
    simp only [addPages] at ha
    split at ha
    · rename_i f' hf
      obtain ⟨-, hfree, rfl⟩ := openAt_eq_some.mp hf
      rcases ih ha with hx | ⟨rfl, p, hp, hfd⟩
      · rcases (heldBy_open hfree).mp hx with ⟨rfl, hj⟩ | hx
        · cases hj
          exact .inr ⟨rfl, page, List.mem_cons_self, rfl⟩
        · exact .inl hx
      · exact .inr ⟨rfl, p, List.mem_cons_of_mem _ hp, hfd⟩
    · cases ha

end Fds

namespace Daemon
variable {P : Externals} {s t u : Daemon} {i : EnvId} {e e' : Env} {x : RawFd}

/-! ## The sockets of errors -/

/-- What an error holds is in the error channel, which is empty between incarnations and
when `main` has returned. -/
structure Returned (s : Daemon) : Prop where
  queued : ∀ x, s.fds.HeldBy .errors x → x ∈ socketsOf s.errors
  none : s.main.over = true → s.errors = [] ∧ s.errorRx = false

theorem returned_boot : boot.Returned :=
  ⟨by rintro x ⟨⟩, fun _ => ⟨rfl, rfl⟩⟩

/-- The first error goes, with the socket it owns. -/
theorem Returned.dropped {err : DetailedError} {rest : List DetailedError} (h : s.Returned)
    (he : s.errors = err :: rest) (hx : (s.dropError err).HeldBy .errors x) :
    x ∈ socketsOf rest := by
  have hmem {y : RawFd} (hy : s.fds.HeldBy .errors y) : err.socket = some y ∨ y ∈ socketsOf rest := by
    have hq := h.queued y hy
    rw [he, socketsOf, List.mem_filterMap] at hq
    obtain ⟨err', hmem, hsock⟩ := hq
    rcases List.mem_cons.mp hmem with rfl | hmem
    · exact .inl hsock
    · exact .inr (List.mem_filterMap.mpr ⟨err', hmem, hsock⟩)
  cases hsock : err.socket with
  | none =>
    simp only [dropError, hsock] at hx
    exact (hmem hx).resolve_left (by rw [hsock]; rintro ⟨⟩)
  | some y =>
    simp only [dropError, hsock, Fds.heldBy_closeHeld, and_true] at hx
    refine (hmem hx.1).resolve_left fun hxy => hx.2 ?_
    exact (Option.some.inj (hsock.symm.trans hxy)).symm

/-- What is queued when `main` returns goes with `error_rx`. -/
theorem returned_exit (s : Daemon) (e : Exit) : (s.exit e).Returned where
  queued _ hx := absurd rfl (Fds.heldBy_closeAll.mp hx).2
  none _ := ⟨rfl, rfl⟩

theorem Returned.main {a : MainAct} (h : s.Returned) (hm : MainMoves s a t) : t.Returned := by
  cases hm with
  | new hmain =>
    refine ⟨fun x hx => ?_, by rintro ⟨⟩⟩
    have hq := h.queued x hx
    rwa [(h.none (by rw [hmain]; rfl)).1] at hq
  | recv _ he | recvShutdown _ he | recvReload _ he =>
    exact ⟨fun x hx => h.dropped he hx, by rintro ⟨⟩⟩
  | recvTripped _ he =>
    refine ⟨fun x hx => ?_, by rintro ⟨⟩⟩
    have hq := h.queued x hx
    rw [he] at hq
    exact hq
  | drain hmain he =>
    refine ⟨fun x hx => h.dropped he hx, fun hm => ?_⟩
    rw [hmain] at hm
    cases hm
  | reload _ he => exact ⟨h.queued, fun _ => ⟨he, rfl⟩⟩
  | fails | joinExits | success => exact returned_exit s _
  | ahead _ _ hset hne =>
    refine ⟨h.queued, fun hm => ?_⟩
    rw [MainPc.not_over hset hne] at hm
    cases hm
  | _ => exact ⟨h.queued, by rintro ⟨⟩⟩

theorem Returned.welcome {a : WelcomeAct} {w : Welcome} (h : s.Returned) (hheld : s.Held)
    (hm : Welcome.Moves P s.welcome a w) (he : WelcomeEffect P s a u) :
    ∀ x, u.fds.HeldBy .errors x → x ∈ socketsOf u.errors := by
  intro x hx
  cases he with
  | accept _ hfree | dup _ _ hfree =>
    rcases (Fds.heldBy_open hfree).mp hx with ⟨-, hh⟩ | hx
    · cases hh
    · exact h.queued x hx
  | insertSend hpc =>
    rcases (Fds.heldBy_pass (hheld.of_passed hpc)).mp hx with ⟨-, hh⟩ | ⟨-, hx⟩
    · cases hh
    · exact h.queued x hx
  | close => exact h.queued x (Fds.heldBy_closeHeld.mp hx).1
  | sendError =>
    cases hm with
    | sendError ho =>
      rw [socketsOf_append, List.mem_append]
      rcases (Fds.heldBy_handOver (hheld.of_outbox ho)).mp hx with ⟨hsock, -⟩ | ⟨-, hx⟩
      · exact .inr (List.mem_filterMap.mpr ⟨_, List.mem_singleton_self _, hsock⟩)
      · exact .inl (h.queued x hx)
  | recv _ hr =>
    obtain ⟨c, conn, -, -, ⟨rest, -, rfl⟩ | ⟨-, -, rfl⟩⟩ := recvFrom_eq_some hr <;>
      exact h.queued x hx
  | send _ hr =>
    obtain ⟨c, conn, -, -, -, rfl⟩ := sendTo_eq_some hr
    exact h.queued x hx
  | _ => exact h.queued x hx

/-- Between incarnations nobody reports. -/
theorem Returned.silent {new : List DetailedError} (h : s.Returned) (hr : Reported s u new)
    (hmain : s.main.over = true) : u.errors = [] ∧ u.errorRx = false := by
  obtain ⟨hnil, hrx⟩ := h.none hmain
  refine ⟨?_, hr.errorRx.trans hrx⟩
  rw [hr.errors, hnil, List.nil_append]
  by_contra hne
  have hopen := hr.open' hne
  rw [hrx] at hopen
  cases hopen

theorem Returned.step {a : Act} (h : s.Returned) (hheld : s.Held) (hs : s.step P a = some t) :
    t.Returned := by
  obtain ⟨-, hp⟩ := step_party hs
  cases hp with
  | main hm => exact h.main hm
  | @welcome a w u hm he =>
    have hheld' : ∀ x, u.fds.HeldBy .errors x → x ∈ socketsOf u.errors := h.welcome hheld hm he
    have hsilent (hmain : u.main.over = true) : u.errors = [] ∧ u.errorRx = false :=
      h.silent he.reported (he.main_eq ▸ hmain)
    exact ⟨hheld', hsilent⟩
  | @env i b e e' u hi hst he =>
    obtain ⟨hmain', -⟩ := he.frame
    have hsilent (hmain : u.main.over = true) : u.errors = [] ∧ u.errorRx = false :=
      h.silent he.reported (hmain' ▸ hmain)
    refine ⟨fun x hx => ?_, hsilent⟩
    have hx₀ := (he.held_other hheld hi hst .errors (by simp) (by simp) (by simp) x).mp hx
    change x ∈ socketsOf u.errors
    rw [he.reported.errors, socketsOf_append]
    exact List.mem_append_left _ (h.queued x hx₀)
  | client => exact ⟨h.queued, h.none⟩
  | @signal sig _ _ _ _ hm =>
    obtain ⟨shutdown, reload, terminated, reloaded, hshape⟩ := s.handler_shape sig
    cases hm <;> rw [hshape] <;> exact ⟨h.queued, h.none⟩

/-! ## The pages -/

/-- What is held as a page is a page of the instance. -/
def PagesOwned (s : Daemon) : Prop := ∀ i x, s.fds.HeldBy (.page i) x →
  ∃ e page, s.envs i = some e ∧ page ∈ pagesOf e ∧ page.fd = x

theorem PagesOwned.step {a : Act} (h : s.PagesOwned) (hacc : s.Accounted)
    (hstock : ∀ i e, s.envs i = some e → e.Stocked P) (hs : s.step P a = some t) :
    t.PagesOwned := by
  intro i x hx
  -- the page was there before, and its instance has it still
  have kept (hx₀ : s.fds.HeldBy (.page i) x) :
      ∃ e page, t.envs i = some e ∧ page ∈ pagesOf e ∧ page.fd = x := by
    obtain ⟨e, page, hi, hpage, hfd⟩ := h i x hx₀
    obtain ⟨e', hi'⟩ := Option.ne_none_iff_exists'.mp (envs_known hs (i := i) (by rw [hi]; rintro ⟨⟩))
    refine ⟨e', page, hi', ?_, hfd⟩
    cases env_change hs hi' with
    | same hj hsame =>
      cases hi.symm.trans hj
      rwa [pagesOf_same hsame]
    | made hnone =>
      rw [hi] at hnone
      cases hnone
    | @thread b _ hj hst =>
      cases hi.symm.trans hj
      rcases (Env.step_moves hst).pages (hacc.instances.sound _ e hi).mutexes
        (hstock _ e hi).unmade with hpre | ⟨panics, rfl⟩
      · exact hpre.subset hpage
      · obtain ⟨-, hp⟩ := step_party hs
        cases hp with
        | env _ _ he =>
          cases he with
          | plain hb => cases hb
          | leave =>
            have hclosed := (Fds.heldBy_closeAll.mp (Fds.heldBy_closeNumbers.mp hx).1).2
            exact absurd rfl hclosed
  by_cases ha : ∃ j os serializes, a = .env j (.openMutex os serializes)
  · obtain ⟨j, os, serializes, rfl⟩ := ha
    obtain ⟨-, hp⟩ := step_party hs
    cases hp with
    | @env _ _ e e' u hj hst he =>
      cases he with
      | plain hb => cases hb
      | openMutex hadd =>
        rcases Fds.addPages_held hadd hx with hx₀ | ⟨rfl, page, hpage, hfd⟩
        · exact kept hx₀
        · exact ⟨e', page, Function.update_self .., List.mem_of_mem_drop hpage, hfd⟩
  · obtain ⟨file, hfile⟩ := Fds.heldBy_iff.mp hx
    have hkeep := (keepsPages_step hacc hs fun j os serializes hb => ha ⟨j, os, serializes, hb⟩).1
    have hconn := (hacc.step hs).connected
    cases file with
    | conn c => exact absurd hfile (hconn.sockets x c i)
    | memfd k => exact kept (.of_eq (hkeep x k _ hfile))

/-! ## Every descriptor -/

/-- The owner is where its descriptor says, and has it. -/
def OwnedBy (s : Daemon) (x : RawFd) : Holder → Prop
  | .welcome => x ∈ s.welcome.held
  | .errors => x ∈ socketsOf s.errors
  | .queue i => x ∈ waitingAt s.envs i
  | .socket i => x ∈ socketsAt s.envs i
  | .page i => ∃ e page, s.envs i = some e ∧ page ∈ pagesOf e ∧ page.fd = x

/-- What the table rests on. -/
structure Owned (P : Externals) (s : Daemon) : Prop where
  agreeing : s.Agreeing
  isolated : s.Isolated P
  returned : s.Returned
  pages : s.PagesOwned

theorem owned_boot (P : Externals) : boot.Owned P :=
  ⟨agreeing_boot, isolated_boot P, returned_boot, by rintro i x ⟨⟩⟩

theorem Owned.step {a : Act} (h : s.Owned P) (hs : s.step P a = some t) : t.Owned P where
  agreeing := h.agreeing.step hs
  isolated := h.isolated.step h.agreeing hs
  returned := h.returned.step h.agreeing.settled.held hs
  pages := h.pages.step h.agreeing.settled.toAccounted h.isolated.stocked hs

theorem Owned.run {ok : Daemon → Act → Prop} {as : List Act} (hr : Run (Daemon.step P) ok boot as s) :
    s.Owned P :=
  hr.invariant (I := Owned P) (fun _ _ _ _ h hs => h.step hs) (owned_boot P)

theorem Owned.ownedBy {d : Descriptor} (h : s.Owned P) (hx : s.fds x = some d) :
    s.OwnedBy x d.holder := by
  obtain ⟨file, holder⟩ := d
  have hheld := h.agreeing.settled.held
  cases holder with
  | welcome => exact (hheld.welcome x).mpr (.of_eq hx)
  | errors => exact h.returned.queued x (.of_eq hx)
  | queue i => exact (hheld.queue i x).mpr (.of_eq hx)
  | socket i => exact (hheld.sockets i x).mpr (.of_eq hx)
  | page i => exact h.pages i x (.of_eq hx)

/-- A thread that has ended has closed what it had. -/
theorem Owned.ended (h : s.Owned P) (hend : ∀ i e, s.envs i = some e → e.pc = .ended) :
    (∀ i, waitingAt s.envs i = []) ∧ (∀ i, socketsAt s.envs i = ∅) ∧
      ∀ i e, s.envs i = some e → pagesOf e = [] := by
  refine ⟨fun i => ?_, fun i => ?_, fun i e hi => ?_⟩
  · cases hi : s.envs i with
    | none => simp [waitingAt, hi]
    | some e =>
      have hshut := h.agreeing.shut i e hi
      have hpc := hend i e hi
      rw [waitingAt_eq hi, Env.waiting, hpc, hshut.empty (hshut.ended hpc)]
      rfl
  · cases hi : s.envs i with
    | none => simp [socketsAt, hi]
    | some e =>
      rw [socketsAt_eq hi]
      exact ((h.agreeing.settled.instances.sound i e hi).loc.empty (by rw [hend i e hi]; rfl)).1
  · rw [pagesOf, (h.isolated.stocked i e hi).cleared (by rw [hend i e hi]; rfl)]
    rfl

/-- With all threads over and the error channel empty nothing is open. -/
theorem Owned.closed (h : s.Owned P) (hq : s.Quit) (he : s.errors = []) (x : RawFd) :
    s.fds x = none := by
  obtain ⟨hwait, hsock, hpages⟩ := h.ended fun i e hi => (hq.envs i e hi).1
  cases hx : s.fds x with
  | none => rfl
  | some d =>
    have hown := h.ownedBy hx
    cases hholder : d.holder with
    | welcome =>
      rw [hholder, OwnedBy, Welcome.held_eq hq.welcome.2, hq.welcome.1] at hown
      cases hown
    | errors =>
      rw [hholder, OwnedBy, he] at hown
      cases hown
    | queue i =>
      rw [hholder, OwnedBy, hwait] at hown
      cases hown
    | socket i =>
      rw [hholder, OwnedBy, hsock] at hown
      exact absurd hown (Finset.notMem_empty x)
    | page i =>
      rw [hholder] at hown
      obtain ⟨e, page, hi, hpage, -⟩ := hown
      rw [hpages i e hi] at hpage
      cases hpage

/-- In every run each open descriptor has its owner: the welcome thread, for the request
in hand or in an error it has still to send; an error in the channel to `main`; the
channel of an instance, its `SocketSet` or its pages. And where no destructor panics, none
is open between two incarnations, and when `main` has returned, wherever it does. -/
theorem nothing_left {as : List Act} (hr : Run (Daemon.step P) CleanDrops boot as s) :
    (∀ x d, s.fds x = some d → s.OwnedBy x d.holder) ∧
      (s.main.over = true → ∀ x, s.fds x = none) := by
  have h : s.Owned P := .run hr
  obtain ⟨hi, ho, hrep⟩ := Orders.run hr
  refine ⟨fun x d hx => h.ownedBy hx, fun hover x => ?_⟩
  obtain ⟨hnil, hrx⟩ := h.returned.none hover
  exact h.closed (hrep.quit hi ho (hrep.rx hrx)) hnil x

/-- The daemon stops at a `SIGTERM` while a client is attached. -/
def stopsAttached : List Act :=
  startUp ++ handsOver ++ adds ++ answers ++ [.signal .sigterm .main false,
    .welcome (.poll (.ok ⟨.readable, .none, .none, .none⟩)), .welcome (.shutdownRead (.ok ())),
    .welcome (.sendError .shutdownSignal), .main (.recv false), .welcome .dropLocals,
    .welcome (.teardown (some 0)), .welcome (.dropWrite true), .welcome .dropFields,
    .env 0 (.wait (.ok [.drop])), .env 0 (.dispatch (some .drop)), .env 0 .dropRead,
    .env 0 (.leave false), .env 0 .dropSync, .env 0 .dropListener, .welcome (.join false),
    .welcome (.teardown none), .main .join, .main .drain]

/-- `systemd` is not told that the daemon listens, and the thread of a new instance has ended
before the socket of its client is passed to it: the error that owns the socket is in the
channel when `main` returns. -/
def returnsEarly : List Act :=
  startUp.dropLast ++ [.main (.notifyListening false)] ++ handsOver.take 8 ++
    [.env 0 (.allocNew (.error 12)), .env 0 (.sendError (.sys .sysconf 12)),
      .env 0 (.closeSend true), .env 0 (.closeWrite true), .env 0 (.leave false), .env 0 .dropSync,
      .env 0 .dropListener, .welcome (.insertSend false), .welcome (.send (.ok ())),
      .welcome (.dropWrite true), .welcome .dropFields, .welcome (.join false), .welcome (.close 0),
      .welcome (.sendError (.socketSendFailed 1)), .signal .sigterm .main false,
      .welcome (.poll (.ok ⟨.readable, .none, .readable, .none⟩)), .welcome (.shutdownRead (.ok ())),
      .welcome (.sendError .shutdownSignal), .welcome .dropLocals, .welcome (.teardown none)]

/-- The first run ends with a client attached, the second with the socket of one in the error
channel. -/
theorem nothing_left_attached :
    (∃ s, Run (Daemon.step .oneLetter) CleanDrops boot stopsAttached s ∧
      s.history.attached = [(0, 0)] ∧ s.main = .exited .success ∧ ∀ x, s.fds x = none) ∧
    ∃ s t, Run (Daemon.step .oneLetter) CleanDrops boot returnsEarly s ∧
      s.fds 1 = some ⟨.conn 0, .errors⟩ ∧ s.step .oneLetter (.main .join) = some t ∧
      t.main = .exited .failure ∧ ∀ x, t.fds x = none := by
  constructor
  · have hexec : (exec (Daemon.step .oneLetter) (fun _ a => a.cleanDrop) boot stopsAttached).any
        (fun s => s.history.attached = [(0, 0)] ∧ s.main = .exited .success) := by decide
    obtain ⟨s, hr, hp⟩ := Run.of_exec_any (fun _ _ => cleanDrops_of) hexec
    obtain ⟨hatt, hexit⟩ := of_decide_eq_true hp
    exact ⟨s, hr, hatt, hexit, (nothing_left hr).2 (by rw [hexit]; rfl)⟩
  · have hexec : (exec (Daemon.step .oneLetter) (fun _ a => a.cleanDrop) boot returnsEarly).any
        (fun s => (s.step .oneLetter (.main .join)).any fun t =>
          s.fds 1 = some ⟨.conn 0, .errors⟩ ∧ t.main = .exited .failure) := by decide
    obtain ⟨s, hr, hp⟩ := Run.of_exec_any (fun _ _ => cleanDrops_of) hexec
    obtain ⟨t, ht, hp⟩ := (Option.any_eq_true _ _).mp hp
    obtain ⟨hfd, hexit⟩ := of_decide_eq_true hp
    have hrun := hr.snoc (cleanDrops_of rfl) ht
    exact ⟨s, t, hr, hfd, ht, hexit, (nothing_left hrun).2 (by rw [hexit]; rfl)⟩

end Daemon
end Garnd
