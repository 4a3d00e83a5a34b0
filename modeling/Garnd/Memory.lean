import Garnd.Isolation
import Garnd.Progress
import Garnd.ShmUsage

/- What clients can make the daemon map. An instance maps memory for the mutexes its
   clients name, once for each name, and for those whose constructor failed. A request for a
   mutex that exists costs nothing. While an instance has a client, what it has handed out
   stays mapped. -/
namespace Garnd
open ShmAllocator (Modest)
open Transition

/-- The bytes one mutex may take. -/
def Externals.mutexBytes (P : Externals) : ℕ := P.pthreadMutex.size + (P.pthreadMutex.align - 1)

/-- The constructor that a step of the thread has called and that failed. -/
def Env.failed (P : Externals) (e : Env) : EnvAct → List DetailedError
  | .openMutex os _ =>
    match e.pc, e.shm, os.constructor with
    | .openMutex _ name _, some shm, .error err =>
      if (findOrConstruct P shm name os).slot.isSome then [err] else []
    | _, _, _ => []
  | _ => []

namespace ShmAllocator

theorem Modest.mono {a : ShmAllocator} {n m d : ℕ} (h : Modest a (List.replicate n d))
    (hle : n ≤ m) : Modest a (List.replicate m d) := by
  obtain ⟨k, rfl⟩ := Nat.exists_eq_add_of_le hle
  rw [← List.replicate_append_replicate]
  exact h.append _

/-- One more, or none. -/
theorem Modest.findOrConstruct {P : Externals} {shm : ShmAllocator} {n : ℕ}
    (h : Modest shm (List.replicate n P.mutexBytes)) (name : String) (os : ConstructCalls) :
    Modest (Env.findOrConstruct P shm name os).self (List.replicate n P.mutexBytes) ∨
      (Env.findOrConstruct P shm name os).slot.isSome = true ∧
        Modest (Env.findOrConstruct P shm name os).self (List.replicate (n + 1) P.mutexBytes) := by
  unfold Env.findOrConstruct
  split
  · exact .inl h
  · have hstep := h.step (c := ⟨name, P.pthreadMutex, os⟩) rfl
    cases hslot : (shm.constructInShm name P.pthreadMutex os).slot with
    | none =>
      simp only [demand, hslot, List.append_nil] at hstep
      exact .inl hstep
    | some slot =>
      simp only [demand, hslot] at hstep
      rw [List.replicate_succ']
      exact .inr ⟨rfl, hstep⟩
  · exact .inl h
  · exact .inl h

end ShmAllocator

/-- The instance has mapped no more than its mutexes and `failed` constructors account for. -/
def Env.Mapped (P : Externals) (e : Env) (failed : List DetailedError) : Prop :=
  ∀ shm, e.shm = some shm →
    Modest shm (List.replicate (e.constructed.length + failed.length) P.mutexBytes)

/-- `handle_open_mutex`: what is mapped is for a name that is constructed now, or for a
constructor that failed. -/
theorem Env.Mapped.openMutex {P : Externals} {e e' : Env} {failed : List DetailedError}
    {shm : ShmAllocator} {fd : RawFd} {name : String} {rest : List Event}
    {os : ShmAllocator.ConstructCalls} {serializes : Bool}
    (h : e.Mapped P failed) (hpc : e.pc = .openMutex fd name rest) (hshm : e.shm = some shm)
    (hs : e'.shm = some (findOrConstruct P shm name os).self)
    (hc : e'.constructed = if ranConstructor os (findOrConstruct P shm name os)
      then e.constructed ++ [name] else e.constructed) :
    e'.Mapped P (failed ++ e.failed P (.openMutex os serializes)) := by
  intro shm' hshm'
  cases hs.symm.trans hshm'
  have hlen : e.constructed.length ≤ e'.constructed.length := by
    rw [hc]
    split
    · simp
    · exact le_rfl
  rw [List.length_append]
  rcases (h shm hshm).findOrConstruct name os with hold | ⟨hslot, hnew⟩
  · exact hold.mono (by omega)
  · refine hnew.mono ?_
    cases hctor : os.constructor with
    | ok =>
      have hran : ranConstructor os (findOrConstruct P shm name os) = true := by
        simp [ranConstructor, hslot, hctor, Except.isOk, Except.toBool]
      rw [hc, if_pos hran, List.length_append, List.length_singleton]
      omega
    | error err =>
      simp only [Env.failed, hpc, hshm, hctor, hslot, if_true, List.length_singleton]
      omega

theorem Env.Mapped.step {P : Externals} {e e' : Env} {b : EnvAct} {failed : List DetailedError}
    (h : e.Mapped P failed) (hs : e.step P b = some e') : e'.Mapped P (failed ++ e.failed P b) := by
  cases Env.step_moves hs with
  | openMutex _ hpc hshm | openMutexPanics _ hpc hshm => exact h.openMutex hpc hshm rfl rfl
  | allocNew _ _ hnew =>
    rintro shm ⟨⟩
    exact ShmAllocator.modest_new hnew _
  | leave => rintro shm ⟨⟩
  | _ =>
    intro shm hshm
    rw [Env.failed.eq_def, List.append_nil]
    exact h shm hshm

/-- An instance with clients has its allocator. -/
def Env.Furnished (e : Env) : Prop := e.sockets ≠ ∅ → e.shm ≠ none

theorem Env.Furnished.thread {P : Externals} {e e' : Env} {b : EnvAct} (h : e.Furnished)
    (hfit : e.Fit) (hs : e.step P b = some e') : e'.Furnished := by
  cases Env.step_moves hs with
  | allocNew | openMutex | openMutexPanics => exact fun _ => Option.some_ne_none _
  | lastGone | leave => exact fun hne => absurd rfl hne
  | oneGone => exact fun hne => h fun hnone => hne (by rw [hnone, Finset.erase_empty])
  | addEpoll _ hpc => exact fun _ => hfit.equipped (by rw [hpc]; simp) (by rw [hpc]; rfl)
  | _ => exact h

theorem Env.Furnished.owner {e e' : Env} (h : e.Furnished) (hm : e.OwnerMoves e') :
    e'.Furnished := by
  cases hm with
  | insertSend hs | insertWrite hs | dropWrite hs =>
    obtain ⟨_, -, rfl⟩ := Option.map_eq_some_iff.mp hs
    exact h
  | _ => exact h

namespace Daemon
variable {P : Externals} {s t : Daemon} {i : EnvId}

/-- The constructors of the instance that failed. -/
def failedOf (P : Externals) (i : EnvId) (s : Daemon) : Act → List DetailedError
  | .env j b => if j = i then (s.envs i).elim [] fun e => e.failed P b else []
  | _ => []

theorem mapped_step {a : Act} {failed : List DetailedError}
    (h : ∀ e, s.envs i = some e → e.Mapped P failed) (hs : s.step P a = some t) :
    ∀ e, t.envs i = some e → e.Mapped P (failed ++ failedOf P i s a) := by
  intro e' hi
  cases env_change hs hi with
  | @same _ e hj hsame =>
    intro shm hshm
    have hold := h e hj shm (hsame.shm ▸ hshm)
    rw [hsame.constructed]
    exact hold.mono (by rw [List.length_append]; omega)
  | thread hj hst =>
    rw [failedOf, if_pos rfl, hj, Option.elim_some]
    exact (h _ hj).step hst
  | made _ he =>
    subst he
    rintro shm ⟨⟩

/-- In every run, what an instance has mapped is at most twice what the mutexes its
clients have named take, each name once, and those whose constructors failed, and one
page. -/
theorem memory_bounded {as : List Act} (hr : Run (Daemon.step P) anyStep boot as s) :
    ∀ i e shm, s.envs i = some e → e.shm = some shm →
      e.constructed.Nodup ∧
      shm.pageSize * shm.pages.length ≤ 2 * ((e.constructed.length +
        (collect (Daemon.step P) (failedOf P i) boot as).length) * P.mutexBytes) + shm.pageSize := by
  intro i e shm hi hshm
  have h : ∀ e, s.envs i = some e →
      e.Mapped P ([] ++ collect (Daemon.step P) (failedOf P i) boot as) :=
    hr.invariant_collect (I := fun s failed => ∀ e, s.envs i = some e → e.Mapped P failed)
      (fun _ _ _ _ _ h hs => mapped_step h hs) (by rintro e ⟨⟩)
  have hm := h e hi shm hshm
  have hinst : s.Instances := instances_boot.run hr
  have hle := hm.frugal.le
  rw [List.sum_replicate_nat, List.nil_append] at hle
  exact ⟨(hinst.sound i e hi).mutexes.once, hle⟩

/-- The client of `startUp`, `handsOver`, `adds` and `answers` asks for the mutex `b`
twice. -/
def asksTwice : List Act :=
  startUp ++ handsOver ++ adds ++ answers ++ [.client 0 .read] ++ asks ++ opensMutex ++
    [.env 0 (.dispatch none), .client 0 .read] ++ asks ++ opensMutex

theorem memory_bounded_twice : ∃ s e shm, Run (Daemon.step .oneLetter) anyStep boot asksTwice s ∧
    s.envs 0 = some e ∧ e.shm = some shm ∧ e.constructed = ["b"] ∧
    shm.pageSize * shm.pages.length ≤ 2 * Externals.oneLetter.mutexBytes + shm.pageSize := by
  have hexec : (exec (Daemon.step .oneLetter) (fun _ _ => true) boot asksTwice).any (fun s =>
      (s.envs 0).any fun e => e.shm.isSome ∧ e.constructed = ["b"]) := by decide
  have hnone : (collect (Daemon.step .oneLetter) (failedOf .oneLetter 0) boot asksTwice).length = 0 := by decide
  obtain ⟨s, hr, hs⟩ := Run.of_exec_any (fun _ _ _ => trivial) hexec
  obtain ⟨e, hi, he⟩ := (Option.any_eq_true _ _).mp hs
  obtain ⟨hsome, hb⟩ := of_decide_eq_true he
  obtain ⟨shm, hshm⟩ := Option.isSome_iff_exists.mp hsome
  have hle := (memory_bounded hr 0 e shm hi hshm).2
  rw [hnone, hb] at hle
  refine ⟨s, e, shm, hr, hi, hshm, hb, ?_⟩
  simpa using hle

theorem furnished_run {as : List Act} (hr : Run (Daemon.step P) anyStep boot as s) :
    ∀ i e, s.envs i = some e → e.Fit ∧ e.Furnished := by
  refine hr.invariant (I := fun s => ∀ i e, s.envs i = some e → e.Fit ∧ e.Furnished)
    (fun s a t _ h hs i e' hi' => ?_) (by rintro i e ⟨⟩)
  obtain ⟨e, hi, hm⟩ | ⟨e, b, -, hi, hst⟩ | ⟨-, name, rfl⟩ := env_moved hs hi'
  · exact ⟨(h i e hi).1.owner hm, (h i e hi).2.owner hm⟩
  · exact ⟨(h i e hi).1.thread hst, (h i e hi).2.thread (h i e hi).1 hst⟩
  · exact ⟨.of_new name i, fun hne => absurd rfl hne⟩

/-- In every run, while an instance has a client, the mutexes it has handed out are where
the messages said: the page is open, and the name is registered on it at the offset. -/
theorem memory_kept {as : List Act} (hr : Run (Daemon.step P) anyStep boot as s) :
    ∀ r ∈ s.history.mutexes, ∀ y c, s.fds.Own r.instance' y c →
      ∃ e shm fd, s.envs r.instance' = some e ∧ e.shm = some shm ∧
        shm.At r.name ⟨r.page, r.offset, fd⟩ ∧
        s.fds fd = some ⟨.memfd r.memfd, .page r.instance'⟩ := by
  intro r hmem y c hy
  have hagree := (isolated_run hr).1
  obtain ⟨e, hi, -, hplace⟩ := (hagree.agrees.placed r hmem).registered
  have hsock : y ∈ e.sockets := (hagree.settled.held.of_sockets hi).mpr (.of_eq hy)
  obtain ⟨shm, hshm⟩ := Option.ne_none_iff_exists'.mp
    ((furnished_run hr r.instance' e hi).2 (Finset.ne_empty_of_mem hsock))
  obtain ⟨fd, hat, hfd⟩ := hplace shm hshm
  exact ⟨e, shm, fd, hi, hshm, hat, hfd⟩

/-- The client that was handed the mutex `b` is still there. -/
theorem memory_kept_mutex : ∃ s e shm fd, Run (Daemon.step .oneLetter) anyStep boot
    (startUp ++ handsOver ++ adds ++ answers ++ [.client 0 .read] ++ asks ++ opensMutex) s ∧
    s.history.mutexes = [⟨0, 0, "b", 0, 0, 0⟩] ∧ s.envs 0 = some e ∧ e.shm = some shm ∧
    shm.At "b" ⟨0, 0, fd⟩ ∧ s.fds fd = some ⟨.memfd 0, .page 0⟩ := by
  have hexec : (exec (Daemon.step .oneLetter) (fun _ _ => true) boot
      (startUp ++ handsOver ++ adds ++ answers ++ [.client 0 .read] ++ asks ++
        opensMutex)).any (fun s => s.history.mutexes = [⟨0, 0, "b", 0, 0, 0⟩] ∧
          s.fds 1 = some ⟨.conn 0, .socket 0⟩) := by decide
  obtain ⟨s, hr, hs⟩ := Run.of_exec_any (fun _ _ _ => trivial) hexec
  obtain ⟨hl, hown⟩ := of_decide_eq_true hs
  obtain ⟨e, shm, fd, hi, hshm, hat, hfd⟩ :=
    memory_kept hr ⟨0, 0, "b", 0, 0, 0⟩ (by simp [hl]) 1 0 hown
  exact ⟨s, e, shm, fd, hr, hl, hi, hshm, hat, hfd⟩

end Daemon
end Garnd
