import Garnd.Daemon
import Garnd.Lib.Monitor
import Garnd.SignalEvents

/- When a handler runs. `setup_events` sets both statics before it installs the first
   handler, and a handler stays installed. So a handler never finds a static at -1: the
   branches that give up on an early signal are never taken, `_exit` among them
   (`Armed`). And the event a static denotes was created with a count of zero and is
   written to by the handlers alone, so its count is the number of signals handled
   (`Counted`). -/
namespace Garnd
open Transition

/-- The handlers that are installed, and how often `termination_or_reload_handler` was
run with either argument. A signal without a handler has its default action, which ends
the process. -/
structure Dispositions where
  sigterm : Bool
  sigint : Bool
  sighup : Bool
  handled : Bool → ℕ

def Dispositions.default : Dispositions := ⟨false, false, false, fun _ => 0⟩

def Dispositions.handles (d : Dispositions) : Signal → Bool
  | .sigterm => d.sigterm
  | .sigint => d.sigint
  | .sighup => d.sighup

namespace Process
variable {p q : Process}

/-- The kernel installs what `sigaction` is given, and runs a handler where one is
installed. `reload_signal_handler` is that of `SIGHUP`. -/
def disposing : Monitor Process Dispositions ProcessAct Signal
  | p, .sigaction (.ok ()), _, _, d =>
    match p.pc with
    | .sigterm _ _ => some { d with sigterm := true }
    | .sigint _ _ => some { d with sigint := true }
    | .sighup _ _ => some { d with sighup := true }
    | _ => some d
  | _, .signal isReload, sig, _, d =>
    if d.handles sig = true ∧ isReload = decide (sig = .sighup) then
      some { d with handled := Function.update d.handled isReload (d.handled isReload + 1) }
    else none
  | _, _, _, _, d => some d

/-- The static a handler reads. -/
def static (p : Process) (isReload : Bool) : Option RawFd :=
  if isReload then p.reloadEvent else p.shutdownEvent

/-! ## No handler is early -/

/-- Where a handler is installed both statics are set, and how far a call has come. -/
structure Armed (p : Process) (d : Dispositions) : Prop where
  statics : ∀ sig, d.handles sig = true → p.shutdownEvent ≠ none ∧ p.reloadEvent ≠ none
  sigint : ∀ s r, p.pc = .sigint s r → d.handles .sigterm = true
  sighup : ∀ s r, p.pc = .sighup s r → d.handles .sigterm = true ∧ d.handles .sigint = true
  results : ∀ s r, .ok (s, r) ∈ p.results → ∀ sig, d.handles sig = true
  running : p.exited = false

theorem armed_boot (inherited : RawFd → Bool) : Armed (boot inherited) .default where
  statics sig hd := by cases sig <;> cases hd
  sigint s r hpc := by cases hpc
  sighup s r hpc := by cases hpc
  results s r hres := by cases hres
  running := rfl

theorem Armed.kept {d : Dispositions} (h : Armed p d) (hk : Keeps p q) (sig : Signal)
    (hd : d.handles sig = true) : q.shutdownEvent ≠ none ∧ q.reloadEvent ≠ none := by
  obtain ⟨hs, hr⟩ := h.statics sig hd
  obtain ⟨s, hs⟩ := Option.ne_none_iff_exists'.mp hs
  obtain ⟨r, hr⟩ := Option.ne_none_iff_exists'.mp hr
  rw [(hk.shutdown s hs).1, (hk.reload r hr).1]
  exact ⟨by simp, by simp⟩

/-- A step that installs nothing. -/
theorem Armed.keep {d : Dispositions} (h : Armed p d) (hk : Keeps p q)
    (hi : ∀ s r, q.pc = .sigint s r → p.pc = .sigint s r)
    (hh : ∀ s r, q.pc = .sighup s r → p.pc = .sighup s r)
    (hres : ∀ s r, .ok (s, r) ∈ q.results → .ok (s, r) ∈ p.results)
    (hrun : q.exited = false) : Armed q d where
  statics := h.kept hk
  sigint s r hpc := h.sigint s r (hi s r hpc)
  sighup s r hpc := h.sighup s r (hh s r hpc)
  results s r hq := h.results s r (hres s r hq)
  running := hrun

theorem Armed.static_ne {d : Dispositions} {sig : Signal} (h : Armed p d)
    (hd : d.handles sig = true) (isReload : Bool) : p.static isReload ≠ none := by
  obtain ⟨hs, hr⟩ := h.statics sig hd
  cases isReload
  · exact hs
  · exact hr

theorem Ledger.static (h : Ledger p) {isReload : Bool} {fd : RawFd}
    (hfd : p.static isReload = some fd) : ∃ k, p.fds fd = some (.eventfd k) := by
  cases isReload
  · exact h.shutdown_event hfd
  · exact h.reload_event hfd

theorem handler_counts {isReload : Bool} {fd : RawFd} {k : ℕ} (hfd : p.static isReload = some fd)
    (hk : p.fds fd = some (.eventfd k)) : p.terminationOrReloadHandler isReload =
      { p with counter := Function.update p.counter k (p.counter k + 1) } := by
  unfold terminationOrReloadHandler
  rw [show (if isReload = true then p.reloadEvent else p.shutdownEvent) = some fd from hfd]
  simp only [hk]

/-- A handler that is installed counts up the event of its static, and does no more. -/
theorem Armed.handler {d : Dispositions} (h : Armed p d) (hl : Ledger p) {sig : Signal}
    (hd : d.handles sig = true) (isReload : Bool) :
    ∃ fd k, p.static isReload = some fd ∧ p.fds fd = some (.eventfd k) ∧
      p.terminationOrReloadHandler isReload =
        { p with counter := Function.update p.counter k (p.counter k + 1) } := by
  obtain ⟨fd, hfd⟩ := Option.ne_none_iff_exists'.mp (h.static_ne hd isReload)
  obtain ⟨k, hk⟩ := hl.static hfd
  exact ⟨fd, k, hfd, hk, handler_counts hfd hk⟩

/-- `sigaction` installs the handler whose turn it is; both statics are set by then. -/
theorem Armed.sigaction {d d' : Dispositions} {sig : Signal} (h : Armed p d) (hh : Handles p)
    (hs : p.step (.sigaction (.ok ())) = some q)
    (hw : disposing p (.sigaction (.ok ())) sig q d = some d') : Armed q d' := by
  have hset (s r : RawFd) (hsh : p.pc.shutdownShared = some s) (hrl : p.pc.reloadShared = some r) :
      p.shutdownEvent ≠ none ∧ p.reloadEvent ≠ none := by
    rw [hh.shutdown s hsh, hh.reload r hrl]
    exact ⟨by simp, by simp⟩
  unfold step at hs
  rw [if_neg (by simp [h.running])] at hs
  cases hpc : p.pc <;> simp only [hpc, Option.some.injEq, reduceCtorEq] at hs <;>
    simp only [disposing, hpc, Option.some.injEq] at hw <;> subst hs hw
  · rename_i s r
    have hboth := hset s r (by rw [hpc]; rfl) (by rw [hpc]; rfl)
    refine ⟨fun _ _ => hboth, fun _ _ _ => rfl, by rintro _ _ ⟨⟩, fun s' r' hres sig' => ?_, h.running⟩
    have hold := h.results s' r' hres sig'
    cases sig' <;> first | rfl | exact hold
  · rename_i s r
    have hboth := hset s r (by rw [hpc]; rfl) (by rw [hpc]; rfl)
    refine ⟨fun _ _ => hboth, by rintro _ _ ⟨⟩, fun _ _ _ => ⟨h.sigint s r hpc, rfl⟩,
      fun s' r' hres sig' => ?_, h.running⟩
    have hold := h.results s' r' hres sig'
    cases sig' <;> first | rfl | exact hold
  · rename_i s r
    have hboth := hset s r (by rw [hpc]; rfl) (by rw [hpc]; rfl)
    obtain ⟨hterm, hint⟩ := h.sighup s r hpc
    refine ⟨fun _ _ => hboth, by rintro _ _ ⟨⟩, by rintro _ _ ⟨⟩, fun _ _ _ sig' => ?_, h.running⟩
    cases sig'
    · exact hterm
    · exact hint
    · rfl

/-- The invariant. -/
theorem Armed.step {a : ProcessAct} {sig : Signal} {d d' : Dispositions} (h : Armed p d)
    (hl : Ledger p) (hh : Handles p) (hs : p.step a = some q)
    (hw : disposing p a sig q d = some d') : Armed q d' := by
  have hk := Keeps.step hl (step_moves hs)
  cases a with
  | sigaction r =>
    cases r with
    | ok => exact h.sigaction hh hs hw
    | error e =>
      cases hw
      unfold Process.step at hs
      rw [if_neg (by simp [h.running])] at hs
      cases hpc : p.pc <;> simp only [hpc, Option.some.injEq, reduceCtorEq] at hs <;> subst hs <;>
        exact h.keep hk (by rintro _ _ ⟨⟩) (by rintro _ _ ⟨⟩) (by simp [ret]) h.running
  | signal isReload =>
    have hstep : p.step (.signal isReload) = some (p.terminationOrReloadHandler isReload) :=
      if_neg (by simp [h.running])
    simp only [disposing, Option.ite_none_right_eq_some, Option.some.injEq] at hw
    obtain ⟨⟨hd, -⟩, rfl⟩ := hw
    obtain ⟨fd, k, -, -, heq⟩ := h.handler hl hd isReload
    rw [hstep, heq] at hs
    cases hs
    exact { h.keep hk (fun _ _ => id) (fun _ _ => id) (fun _ _ => id) h.running with }
  | call | openOther | closeOther =>
    cases hw
    unfold Process.step at hs
    rw [if_neg (by simp [h.running])] at hs
    simp only [Option.ite_none_right_eq_some, Option.some.injEq] at hs
    obtain ⟨-, rfl⟩ := hs
    first
      | exact h.keep hk (fun _ _ => id) (fun _ _ => id) (fun _ _ => id) h.running
      | exact h.keep hk (by rintro _ _ ⟨⟩) (by rintro _ _ ⟨⟩) (fun _ _ => id) h.running
  | eventfd r =>
    cases hw
    unfold Process.step at hs
    rw [if_neg (by simp [h.running])] at hs
    cases hpc : p.pc <;> cases r <;>
      simp only [hpc, Option.ite_none_right_eq_some, Option.some.injEq, reduceCtorEq] at hs
    · subst hs
      exact h.keep hk (by rintro _ _ ⟨⟩) (by rintro _ _ ⟨⟩) (by simp [ret]) h.running
    · obtain ⟨-, rfl⟩ := hs
      exact h.keep hk (by rintro _ _ ⟨⟩) (by rintro _ _ ⟨⟩) (fun _ _ => id) h.running
    · subst hs
      exact h.keep hk (by rintro _ _ ⟨⟩) (by rintro _ _ ⟨⟩) (by simp [ret, Process.close]) h.running
    · obtain ⟨-, rfl⟩ := hs
      exact h.keep hk (by rintro _ _ ⟨⟩) (by rintro _ _ ⟨⟩) (fun _ _ => id) h.running
  | exchange =>
    cases hw
    unfold Process.step at hs
    rw [if_neg (by simp [h.running])] at hs
    cases hpc : p.pc <;> simp only [hpc, reduceCtorEq] at hs <;> split at hs <;>
      simp only [Option.some.injEq] at hs <;> subst hs <;>
      exact h.keep hk (by rintro _ _ ⟨⟩) (by rintro _ _ ⟨⟩) (fun _ _ => id) h.running

/-! ## Every signal is counted -/

/-- An event that no static denotes was never written to, and the one a static denotes
has counted as many signals as were handled. -/
structure Counted (p : Process) (handled : Bool → ℕ) : Prop where
  created : ∀ fd k, p.fds fd = some (.eventfd k) → k < p.created
  inj : ∀ fd fd' k, p.fds fd = some (.eventfd k) → p.fds fd' = some (.eventfd k) → fd = fd'
  fresh : ∀ k, p.created ≤ k → p.counter k = 0
  owned : ∀ fd k, fd ∈ p.pc.owned → p.fds fd = some (.eventfd k) → p.counter k = 0
  unset : ∀ isReload, p.static isReload = none → handled isReload = 0
  counter : ∀ isReload fd k, p.static isReload = some fd → p.fds fd = some (.eventfd k) →
    p.counter k = handled isReload

theorem counted_boot (inherited : RawFd → Bool) : Counted (boot inherited) fun _ => 0 where
  created fd k hfd := by
    simp only [boot] at hfd
    split at hfd <;> cases hfd
  inj fd fd' k hfd := by
    simp only [boot] at hfd
    split at hfd <;> cases hfd
  fresh _ _ := rfl
  owned fd k hfd := by cases hfd
  unset _ _ := rfl
  counter isReload fd k hfd := by cases isReload <;> cases hfd

/-- A step that creates no event and writes to none: a static keeps its number or is
given that of an event the call owns. -/
theorem Counted.keep {handled : Bool → ℕ} (h : Counted p handled) (hcreated : q.created = p.created)
    (hcounter : q.counter = p.counter)
    (hfds : ∀ fd k, q.fds fd = some (.eventfd k) → p.fds fd = some (.eventfd k))
    (howned : ∀ fd ∈ q.pc.owned, fd ∈ p.pc.owned)
    (hstatic : ∀ isReload, q.static isReload = p.static isReload ∨
      p.static isReload = none ∧ ∃ fd ∈ p.pc.owned, q.static isReload = some fd) : Counted q handled where
  created fd k hfd := hcreated ▸ h.created fd k (hfds fd k hfd)
  inj fd fd' k hfd hfd' := h.inj fd fd' k (hfds fd k hfd) (hfds fd' k hfd')
  fresh k hk := by
    rw [hcounter]
    exact h.fresh k (hcreated ▸ hk)
  owned fd k hmem hfd := by
    rw [hcounter]
    exact h.owned fd k (howned fd hmem) (hfds fd k hfd)
  unset isReload hq := by
    rcases hstatic isReload with hs | ⟨hs, -⟩
    · exact h.unset isReload (hs ▸ hq)
    · exact h.unset isReload hs
  counter isReload fd k hq hfd := by
    rw [hcounter]
    rcases hstatic isReload with hs | ⟨hs, fd', hmem, hs'⟩
    · exact h.counter isReload fd k (hs ▸ hq) (hfds fd k hfd)
    · rw [hs', Option.some.injEq] at hq
      subst hq
      rw [h.owned fd' k hmem (hfds fd' k hfd), h.unset isReload hs]

/-- A fresh event is the call's. -/
theorem Counted.create {handled : Bool → ℕ} (h : Counted p handled) (hl : Ledger p) {fd : RawFd}
    (hfree : p.fds fd = none) (hq : q.fds = Function.update p.fds fd (some (.eventfd p.created)))
    (hcreated : q.created = p.created + 1) (hcounter : q.counter = p.counter)
    (howned : ∀ fd' ∈ q.pc.owned, fd' = fd ∨ fd' ∈ p.pc.owned)
    (hstatic : ∀ isReload, q.static isReload = p.static isReload) : Counted q handled := by
  have hfds (fd' : RawFd) (k : ℕ) (hfd' : q.fds fd' = some (.eventfd k)) :
      fd' = fd ∧ k = p.created ∨ p.fds fd' = some (.eventfd k) := by
    by_cases heq : fd' = fd
    · subst heq
      rw [hq, Function.update_self] at hfd'
      cases hfd'
      exact .inl ⟨rfl, rfl⟩
    · rw [hq, Function.update_of_ne heq] at hfd'
      exact .inr hfd'
  refine ⟨fun fd' k hfd' => ?_, fun fd' fd'' k hfd' hfd'' => ?_, fun k hk => ?_,
    fun fd' k hmem hfd' => ?_, fun isReload hnone => ?_, fun isReload fd' k hs hfd' => ?_⟩
  · rcases hfds fd' k hfd' with ⟨-, rfl⟩ | hold
    · omega
    · have := h.created fd' k hold
      omega
  · rcases hfds fd' k hfd' with ⟨hnew, hk⟩ | hold <;>
      rcases hfds fd'' k hfd'' with ⟨hnew', hk'⟩ | hold'
    · exact hnew.trans hnew'.symm
    · exact absurd (h.created fd'' k hold') (by omega)
    · exact absurd (h.created fd' k hold) (by omega)
    · exact h.inj fd' fd'' k hold hold'
  · rw [hcounter]
    exact h.fresh k (by omega)
  · rw [hcounter]
    rcases hfds fd' k hfd' with ⟨-, rfl⟩ | hold
    · exact h.fresh _ le_rfl
    · rcases howned fd' hmem with rfl | hmem
      · rw [hfree] at hold
        cases hold
      · exact h.owned fd' k hmem hold
  · exact h.unset isReload (hstatic isReload ▸ hnone)
  · rw [hcounter]
    rw [hstatic isReload] at hs
    rcases hfds fd' k hfd' with ⟨rfl, rfl⟩ | hold
    · obtain ⟨k, hk⟩ := hl.static hs
      rw [hfree] at hk
      cases hk
    · exact h.counter isReload fd' k hs hold

theorem static_mem {isReload : Bool} {fd : RawFd} (hfd : p.static isReload = some fd) :
    fd ∈ p.statics := by
  cases isReload with
  | false => exact List.mem_append_left _ (Option.mem_toList.mpr hfd)
  | true => exact List.mem_append_right _ (Option.mem_toList.mpr hfd)

theorem Ledger.static_inj (h : Ledger p) {b b' : Bool} {fd : RawFd} (hb : p.static b = some fd)
    (hb' : p.static b' = some fd) : b = b' := by
  have hdisj := List.disjoint_of_nodup_append (List.nodup_append.mp h.nodup).1
  have hout (hs : p.static false = some fd) (hr : p.static true = some fd) : False :=
    hdisj (Option.mem_toList.mpr hs) (Option.mem_toList.mpr hr)
  cases b <;> cases b'
  · rfl
  · exact (hout hb hb').elim
  · exact (hout hb' hb).elim
  · rfl

/-- A signal counts up the event of its static, which is no other static's. -/
theorem Counted.signal {handled : Bool → ℕ} (h : Counted p handled) (hl : Ledger p) {isReload : Bool}
    {fd : RawFd} {k : ℕ} (hfd : p.static isReload = some fd) (hk : p.fds fd = some (.eventfd k)) :
    Counted { p with counter := Function.update p.counter k (p.counter k + 1) }
      (Function.update handled isReload (handled isReload + 1)) where
  created := h.created
  inj := h.inj
  fresh k' hk' := by
    have hlt := h.created fd k hk
    have hne : k' ≠ k := ne_of_gt (lt_of_lt_of_le hlt hk')
    exact (Function.update_of_ne hne _ _).trans (h.fresh k' hk')
  owned fd' k' hmem hfd' := by
    have hne : k' ≠ k := by
      rintro rfl
      obtain rfl := h.inj fd' fd k' hfd' hk
      exact hl.owned_not_static fd' hmem (static_mem hfd)
    exact (Function.update_of_ne hne _ _).trans (h.owned fd' k' hmem hfd')
  unset b hb := by
    have hne : b ≠ isReload := by
      rintro rfl
      cases hfd.symm.trans hb
    exact (Function.update_of_ne hne _ _).trans (h.unset b hb)
  counter b fd' k' hb hfd' := by
    have hold := h.counter b fd' k' hb hfd'
    by_cases heq : b = isReload
    · subst heq
      obtain rfl : fd = fd' := Option.some.inj (hfd.symm.trans hb)
      obtain rfl : k = k' := by simpa using hk.symm.trans hfd'
      simp [hold]
    · have hne : k' ≠ k := by
        rintro rfl
        obtain rfl := h.inj fd' fd k' hfd' hk
        exact heq (hl.static_inj hb hfd)
      simp [Function.update_of_ne hne, Function.update_of_ne heq, hold]

theorem handled_eq {a : ProcessAct} {sig : Signal} {d d' : Dispositions}
    (ha : ∀ isReload, a ≠ .signal isReload) (hw : disposing p a sig q d = some d') :
    d'.handled = d.handled := by
  cases a with
  | sigaction r =>
    cases r with
    | error e =>
      cases hw
      rfl
    | ok =>
      simp only [disposing] at hw
      split at hw <;> cases hw <;> rfl
  | signal isReload => exact absurd rfl (ha isReload)
  | _ =>
    cases hw
    rfl

theorem close_fds {fd fd' : RawFd} {f : OpenFile} (h : (p.close fd).fds fd' = some f) :
    p.fds fd' = some f := by
  by_cases heq : fd' = fd
  · simp [Process.close, heq] at h
  · simpa [Process.close, heq] using h

theorem counter_eq {a : ProcessAct} (ha : ∀ isReload, a ≠ .signal isReload)
    (hs : p.step a = some q) : q.counter = p.counter := by
  unfold Process.step at hs
  split at hs
  · cases hs
  cases a with
  | signal isReload => exact absurd rfl (ha isReload)
  | _ =>
    simp only at hs
    repeat' split at hs
    all_goals first
      | rename_i heq; exact absurd heq (ha _)
      | cases hs <;> rfl

/-- Only a handler writes to an event. -/
theorem Counted.other {handled : Bool → ℕ} (h : Counted p handled) (hl : Ledger p)
    (hm : Moves p q) (hcounter : q.counter = p.counter) : Counted q handled := by
  cases hm with
  | newShutdown fd hpc hfd =>
    exact h.create hl hfd rfl rfl rfl (by simp [SetupPc.owned]) fun _ => rfl
  | newReload s fd hpc hfd =>
    exact h.create hl hfd rfl rfl rfl (by simp [SetupPc.owned, hpc, or_comm]) fun _ => rfl
  | signal isReload =>
    obtain ⟨counter, stray, exited, heq⟩ := p.handler_eq isReload
    rw [heq] at hcounter ⊢
    exact h.keep rfl hcounter (fun _ _ => id) (fun _ => id) fun _ => .inl rfl
  | shareShutdown s r hpc hs =>
    refine h.keep rfl rfl (fun _ _ => id) (by simp [SetupPc.owned, hpc]) fun isReload => ?_
    cases isReload with
    | false => exact .inr ⟨hs, s, by simp [SetupPc.owned, hpc], rfl⟩
    | true => exact .inl rfl
  | shareReload s r hpc hr =>
    refine h.keep rfl rfl (fun _ _ => id) (by simp [SetupPc.owned]) fun isReload => ?_
    cases isReload with
    | false => exact .inl rfl
    | true => exact .inr ⟨hr, r, by simp [SetupPc.owned, hpc], rfl⟩
  | call hpc | newShutdownFails e hpc | sigterm s r hpc | sigint s r hpc | sigactionFails e hpc
  | returns s r hpc =>
    exact h.keep rfl rfl (fun _ _ => id) (by simp [SetupPc.owned, ret]) fun _ => .inl rfl
  | newReloadFails s e hpc | recycleShutdown s r rawFd hpc hs | recycleReload s r rawFd hpc hr
  | closeOther fd hfd =>
    refine h.keep rfl rfl (fun _ _ => close_fds) ?_ fun _ => .inl rfl
    simp [SetupPc.owned, ret, Process.close, *]
  | openOther fd hfd =>
    refine h.keep rfl rfl (fun fd' k hk => ?_) (fun _ => id) fun _ => .inl rfl
    by_cases heq : fd' = fd
    · simp [heq] at hk
    · simpa [heq] using hk

/-- The invariant. -/
theorem Counted.step {a : ProcessAct} {sig : Signal} {d d' : Dispositions}
    (h : Counted p d.handled) (harm : Armed p d) (hl : Ledger p) (hs : p.step a = some q)
    (hw : disposing p a sig q d = some d') : Counted q d'.handled := by
  by_cases ha : ∃ isReload, a = .signal isReload
  · obtain ⟨isReload, rfl⟩ := ha
    simp only [disposing, Option.ite_none_right_eq_some, Option.some.injEq] at hw
    obtain ⟨⟨hd, -⟩, rfl⟩ := hw
    obtain ⟨fd, k, hfd, hk, heq⟩ := harm.handler hl hd isReload
    have hstep : p.step (.signal isReload) = some (p.terminationOrReloadHandler isReload) :=
      if_neg (by simp [harm.running])
    rw [hstep, heq] at hs
    cases hs
    exact h.signal hl hfd hk
  · rw [not_exists] at ha
    rw [handled_eq ha hw]
    exact h.other hl (step_moves hs) (counter_eq ha hs)

/-! ## Runs -/

theorem run_armed {inherited : RawFd → Bool} {xs : List (ProcessAct × Signal)} {d : Dispositions}
    (hr : Run (watched Process.step disposing) anyStep (boot inherited, .default) xs (p, d)) :
    Ledger p ∧ p.stray = 0 ∧ Armed p d ∧ Counted p d.handled := by
  have hboot : Handles (boot inherited) :=
    ⟨by rintro s ⟨⟩, by rintro r ⟨⟩, by rintro s r ⟨⟩⟩
  obtain ⟨⟨hl, -, hz⟩, harm, hc⟩ := hr.watched_invariant
    (I := fun p => Ledger p ∧ Handles p ∧ p.stray = 0)
    (J := fun p d => Armed p d ∧ Counted p d.handled)
    (fun p a q hp hs => ⟨hp.1.step (step_moves hs), hp.2.1.step (step_moves hs),
      (hp.1.stray_step hs).trans hp.2.2⟩)
    (fun p d a sig q d' hp hd hs hw =>
      ⟨hd.1.step hp.1 hp.2.1 hs hw, hd.2.step hd.1 hp.1 hs hw⟩)
    ⟨boot_ledger inherited, hboot, rfl⟩ ⟨armed_boot inherited, counted_boot inherited⟩
  exact ⟨hl, hz, harm, hc⟩

/-- **No signal comes too early and none is lost.** In every run of a process, with any
calls of `setup_events` that fail anywhere, other code opening and closing its own
descriptors, and signals that are handled between any two steps where a handler is
installed: the process never leaves through `_exit`; no handler writes to anything but an
event; a call that succeeded has installed the handlers of all three signals; a signal whose handler is installed can be handled at
once, whatever a call is doing; and the event a static denotes has been written to as
often as the handler that reads the static was run, since the start and across all
calls. -/
theorem signals_counted {inherited : RawFd → Bool} {xs : List (ProcessAct × Signal)}
    {d : Dispositions}
    (hr : Run (watched Process.step disposing) anyStep (boot inherited, .default) xs (p, d)) :
    p.exited = false ∧ p.stray = 0 ∧
    (∀ s r, .ok (s, r) ∈ p.results → ∀ sig, d.handles sig = true) ∧
    (∀ sig, d.handles sig = true → ∃ q d', watched Process.step disposing (p, d)
      (.signal (sig = .sighup), sig) = some (q, d') ∧ q.pc = p.pc ∧ q.results = p.results) ∧
    (∀ isReload fd, p.static isReload = some fd →
      ∃ k, p.fds fd = some (.eventfd k) ∧ p.counter k = d.handled isReload) ∧
    ∀ isReload, p.static isReload = none → d.handled isReload = 0 := by
  obtain ⟨hl, hz, harm, hc⟩ := run_armed hr
  refine ⟨harm.running, hz, harm.results, fun sig hd => ?_, fun isReload fd hfd => ?_, hc.unset⟩
  · obtain ⟨fd, k, -, -, heq⟩ := harm.handler hl hd (sig = .sighup)
    have hstep : p.step (.signal (sig = .sighup)) =
        some (p.terminationOrReloadHandler (sig = .sighup)) := if_neg (by simp [harm.running])
    rw [heq] at hstep
    exact ⟨_, _, watched_intro hstep (if_pos ⟨hd, rfl⟩), rfl, rfl⟩
  · obtain ⟨k, hk⟩ := hl.static hfd
    exact ⟨k, hk, hc.counter isReload fd k hfd hk⟩

/-- A call that succeeds, with a `SIGTERM` before the last handler is installed, a
`SIGHUP` after it, and a `SIGINT` while a second call creates its events. -/
def setsUpSignaled : List (ProcessAct × Signal) :=
  [(.call, .sigterm), (.eventfd (.ok 7), .sigterm), (.eventfd (.ok 8), .sigterm),
    (.exchange, .sigterm), (.exchange, .sigterm), (.sigaction (.ok ()), .sigterm),
    (.signal false, .sigterm), (.sigaction (.ok ()), .sigterm), (.sigaction (.ok ()), .sigterm),
    (.signal true, .sighup), (.call, .sigterm), (.eventfd (.ok 9), .sigterm),
    (.signal false, .sigint)]

theorem signals_counted_twice : ∃ p d,
    exec (watched Process.step disposing) (fun _ _ => true) (boot (· < 7), .default) setsUpSignaled =
      some (p, d) ∧ p.counter 0 = 2 ∧ d.handled false = 2 := by
  obtain ⟨p, d, he, hs, hk, hd⟩ : ∃ p d, exec (watched Process.step disposing) (fun _ _ => true)
      (boot (· < 7), .default) setsUpSignaled = some (p, d) ∧ p.static false = some 7 ∧
      p.fds 7 = some (.eventfd 0) ∧ d.handled false = 2 := ⟨_, _, rfl, rfl, rfl, rfl⟩
  have hrun : Run (watched Process.step disposing) anyStep (boot (· < 7), .default)
      setsUpSignaled (p, d) := .of_exec (fun _ _ _ => trivial) he
  obtain ⟨-, -, -, -, hcounter, -⟩ := signals_counted hrun
  obtain ⟨k, hk', hcount⟩ := hcounter false 7 hs
  obtain rfl : 0 = k := by simpa using hk.symm.trans hk'
  exact ⟨p, d, he, hcount.trans hd, hd⟩

end Process
end Garnd
