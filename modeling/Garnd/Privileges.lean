import Garnd.Lib.Monitor
import Garnd.Reports
import Garnd.Startup

/- Who serves. Each incarnation checks the privileges of the process before it sets
   anything up, and `main` goes on only where the check passes. So whoever of the
   daemon's threads does something for a client does it in an incarnation that has found
   the process unprivileged, whatever became of the process before and between the
   incarnations. -/
namespace Garnd
open Transition

/-- `main` is in an incarnation that has made its check. -/
def MainPc.checked : MainPc → Bool
  | .start | .notifyStarting | .checkPrivileges | .exited _ => false
  | _ => true

theorem MainPc.alone_of_unchecked {m : MainPc} (h : m.checked = false)
    (hlive : ∀ e, m ≠ .exited e) : m.alone = true := by
  cases m with
  | exited e => exact absurd rfl (hlive e)
  | start | notifyStarting | checkPrivileges => rfl
  | _ => cases h

/-- The steps that serve a client: those of the welcome thread and of the environment
threads, and a connection that is made. -/
def Act.serves : Act → Bool
  | .welcome _ | .env _ _ | .client _ (.connect _) => true
  | _ => false

/-- A thread that has ended and has sent everything does nothing. -/
theorem Env.ended_over {P : Externals} {e : Env} (a : EnvAct) (hpc : e.pc = .ended)
    (ho : e.outbox = []) : e.step P a = none := by
  cases a <;> simp [step, act, hpc, ho]

namespace Welcome
variable {P : Externals} {w w' : Welcome} {a : WelcomeAct}

/-- The thread ends with the drop of what is left of its map. -/
theorem Moves.ends (hm : Moves P w a w') (h : w'.pc = .ended) :
    w.pc = .ended ∨ a = .teardown none := by
  cases hm with
  | sendError => exact .inl h
  | ended => exact .inr rfl
  | poll =>
    obtain ⟨pc, outbox, ctl, hw, hctl, hst, -⟩ := w.onPoll_shape _
    rw [hw] at h
    subst h
    rcases hctl with rfl | rfl | ⟨rfl, -⟩ <;> cases hst
  | drainEmpty =>
    obtain ⟨pc, outbox, ctl, hw, hctl, hst, -⟩ := w.onWelcome_shape _
    rw [hw] at h
    subst h
    rcases hctl with rfl | rfl <;> cases hst
  | root | getsockoptFails | recvFails | recvUnanswered | send | close =>
    obtain ⟨pc, outbox, hw, hst, -⟩ := w.closing_shape _ _
    rw [hw] at h
    subst h
    cases hst
  | @inserted a serializes => cases serializes <;> cases h
  | join | joinPanics => exact absurd h (resume_not_ended _ _)
  | drainUnbound _ hpc | drainDisconnected _ hpc =>
    rw [hpc] at h
    cases h
  | _ => cases h

end Welcome

namespace Daemon
variable {P : Externals} {s t : Daemon}

/-- The welcome socket listens only while the welcome thread has it. -/
def Listens (s : Daemon) : Prop := s.listening = true → s.welcome.pc ≠ .ended

theorem WelcomeEffect.listening {a : WelcomeAct} (he : WelcomeEffect P s a t) :
    t.listening = s.listening ∨ a = .listen (.ok ()) ∨ t.listening = false := by
  cases he with
  | listen => exact .inr (.inl rfl)
  | ended => exact .inr (.inr rfl)
  | recv _ hr =>
    obtain ⟨c, conn, -, -, ⟨rest, -, rfl⟩ | ⟨-, -, rfl⟩⟩ := recvFrom_eq_some hr <;> exact .inl rfl
  | send _ hr =>
    obtain ⟨c, conn, -, -, -, rfl⟩ := sendTo_eq_some hr
    exact .inl rfl
  | _ => exact .inl rfl

theorem EnvEffect.listening {i : EnvId} {e e' : Env} {b : EnvAct}
    (he : EnvEffect P s i e e' b t) : t.listening = s.listening := by
  cases he with
  | recv hr =>
    obtain ⟨c, conn, -, -, ⟨rest, -, rfl⟩ | ⟨-, -, rfl⟩⟩ := recvFrom_eq_some hr <;> rfl
  | send hr =>
    obtain ⟨c, conn, -, -, -, rfl⟩ := sendTo_eq_some hr
    rfl
  | _ => rfl

theorem Listens.step {a : Act} (h : s.Listens) (hrep : s.Reporting) (hs : s.step P a = some t) :
    t.Listens := by
  obtain ⟨-, hp⟩ := step_party hs
  cases hp with
  | main hm =>
    cases hm with
    | listen => exact fun _ hpc => by cases hpc
    | _ => exact h
  | @welcome a w u hm he =>
    intro hl hpc
    rcases hm.ends hpc with hend | rfl
    · exact absurd hm (Welcome.ended_over hend (hrep.done hend))
    · cases he with
      | plain hp => cases hp
      | ended => cases hl
  | env _ _ he =>
    intro hl
    rw [he.listening] at hl
    rw [he.frame.2.1]
    exact h hl
  | client => exact h
  | @signal sig _ _ _ _ hm =>
    obtain ⟨shutdown, reload, terminated, reloaded, hshape⟩ := s.handler_shape sig
    cases hm <;> rw [hshape] <;> exact h

/-- The threads of the daemon, and who lets clients in. -/
structure Staffed (s : Daemon) : Prop where
  instances : s.Instances
  reporting : s.Reporting
  listens : s.Listens

theorem staffed_boot : boot.Staffed := ⟨instances_boot, reporting_boot, by rintro ⟨⟩⟩

theorem Staffed.step {a : Act} (h : s.Staffed) (hs : s.step P a = some t) : t.Staffed :=
  ⟨h.instances.step hs, h.reporting.step h.instances hs, h.listens.step h.reporting hs⟩

/-- Where there is no welcome thread, nobody serves. -/
theorem Staffed.unserved {a : Act} (h : s.Staffed) (halone : s.main.alone = true)
    (hs : s.step P a = some t) : a.serves = false := by
  obtain ⟨hend, ho, hf⟩ := h.instances.keeper.alone halone
  obtain ⟨-, hp⟩ := step_party hs
  cases hp with
  | main | signal => rfl
  | welcome hm => exact absurd hm (Welcome.ended_over hend ho)
  | env hi hst =>
    have hend := h.instances.all_ended hf hend hi
    rw [Env.ended_over _ hend (h.reporting.spent _ _ hi hend)] at hst
    cases hst
  | @client c b _ _ hc =>
    cases b with
    | connect uid =>
      simp only [clientStep] at hc
      split at hc
      · rename_i hl
        exact absurd hend (h.listens hl.1)
      · cases hc
    | _ => rfl

/-- The check of an incarnation passes where `check_privileges` does. What it found is
kept until the next incarnation. -/
def checking : Monitor Daemon (Option Credentials) Act Credentials
  | _, .main (.new _), _, _, _ => some none
  | _, .main (.checkPrivileges ok), found, _, _ =>
    if ok = (found.checkPrivileges false).2.toBool then some (some found) else none
  | _, _, _, _, checked => some checked

/-- An incarnation that is past its check has found the process unprivileged. -/
def Checked (s : Daemon) (checked : Option Credentials) : Prop :=
  s.main.checked = true → ∃ found, checked = some found ∧ found.Unprivileged

theorem mainStep_of_step {a : MainAct} (hs : s.step P (.main a) = some t) :
    s.mainStep a = some t := by
  unfold Daemon.step at hs
  split at hs
  · cases hs
  · exact hs

/-- `main` gets past its check by the check, and what was found is kept then. -/
theorem checked_main {a : MainAct} (hs : s.mainStep a = some t) (h : t.main.checked = true) :
    (s.main.checked = true ∧
      ∀ found checked, checking s (.main a) found t checked = some checked) ∨
    a = .checkPrivileges true := by
  cases a with
  | new envVar =>
    simp only [mainStep] at hs
    split at hs
    · cases envVar <;> cases hs <;> cases h
    · cases hs
  | checkPrivileges ok =>
    simp only [mainStep] at hs
    split at hs
    · cases ok
      · cases hs
        cases h
      · exact .inr rfl
    · cases hs
  | notifyStarting ok =>
    simp only [mainStep] at hs
    split at hs
    · cases ok <;> cases hs <;> cases h
    · cases hs
  | _ =>
    refine .inl ⟨?_, fun _ _ => rfl⟩
    cases hm : s.main <;> first | rfl | simp [mainStep, hm] at hs

theorem checkPrivileges_passes {found : Credentials} :
    (found.checkPrivileges false).2.toBool = true ↔ found.Unprivileged := by
  rw [← Credentials.check_eq_ok, toBool_eq_true]
  rfl

theorem checkPrivileges_fails (hs : s.step P (.main (.checkPrivileges false)) = some t) :
    t.main = .exited .failure := by
  have hm := mainStep_of_step hs
  simp only [mainStep] at hm
  split at hm
  · cases hm
    rfl
  · cases hm

/-- The invariant: `main` passes its check only with credentials that pass it. -/
theorem Checked.step {a : Act} {found : Credentials} {checked checked' : Option Credentials}
    (h : s.Checked checked) (hs : s.step P a = some t)
    (hc : checking s a found t checked = some checked') : t.Checked checked' := by
  obtain ⟨hlive, hp⟩ := step_party hs
  cases hp with
  | @main b =>
    intro hch
    rcases checked_main (mainStep_of_step hs) hch with ⟨hold, hkept⟩ | rfl
    · cases (hkept found checked).symm.trans hc
      exact h hold
    · simp only [checking] at hc
      split at hc
      · rename_i hok
        cases hc
        exact ⟨found, rfl, checkPrivileges_passes.mp hok.symm⟩
      · cases hc
  | welcome _ he =>
    cases hc
    intro hch
    exact h (he.main_eq ▸ hch)
  | env _ _ he =>
    cases hc
    intro hch
    exact h (he.frame.1 ▸ hch)
  | client =>
    cases hc
    exact h
  | @signal sig _ _ _ _ hm =>
    cases hc
    obtain ⟨shutdown, reload, terminated, reloaded, hshape⟩ := s.handler_shape sig
    cases hm <;> rw [hshape] <;> exact h

/-- In every run in which the checks find what the process is: the check passes for an
unprivileged process and for no other; whoever serves a client does it in an incarnation
whose check has passed; and a process that is not unprivileged then exits without having
served anyone in this incarnation. -/
theorem served_unprivileged {xs : List (Act × Credentials)} {checked : Option Credentials}
    (hr : Run (watched (Daemon.step P) checking) anyStep (boot, none) xs (s, checked)) :
    (∀ a t, a.serves = true → s.step P a = some t →
      ∃ found, checked = some found ∧ found.Unprivileged) ∧
    ∀ ok found q, watched (Daemon.step P) checking (s, checked) (.main (.checkPrivileges ok), found) =
      some q → (ok = true ↔ found.Unprivileged) ∧ (ok = false → q.1.main = .exited .failure) := by
  obtain ⟨hstaff, hch⟩ := hr.watched_invariant (I := Staffed) (J := Checked)
    (fun _ _ _ h hs => h.step hs) (fun _ _ _ _ _ _ _ h hs hw => h.step hs hw) staffed_boot
    (by rintro ⟨⟩)
  refine ⟨fun a t ha hs => hch ?_, fun ok found q hq => ?_⟩
  · by_contra hnot
    have halone := MainPc.alone_of_unchecked (Bool.eq_false_of_not_eq_true hnot) (step_party hs).1
    rw [hstaff.unserved halone hs] at ha
    cases ha
  · obtain ⟨hs, hw⟩ := watched_eq_some.mp hq
    simp only [checking] at hw
    split at hw
    · rename_i hok
      rw [hok, checkPrivileges_passes]
      refine ⟨Iff.rfl, fun hno => ?_⟩
      rw [← hok] at hno
      subst hno
      exact checkPrivileges_fails hs
    · cases hw

/-- A process that passes. -/
def garnd : Credentials where
  userFromName name := .ok (if name = "garnd" then some 990 else none)
  getresuid := .ok ⟨990, 990, 990⟩
  setfsuid := 990
  groupFromName name := .ok (if name = "garnd" then some 985 else none)
  getresgid := .ok ⟨985, 985, 985⟩
  setfsgid := 985
  getgroups := .ok [985]
  allCaps := List.range 41
  hasCap _ _ := .ok false
  getNoNewPrivs := .ok true
  prctl := 0xEF
  errno := 0

/-- The welcome thread of its first incarnation comes to its `poll`, which fails. -/
theorem served_unprivileged_garnd : ∃ s found t,
    Run (watched (Daemon.step .oneLetter) checking) anyStep (boot, none)
      (startUp.map fun a => (a, garnd)) (s, some found) ∧
    s.step .oneLetter (.welcome (.poll (.error 9))) = some t ∧ found.Unprivileged := by
  have hexec : (exec (watched (Daemon.step .oneLetter) checking) (fun _ _ => true) (boot, none)
      (startUp.map fun a => (a, garnd))).any (fun p =>
        (p.1.step .oneLetter (.welcome (.poll (.error 9)))).isSome) := by decide
  obtain ⟨⟨s, checked⟩, hr, hs⟩ := Run.of_exec_any (fun _ _ _ => trivial) hexec
  obtain ⟨t, ht⟩ := Option.isSome_iff_exists.mp hs
  obtain ⟨found, rfl, hfound⟩ := (served_unprivileged hr).1 _ t rfl ht
  exact ⟨s, found, t, hr, ht, hfound⟩

end Daemon
end Garnd
