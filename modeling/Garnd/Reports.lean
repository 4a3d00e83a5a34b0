import Garnd.DaemonFrames

/- The error channel of an incarnation. A thread that sends on it finds the receiver
   there, because `main` drops the receiver only when every thread of the
   incarnation is over, and what was sent is what `main` has logged and what is
   still queued, in order. Both hold as long as no destructor of a shared resource
   panics: `JoinGuard` passes such a panic on to the owner of the environment, and a
   map that is being dropped then forgets the other environments and their
   threads. -/
namespace Garnd
open Registry (Hand Ctl Phase)
open Transition

/-- `main` is in an iteration of its loop, past its start. -/
def MainPc.live : MainPc → Bool
  | .start | .exited _ => false
  | _ => true

theorem MainPc.alone_of_settingUp {m : MainPc} (h : m.settingUp = true) : m.alone = true := by
  cases m <;> first | rfl | cases h

theorem MainPc.live_of_settingUp {m : MainPc} (h : m.settingUp = true) (hne : m ≠ .start) :
    m.live = true := by
  cases m <;> first | rfl | exact absurd rfl hne | cases h

/-- The instances that are dropped with the map: still to come, or being dropped. -/
def Stage.tearing (st : Stage) : List EnvId :=
  match st.hand, st.ctl with
  | .dropping i, .closed => i :: st.torn
  | _, _ => st.torn

@[simp] theorem Stage.tearing_between (ctl : Ctl) (torn : List EnvId) :
    (between ctl torn).tearing = torn := rfl

theorem Stage.tearing_dropping (i : EnvId) (kept : Option EnvId) (k : After) :
    (dropping i kept k.ctl k.torn).tearing = if k.isTeardown then i :: k.torn else [] := by
  cases k <;> rfl

theorem Stage.tearing_attaching (a : Attaching) (c : Owner) : (attaching a c).tearing = [] := by
  unfold attaching tearing
  cases a.fresh <;> rfl

namespace Welcome
variable {P : Externals} {w w' : Welcome} {a : WelcomeAct}

/-- What is dropped with the map was in the map. -/
theorem Moves.tearing (hm : Moves P w a w') {i : EnvId} (hi : i ∈ w'.pc.stage.tearing) :
    i ∈ w.pc.stage.tearing ∨ ∃ n, w.environments.lookup n = some i := by
  have hplain (torn : List EnvId) (ht : w'.pc.stage.tearing = torn) (hn : torn = []) :
      i ∈ w.pc.stage.tearing ∨ ∃ n, w.environments.lookup n = some i := by
    rw [ht, hn] at hi
    cases hi
  cases hm with
  | sendError | drainUnbound | drainDisconnected => exact .inl hi
  | poll =>
    obtain ⟨pc, outbox, ctl, hw, -, hst, -⟩ := w.onPoll_shape _
    exact hplain _ (by rw [hw, hst, Stage.tearing_between]) rfl
  | drainEmpty =>
    obtain ⟨pc, outbox, ctl, hw, -, hst, -⟩ := w.onWelcome_shape _
    exact hplain _ (by rw [hw, hst, Stage.tearing_between]) rfl
  | root | getsockoptFails | recvFails | recvUnanswered | send | close =>
    obtain ⟨pc, outbox, hw, hst, -⟩ := w.closing_shape _ _
    exact hplain _ (by rw [hw, hst, Stage.tearing_between]) rfl
  | occupied | envNew | insertSend | insertWrite =>
    exact hplain _ (Stage.tearing_attaching _ _) rfl
  | insertSendFails | insertWriteFails | refused | hungUp =>
    refine hplain _ ?_ rfl
    rw [failInsert_stage]
    split <;> rfl
  | @inserted a serializes => cases serializes <;> exact hplain [] rfl rfl
  | drainBound | sendAbandon => exact hplain [] rfl rfl
  | dropWrite _ hpc | dropFields _ hpc =>
    left
    rw [hpc]
    simp only [WelcomePc.stage, Stage.tearing_dropping] at hi ⊢
    exact hi
  | @dropWritePanics j k _ hpc =>
    left
    rw [hpc]
    cases k with
    | teardown rest =>
      obtain rfl := List.mem_singleton.mp hi
      exact List.mem_cons_self
    | _ => cases hi
  | @join j k _ _ hpc =>
    obtain ⟨pc, outbox, hw, hst, -⟩ := w.resume_shape k
    rw [hw] at hi
    simp only [hst] at hi
    left
    rw [hpc]
    cases k with
    | teardown rest => exact List.mem_cons_of_mem _ hi
    | _ => cases hi
  | @joinPanics j k _ hpc =>
    obtain ⟨pc, outbox, hw, hst, -⟩ := (w.panic k).resume_shape k.panics
    refine hplain _ (by rw [hw]) ?_
    simp only [hst]
    cases k <;> rfl
  | dropLocals =>
    right
    simp only [WelcomePc.stage_teardown, Stage.tearing_between, List.mem_map] at hi
    obtain ⟨⟨n, j⟩, hmem, rfl⟩ := hi
    exact ⟨n, AList.mem_lookup_iff.mpr hmem⟩
  | @teardown rest j _ hpc hj =>
    left
    rw [hpc]
    have hi : i ∈ j :: rest.erase j := hi
    rcases List.mem_cons.mp hi with rfl | hi
    · exact hj
    · exact List.mem_of_mem_erase hi
  | _ => exact hplain [] rfl rfl

/-- Environments are forgotten where a drop panics during the drop of the map. -/
theorem Moves.forgot (hm : Moves P w a w') :
    w'.forgot = w.forgot ∨ (∃ i k, a = .join true ∧ w.pc = .join i k ∧
      w'.forgot = (w.forgot || k.isTeardown)) ∨ ∃ i k, a = .dropWrite false ∧ w.pc = .dropWrite i k := by
  cases hm with
  | poll =>
    obtain ⟨pc, outbox, ctl, hw, -⟩ := w.onPoll_shape _
    exact .inl (by rw [hw])
  | drainEmpty =>
    obtain ⟨pc, outbox, ctl, hw, -⟩ := w.onWelcome_shape _
    exact .inl (by rw [hw])
  | root | getsockoptFails | recvFails | recvUnanswered | send | close =>
    obtain ⟨pc, outbox, hw, -⟩ := w.closing_shape _ _
    exact .inl (by rw [hw])
  | @inserted a serializes => cases serializes <;> exact .inl rfl
  | @join j k =>
    obtain ⟨pc, outbox, hw, -⟩ := w.resume_shape k
    exact .inl (by rw [hw])
  | @joinPanics j k _ hpc =>
    obtain ⟨pc, outbox, hw, -⟩ := (w.panic k).resume_shape k.panics
    exact .inr (.inl ⟨j, k, rfl, hpc, by rw [hw]; rfl⟩)
  | dropWritePanics _ hpc => exact .inr (.inr ⟨_, _, rfl, hpc⟩)
  | _ => exact .inl rfl

theorem resume_not_ended (w : Welcome) (k : After) : (w.resume k).pc ≠ .ended := by
  cases k with
  | drain | returning | teardown => nofun
  | finish fds errors | unwind fds =>
    obtain ⟨pc, outbox, hw, hst, -⟩ := w.closing_shape fds _
    rw [resume, hw]
    rintro rfl
    cases hst

/-- The thread ends with nothing left to send. -/
theorem Moves.spent (hm : Moves P w a w') (h : w.pc = .ended → w.outbox = []) :
    w'.pc = .ended → w'.outbox = [] := by
  cases hm with
  | sendError ho =>
    intro hpc
    rw [h hpc] at ho
    cases ho
  | poll =>
    obtain ⟨pc, outbox, ctl, hw, hctl, hst, -⟩ := w.onPoll_shape _
    rw [hw]
    rintro rfl
    rcases hctl with rfl | rfl | ⟨rfl, -⟩ <;> cases hst
  | drainEmpty =>
    obtain ⟨pc, outbox, ctl, hw, hctl, hst, -⟩ := w.onWelcome_shape _
    rw [hw]
    rintro rfl
    rcases hctl with rfl | rfl <;> cases hst
  | root | getsockoptFails | recvFails | recvUnanswered | send | close =>
    obtain ⟨pc, outbox, hw, hst, -⟩ := w.closing_shape _ _
    rw [hw]
    rintro rfl
    cases hst
  | @inserted a serializes => cases serializes <;> nofun
  | join | joinPanics => exact fun hend => absurd hend (resume_not_ended _ _)
  | ended ho => exact fun _ => ho
  | drainUnbound _ hpc | drainDisconnected _ hpc =>
    intro hend
    rw [hpc] at hend
    cases hend
  | _ => nofun

end Welcome

namespace Env
variable {P : Externals} {e e' : Env} {a : EnvAct}

/-- If the thread has panicked, nobody was ever attached to it. -/
def Sober (e : Env) : Prop := e.panicked = true → e.pc.left = true ∧ e.added = []

theorem Sober.step {c : Owner} {mark : ℕ} (h : e.Sober) (hl : e.Local) (hm : e.Mutexes)
    (ha : e.Attached c mark) (hclean : a ≠ .leave true) (hs : e.step P a = some e') :
    e'.Sober := by
  have hgoes (hleft : e.pc.left = true) : e'.pc.left = true := left_step hleft hs
  cases step_moves hs with
  | allocPanics _ hpc => exact fun _ => ⟨rfl, (hl.start (by rw [hpc]; rfl)).1⟩
  | addPanics _ hpc hr =>
    have hc := ha.wired.owner.mp (Channel.tryRecv_eq_disconnected.mp hr).2
    exact absurd hc (ha.open_of_busy (by rw [hpc]; rfl))
  | openMutexPanics _ _ hshm hr => exact absurd hr (hm.no_panic hshm)
  | @leave panics _ hpc =>
    cases panics with
    | true => exact absurd rfl hclean
    | false =>
      intro hp
      have hp : e.panicked = true := by simpa using hp
      exact ⟨rfl, (h hp).2⟩
  | addEpoll _ hpc =>
    intro hp
    obtain ⟨hleft, -⟩ := h hp
    rw [hpc] at hleft
    cases hleft
  | _ => exact fun hp => ⟨hgoes (h hp).1, (h hp).2⟩

theorem phase_alive (h : e.pc ≠ .ended) : e.phase.alive = true := by
  unfold phase
  split <;> first | rfl | contradiction

/-- A thread that is over has sent what it had to report. -/
def Spent (e : Env) : Prop := e.pc = .ended → e.outbox = []

theorem Spent.step (h : e.Spent) (hs : e.step P a = some e') : e'.Spent := by
  cases step_moves hs with
  | sendError ho =>
    intro hpc
    rw [h hpc] at ho
    cases ho
  | dropSync ho | dropListener ho => exact fun _ => ho
  | epollAdd => split <;> nofun
  | _ => nofun

end Env

/-- The label is not a panic of a destructor. -/
def Act.cleanDrop : Act → Bool
  | .env _ (.leave panics) => !panics
  | _ => true

namespace Daemon
variable {P : Externals} {s t : Daemon}

/-- The condition on a run: no destructor of a shared resource panics. -/
def CleanDrops (_ : Daemon) (a : Act) : Prop := ∀ i, a ≠ .env i (.leave true)

theorem cleanDrops_of {a : Act} (h : a.cleanDrop = true) : CleanDrops s a := by
  rintro i rfl
  cases h

/-! ## Nothing is forgotten -/

/-- Where no destructor panics, no drop of an instance that served anyone does, and
the map is dropped to its end. -/
structure Orderly (s : Daemon) : Prop where
  sober : ∀ i e, s.envs i = some e → e.Sober
  torn : ∀ i ∈ s.welcome.pc.stage.tearing, ∀ e, s.envs i = some e → e.added ≠ []
  kept : s.welcome.forgot = false

theorem Orderly.sober_step {a : Act} (h : s.Orderly) (hi : s.Instances) (hok : CleanDrops s a)
    (hs : s.step P a = some t) : ∀ i e, t.envs i = some e → e.Sober := by
  intro i e' he
  cases env_change hs he with
  | same hj hsame =>
    intro hp
    have := h.sober i _ hj
    rw [Env.Sober, ← hsame.panicked, ← hsame.pc, ← hsame.added] at this
    exact this hp
  | @thread b e hj hst =>
    obtain ⟨hl, hm, mark, ha⟩ := hi.sound i e hj
    exact (h.sober i e hj).step hl hm ha (fun hb => hok i (by rw [hb])) hst
  | made _ hnew => exact hnew ▸ nofun

/-- The environment that is being dropped has its drop event down: the write finds
room. -/
theorem Instances.dropWrite_ok {i : EnvId} {k : After} {e : Env} (h : s.Instances)
    (hpc : s.welcome.pc = .dropWrite i k) (hi : s.envs i = some e) : e.dropWrite ≠ none := by
  have hkeep : s.welcome.Keeps i := .inr (.inl (by rw [hpc]; rfl))
  have hz := (h.kept i e hi hkeep).1.undropped
  simp [Env.dropWrite, hz, EventFd.write_zero]

theorem registry_absent {i : EnvId} (hi : s.envs i = none) : s.registry.phase i = .absent := by
  simp [registry, registryOf, hi]

/-- What is being dropped with the map is there. -/
theorem Instances.tearing_known {i : EnvId} (h : s.Instances)
    (hi : i ∈ s.welcome.pc.stage.tearing) : s.envs i ≠ none := by
  have howns : s.registry.Owns i := by
    unfold Stage.tearing at hi
    split at hi
    · rename_i j hhand hctl
      rcases List.mem_cons.mp hi with rfl | hi
      · exact .inr (.inl (.inr hhand))
      · exact .inr (.inr hi)
    · exact .inr (.inr hi)
  exact fun hn => h.registry.known i howns (registry_absent hn)

theorem Instances.bound_known {n : String} {i : EnvId} (h : s.Instances)
    (hn : s.welcome.environments.lookup n = some i) : s.envs i ≠ none := by
  have hbound : s.registry.Owns i := .inl (by rw [h.registry.named n i hn]; exact hn)
  exact fun hi => h.registry.known i hbound (registry_absent hi)

theorem Orderly.welcome {a : WelcomeAct} {w : Welcome} {u : Daemon} (h : s.Orderly)
    (hi : s.Instances) (hm : Welcome.Moves P s.welcome a w) (he : WelcomeEffect P s a u) :
    (∀ i ∈ w.pc.stage.tearing, ∀ e, u.envs i = some e → e.added ≠ []) ∧ w.forgot = false := by
  constructor
  · intro i hmem e' he'
    have hserved : ∀ e, s.envs i = some e → e.added ≠ [] := by
      rcases hm.tearing hmem with ht | ⟨n, hn⟩
      · exact h.torn i ht
      · exact fun e he => hi.served n i e hn he
    have hknown : s.envs i ≠ none := by
      rcases hm.tearing hmem with ht | ⟨n, hn⟩
      · exact hi.tearing_known ht
      · exact hi.bound_known hn
    cases he.env_change he' with
    | same hj hsame => exact hsame.added ▸ hserved _ hj
    | made hj => exact absurd hj hknown
  · rcases hm.forgot with hf | ⟨i, k, rfl, hpc, hf⟩ | ⟨i, k, rfl, hpc⟩
    · exact hf.trans h.kept
    · rw [hf, h.kept, Bool.false_or]
      cases he with
      | plain hp => cases hp
      | join hpc' hj _ hp =>
        obtain ⟨rfl, rfl⟩ := WelcomePc.join.inj (hpc.symm.trans hpc')
        cases hk : k.isTeardown with
        | false => rfl
        | true =>
          obtain ⟨rest, rfl⟩ := After.teardown_of hk
          have hmem : i ∈ s.welcome.pc.stage.tearing := by
            rw [hpc]
            exact List.mem_cons_self
          exact absurd (h.sober i _ hj hp.symm).2 (h.torn i hmem _ hj)
    · cases he with
      | plain hp => cases hp
      | dropWriteFails hpc' hj hf =>
        obtain ⟨rfl, rfl⟩ := WelcomePc.dropWrite.inj (hpc.symm.trans hpc')
        exact absurd hf (hi.dropWrite_ok hpc hj)

theorem Orderly.step {a : Act} (h : s.Orderly) (hi : s.Instances) (hok : CleanDrops s a)
    (hs : s.step P a = some t) : t.Orderly := by
  have hsober := h.sober_step hi hok hs
  have hadded : ∀ i ∈ s.welcome.pc.stage.tearing, ∀ e, t.envs i = some e → e.added ≠ [] := by
    intro i hmem e' he'
    cases env_change hs he' with
    | same hj hsame => exact hsame.added ▸ h.torn i hmem _ hj
    | thread hj hst => exact fun hnil => h.torn i hmem _ hj (List.prefix_nil.mp (hnil ▸ Env.added_step hst))
    | made hj => exact absurd hj (hi.tearing_known hmem)
  obtain ⟨-, hp⟩ := step_party hs
  cases hp with
  | main hm =>
    cases hm with
    | listen => exact ⟨hsober, nofun, rfl⟩
    | _ => exact ⟨hsober, hadded, h.kept⟩
  | welcome hm he =>
    obtain ⟨htorn, hkept⟩ := h.welcome hi hm he
    exact ⟨hsober, htorn, hkept⟩
  | env _ _ he =>
    have hw := he.frame.2.1
    exact ⟨hsober, by simpa only [hw] using hadded, by simpa only [hw] using h.kept⟩
  | client => exact ⟨hsober, hadded, h.kept⟩
  | @signal sig _ _ _ _ hm =>
    obtain ⟨shutdown, reload, terminated, reloaded, hshape⟩ := s.handler_shape sig
    cases hm with
    | handled | poll | wait =>
      rw [hshape] at *
      exact ⟨hsober, hadded, h.kept⟩

/-! ## The channel -/

/-- What the error channel and the two records of it say. -/
structure ReportingOf (main : MainPc) (errorRx : Bool) (errors sent logged : List DetailedError)
    (envs : EnvId → Option Env) (w : Welcome) : Prop where
  spent : ∀ i e, envs i = some e → e.Spent
  done : w.pc = .ended → w.outbox = []
  rx : errorRx = false → w.pc = .ended
  live : main.live = true → errorRx = true
  queue : main.live = true → sent = logged ++ errors

abbrev Reporting (s : Daemon) : Prop :=
  ReportingOf s.main s.errorRx s.errors s.history.sent s.history.logged s.envs s.welcome

theorem reporting_boot : boot.Reporting where
  spent i e hi := by cases hi
  done _ := rfl
  rx _ := rfl
  live hl := by cases hl
  queue hl := by cases hl

/-- A thread has reported, and `main` has done nothing. -/
theorem Reporting.reported {new : List DetailedError} (h : s.Reporting) (hr : Reported s t new)
    (hmain : t.main = s.main) (hspent : ∀ i e, t.envs i = some e → e.Spent)
    (hdone : t.welcome.pc = .ended → t.welcome.outbox = [])
    (hrx : t.errorRx = false → t.welcome.pc = .ended) : t.Reporting where
  spent := hspent
  done := hdone
  rx := hrx
  live := by rw [hmain, hr.errorRx]; exact h.live
  queue hl := by
    rw [hmain] at hl
    rw [hr.sent, hr.logged, hr.errors, h.queue hl, List.append_assoc]

theorem Reporting.main {a : MainAct} (h : s.Reporting) (hi : s.Instances) (hm : MainMoves s a t) :
    t.Reporting := by
  obtain ⟨hspent, hdone, hrx, hlive, hqueue⟩ := h
  have hsetup (hset : s.main.settingUp = true) : s.welcome.pc = .ended :=
    (hi.keeper.alone (MainPc.alone_of_settingUp hset)).1
  cases hm with
  | new => exact ⟨hspent, hdone, by simp, fun _ => rfl, fun _ => rfl⟩
  | ahead hset hne =>
    have hl : s.main.live = true := MainPc.live_of_settingUp hset hne
    exact ⟨hspent, hdone, hrx, fun _ => hlive hl, fun _ => hqueue hl⟩
  | setupEvents hmain | notifyListening hmain | notifyListeningFails hmain | join hmain =>
    have hl : s.main.live = true := by rw [hmain]; rfl
    exact ⟨hspent, hdone, hrx, fun _ => hlive hl, fun _ => hqueue hl⟩
  | fails hset => exact ⟨hspent, hdone, fun _ => hsetup hset, by rintro ⟨⟩, by rintro ⟨⟩⟩
  | listen hmain =>
    have hl : s.main.live = true := by rw [hmain]; rfl
    exact ⟨hspent, by rintro ⟨⟩, fun hf => absurd hf (by simp [hlive hl]), fun _ => hlive hl,
      fun _ => hqueue hl⟩
  | recv hmain he | recvShutdown hmain he | recvReload hmain he | drain hmain he =>
    have hl : s.main.live = true := by rw [hmain]; rfl
    refine ⟨hspent, hdone, hrx, fun _ => hlive hl, fun _ => ?_⟩
    have := hqueue hl
    rw [he] at this
    simpa [afterRecv] using this
  | recvTripped => exact ⟨hspent, hdone, hrx, by rintro ⟨⟩, by rintro ⟨⟩⟩
  | joinExits _ hpc => exact ⟨hspent, hdone, fun _ => hpc, by rintro ⟨⟩, by rintro ⟨⟩⟩
  | reload hmain | success hmain =>
    exact ⟨hspent, hdone, fun _ => (hi.keeper.alone (by rw [hmain]; rfl)).1, by rintro ⟨⟩, by rintro ⟨⟩⟩

theorem Reporting.step {a : Act} (h : s.Reporting) (hi : s.Instances) (hs : s.step P a = some t) :
    t.Reporting := by
  have hspent : ∀ i e, t.envs i = some e → e.Spent :=
    forall_env (fun _ _ => nofun) (fun e e' hsame he => by
      rw [Env.Spent, hsame.pc, hsame.outbox]
      exact he) (fun e b e' hst he => he.step hst) hs h.spent
  obtain ⟨-, hp⟩ := step_party hs
  cases hp with
  | main hm => exact h.main hi hm
  | @welcome a w u hm he =>
    have hr := he.reported
    refine h.reported (t := { u with welcome := w })
      ⟨hr.errors, hr.sent, hr.logged, hr.received, hr.errorRx, hr.open'⟩ he.main_eq hspent
      (hm.spent h.done) fun hf => ?_
    have hend := h.rx (hr.errorRx.symm.trans hf)
    exact absurd hm (Welcome.ended_over hend (h.done hend))
  | @env i a e e' u _ _ he =>
    have hr := he.reported
    obtain ⟨hmain, hw, -⟩ := he.frame
    refine h.reported (t := { u with envs := Function.update s.envs i (some e') })
      ⟨hr.errors, hr.sent, hr.logged, hr.received, hr.errorRx, hr.open'⟩ hmain hspent ?_ ?_
    · rw [hw]
      exact h.done
    · rw [hw, hr.errorRx]
      exact h.rx
  | client => exact ⟨hspent, h.done, h.rx, h.live, h.queue⟩
  | @signal sig _ _ _ _ hm =>
    obtain ⟨shutdown, reload, terminated, reloaded, hshape⟩ := s.handler_shape sig
    cases hm with
    | handled =>
      rw [hshape] at hspent ⊢
      exact ⟨hspent, h.done, h.rx, h.live, h.queue⟩
    | poll hpc ho =>
      rw [hshape] at hspent ⊢
      exact ⟨hspent, fun _ => ho, h.rx, h.live, h.queue⟩
    | wait =>
      rw [hshape] at hspent ⊢
      exact ⟨hspent, h.done, h.rx, h.live, h.queue⟩

/-! ## All threads are over -/

/-- With the welcome thread every environment thread is over. -/
theorem Instances.all_ended (h : s.Instances) (hf : s.welcome.forgot = false)
    (hpc : s.welcome.pc = .ended) {i : EnvId} {e : Env} (hi : s.envs i = some e) :
    e.pc = .ended := by
  have hst : s.welcome.pc.stage = .between .closed [] := by rw [hpc]; rfl
  have hshut : s.closeChan.receiver = false := h.keeper.shut (by rw [hst]; rfl)
  obtain ⟨hctl, hhand, htorn⟩ := registry_shut _ hst hshut
  by_contra hne
  have halive : (s.registry.phase i).alive = true := by
    simp only [Daemon.registry, registryOf, hi, Option.map_some, Option.getD_some]
    exact Env.phase_alive hne
  rcases h.registry.owned hf i halive with hb | hh | ht
  · rw [(h.registry.closed hctl).1] at hb
    cases hb
  · rcases hh with hh | hh <;> rw [hhand] at hh <;> cases hh
  · rw [htorn] at ht
    cases ht

/-- The threads of the incarnation are over, and have sent what they had to report. -/
structure Quit (s : Daemon) : Prop where
  welcome : s.welcome.pc = .ended ∧ s.welcome.outbox = []
  envs : ∀ i e, s.envs i = some e → e.pc = .ended ∧ e.outbox = []

theorem Reporting.quit (h : s.Reporting) (hi : s.Instances) (ho : s.Orderly)
    (hpc : s.welcome.pc = .ended) : s.Quit := by
  refine ⟨⟨hpc, h.done hpc⟩, fun i e he => ?_⟩
  have hend := hi.all_ended ho.kept hpc he
  exact ⟨hend, h.spent i e he hend⟩

/-- What holds in every run in which no destructor panics. -/
structure Orders (s : Daemon) : Prop where
  instances : s.Instances
  orderly : s.Orderly
  reporting : s.Reporting

theorem orders_boot : boot.Orders where
  instances := instances_boot
  orderly := {
    sober := fun i e hi => by cases hi
    torn := fun i hi => by cases hi
    kept := rfl }
  reporting := reporting_boot

theorem Orders.run {as : List Act} (hr : Run (Daemon.step P) CleanDrops boot as s) : s.Orders :=
  hr.invariant (I := Orders) (fun _ _ _ hok h hs =>
    ⟨h.instances.step hs, h.orderly.step h.instances hok hs, h.reporting.step h.instances hs⟩)
    orders_boot

/-- A thread has something to send on the error channel. -/
def HasReports (s : Daemon) : Prop :=
  s.welcome.outbox ≠ [] ∨ ∃ i e, s.envs i = some e ∧ e.outbox ≠ []

/-- In every run in which no destructor panics: a thread that sends on the error
channel finds the receiver there, and when an iteration that received is complete,
what was sent has been logged, in the order of the channel, and all threads are
over. -/
theorem reports_logged {as : List Act} (hr : Run (Daemon.step P) CleanDrops boot as s) :
    (s.HasReports → s.errorRx = true) ∧
      ∀ reload a t, s.main = .drain reload → s.step P a = some t → t.main ≠ s.main →
        t.history.logged = t.history.sent ∧ t.Quit := by
  obtain ⟨hi, ho, hrep⟩ := Orders.run hr
  constructor
  · intro hhas
    cases hrx : s.errorRx with
    | true => rfl
    | false =>
      obtain ⟨hw, henvs⟩ := hrep.quit hi ho (hrep.rx hrx)
      rcases hhas with hne | ⟨i, e, he, hne⟩
      · exact absurd hw.2 hne
      · exact absurd (henvs i e he).2 hne
  · intro reload a t hmain hs hne
    have hpc : s.welcome.pc = .ended := (hi.keeper.alone (by rw [hmain]; rfl)).1
    have hquit := hrep.quit hi ho hpc
    have hlogged := hrep.queue (by rw [hmain]; rfl)
    obtain ⟨-, hp⟩ := step_party hs
    cases hp with
    | main hm =>
      cases hm with
      | reload _ he | success _ he =>
        rw [he, List.append_nil] at hlogged
        exact ⟨hlogged.symm, hquit.welcome, hquit.envs⟩
      | drain => exact absurd rfl hne
      | fails hset | ahead hset =>
        rw [hmain] at hset
        cases hset
      | joinExits hmain' | recvTripped hmain' | new hmain' | setupEvents hmain' | listen hmain'
      | notifyListening hmain' | notifyListeningFails hmain' | recv hmain' | recvShutdown hmain'
      | recvReload hmain' | join hmain' =>
        rw [hmain] at hmain'
        cases hmain'
    | welcome _ he => exact absurd he.main_eq hne
    | env _ _ he => exact absurd he.frame.1 hne
    | client => exact absurd rfl hne
    | @signal sig _ _ _ _ hm =>
      obtain ⟨shutdown, reload, terminated, reloaded, hshape⟩ := s.handler_shape sig
      cases hm <;> rw [hshape] at hne <;> exact absurd rfl hne

/-- The daemon stops at a `SIGTERM`. When `main` has taken the terminal message, the thread of
an instance gets a malformed request before it looks at its `drop_event`, and reports it. -/
def stops : List Act :=
  startUp ++ handsOver ++ adds ++ answers ++ [.client 0 .read, .client 0 (.send [0]),
    .signal .sigterm .main false, .welcome (.poll (.ok ⟨.readable, .none, .none, .none⟩)),
    .welcome (.shutdownRead (.ok ())), .welcome (.sendError .shutdownSignal), .main (.recv false),
    .welcome .dropLocals, .welcome (.teardown (some 0)), .welcome (.dropWrite true),
    .welcome .dropFields, .env 0 (.wait (.ok [.conn 1 0 false, .drop])),
    .env 0 (.dispatch (some (.conn 1 0 false))), .env 0 (.recv 1 (.ok [0]) true),
    .env 0 (.send 1 .malformedRequest (.ok ())), .env 0 (.sendError .malformed),
    .env 0 (.dispatch (some .drop)), .env 0 .dropRead, .env 0 (.leave false), .env 0 .dropSync,
    .env 0 .dropListener, .welcome (.join false), .welcome (.teardown none), .main .join, .main .drain]

theorem reports_logged_stop : ∃ s t, Run (Daemon.step .oneLetter) CleanDrops boot stops s ∧
    s.step .oneLetter (.main .drain) = some t ∧ t.history.logged = t.history.sent ∧
    t.history.received = [.shutdownSignal] ∧ t.history.sent = [.shutdownSignal, .malformed] := by
  have hexec : (exec (Daemon.step .oneLetter) (fun _ a => a.cleanDrop) boot stops).any (fun s =>
      (s.step .oneLetter (.main .drain)).any fun t =>
        s.main = .drain false ∧ t.main = .exited .success ∧
          t.history.received = [.shutdownSignal] ∧
          t.history.sent = [.shutdownSignal, .malformed]) := by decide
  obtain ⟨s, hr, hp⟩ := Run.of_exec_any (fun _ _ => cleanDrops_of) hexec
  obtain ⟨t, ht, hp⟩ := (Option.any_eq_true _ _).mp hp
  obtain ⟨hmain, hexit, hreceived, hsent⟩ := of_decide_eq_true hp
  have hlogged := (reports_logged hr).2 false _ t hmain ht (by rw [hexit, hmain]; nofun)
  exact ⟨s, t, hr, ht, hlogged.1, hreceived, hsent⟩

end Daemon
end Garnd
