import Garnd.DaemonFrames

/- The announcements by which an environment whose thread has left its loop gets out
   of the map. The thread puts its name on a channel and then writes an eventfd; the
   welcome thread reads the eventfd and then empties the channel. The two are separate
   and are updated in opposite orders, so none of them alone says what the other
   holds. `close_announced` is what they say together in every interleaving. -/
namespace Garnd
open Registry (Phase)
open Transition

/-- The drop is one of the drain loop. `returning` leaves the loop by a panic. -/
def After.inDrain : After → Bool
  | .drain _ | .returning => true
  | _ => false

/-- The welcome thread is inside its drain loop and has not seen `Empty`. Where it
unwinds out of the loop it never will. -/
def WelcomePc.inDrain : WelcomePc → Bool
  | .drain _ => true
  | .dropWrite _ k | .dropFields _ k | .join _ k => k.inDrain
  | .ret drained => drained
  | _ => false

theorem WelcomePc.inDrain_of_stage {pc : WelcomePc} (h : pc.stage.ctl = .drain) :
    pc.inDrain = true := by
  cases pc with
  | dropWrite i k | dropFields i k | join i k =>
    cases k <;> first | rfl | cases h
  | ret drained =>
    cases drained <;> first | rfl | cases h
  | insertSend a | insertWrite a | insertRecv a =>
    simp only [stage, Stage.attaching] at h
    cases h
  | send fd response errors abandon fds =>
    cases abandon <;> cases h
  | drain => rfl
  | _ => cases h

namespace Env
variable {e : Env}

theorem phase_leaving : e.phase = .leaving ↔ e.pc = .closeSend := by
  cases h : e.pc <;> simp [phase, h]

theorem phase_sent : e.phase = .sent ↔ ∃ errors, e.pc = .closeWrite errors := by
  cases h : e.pc <;> simp [phase, h]

end Env

namespace Daemon
variable {P : Externals} {s t : Daemon}

/-- No announcement is lost. -/
structure CloseHeard (P : Externals) (s : Daemon) : Prop where
  /-- An instance in the map whose thread has left its loop is announced, or its thread
  is about to do it. -/
  announced : ∀ n i e, s.welcome.environments.lookup n = some i → s.envs i = some e →
    e.pc.left = true → (n, i) ∈ s.closeChan.queue ∨ e.pc = .closeSend
  /-- An announcement has a wake-up pending: the counter, the thread between its send
  and its write, or the welcome thread in its drain loop. -/
  heard : ∀ n i, (n, i) ∈ s.closeChan.queue → 0 < s.closeEvent ∨
    (∃ e errors, s.envs i = some e ∧ e.pc = .closeWrite errors) ∨ s.welcome.pc.inDrain = true
  /-- A name does not stay bound to an instance that has left its loop: a wake-up is
  pending, or the thread is still to announce itself. -/
  awake : ∀ n i e, s.welcome.environments.lookup n = some i → s.envs i = some e →
    e.pc.left = true → 0 < s.closeEvent ∨ s.welcome.pc.inDrain = true ∨
      e.pc = .closeSend ∨ ∃ errors, e.pc = .closeWrite errors
  /-- The `Disconnected` arm of the drain loop is not reached. -/
  connected : s.step P (.welcome (.tryRecv .disconnected)) = none

theorem Instances.announced {n : String} {i : EnvId} {e : Env} (h : s.Instances)
    (hn : s.welcome.environments.lookup n = some i) (hi : s.envs i = some e)
    (hleft : e.pc.left = true) : (n, i) ∈ s.closeChan.queue ∨ e.pc = .closeSend := by
  have hphase : s.registry.phase i = e.phase := by
    simp only [Daemon.registry, registryOf, hi, Option.map_some, Option.getD_some]
  have hrun : s.registry.phase i ≠ .running := by
    rw [hphase]
    intro hr
    rw [Env.phase_running.mp hr] at hleft
    cases hleft
  refine (h.registry.announced_or_leaving hn hrun).imp_right fun hl => ?_
  exact Env.phase_leaving.mp (hphase ▸ hl)

theorem Instances.heard {n : String} {i : EnvId} (h : s.Instances)
    (hq : (n, i) ∈ s.closeChan.queue) : 0 < s.closeEvent ∨
      (∃ e errors, s.envs i = some e ∧ e.pc = .closeWrite errors) ∨
      s.welcome.pc.inDrain = true := by
  refine (h.registry.wake n i hq).imp_right (Or.imp (fun hs => ?_) fun hc => ?_)
  · simp only [Daemon.registry, registryOf] at hs
    cases hi : s.envs i with
    | none =>
      rw [hi] at hs
      cases hs
    | some e =>
      rw [hi] at hs
      obtain ⟨errors, hpc⟩ := Env.phase_sent.mp hs
      exact ⟨e, errors, rfl, hpc⟩
  · simp only [Daemon.registry, registryOf] at hc
    split at hc
    · exact WelcomePc.inDrain_of_stage hc
    · cases hc

theorem Instances.awake {n : String} {i : EnvId} {e : Env} (h : s.Instances)
    (hn : s.welcome.environments.lookup n = some i) (hi : s.envs i = some e)
    (hleft : e.pc.left = true) : 0 < s.closeEvent ∨ s.welcome.pc.inDrain = true ∨
      e.pc = .closeSend ∨ ∃ errors, e.pc = .closeWrite errors := by
  rcases h.announced hn hi hleft with hq | hpc
  · rcases h.heard hq with hw | ⟨e', errors, hi', hpc⟩ | hd
    · exact .inl hw
    · obtain rfl := Option.some.inj (hi.symm.trans hi')
      exact .inr (.inr (.inr ⟨errors, hpc⟩))
    · exact .inr (.inl hd)
  · exact .inr (.inr (.inl hpc))

/-- The welcome thread has a sender of its own while it drains the channel. -/
theorem Instances.connected (h : s.Instances) :
    s.step P (.welcome (.tryRecv .disconnected)) = none := by
  cases hs : s.step P (.welcome (.tryRecv .disconnected)) with
  | none => rfl
  | some t =>
    obtain ⟨-, hp⟩ := step_party hs
    cases hp with
    | welcome hm he =>
      cases hm with
      | drainDisconnected _ hpc =>
        cases he with
        | plain hp => cases hp
        | drainDisconnected _ hempty =>
          have hopen : s.closeChan.receiver = true := by
            rcases h.keeper.opened (by rw [hpc]; nofun) with hr | hr
            · exact hr
            · rw [hpc] at hr
              cases hr
          have hmem := h.keeper.sender hopen
          rw [hempty] at hmem
          cases hmem

/-- In every run, every instance in the map that has left its loop is announced or
about to be, every announcement has a wake-up pending, no name stays bound to a dead
instance without one, and the channel is never found disconnected. -/
theorem close_announced {as : List Act} (hr : Run (Daemon.step P) anyStep boot as s) :
    s.CloseHeard P := by
  have h : s.Instances := instances_boot.run hr
  exact ⟨fun _ _ _ => h.announced, fun _ _ => h.heard, fun _ _ _ => h.awake, h.connected⟩

/-- The thread of an instance in the map has sent its name and not yet written the
event. -/
theorem close_announced_last : ∃ s, Run (Daemon.step .oneLetter) anyStep boot
    (startUp ++ handsOver ++ adds ++ answers ++ (leaves false).take 4) s ∧
      s.closeEvent = 0 ∧ ("a", 0) ∈ s.closeChan.queue ∧ s.CloseHeard .oneLetter := by
  have hexec : (exec (Daemon.step .oneLetter) (fun _ _ => true) boot
      (startUp ++ handsOver ++ adds ++ answers ++ (leaves false).take 4)).any (fun s =>
        s.closeEvent = 0 ∧ ("a", 0) ∈ s.closeChan.queue) := by decide
  obtain ⟨s, hr, hp⟩ := Run.of_exec_any (fun _ _ _ => trivial) hexec
  obtain ⟨hevent, hqueue⟩ := of_decide_eq_true hp
  exact ⟨s, hr, hevent, hqueue, close_announced hr⟩

end Daemon
end Garnd
