import Garnd.Privileges

/- One service. Any number of processes run the daemon on one host. `setup_socket` binds
   the welcome socket to one name, which is taken as long as some process has the
   socket: from its `bind` until the welcome thread is over, which owns it, or the
   process. So at most one process lets clients in. A reload binds the name anew, and
   is never refused because of the socket of the incarnation before it. -/
namespace Garnd
open Transition

namespace Daemon
variable {P : Externals} {s t : Daemon}

/-- The process has its welcome socket, in its `Runtime<Ready>` or with the welcome
thread. -/
def hasSocket (s : Daemon) : Bool :=
  match s.main, s.welcome.pc with
  | .exited _, _ => false
  | .setupEvents, _ | .listen, _ => true
  | _, .ended => false
  | _, _ => true

/-- The name of the welcome socket: which process has it. A `bind` fails for that reason
where some process does, and only there. -/
def naming (p : ℕ) : Monitor Daemon (Option ℕ) Act SocketCalls
  | _, .main (.setupSocket ok), calls, _, owner =>
    if (calls.bind = .ok () → owner = none) ∧ (calls.bind = .error eaddrinuse → owner ≠ none) ∧
        ok = (setupSocket calls).toBool then
      some (if ok then some p else owner)
    else none
  | _, _, _, t, owner => some (if owner = some p ∧ t.hasSocket = false then none else owner)

/-- The name belongs to the process that has the socket. -/
def Named (f : ℕ → Daemon) (owner : Option ℕ) : Prop :=
  ∀ p, (f p).hasSocket = true ↔ owner = some p

theorem hasSocket_iff : s.hasSocket = true ↔
    (∀ e, s.main ≠ .exited e) ∧ (s.main = .setupEvents ∨ s.main = .listen ∨ s.welcome.pc ≠ .ended) := by
  unfold hasSocket
  split <;> simp_all

/-- Past its start `main` sets nothing up. -/
theorem past_start {a : MainAct} (hs : s.mainStep a = some t)
    (ha : a = .join ∨ a = .drain ∨ ∃ tripped, a = .recv tripped) : s.main.settingUp = false := by
  rcases ha with rfl | rfl | ⟨tripped, rfl⟩ <;> cases hm : s.main <;>
    first | rfl | simp [mainStep, hm] at hs

/-- What `main` does about the socket: it binds it, it has it, or it leaves it to the
welcome thread. -/
theorem socket_main {a : MainAct} (hs : s.mainStep a = some t) :
    a = .setupSocket true ∨ s.main = .setupEvents ∨ s.main = .listen ∨ (∃ e, t.main = .exited e) ∨
      t.welcome = s.welcome ∧ t.main ≠ .setupEvents ∧ t.main ≠ .listen := by
  cases a with
  | setupSocket ok =>
    cases ok
    · simp only [mainStep] at hs
      split at hs
      · cases hs
        exact .inr (.inr (.inr (.inl ⟨_, rfl⟩)))
      · cases hs
    · exact .inl rfl
  | setupEvents ok =>
    cases hm : s.main <;> simp [mainStep, hm] at hs
    exact .inr (.inl rfl)
  | listen ok =>
    cases hm : s.main <;> simp [mainStep, hm] at hs
    exact .inr (.inr (.inl rfl))
  | new ok | notifyStarting ok | checkPrivileges ok | notifyListening ok =>
    cases ok <;> cases hm : s.main <;> simp [mainStep, hm] at hs <;> subst hs <;> simp [exit]
  | recv tripped =>
    have hset := past_start hs (.inr (.inr ⟨tripped, rfl⟩))
    cases mainStep_moves hs with
    | ahead hset' | fails hset' => simp [hset] at hset'
    | recvTripped => exact .inr (.inr (.inr (.inl ⟨_, rfl⟩)))
    | recv | recvShutdown | recvReload =>
      exact .inr (.inr (.inr (.inr ⟨rfl, by simp [afterRecv]⟩)))
  | join =>
    have hset := past_start hs (.inl rfl)
    cases mainStep_moves hs with
    | ahead hset' | fails hset' => simp [hset] at hset'
    | joinExits => exact .inr (.inr (.inr (.inl ⟨_, rfl⟩)))
    | join => exact .inr (.inr (.inr (.inr ⟨rfl, by simp⟩)))
  | drain =>
    have hset := past_start hs (.inr (.inl rfl))
    cases mainStep_moves hs with
    | ahead hset' | fails hset' => simp [hset] at hset'
    | success => exact .inr (.inr (.inr (.inl ⟨_, rfl⟩)))
    | reload => exact .inr (.inr (.inr (.inr ⟨rfl, by simp⟩)))
    | drain hmain => exact .inr (.inr (.inr (.inr ⟨rfl, by simp [hmain]⟩)))

/-- A socket comes from `setup_socket`. -/
theorem Staffed.hasSocket {a : Act} (h : s.Staffed) (hs : s.step P a = some t)
    (ht : t.hasSocket = true) : s.hasSocket = true ∨ a = .main (.setupSocket true) := by
  obtain ⟨hlive, hp⟩ := step_party hs
  obtain ⟨hlive', hhas⟩ := hasSocket_iff.mp ht
  simp only [hasSocket_iff, hlive, implies_true, ne_eq, not_false_eq_true, true_and]
  cases hp with
  | @main b =>
    rcases socket_main (mainStep_of_step hs) with rfl | hm | hm | ⟨e, he⟩ | ⟨hw, hne, hne'⟩
    · exact .inr rfl
    · exact .inl (.inl hm)
    · exact .inl (.inr (.inl hm))
    · exact absurd he (hlive' e)
    · rw [hw] at hhas
      exact .inl (.inr (.inr ((hhas.resolve_left hne).resolve_left hne')))
  | welcome hm =>
    refine .inl (.inr (.inr fun hend => ?_))
    exact Welcome.ended_over hend (h.reporting.done hend) hm
  | env _ _ he =>
    rw [he.frame.1, he.frame.2.1] at hhas
    exact .inl hhas
  | client => exact .inl hhas
  | @signal sig _ _ _ _ hm =>
    obtain ⟨shutdown, reload, terminated, reloaded, hshape⟩ := s.handler_shape sig
    cases hm <;> rw [hshape] at hhas <;> exact .inl hhas

theorem named_boot : Named (fun _ => boot) none := by
  intro p
  simp only [reduceCtorEq, iff_false]
  decide

/-- While a process sets an incarnation up, or is done with one, it has no socket, unless
it has just bound it. -/
theorem Staffed.noSocket (h : s.Staffed) (halone : s.main.alone = true)
    (hne : s.main ≠ .setupEvents) (hne' : s.main ≠ .listen) : s.hasSocket = false := by
  apply Bool.eq_false_of_not_eq_true
  intro hhas
  rcases (hasSocket_iff.mp hhas).2 with hm | hm | hend
  · exact hne hm
  · exact hne' hm
  · exact hend (h.instances.keeper.alone halone).1

/-- A process binds the name where no one has it. -/
theorem Named.bind {f : ℕ → Daemon} {owner : Option ℕ} {p : ℕ} {ok : Bool} (h : Named f owner)
    (hst : (f p).Staffed) (hs : (f p).mainStep (.setupSocket ok) = some t)
    (hok : ok = true → owner = none) :
    Named (Function.update f p t) (if ok then some p else owner) := by
  cases hm : (f p).main <;> simp [mainStep, hm] at hs
  have hno : owner ≠ some p := by
    intro heq
    have hhas := (h p).mpr heq
    rw [hst.noSocket (by rw [hm]; rfl) (by simp [hm]) (by simp [hm])] at hhas
    cases hhas
  intro q
  cases ok with
  | true =>
    obtain rfl := hok rfl
    by_cases hq : q = p
    · subst hq hs
      simp [hasSocket]
    · have hqs := h q
      simp_all [Ne.symm hq]
  | false =>
    by_cases hq : q = p
    · subst hq hs
      simp [hasSocket, exit, hno]
    · simpa [hq] using h q

theorem naming_other {p : ℕ} {a : Act} {calls : SocketCalls} {owner : Option ℕ}
    (ha : ¬ ∃ ok, a = .main (.setupSocket ok)) :
    naming p s a calls t owner =
      some (if owner = some p ∧ t.hasSocket = false then none else owner) := by
  unfold naming
  split
  · exact absurd ⟨_, rfl⟩ ha
  · rfl

/-- The processes as they are after one of them has taken a step. -/
theorem Named.step {f : ℕ → Daemon} {owner owner' : Option ℕ} {p : ℕ} {a : Act}
    {calls : SocketCalls} (h : Named f owner) (hst : (f p).Staffed) (hs : (f p).step P a = some t)
    (hw : naming p (f p) a calls t owner = some owner') :
    Named (Function.update f p t) owner' := by
  by_cases ha : ∃ ok, a = .main (.setupSocket ok)
  · obtain ⟨ok, rfl⟩ := ha
    simp only [naming] at hw
    split at hw
    · rename_i hcalls
      cases hw
      refine h.bind hst (mainStep_of_step hs) fun hok => hcalls.1 (setupSocket_eq_ok ?_)
      exact toBool_eq_true.mp (hcalls.2.2.symm.trans hok)
    · cases hw
  · rw [naming_other ha, Option.some.injEq] at hw
    subst hw
    intro q
    by_cases hq : q = p
    · subst hq
      rw [Function.update_self]
      constructor
      · intro ht
        rcases hst.hasSocket hs ht with hhas | rfl
        · rw [if_neg (by simp [ht])]
          exact (h q).mp hhas
        · exact absurd ⟨true, rfl⟩ ha
      · intro ho
        split at ho
        · cases ho
        · rename_i hnot
          simpa [ho] using hnot
    · rw [Function.update_of_ne hq, h q]
      split
      · rename_i hown
        simp [hown.1, Ne.symm hq]
      · rfl

/-- In every run of any number of processes: one at most has the welcome socket; clients
connect to no other; and where a process is told that the service runs already, another
one has the socket. -/
theorem single_instance {xs : List (ℕ × Act × SocketCalls)} {f : ℕ → Daemon} {owner : Option ℕ}
    (hr : Run (fleet (Daemon.step P) naming) anyStep (fun _ => boot, none) xs (f, owner)) :
    (∀ p q, (f p).hasSocket = true → (f q).hasSocket = true → p = q) ∧
    (∀ p c uid t, (f p).step P (.client c (.connect uid)) = some t → (f p).hasSocket = true) ∧
    ∀ p calls r, setupSocket calls = .error (.runtime .serviceAlreadyRunning) →
      fleet (Daemon.step P) naming (f, owner) (p, .main (.setupSocket false), calls) = some r →
      ∃ q, q ≠ p ∧ (f q).hasSocket = true := by
  obtain ⟨hst, hn⟩ := hr.fleet_invariant (I := Staffed) (J := Named)
    (fun _ _ _ h hs => h.step hs) (fun _ _ _ _ _ _ _ h hn hs hw => hn.step (h _) hs hw)
    (fun _ => staffed_boot) named_boot
  refine ⟨fun p q hp hq => ?_, fun p c uid t hs => ?_, fun p calls r hcalls hs => ?_⟩
  · have hown := ((hn p).mp hp).symm.trans ((hn q).mp hq)
    exact Option.some.inj hown
  · obtain ⟨hlive, -⟩ := step_party hs
    rw [Daemon.step] at hs
    split at hs
    · cases hs
    · simp only [clientStep] at hs
      split at hs
      · rename_i hl
        exact hasSocket_iff.mpr ⟨hlive, .inr (.inr ((hst p).listens hl.1))⟩
      · cases hs
  · obtain ⟨t, hs, -, hw⟩ := fleet_eq_some hs
    have hm := mainStep_of_step hs
    simp only [naming] at hw
    split at hw
    · rename_i hnaming
      obtain ⟨q, hq⟩ := Option.ne_none_iff_exists'.mp (hnaming.2.1 (setupSocket_already hcalls))
      have hhas := (hn q).mpr hq
      refine ⟨q, fun heq => ?_, hhas⟩
      subst heq
      cases hpc : (f q).main <;> simp [mainStep, hpc] at hm
      rw [(hst q).noSocket (by rw [hpc]; rfl) (by simp [hpc]) (by simp [hpc])] at hhas
      cases hhas
    · cases hw

/-- Two processes are started, and the second is told that the service runs already. -/
theorem single_instance_two : ∃ xs f owner r, Run (fleet (Daemon.step .oneLetter) naming) anyStep
    (fun _ => boot, none) xs (f, owner) ∧
    fleet (Daemon.step .oneLetter) naming (f, owner)
      (1, .main (.setupSocket false), ⟨.ok (), .ok (), .ok (), .error eaddrinuse⟩) = some r ∧
    (r.1 1).main = .exited .failure ∧ ∃ q, q ≠ 1 ∧ (f q).hasSocket = true := by
  have hexec : (exec (fleet (Daemon.step .oneLetter) naming) (fun _ _ => true)
      (fun _ => boot, none) (startUp.map (fun a => (0, a, ⟨.ok (), .ok (), .ok (), .ok ()⟩)) ++
        (startUp.take 3).map fun a => (1, a, ⟨.ok (), .ok (), .ok (), .ok ()⟩))).any (fun p =>
      (fleet (Daemon.step .oneLetter) naming p
        (1, .main (.setupSocket false), ⟨.ok (), .ok (), .ok (), .error eaddrinuse⟩)).any fun r =>
          (r.1 1).main = .exited .failure) := by decide
  obtain ⟨⟨f, owner⟩, hr, hp⟩ := Run.of_exec_any (fun _ _ _ => trivial) hexec
  obtain ⟨r, hs, hexit⟩ := (Option.any_eq_true _ _).mp hp
  exact ⟨_, f, owner, r, hr, hs, of_decide_eq_true hexit, (single_instance hr).2.2 1 _ r rfl hs⟩

end Daemon
end Garnd
