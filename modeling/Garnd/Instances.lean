import Garnd.EnvironmentRegistry

/- Every step of the daemon keeps the invariant of its environments
   (`Daemon.Instances`), so it holds in every run. -/
namespace Garnd
open Registry (Hand Ctl Phase)
open Relation (ReflTransGen)
namespace Daemon
variable {P : Externals} {s t : Daemon}

/-- A thread that takes its announcements and their senders along. -/
theorem keeper_occupied {fd passed : RawFd} {name : String} {i : EnvId} (h : s.Instances)
    (hmain : s.main.alone = false) (hpc : s.welcome.pc = .dup fd name)
    (hl : s.welcome.environments.lookup name = some i) :
    KeeperOf s.main s.envs { s.welcome with pc := .insertSend ⟨fd, passed, name, i, false⟩ }
      s.closeChan := by
  refine h.keeper.same hpc rfl nofun (iff_of_false nofun nofun) rfl id hmain nofun h.keeper.forgets
    nofun ?_ nofun
  rintro _ ⟨⟩
  refine ⟨?_, fun _ => hl⟩
  have hname := h.registry.named name i hl
  have hknown := h.registry.known i (.inl (by rw [hname]; exact hl))
  simp only [registry, registryOf] at hname hknown
  cases hi : s.envs i with
  | none => simp [hi] at hknown
  | some e => exact ⟨e, rfl, by simpa [hi] using hname⟩

/-- The instance a call is about has stepped. -/
theorem keeper_call {pc pc' : WelcomePc} {a : Attaching} {e e' : Env} (h : s.Keeper)
    (hmain : s.main.alone = false) (hpc : s.welcome.pc = pc) (hat : pc.attaching = some a)
    (hat' : pc'.attaching = some a) (hi : s.envs a.id = some e) (hn : e'.name = e.name) :
    KeeperOf s.main (Function.update s.envs a.id (some e')) { s.welcome with pc := pc' }
      s.closeChan := by
  obtain ⟨⟨e₀, he, hname⟩, hold⟩ := h.target a (by rw [hpc]; exact hat)
  obtain rfl := Option.some.inj (he.symm.trans hi)
  have hopen := attaching_open hat
  have hopen' := attaching_open hat'
  refine h.same hpc rfl ?_ (iff_of_false hopen' hopen) rfl id hmain ?_ h.forgets ?_ ?_ ?_
  · rintro rfl
    cases hat
  · rintro rfl
    cases hat'
  · rintro _ _ _ rfl
    cases hat'
  · intro b hb
    obtain rfl : a = b := Option.some.inj (hat'.symm.trans hb)
    exact ⟨⟨e', Function.update_self .., hn.trans hname⟩, hold⟩
  · rintro _ _ rfl
    cases hat'

/-- The drop of an instance goes on with its fields. -/
theorem keeper_dropFields {i : EnvId} {k k' : After} {w : Welcome} {envs : EnvId → Option Env}
    (h : s.Keeper) (hmain : s.main.alone = false) (hpc : s.welcome.pc = .dropWrite i k)
    (hpc' : w.pc = .dropFields i k') (hk : k'.ctl = .closed ↔ k.ctl = .closed)
    (hf : w.forgot = true → w.panicking = true)
    (hsend : HeldOpen envs i) : KeeperOf s.main envs w s.closeChan := by
  refine h.same hpc hpc' nofun hk rfl id hmain nofun hf nofun nofun ?_
  rintro _ _ ⟨⟩
  exact hsend

theorem keeper_welcome {a : WelcomeAct} {w : Welcome} {u : Daemon} (h : s.Instances)
    (hmain : s.main.alone = false) (hm : Welcome.Moves P s.welcome a w)
    (he : WelcomeEffect P s a u) : KeeperOf u.main u.envs w u.closeChan := by
  have hk : s.Keeper := h.keeper
  rw [he.main_eq]
  cases hm with
  | sendError =>
    cases he with
    | plain hp => cases hp
    | sendError => exact { hk with alone := fun ha => by rw [hmain] at ha; cases ha }
  | createEvent =>
    cases he with
    | plain hp => cases hp
    | createEvent =>
      exact {
        opened := fun _ => .inl rfl, shut := nofun, sender := fun _ => Finset.mem_singleton_self _
        alone := fun ha => by rw [hmain] at ha; cases ha
        forgets := hk.forgets, fresh := nofun, vacant := nofun, target := nofun, unclosed := nofun }
  | createEventFails =>
    rw [he.chan_eq rfl]
    exact {
      opened := fun _ => .inr rfl, shut := nofun, sender := hk.sender
      alone := fun ha => by rw [hmain] at ha; cases ha
      forgets := hk.forgets, fresh := nofun, vacant := nofun, target := nofun, unclosed := nofun }
  | listen _ hpc | listenFails _ hpc | pollFails _ hpc | shutdownRead _ hpc | reloadRead _ hpc
  | accept _ hpc | acceptFails _ hpc | notRoot _ hpc | recv _ hpc | recvMalformed _ hpc
  | dupFails _ hpc | envNewFails _ hpc | sendAbandon _ hpc =>
    rw [he.chan_eq rfl]
    exact hk.loop hpc rfl hmain nofun nofun nofun ⟨rfl, nofun, nofun, nofun⟩ rfl rfl
  | poll _ hpc =>
    obtain ⟨pc, outbox, ctl, hw, hctl, hst, hpl⟩ := s.welcome.onPoll_shape _
    rw [hw, he.chan_eq rfl]
    refine hk.loop hpc rfl hmain nofun nofun ?_ hpl rfl rfl
    rw [hst]
    rcases hctl with rfl | rfl | ⟨rfl, -⟩ <;> nofun
  | closeRead _ hpc =>
    cases he with
    | plain hp => cases hp
    | closeRead => exact hk.loop hpc rfl hmain nofun nofun nofun ⟨rfl, nofun, nofun, nofun⟩ rfl rfl
  | drainBound _ hpc =>
    cases he with
    | plain hp => cases hp
    | tryRecv =>
      exact hk.same hpc rfl nofun (iff_of_false nofun nofun) rfl id hmain nofun hk.forgets nofun
        nofun nofun
  | drainUnbound =>
    cases he with
    | plain hp => cases hp
    | tryRecv => exact { hk with sender := hk.sender, opened := hk.opened, shut := hk.shut }
  | drainEmpty _ hpc =>
    obtain ⟨pc, outbox, ctl, hw, hctl, hst, hpl⟩ := s.welcome.onWelcome_shape _
    rw [hw, he.chan_eq rfl]
    refine hk.loop hpc rfl hmain nofun nofun ?_ hpl rfl rfl
    rw [hst]
    rcases hctl with rfl | rfl <;> nofun
  | drainDisconnected _ hpc =>
    rw [he.chan_eq rfl]
    exact hk.loop hpc hpc hmain nofun nofun nofun ⟨rfl, nofun, nofun, nofun⟩ rfl rfl
  | root _ hpc | getsockoptFails _ hpc | recvFails _ hpc | recvUnanswered _ hpc | send _ hpc
  | close _ hpc =>
    obtain ⟨pc, outbox, hw, hst, hpl⟩ := s.welcome.closing_shape _ _
    rw [hw, he.chan_eq rfl]
    exact hk.loop hpc rfl hmain nofun nofun (by rw [hst]; nofun) hpl rfl rfl
  | occupied _ hpc hl =>
    cases he with
    | plain hp => cases hp
    | dup => exact keeper_occupied h hmain hpc hl
  | vacant _ hpc hl =>
    rw [he.chan_eq rfl]
    refine hk.same hpc rfl nofun (iff_of_false nofun nofun) rfl id hmain nofun hk.forgets ?_ nofun nofun
    rintro _ _ _ ⟨⟩
    exact hl
  | envNew _ hpc =>
    cases he with
    | plain hp => cases hp
    | envNew hpc' hi =>
      obtain ⟨rfl, rfl, rfl⟩ := WelcomePc.envNew.inj (hpc.symm.trans hpc')
      refine hk.same hpc rfl nofun (iff_of_false nofun nofun) rfl Finset.mem_insert_of_mem hmain nofun
        hk.forgets nofun ?_ nofun
      rintro _ ⟨⟩
      exact ⟨⟨_, Function.update_self .., rfl⟩, nofun⟩
  | insertSend _ hpc =>
    cases he with
    | plain hp => cases hp
    | insertSend hpc' hi hs =>
      obtain rfl := WelcomePc.insertSend.inj (hpc.symm.trans hpc')
      obtain ⟨chan, -, rfl⟩ := Option.map_eq_some_iff.mp hs
      exact keeper_call hk hmain hpc rfl rfl hi rfl
  | insertWrite _ hpc =>
    cases he with
    | plain hp => cases hp
    | insertWrite hpc' hi hs =>
      obtain rfl := WelcomePc.insertWrite.inj (hpc.symm.trans hpc')
      obtain ⟨count, -, rfl⟩ := Option.map_eq_some_iff.mp hs
      exact keeper_call hk hmain hpc rfl rfl hi rfl
  | insertSendFails _ hpc | insertWriteFails _ hpc | refused _ hpc | hungUp _ hpc =>
    rw [he.chan_eq rfl]
    refine hk.loop hpc rfl hmain nofun nofun ?_ (Welcome.failInsert_plain _ _) rfl rfl
    rw [Welcome.failInsert_stage]
    split <;> nofun
  | @inserted _ serializes _ hpc =>
    rw [he.chan_eq rfl]
    cases serializes <;>
      exact hk.loop hpc rfl hmain nofun nofun nofun ⟨rfl, nofun, nofun, nofun⟩ rfl rfl
  | @dropWrite i k _ _ hpc =>
    have hkeep : s.welcome.Keeps i := .inr (.inl (by rw [hpc]; rfl))
    rw [he.chan_eq rfl]
    refine keeper_dropFields hk hmain hpc rfl Iff.rfl hk.forgets ?_
    cases he with
    | plain hp => cases hp
    | dropWrite hpc' hi hs =>
      obtain ⟨rfl, rfl⟩ := WelcomePc.dropWrite.inj (hpc.symm.trans hpc')
      obtain ⟨count, -, rfl⟩ := Option.map_eq_some_iff.mp hs
      intro e hi'
      simp only [Function.update_self, Option.some.injEq] at hi'
      subst hi'
      exact (h.kept _ _ hi hkeep).2
    | dropWriteFails => exact fun e hi => (h.kept _ _ hi hkeep).2
  | @dropWritePanics i k _ hpc =>
    rw [he.chan_eq rfl]
    refine keeper_dropFields hk hmain hpc rfl (by rw [k.panics_ctl]) (fun _ => rfl) ?_
    cases he with
    | plain hp => cases hp
    | dropWriteFails => exact fun e hi => (h.kept _ _ hi (.inr (.inl (by rw [hpc]; rfl)))).2
  | dropFields _ hpc =>
    rw [he.chan_eq rfl]
    exact hk.plain hpc rfl nofun Iff.rfl hmain hk.forgets ⟨rfl, nofun, nofun, nofun⟩
  | @join i k _ _ hpc =>
    obtain ⟨pc, outbox, hw, hst, hpl⟩ := s.welcome.resume_shape k
    rw [hw, he.chan_eq rfl]
    exact hk.plain hpc rfl nofun (by rw [hst]; exact k.stage_closed) hmain hk.forgets hpl
  | @joinPanics i k _ hpc =>
    obtain ⟨pc, outbox, hw, hst, hpl⟩ := (s.welcome.panic k).resume_shape k.panics
    rw [hw, he.chan_eq rfl]
    refine hk.plain hpc rfl nofun ?_ hmain (fun _ => rfl) hpl
    rw [hst]
    exact k.panics.stage_closed.trans (by rw [k.panics_ctl]; exact Iff.rfl)
  | dropLocals =>
    cases he with
    | plain hp => cases hp
    | dropLocals =>
      exact {
        opened := fun hc => absurd rfl hc, shut := fun _ => rfl, sender := nofun
        alone := fun ha => by rw [hmain] at ha; cases ha
        forgets := hk.forgets, fresh := nofun, vacant := nofun, target := nofun, unclosed := nofun }
  | teardown _ hpc | ended _ hpc =>
    rw [he.chan_eq rfl]
    exact hk.plain hpc rfl nofun (iff_of_true rfl rfl) hmain hk.forgets ⟨rfl, nofun, nofun, nofun⟩

/-! ## The instances -/

section
variable {envs : EnvId → Option Env} {w w' : Welcome}

/-- The thread moves on without touching an instance. -/
theorem EnvsOf.still (h : EnvsOf envs w) (hcall : w'.pc.stage.call = w.pc.stage.call)
    (hkeep : ∀ i, w'.Keeps i → w.Keeps i)
    (hbound : ∀ n i, w'.environments.lookup n = some i → w.environments.lookup n = some i) :
    EnvsOf envs w' where
  sound i e hi := by
    obtain ⟨hl, hm, mark, ha⟩ := h.sound i e hi
    exact ⟨hl, hm, mark, by rw [Welcome.owner, hcall]; exact ha⟩
  kept i e hi hk := h.kept i e hi (hkeep i hk)
  served n i e hl hi := h.served n i e (hbound n i hl) hi

/-- One instance has stepped. -/
theorem EnvsOf.update {i : EnvId} {e' : Env} (h : EnvsOf envs w)
    (hcall : ∀ j, j ≠ i → w'.pc.stage.call j = w.pc.stage.call j)
    (hkeep : ∀ j, j ≠ i → w'.Keeps j → w.Keeps j)
    (hbound : ∀ n j, j ≠ i → w'.environments.lookup n = some j → w.environments.lookup n = some j)
    (hsound : Sound w' i e') (hkept : w'.Keeps i → e'.Kept ∧ e'.addListener.senders ≠ ∅)
    (hserved : ∀ n, w'.environments.lookup n = some i → e'.added ≠ []) :
    EnvsOf (Function.update envs i (some e')) w' := by
  refine ⟨fun j e hj => ?_, fun j e hj hk => ?_, fun n j e hl hj => ?_⟩ <;> by_cases hji : j = i
  · subst hji
    simp only [Function.update_self, Option.some.injEq] at hj
    subst hj
    exact hsound
  · rw [Function.update_of_ne hji] at hj
    obtain ⟨hl, hm, mark, ha⟩ := h.sound j e hj
    exact ⟨hl, hm, mark, by rw [Welcome.owner, hcall j hji]; exact ha⟩
  · subst hji
    simp only [Function.update_self, Option.some.injEq] at hj
    subst hj
    exact hkept hk
  · rw [Function.update_of_ne hji] at hj
    exact h.kept j e hj (hkeep j hji hk)
  · subst hji
    simp only [Function.update_self, Option.some.injEq] at hj
    subst hj
    exact hserved n hl
  · rw [Function.update_of_ne hji] at hj
    exact h.served n j e (hbound n j hji hl) hj

/-- Nothing comes into the thread's hands. -/
theorem keeps_of {st st' : Stage} (hst : w.pc.stage = st) (hst' : w'.pc.stage = st')
    (he : w'.environments = w.environments) (hk : st'.kept = none ∨ st'.kept = st.kept)
    (ht : st'.torn = [] ∨ st'.torn = st.torn) (i : EnvId) (h : w'.Keeps i) : w.Keeps i := by
  unfold Welcome.Keeps at h ⊢
  rw [hst', he] at h
  rw [hst]
  rcases h with h | h | h
  · exact .inl h
  · rcases hk with hk | hk <;> rw [hk] at h
    · cases h
    · exact .inr (.inl h)
  · rcases ht with ht | ht <;> rw [ht] at h
    · cases h
    · exact .inr (.inr h)

end

theorem WelcomeEffect.envs_eq {a : WelcomeAct} {u : Daemon} (he : WelcomeEffect P s a u)
    (ha : a.handsOff = true) : u.envs = s.envs := by
  cases he with
  | envNew | insertSend | insertWrite | insertRecv | dropWrite | dropFields => cases ha
  | recv _ hr =>
    obtain ⟨c, conn, -, -, ⟨rest, -, rfl⟩ | ⟨-, -, rfl⟩⟩ := recvFrom_eq_some hr <;> rfl
  | send _ hr =>
    obtain ⟨c, conn, -, -, -, rfl⟩ := sendTo_eq_some hr
    rfl
  | _ => rfl

/-- A call of `insert_socket` goes on: the owner moves from `c` to `c'`. -/
theorem envs_call {w : Welcome} {a : Attaching} {e e' : Env} {c c' : Owner} (h : s.Instances)
    (hst : s.welcome.pc.stage = .attaching a c) (hat : s.welcome.pc.attaching = some a)
    (hi : s.envs a.id = some e) (hcall : ∀ i, w.pc.stage.call i = if i = a.id then c' else .idle)
    (hsame : Env.SameThread e e') (hdrop : e'.dropEvent = e.dropEvent)
    (hsend : e'.addListener.senders = e.addListener.senders)
    (hatt : ∀ mark, e.Attached c mark → ∃ mark', e'.Attached c' mark')
    (hkeep : ∀ j, w.Keeps j → s.welcome.Keeps j)
    (hbound : ∀ n j, j ≠ a.id → w.environments.lookup n = some j →
      s.welcome.environments.lookup n = some j)
    (hserved : ∀ n, w.environments.lookup n = some a.id → e.added ≠ []) :
    EnvsOf (Function.update s.envs a.id (some e')) w := by
  obtain ⟨hk, hopen⟩ := h.kept _ _ hi (h.keeper.keeps hat)
  obtain ⟨hl, hm, mark, ha⟩ := h.sound _ _ hi
  simp only [Welcome.owner, hopen, if_false, hst, Stage.attaching, if_true] at ha
  obtain ⟨mark', ha'⟩ := hatt mark ha
  refine h.toEnvsOf.update (fun j hj => ?_) (fun j _ => hkeep j) hbound ⟨?_, ?_, mark', ?_⟩
    (fun _ => ⟨hk.same hsame hdrop, by rw [hsend]; exact hopen⟩)
    (fun n hn => by rw [hsame.added]; exact hserved n hn)
  · rw [hcall, hst]
    simp [Stage.attaching, hj]
  · exact hl.same hsame (Nat.le_of_eq hdrop.symm)
  · exact hm.same hsame
  · simpa only [Welcome.owner, hsend, hopen, if_false, hcall, if_true] using ha'

/-- `insert_socket` has failed: an instance that was made for it is still kept. -/
theorem keeps_failInsert {a : Attaching} {c : Owner} {err : DetailedError}
    (hst : s.welcome.pc.stage = .attaching a c) (j : EnvId)
    (h : (s.welcome.failInsert a err).Keeps j) : s.welcome.Keeps j := by
  refine keeps_of hst (Welcome.failInsert_stage a err) rfl ?_ ?_ j h <;> split <;> rename_i hf
  · exact .inr (by simp [Stage.dropping, Stage.attaching, hf])
  · exact .inl rfl
  · exact .inl rfl
  · exact .inl rfl

theorem call_failInsert {w : Welcome} {a : Attaching} {err : DetailedError} (i : EnvId) :
    (w.failInsert a err).pc.stage.call i = .idle := by
  rw [Welcome.failInsert_stage]
  split <;> rfl

/-- After the receive, with or without a response, the owner is between calls. -/
theorem answered_attached {e e' : Env} {r : Option (Except (Call × Errno) Unit)} {x : RawFd}
    (h : answered e r = some e') :
    Env.SameThread e e' ∧ e'.dropEvent = e.dropEvent ∧
      e'.addListener.senders = e.addListener.senders ∧
      ∀ mark, e.Attached (.waiting x) mark → ∃ mark', e'.Attached .idle mark' := by
  unfold answered at h
  split at h <;> split at h <;> cases h
  · rename_i hr
    exact ⟨Env.sameThread_insertRecv, rfl, rfl, fun mark ha => ⟨mark, ha.insertRecv hr⟩⟩
  · rename_i hr
    exact ⟨Env.sameThread_insertRecv, rfl, rfl, fun mark ha => ⟨mark, ha.insertRecv hr⟩⟩
  · rename_i hr
    exact ⟨.refl e, rfl, rfl, fun mark ha => ⟨mark, (ha.hangup hr).1⟩⟩

/-- The receive of a response that is not `Ok`, or of none. -/
theorem envs_refused {at' : Attaching} {e e' : Env} {err : DetailedError}
    {r : Option (Except (Call × Errno) Unit)} (h : s.Instances)
    (hpc : s.welcome.pc = .insertRecv at') (hi : s.envs at'.id = some e)
    (ha : answered e r = some e') :
    EnvsOf (Function.update s.envs at'.id (some e')) (s.welcome.failInsert at' err) := by
  have hst : s.welcome.pc.stage = .attaching at' (.waiting at'.passed) := by rw [hpc]; rfl
  obtain ⟨hsame, hdrop, hsend, hatt⟩ := answered_attached (x := at'.passed) ha
  exact envs_call h hst (by rw [hpc]; rfl) hi (fun i => by rw [call_failInsert, ite_self]) hsame hdrop
    hsend hatt (keeps_failInsert hst) (fun _ _ _ hl => hl) (fun n hl => h.served n _ e hl hi)

theorem envs_inserted {at' : Attaching} {serializes : Bool} {e e' : Env} (h : s.Instances)
    (hpc : s.welcome.pc = .insertRecv at') (hi : s.envs at'.id = some e)
    (ha : answered e (some (.ok ())) = some e') :
    EnvsOf (Function.update s.envs at'.id (some e')) (s.welcome.inserted at' serializes) := by
  have hst : s.welcome.pc.stage = .attaching at' (.waiting at'.passed) := by rw [hpc]; rfl
  have hst' : (s.welcome.inserted at' serializes).pc.stage = .between .idle [] := by
    cases serializes <;> rfl
  have hat : s.welcome.pc.attaching = some at' := by rw [hpc]; rfl
  have hkeep := h.keeper.keeps hat
  have hadd : e.added ≠ [] := by
    intro hnil
    have := (h.inserted hpc hi ha (h.kept _ _ hi hkeep).2).1
    simp [hnil] at this
  have hl (n : String) (j : EnvId) :
      (s.welcome.inserted at' serializes).environments.lookup n = some j →
        j = at'.id ∨ s.welcome.environments.lookup n = some j := by
    have henv : (s.welcome.inserted at' serializes).environments =
        if at'.fresh then s.welcome.environments.insert at'.name at'.id
        else s.welcome.environments := by
      cases serializes <;> rfl
    rw [henv]
    split
    · by_cases hn : n = at'.name
      · subst hn
        rw [AList.lookup_insert]
        exact fun hj => .inl (Option.some.inj hj).symm
      · rw [AList.lookup_insert_ne hn]
        exact .inr
    · exact .inr
  obtain ⟨hsame, hdrop, hsend, hatt⟩ := answered_attached (x := at'.passed) ha
  refine envs_call h hst hat hi (fun i => by rw [hst', ite_self]; rfl) hsame hdrop hsend hatt ?_
    (fun n j hj hn => (hl n j hn).resolve_left hj) (fun _ _ => hadd)
  intro j hj
  unfold Welcome.Keeps at hj
  rw [hst'] at hj
  rcases hj with ⟨n, hn⟩ | hj | hj
  · rcases hl n j hn with rfl | hn
    · exact hkeep
    · exact .inl ⟨n, hn⟩
  · cases hj
  · cases hj

/-- A new instance. -/
theorem envs_envNew {w : Welcome} {fd passed : RawFd} {name : String} {i : EnvId} (h : s.Instances)
    (hpc : s.welcome.pc = .envNew fd passed name) (hi : s.envs i = none)
    (hst : w.pc.stage = .attaching ⟨fd, passed, name, i, true⟩ .idle)
    (he : w.environments = s.welcome.environments) :
    EnvsOf (Function.update s.envs i (some (.new name i))) w := by
  have hcall (j : EnvId) : w.pc.stage.call j = .idle := by
    rw [hst]
    exact ite_self _
  refine h.toEnvsOf.update (fun j _ => ?_) (fun j hj hk => ?_) (fun n j _ hl => by rwa [he] at hl)
    ⟨Env.local_new name i, Env.mutexes_new name i, 0, ?_⟩
    (fun _ => ⟨Env.kept_new name i, Finset.singleton_ne_empty _⟩) (fun n hn => ?_)
  · rw [hcall, hpc]
    rfl
  · unfold Welcome.Keeps at hk
    rw [hst, he] at hk
    rcases hk with hk | hk | hk
    · exact .inl hk
    · exact absurd (Option.some.inj hk).symm hj
    · cases hk
  · have hopen : (Env.new name i).addListener.senders ≠ ∅ := Finset.singleton_ne_empty _
    rw [Welcome.owner, if_neg hopen, hcall]
    exact Env.attached_new name i
  · -- a number that was never used is not bound
    rw [he] at hn
    have hknown := h.registry.known i (.inl (by
      rw [h.registry.named n i hn]
      exact hn))
    simp [registry, registryOf, hi] at hknown

/-- The instance in hand is being dropped: it is not kept any more. -/
theorem envs_drop {w : Welcome} {i : EnvId} {e e' : Env} (k k' : After) {kept : Option EnvId}
    (h : s.Instances) (hst : s.welcome.pc.stage = .dropping i kept k.ctl k.torn)
    (hst' : w.pc.stage = .dropping i none k'.ctl k'.torn) (ht : k'.torn = [] ∨ k'.torn = k.torn)
    (he : w.environments = s.welcome.environments) (hsame : Env.SameThread e e')
    (hdrop : e.dropEvent ≤ e'.dropEvent)
    (hi : s.envs i = some e) (hatt : ∃ mark, e'.Attached (w.owner i e') mark) :
    EnvsOf (Function.update s.envs i (some e')) w := by
  obtain ⟨hl, hm, -⟩ := h.sound _ _ hi
  -- what is in hand is neither bound nor to be torn down
  have hhand : s.registry.hand.Holds i := .inr (by simp [registry, registryOf, hst, Stage.dropping])
  obtain ⟨hunbound, hapart⟩ := h.registry.apart i hhand
  have hnot (n : String) : s.welcome.environments.lookup n ≠ some i := by
    intro hn
    have hname := h.registry.named n i hn
    have hb : s.registry.bound n = some i := hn
    rw [← hname, hunbound] at hb
    cases hb
  have hkeep (j : EnvId) (hj : w.Keeps j) : s.welcome.Keeps j :=
    keeps_of hst hst' he (.inl rfl) ht j hj
  refine h.toEnvsOf.update (fun j _ => by rw [hst, hst']; rfl) (fun j _ => hkeep j)
    (fun n j _ hn => by rwa [he] at hn) ⟨hl.same hsame hdrop, hm.same hsame, hatt⟩ (fun hk => ?_)
    (fun n hn => absurd (by rwa [he] at hn) (hnot n))
  exfalso
  unfold Welcome.Keeps at hk
  rw [hst', he] at hk
  rcases hk with ⟨n, hn⟩ | hk | hk
  · exact hnot n hn
  · cases hk
  · have hmem : i ∈ s.registry.torn := by
      rcases ht with ht | ht
      · simp [Stage.dropping, ht] at hk
      · simpa [registry, registryOf, hst, Stage.dropping, ht] using hk
    exact hapart i hmem rfl

theorem owner_dropFields {w : Welcome} {i : EnvId} {e : Env} : w.owner i e.dropFields = .closed :=
  if_pos rfl

theorem envs_welcome {a : WelcomeAct} {w : Welcome} {u : Daemon} (h : s.Instances)
    (hm : Welcome.Moves P s.welcome a w) (he : WelcomeEffect P s a u) : EnvsOf u.envs w := by
  have henvs : EnvsOf s.envs s.welcome := h.toEnvsOf
  -- the thread moves on with nothing new in its hands
  have still {pc : WelcomePc} {w' : Welcome} {st : Stage} (ha : a.handsOff = true)
      (hpc : s.welcome.pc = pc) (hst : w'.pc.stage = st) (hcall : st.call = pc.stage.call)
      (hk : st.kept = none ∨ st.kept = pc.stage.kept) (ht : st.torn = [] ∨ st.torn = pc.stage.torn)
      (henv : w'.environments = s.welcome.environments) : EnvsOf u.envs w' := by
    rw [he.envs_eq ha]
    exact henvs.still (by rw [hst, hpc, hcall]) (keeps_of (by rw [hpc]) hst henv hk ht)
      (fun n i hl => by rwa [henv] at hl)
  cases hm with
  | sendError | drainDisconnected =>
    exact still rfl rfl rfl rfl (.inr rfl) (.inr rfl) rfl
  | drainUnbound =>
    rw [he.envs_eq rfl]
    exact henvs
  | createEvent _ hpc | createEventFails _ hpc | listen _ hpc | listenFails _ hpc | pollFails _ hpc
  | shutdownRead _ hpc | reloadRead _ hpc | closeRead _ hpc | accept _ hpc | acceptFails _ hpc
  | notRoot _ hpc | recv _ hpc | recvMalformed _ hpc | vacant _ hpc | dupFails _ hpc
  | envNewFails _ hpc | ended _ hpc =>
    exact still rfl hpc rfl rfl (.inl rfl) (.inl rfl) rfl
  | occupied _ hpc =>
    exact still rfl hpc rfl (funext fun _ => ite_self _) (.inl rfl) (.inl rfl) rfl
  | sendAbandon _ hpc =>
    exact still rfl hpc rfl rfl (.inr rfl) (.inl rfl) rfl
  | poll _ hpc =>
    obtain ⟨pc, outbox, ctl, hw, -, hst, -⟩ := s.welcome.onPoll_shape _
    rw [hw]
    exact still rfl hpc hst rfl (.inl rfl) (.inl rfl) rfl
  | drainEmpty _ hpc =>
    obtain ⟨pc, outbox, ctl, hw, -, hst, -⟩ := s.welcome.onWelcome_shape _
    rw [hw]
    exact still rfl hpc hst rfl (.inl rfl) (.inl rfl) rfl
  | root _ hpc | getsockoptFails _ hpc | recvFails _ hpc | recvUnanswered _ hpc | send _ hpc
  | close _ hpc =>
    obtain ⟨pc, outbox, hw, hst, -⟩ := s.welcome.closing_shape _ _
    rw [hw]
    exact still rfl hpc hst rfl (.inl rfl) (.inl rfl) rfl
  | @drainBound name _ i _ hpc hl =>
    rw [he.envs_eq rfl]
    have hbound (n : String) (j : EnvId)
        (hn : (s.welcome.environments.erase name).lookup n = some j) :
        s.welcome.environments.lookup n = some j := by
      by_cases hnn : n = name
      · subst hnn
        simp at hn
      · rwa [AList.lookup_erase_ne hnn] at hn
    refine henvs.still (by rw [hpc]; rfl) (fun j hj => ?_) hbound
    rcases hj with ⟨n, hn⟩ | hj | hj
    · exact .inl ⟨n, hbound n j hn⟩
    · obtain rfl := Option.some.inj hj
      exact .inl ⟨name, hl⟩
    · cases hj
  | envNew _ hpc =>
    cases he with
    | plain hp => cases hp
    | envNew hpc' hi =>
      obtain ⟨rfl, rfl, rfl⟩ := WelcomePc.envNew.inj (hpc.symm.trans hpc')
      exact envs_envNew h hpc hi rfl rfl
  | @insertSend at' _ hpc =>
    cases he with
    | plain hp => cases hp
    | insertSend hpc' hi hs =>
      obtain rfl := WelcomePc.insertSend.inj (hpc.symm.trans hpc')
      have hsame := Env.sameThread_insertSend hs
      obtain ⟨chan, hc, rfl⟩ := Option.map_eq_some_iff.mp hs
      obtain ⟨-, rfl⟩ := Channel.send_eq_some.mp hc
      exact envs_call (c := .idle) h (by rw [hpc]; rfl) (by rw [hpc]; rfl) hi (fun _ => rfl) hsame rfl rfl
        (fun mark ha => ⟨_, ha.insertSend hs⟩)
        (keeps_of (congrArg WelcomePc.stage hpc) rfl rfl (.inr rfl) (.inl rfl)) (fun _ _ _ hl => hl)
        (fun n hl => h.served n _ _ hl hi)
  | @insertWrite at' _ hpc =>
    cases he with
    | plain hp => cases hp
    | insertWrite hpc' hi hs =>
      obtain rfl := WelcomePc.insertWrite.inj (hpc.symm.trans hpc')
      have hsame := Env.sameThread_insertWrite hs
      obtain ⟨count, hc, rfl⟩ := Option.map_eq_some_iff.mp hs
      exact envs_call (c := .writing at'.passed) h (by rw [hpc]; rfl) (by rw [hpc]; rfl) hi
        (fun _ => rfl) hsame rfl rfl (fun mark ha => ⟨_, ha.insertWrite hs⟩)
        (keeps_of (congrArg WelcomePc.stage hpc) rfl rfl (.inr rfl) (.inl rfl)) (fun _ _ _ hl => hl)
        (fun n hl => h.served n _ _ hl hi)
  | @insertSendFails at' _ hpc =>
    have hst : s.welcome.pc.stage = .attaching at' .idle := by rw [hpc]; rfl
    rw [he.envs_eq rfl]
    refine henvs.still ?_ (keeps_failInsert hst) (fun _ _ hl => hl)
    rw [hst]
    exact funext fun i => (call_failInsert i).trans (ite_self _).symm
  | @insertWriteFails at' _ hpc =>
    have hst : s.welcome.pc.stage = .attaching at' (.writing at'.passed) := by rw [hpc]; rfl
    cases he with
    | plain hp => cases hp
    | insertWriteFails hpc' hi hs =>
      obtain rfl := WelcomePc.insertWrite.inj (hpc.symm.trans hpc')
      have hcalled := envs_call (w := s.welcome.failInsert at' (.sys .eventWrite eagain)) h hst
        (by rw [hpc]; rfl) hi
        (fun i => by rw [call_failInsert, ite_self]) (.refl _) rfl rfl
        (fun mark ha => ⟨_, (ha.insertWrite_none hs).2.1⟩) (keeps_failInsert hst)
        (fun _ _ _ hl => hl) (fun n hl => h.served n _ _ hl hi)
      rwa [← hi, Function.update_eq_self] at hcalled
  | inserted _ hpc =>
    cases he with
    | plain hp => cases hp
    | insertRecv hpc' hi ha =>
      obtain rfl := WelcomePc.insertRecv.inj (hpc.symm.trans hpc')
      exact envs_inserted h hpc hi ha
  | refused _ hpc | hungUp _ hpc =>
    cases he with
    | plain hp => cases hp
    | insertRecv hpc' hi ha =>
      obtain rfl := WelcomePc.insertRecv.inj (hpc.symm.trans hpc')
      exact envs_refused h hpc hi ha
  | @dropWrite i k written _ hpc =>
    cases written with
    | false => exact still rfl hpc rfl rfl (.inl rfl) (.inr rfl) rfl
    | true =>
      cases he with
      | plain hp => cases hp
      | dropWrite hpc' hi hs =>
        obtain ⟨rfl, rfl⟩ := WelcomePc.dropWrite.inj (hpc.symm.trans hpc')
        have hsame := Env.sameThread_dropWrite hs
        obtain ⟨hl, hm, mark, ha⟩ := h.sound _ _ hi
        have ha := ha.dropWrite hs
        obtain ⟨count, hc, rfl⟩ := Option.map_eq_some_iff.mp hs
        obtain ⟨-, rfl⟩ := EventFd.write_eq_some.mp hc
        refine envs_drop k k h (by rw [hpc]; rfl) rfl (.inr rfl) rfl hsame
          (Nat.le_succ _) hi ⟨mark, ?_⟩
        rw [Welcome.owner, hpc] at ha
        exact ha
  | @dropWritePanics i k _ hpc =>
    refine still rfl hpc rfl rfl (.inl rfl) ?_ rfl
    cases k <;> exact .inl rfl
  | @dropFields i k _ hpc =>
    cases he with
    | plain hp => cases hp
    | dropFields hpc' hi =>
      obtain ⟨rfl, rfl⟩ := WelcomePc.dropFields.inj (hpc.symm.trans hpc')
      obtain ⟨hl, hm, mark, ha⟩ := h.sound _ _ hi
      have hopen := h.keeper.unclosed _ _ hpc _ hi
      rw [Welcome.owner, if_neg hopen, hpc] at ha
      refine envs_drop k k h (by rw [hpc]; rfl) rfl (.inr rfl) rfl
        Env.sameThread_dropFields (Nat.le_refl _) hi ⟨mark, ?_⟩
      rw [owner_dropFields]
      exact ha.dropFields
  | @join i k _ _ hpc =>
    obtain ⟨pc, outbox, hw, hst, -⟩ := s.welcome.resume_shape k
    rw [hw]
    refine still rfl hpc hst ?_ ?_ ?_ rfl <;> cases k <;>
      first | exact rfl | exact .inl rfl | exact .inr rfl
  | @joinPanics i k _ hpc =>
    obtain ⟨pc, outbox, hw, hst, -⟩ := (s.welcome.panic k).resume_shape k.panics
    rw [hw]
    refine still rfl hpc hst ?_ ?_ ?_ rfl <;> cases k <;>
      first | exact rfl | exact .inl rfl
  | @dropLocals drained _ hpc =>
    rw [he.envs_eq rfl]
    refine henvs.still (by rw [hpc]; rfl) (fun j hj => ?_) (by simp)
    rcases hj with ⟨n, hn⟩ | hj | hj
    · cases hn
    · cases hj
    · obtain ⟨⟨n, i⟩, hp, rfl⟩ := List.mem_map.mp hj
      exact .inl ⟨n, AList.mem_lookup_iff.mpr hp⟩
  | @teardown rest i _ hpc hi =>
    rw [he.envs_eq rfl]
    refine henvs.still (by rw [hpc]; rfl) (fun j hj => ?_) (fun _ _ hl => hl)
    have htorn : s.welcome.pc.stage.torn = rest := by rw [hpc]; rfl
    rcases hj with hj | hj | hj
    · exact .inl hj
    · obtain rfl := Option.some.inj hj
      exact .inr (.inr (htorn ▸ hi))
    · exact .inr (.inr (htorn ▸ List.mem_of_mem_erase hj))

/-! ## The other parties -/

/-- The parts of the daemon the invariant is about are the same. -/
theorem Instances.frame (h : s.Instances) (henvs : t.envs = s.envs) (hw : t.welcome = s.welcome)
    (hchan : t.closeChan = s.closeChan) (hev : t.closeEvent = s.closeEvent)
    (halone : t.main.alone = true →
      s.welcome.pc = .ended ∧ s.welcome.outbox = [] ∧ s.welcome.forgot = false) : t.Instances where
  toEnvsOf := by rw [henvs, hw]; exact h.toEnvsOf
  registry := by
    unfold Daemon.registry
    rw [henvs, hw, hchan, hev]
    exact h.registry
  keeper := by
    unfold Keeper
    rw [henvs, hw, hchan]
    exact { h.keeper with alone := halone }

/-- What another party may do to the instances and the announcements behind the
keeper's back. -/
theorem KeeperOf.others {main : MainPc} {envs envs' : EnvId → Option Env} {w : Welcome}
    {chan chan' : Channel Thread (String × EnvId)} (h : KeeperOf main envs w chan)
    (hrx : chan'.receiver = chan.receiver)
    (hsend : .welcome ∈ chan.senders → .welcome ∈ chan'.senders)
    (hname : ∀ j e, envs j = some e → ∃ e', envs' j = some e' ∧ e'.name = e.name)
    (hopen : ∀ j e', envs' j = some e' →
      ∃ e, envs j = some e ∧ e'.addListener.senders = e.addListener.senders) :
    KeeperOf main envs' w chan' where
  opened hc := by rw [hrx]; exact h.opened hc
  shut hc := hrx.trans (h.shut hc)
  sender hr := hsend (h.sender (hrx.symm.trans hr))
  alone := h.alone
  forgets := h.forgets
  fresh := h.fresh
  vacant := h.vacant
  target a ha := by
    obtain ⟨⟨e, he, hn⟩, hl⟩ := h.target a ha
    obtain ⟨e', he', hn'⟩ := hname a.id e he
    exact ⟨⟨e', he', hn'.trans hn⟩, hl⟩
  unclosed i k hpc e' he' := by
    obtain ⟨e, he, hs⟩ := hopen i e' he'
    rw [hs]
    exact h.unclosed i k hpc e he

/-- One instance is replaced by another state of it. -/
theorem KeeperOf.replace {main : MainPc} {envs : EnvId → Option Env} {w : Welcome}
    {chan chan' : Channel Thread (String × EnvId)} {i : EnvId} {e : Env}
    (h : KeeperOf main envs w chan) (e' : Env) (hi : envs i = some e) (hrx : chan'.receiver = chan.receiver)
    (hsend : .welcome ∈ chan.senders → .welcome ∈ chan'.senders) (hname : e'.name = e.name)
    (hopen : e'.addListener.senders = e.addListener.senders) :
    KeeperOf main (Function.update envs i (some e')) w chan' := by
  refine h.others hrx hsend (fun j f hj => ?_) (fun j f' hj => ?_) <;> by_cases hji : j = i
  · subst hji
    obtain rfl := Option.some.inj (hi.symm.trans hj)
    exact ⟨e', Function.update_self .., hname⟩
  · exact ⟨f, by rw [Function.update_of_ne hji, hj], rfl⟩
  · subst hji
    rw [Function.update_self] at hj
    obtain rfl := Option.some.inj hj
    exact ⟨e, hi, hopen⟩
  · rw [Function.update_of_ne hji] at hj
    exact ⟨f', hj, rfl⟩

/-- What a step of an environment thread leaves to the others. -/
theorem EnvEffect.frame {i : EnvId} {e e' : Env} {a : EnvAct} {u : Daemon}
    (he : EnvEffect P s i e e' a u) :
    u.main = s.main ∧ u.welcome = s.welcome ∧ u.closeChan.receiver = s.closeChan.receiver ∧
      (.welcome ∈ s.closeChan.senders → .welcome ∈ u.closeChan.senders) := by
  cases he with
  | recv hr =>
    obtain ⟨c, conn, -, -, ⟨rest, -, rfl⟩ | ⟨-, -, rfl⟩⟩ := recvFrom_eq_some hr <;>
      exact ⟨rfl, rfl, rfl, id⟩
  | send hr =>
    obtain ⟨c, conn, -, -, -, rfl⟩ := sendTo_eq_some hr
    exact ⟨rfl, rfl, rfl, id⟩
  | dropSync | dropListener =>
    refine ⟨rfl, rfl, ?_, ?_⟩ <;> dsimp only <;> unfold dropCaptures <;> split
    · rfl
    · rfl
    · exact fun hmem => Finset.mem_erase_of_ne_of_mem nofun hmem
    · exact id
  | _ => exact ⟨rfl, rfl, rfl, id⟩

/-- A step of an environment thread keeps the instances. -/
theorem envs_env {i : EnvId} {e e' : Env} {a : EnvAct} (h : s.Instances) (hi : s.envs i = some e)
    (hs : e.step P a = some e') : EnvsOf (Function.update s.envs i (some e')) s.welcome := by
  obtain ⟨hl, hm, mark, hatt⟩ := h.sound i e hi
  have hsend := Env.senders_step hs
  have howner : s.welcome.owner i e' = s.welcome.owner i e := by
    unfold Welcome.owner
    rw [hsend]
  refine h.toEnvsOf.update (fun _ _ => rfl) (fun _ _ hk => hk) (fun _ _ _ hn => hn)
    ⟨hl.step hs, hm.step hl hs, mark, ?_⟩ (fun hk => ?_) (fun n hn => ?_)
  · rw [howner]
    exact hatt.thread hs
  · obtain ⟨hkept, hopen⟩ := h.kept i e hi hk
    exact ⟨hkept.step (Env.phase_step hl hm hatt hs) hs, by rw [hsend]; exact hopen⟩
  · have hadd := h.served n i e hn hi
    exact fun hnil => hadd (List.prefix_nil.mp (hnil ▸ Env.added_step hs))

theorem Instances.env {i : EnvId} {e e' : Env} {a : EnvAct} {u : Daemon} (h : s.Instances)
    (hi : s.envs i = some e) (hs : e.step P a = some e') (he : EnvEffect P s i e e' a u) :
    Instances { u with envs := Function.update s.envs i (some e') } := by
  obtain ⟨hmain, hw, hrx, hsend⟩ := he.frame
  have hregistry := h.registry.steps (registry_env h hi hs he)
  have henvs := envs_env h hi hs
  have hkeeper := h.keeper.replace e' hi hrx hsend (Env.name_step hs) (Env.senders_step hs)
  rw [← hw] at hregistry henvs hkeeper
  rw [← hmain] at hkeeper
  exact ⟨henvs, hregistry, hkeeper⟩

/-- A new incarnation: the thread of the last one is gone and has left nothing. -/
theorem Instances.listen (h : s.Instances) (hmain : s.main = .listen) :
    Instances { s with welcome := .new, main := .notifyListening } := by
  obtain ⟨hpc, -, hforgot⟩ := h.keeper.alone (by rw [hmain]; rfl)
  have hrx := h.keeper.shut (by rw [hpc]; rfl)
  obtain ⟨hc, hh, ht⟩ := registry_shut (.between .closed []) (by rw [hpc]; rfl) hrx
  obtain ⟨hbound, -⟩ := h.registry.closed hc
  have hregistry : registryOf s.envs .new s.closeChan s.closeEvent = s.registry := by
    have hnone : (fun n => Welcome.new.environments.lookup n) = fun n =>
        s.welcome.environments.lookup n := funext fun n => (hbound n).symm
    simp only [Daemon.registry, registryOf, hnone, hpc, hrx, hforgot]
    rfl
  have henvs : EnvsOf s.envs .new := by
    refine h.toEnvsOf.still (by rw [hpc]; rfl) (fun i hk => ?_) (by rintro n i ⟨⟩)
    rcases hk with ⟨n, hn⟩ | hk | hk
    · cases hn
    · cases hk
    · cases hk
  have hkeeper : KeeperOf .notifyListening s.envs .new s.closeChan := {
    opened := fun hc => absurd rfl hc, shut := fun _ => hrx, sender := h.keeper.sender
    alone := by rintro ⟨⟩
    forgets := by rintro ⟨⟩
    fresh := fun _ => rfl
    vacant := by rintro fd passed name ⟨⟩
    target := by rintro a ⟨⟩
    unclosed := by rintro i k ⟨⟩ }
  have hinv : Registry.Inv (registryOf s.envs .new s.closeChan s.closeEvent) :=
    hregistry ▸ h.registry
  exact ⟨henvs, hinv, hkeeper⟩

theorem Instances.main {a : MainAct} (h : s.Instances) (hm : MainMoves s a t) : t.Instances := by
  have hstay : s.main.alone = true → s.welcome.pc = .ended ∧ s.welcome.outbox = [] ∧
      s.welcome.forgot = false := h.keeper.alone
  have hsetup : s.main.settingUp = true → s.main.alone = true := by
    cases s.main <;> first | exact id | nofun
  cases hm with
  | new hmain | setupEvents hmain =>
    exact h.frame rfl rfl rfl rfl fun _ => hstay (by rw [hmain]; rfl)
  | ahead hset => exact h.frame rfl rfl rfl rfl fun _ => hstay (hsetup hset)
  | listen hmain => exact h.listen hmain
  | join hmain hpc ho hp =>
    refine h.frame rfl rfl rfl rfl fun _ => ⟨hpc, ho, ?_⟩
    cases hf : s.welcome.forgot with
    | false => rfl
    | true =>
      rw [h.keeper.forgets hf] at hp
      cases hp
  | drain hmain | reload hmain =>
    exact h.frame rfl rfl rfl rfl fun _ => hstay (by rw [hmain]; rfl)
  | recv | recvShutdown | recvReload | fails | notifyListening | notifyListeningFails | recvTripped
  | joinExits | success => exact h.frame rfl rfl rfl rfl nofun

theorem Instances.signal {sig : Signal} {thread : Thread} {interrupts : Bool} (h : s.Instances)
    (hm : SignalMoves s sig thread interrupts t) : t.Instances := by
  obtain ⟨shutdown, reload, terminated, reloaded, hshape⟩ := s.handler_shape sig
  cases hm with
  | handled =>
    rw [hshape]
    exact h.frame rfl rfl rfl rfl h.keeper.alone
  | poll =>
    rw [hshape]
    have henvs : EnvsOf s.envs { s.welcome with interrupted := true } :=
      h.toEnvsOf.still rfl (fun _ hk => hk) (fun _ _ hn => hn)
    have hkeeper : KeeperOf s.main s.envs { s.welcome with interrupted := true } s.closeChan :=
      { h.keeper with }
    exact ⟨henvs, h.registry, hkeeper⟩
  | @wait i e hi =>
    rw [hshape]
    have hsame : Env.SameThread e { e with interrupted := true } :=
      ⟨rfl, rfl, rfl, rfl, rfl, rfl, rfl, rfl, rfl, rfl, rfl⟩
    obtain ⟨hl, hm, mark, hatt⟩ := h.sound i e hi
    have hatt' : Env.Attached { e with interrupted := true } (s.welcome.owner i e) mark :=
      ⟨⟨hatt.wired.owner, hatt.wired.ownerRx, hatt.wired.thread, hatt.wired.threadRx⟩,
        ⟨hatt.batched.once, hatt.batched.alone⟩, hatt.inv⟩
    have henvs : EnvsOf (Function.update s.envs i (some { e with interrupted := true })) s.welcome := by
      refine h.toEnvsOf.update (fun _ _ => rfl) (fun _ _ hk => hk) (fun _ _ _ hn => hn)
        ⟨hl.same hsame (Nat.le_refl _), hm.same hsame, mark, hatt'⟩ (fun hk => ?_)
        (fun n hn => h.served n i e hn hi)
      obtain ⟨hkept, hopen⟩ := h.kept i e hi hk
      exact ⟨hkept.same hsame rfl, hopen⟩
    have hregistry := h.registry
    unfold Daemon.registry at hregistry
    rw [← registryOf_update { e with interrupted := true } hi rfl rfl] at hregistry
    exact ⟨henvs, hregistry,
      h.keeper.replace { e with interrupted := true } hi rfl id rfl rfl⟩

theorem Instances.welcome {a : WelcomeAct} {w : Welcome} {u : Daemon} (h : s.Instances)
    (hm : Welcome.Moves P s.welcome a w) (he : WelcomeEffect P s a u) :
    Instances { u with welcome := w } := by
  have hmain : s.main.alone = false := by
    cases hal : s.main.alone with
    | false => rfl
    | true =>
      obtain ⟨hpc, ho, -⟩ := h.keeper.alone hal
      exact absurd hm (Welcome.ended_over hpc ho)
  have henvs := envs_welcome h hm he
  have hregistry := h.registry.steps (registry_welcome h hm he)
  have hkeeper := keeper_welcome h hmain hm he
  exact ⟨henvs, hregistry, hkeeper⟩

/-- A step keeps the invariant. -/
theorem Instances.step {a : Act} (h : s.Instances) (hs : s.step P a = some t) : t.Instances := by
  obtain ⟨-, hp⟩ := step_party hs
  cases hp with
  | main hm => exact h.main hm
  | welcome hm he => exact h.welcome hm he
  | env hi hmove he => exact h.env hi hmove he
  | client => exact h.frame rfl rfl rfl rfl h.keeper.alone
  | signal _ hm => exact h.signal hm

theorem instances_boot : boot.Instances := by
  have henvs : EnvsOf (fun _ => none) { Welcome.new with pc := .ended } := by
    refine ⟨fun i e hi => ?_, fun i e hi => ?_, fun n i e hn => ?_⟩
    · cases hi
    · cases hi
    · cases hn
  have hkeeper : KeeperOf .start (fun _ => none) { Welcome.new with pc := .ended } ⟨[], ∅, false⟩ := {
    opened := fun hc => absurd rfl hc, shut := fun _ => rfl, sender := nofun
    alone := fun _ => ⟨rfl, rfl, rfl⟩, forgets := nofun, fresh := nofun, vacant := nofun
    target := nofun, unclosed := nofun }
  exact ⟨henvs, Registry.inv_closed _, hkeeper⟩

/-- A run keeps the invariant. -/
theorem Instances.run {ok : Daemon → Act → Prop} {as : List Act} (h : s.Instances)
    (hr : Transition.Run (Daemon.step P) ok s as t) : t.Instances :=
  hr.invariant (I := Instances) (fun _ _ _ _ hs ht => hs.step ht) h

end Daemon
end Garnd
