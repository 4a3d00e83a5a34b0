import Garnd.Descriptors

/- The connections behind the descriptors. A descriptor that is not a page refers to a
   connection; the welcome thread has those of one connection at a time; an
   environment has one descriptor of a connection at most, and only of one that was
   passed to it (`Daemon.Connected`). So the original that the welcome thread still
   holds is the only other descriptor a client socket of an environment can have. -/
namespace Garnd
open Transition

/-- The environment that the holder belongs to, where it holds sockets of clients. -/
def Holder.env : Holder → Option EnvId
  | .queue i | .socket i => some i
  | _ => none

namespace Fds
variable {P : Externals} {f g : Fds} {x y : RawFd} {d : Descriptor} {h h' : Holder}

/-- Nothing is opened and nothing changes hands. -/
def Shrinks (f g : Fds) : Prop := ∀ x d, g x = some d → f x = some d

theorem Shrinks.refl (f : Fds) : f.Shrinks f := fun _ _ hd => hd

theorem shrinks_closeHeld : f.Shrinks (f.closeHeld x h) := by
  intro y d hd
  unfold closeHeld at hd
  split at hd
  · by_cases hyx : y = x
    · rw [hyx, Function.update_self] at hd
      cases hd
    · rwa [Function.update_of_ne hyx] at hd
  · exact hd

theorem shrinks_closeAll : f.Shrinks (f.closeAll h) := by
  intro y d hd
  simp only [closeAll] at hd
  split at hd
  · cases hd
  · exact hd

theorem shrinks_closeNumbers {xs : Finset RawFd} : f.Shrinks (f.closeNumbers xs) := by
  intro y d hd
  simp only [closeNumbers] at hd
  split at hd
  · cases hd
  · exact hd

theorem Shrinks.trans {k : Fds} (hf : f.Shrinks g) (hg : g.Shrinks k) : f.Shrinks k :=
  fun y d hd => hf y d (hg y d hd)

/-- A descriptor after one was opened is the new one or an old one. -/
theorem open_some {d' : Descriptor} (hd : Function.update f x (some d') y = some d) :
    (y = x ∧ d = d') ∨ (y ≠ x ∧ f y = some d) := by
  by_cases hyx : y = x
  · rw [hyx, Function.update_self] at hd
    exact .inl ⟨hyx, (Option.some.inj hd).symm⟩
  · rw [Function.update_of_ne hyx] at hd
    exact .inr ⟨hyx, hd⟩

theorem pass_of_not (hx : ¬ f.HeldBy h x) : f.pass x h h' = f := by
  unfold pass
  split
  · rename_i d hd
    have hne : d.holder ≠ h := by
      rintro rfl
      exact hx (.of_eq hd)
    rw [if_neg hne]
  · rfl

/-- A descriptor after one changed hands is that one or an old one. -/
theorem pass_some (hd : f.pass x h h' y = some d) :
    (y = x ∧ ∃ file, f x = some ⟨file, h⟩ ∧ d = ⟨file, h'⟩) ∨ f y = some d := by
  by_cases hx : f.HeldBy h x
  · obtain ⟨file, hx⟩ := heldBy_iff.mp hx
    rw [pass_eq hx] at hd
    rcases open_some hd with ⟨hyx, rfl⟩ | ⟨-, hd⟩
    · exact .inl ⟨hyx, file, hx, rfl⟩
    · exact .inr hd
  · rw [pass_of_not hx] at hd
    exact .inr hd

/-- The pages come on top of what there was. -/
theorem addPages_some {i : EnvId} {pages : List Page} {k k' : ℕ}
    (ha : f.addPages P i pages k = some (g, k')) :
    (∀ y d, f y = some d → g y = some d) ∧
      ∀ y d, g y = some d → f y = some d ∨ ∃ n, d = ⟨.memfd n, .page i⟩ := by
  induction pages generalizing f k with
  | nil =>
    cases ha
    exact ⟨fun _ _ hd => hd, fun _ _ hd => .inl hd⟩
  | cons page rest ih =>
    simp only [addPages] at ha
    split at ha
    · rename_i f' hf
      obtain ⟨-, hfree, rfl⟩ := openAt_eq_some.mp hf
      obtain ⟨hkept, hnew⟩ := ih ha
      constructor
      · intro y d hd
        apply hkept
        have hne : y ≠ page.fd := by
          rintro rfl
          rw [hfree] at hd
          cases hd
        rw [Function.update_of_ne hne, hd]
      · intro y d hd
        rcases hnew y d hd with hd | hd
        · rcases open_some hd with ⟨-, rfl⟩ | ⟨-, hd⟩
          · exact .inr ⟨k, rfl⟩
          · exact .inl hd
        · exact .inr hd
    · cases ha

end Fds

/-! ## The connections -/

/-- The environment the connection was passed to. -/
def homeOf (conns : ConnId → Option Conn) (c : ConnId) : Option EnvId := (conns c).bind Conn.home

/-- The client has closed the connection, or has shut down its sending half. -/
def HungUp (conns : ConnId → Option Conn) (c : ConnId) : Prop :=
  ∃ conn, conns c = some conn ∧ conn.closed = true

/-- No connection is passed to an environment, and none is opened again. -/
structure ConnsGrow (conns conns' : ConnId → Option Conn) : Prop where
  home : ∀ c, homeOf conns' c = homeOf conns c
  known : ∀ c, conns c ≠ none → conns' c ≠ none
  hungUp : ∀ c, HungUp conns c → HungUp conns' c

namespace ConnsGrow
variable {conns : ConnId → Option Conn} {c : ConnId} {conn conn' : Conn}

theorem refl (conns : ConnId → Option Conn) : ConnsGrow conns conns :=
  ⟨fun _ => rfl, fun _ hc => hc, fun _ hc => hc⟩

/-- One connection is replaced by a later state of it. -/
theorem update (hc : conns c = some conn) (hhome : conn'.home = conn.home)
    (hclosed : conn.closed = true → conn'.closed = true) :
    ConnsGrow conns (Function.update conns c (some conn')) where
  home c' := by
    by_cases h : c' = c
    · subst h
      simp [homeOf, hc, hhome]
    · simp [homeOf, Function.update_of_ne h]
  known c' hk := by
    by_cases h : c' = c
    · subst h
      rw [Function.update_self]
      nofun
    · rwa [Function.update_of_ne h]
  hungUp c' hk := by
    by_cases h : c' = c
    · subst h
      obtain ⟨conn₀, hc₀, hcl⟩ := hk
      obtain rfl := Option.some.inj (hc.symm.trans hc₀)
      exact ⟨conn', Function.update_self .., hclosed hcl⟩
    · obtain ⟨conn₀, hc₀, hcl⟩ := hk
      exact ⟨conn₀, by rw [Function.update_of_ne h, hc₀], hcl⟩

/-- A new connection has not been passed to anyone. -/
theorem connect (hc : conns c = none) (hhome : conn'.home = none) :
    ConnsGrow conns (Function.update conns c (some conn')) where
  home c' := by
    by_cases h : c' = c
    · subst h
      simp [homeOf, hc, hhome]
    · simp [homeOf, Function.update_of_ne h]
  known c' hk := by
    by_cases h : c' = c
    · subst h
      exact absurd hc hk
    · rwa [Function.update_of_ne h]
  hungUp c' hk := by
    obtain ⟨conn₀, hc₀, hcl⟩ := hk
    have h : c' ≠ c := by
      rintro rfl
      rw [hc] at hc₀
      cases hc₀
    exact ⟨conn₀, by rw [Function.update_of_ne h, hc₀], hcl⟩

end ConnsGrow

/-- The thread has accepted a connection and has not passed it on. -/
def WelcomePc.early : WelcomePc → Bool
  | .getsockopt _ | .recv _ | .dup _ _ | .envNew _ _ _ | .insertSend _ => true
  | _ => false

/-- The sockets of the errors the thread has collected. -/
def Welcome.errorSockets (w : Welcome) : List RawFd := socketsOf w.pc.errors ++ socketsOf w.outbox

/-- The table against the connections. -/
structure ConnectedOf (f : Fds) (conns : ConnId → Option Conn) (backlog : List ConnId)
    (early : Bool) (errors : List RawFd) : Prop where
  pages : ∀ x k h, f x = some ⟨.memfd k, h⟩ → ∃ i, h = .page i
  sockets : ∀ x c i, f x ≠ some ⟨.conn c, .page i⟩
  known : ∀ x c h, f x = some ⟨.conn c, h⟩ → conns c ≠ none
  /-- What the welcome thread does not hold is held by the environment the connection
  was passed to, or, where it was passed to none, by an error. -/
  homed : ∀ x c h, f x = some ⟨.conn c, h⟩ → h ≠ .welcome → homeOf conns c = h.env
  once : ∀ x y c h h', f x = some ⟨.conn c, h⟩ → f y = some ⟨.conn c, h'⟩ → h.env ≠ none →
    h'.env ≠ none → x = y
  single : ∀ x y c c', f x = some ⟨.conn c, .welcome⟩ → f y = some ⟨.conn c', .welcome⟩ → c = c'
  unhomed : ∀ x ∈ errors, ∀ c, f x = some ⟨.conn c, .welcome⟩ → homeOf conns c = none
  unpassed : early = true → ∀ x c, f x = some ⟨.conn c, .welcome⟩ →
    homeOf conns c = none ∧ ∀ y h, f y = some ⟨.conn c, h⟩ → h = .welcome
  calm : early = true → errors = []
  queued : backlog.Nodup
  unseen : ∀ c ∈ backlog, conns c ≠ none ∧ homeOf conns c = none ∧ ∀ x h, f x ≠ some ⟨.conn c, h⟩

namespace ConnectedOf
variable {f g : Fds} {conns conns' : ConnId → Option Conn} {backlog backlog' : List ConnId}
  {early early' : Bool} {errors errors' : List RawFd}

/-- Descriptors are closed and nothing else happens to the connections. -/
theorem shrink (h : ConnectedOf f conns backlog early errors) (hg : f.Shrinks g)
    (hc : ConnsGrow conns conns') (hb : backlog'.Sublist backlog)
    (he : early' = true → early = true) (herr : ∀ x ∈ errors', x ∈ errors) :
    ConnectedOf g conns' backlog' early' errors' where
  pages x k h' hx := h.pages x k h' (hg x _ hx)
  sockets x c i hx := h.sockets x c i (hg x _ hx)
  known x c h' hx := hc.known c (h.known x c h' (hg x _ hx))
  homed x c h' hx hw := (hc.home c).trans (h.homed x c h' (hg x _ hx) hw)
  once x y c h₁ h₂ hx hy := h.once x y c h₁ h₂ (hg x _ hx) (hg y _ hy)
  single x y c c' hx hy := h.single x y c c' (hg x _ hx) (hg y _ hy)
  unhomed x hx c hd := (hc.home c).trans (h.unhomed x (herr x hx) c (hg x _ hd))
  unpassed ht x c hx := by
    obtain ⟨hhome, hall⟩ := h.unpassed (he ht) x c (hg x _ hx)
    exact ⟨(hc.home c).trans hhome, fun y h' hy => hall y h' (hg y _ hy)⟩
  calm ht := by
    have hnil := h.calm (he ht)
    exact List.eq_nil_iff_forall_not_mem.mpr fun x hx => by simpa [hnil] using herr x hx
  queued := h.queued.sublist hb
  unseen c hmem := by
    obtain ⟨hk, hhome, hno⟩ := h.unseen c (hb.subset hmem)
    exact ⟨hc.known c hk, (hc.home c).trans hhome, fun x h' hx => hno x h' (hg x _ hx)⟩

/-- A client connects. -/
theorem connect {c : ConnId} {conn : Conn} (h : ConnectedOf f conns backlog early errors)
    (hc : conns c = none) (hhome : conn.home = none) :
    ConnectedOf f (Function.update conns c (some conn)) (backlog ++ [c]) early errors := by
  have hgrow := ConnsGrow.connect hc hhome
  refine { h.shrink (.refl f) hgrow (.refl backlog) id (fun _ hx => hx) with
    queued := ?_, unseen := ?_ }
  · refine h.queued.append (List.nodup_singleton c) (List.disjoint_singleton.mpr fun hmem => ?_)
    exact (h.unseen c hmem).1 hc
  · intro c' hmem
    rcases List.mem_append.mp hmem with hmem | hmem
    · obtain ⟨hk, hh, hno⟩ := h.unseen c' hmem
      exact ⟨hgrow.known c' hk, (hgrow.home c').trans hh, hno⟩
    · obtain rfl := List.mem_singleton.mp hmem
      refine ⟨?_, ?_, fun x h' hx => h.known x c' h' hx hc⟩
      · rw [Function.update_self]
        nofun
      · rw [hgrow.home, homeOf, hc]
        rfl

/-- The welcome thread opens a descriptor of the connection in hand, which it has not
passed on. -/
theorem opens {c : ConnId} {x : RawFd} (h : ConnectedOf f conns backlog early errors)
    (hk : conns c ≠ none) (hhome : homeOf conns c = none)
    (hall : ∀ y h', f y = some ⟨.conn c, h'⟩ → h' = .welcome)
    (hmine : ∀ y c', f y = some ⟨.conn c', .welcome⟩ → c' = c)
    (hb : backlog'.Sublist backlog) (hnot : c ∉ backlog') :
    ConnectedOf (Function.update f x (some ⟨.conn c, .welcome⟩)) conns backlog' early' [] := by
  -- what is not the new descriptor was there before
  have hold {y : RawFd} {file : File} {h' : Holder}
      (hy : Function.update f x (some ⟨.conn c, .welcome⟩) y = some ⟨file, h'⟩) :
      (file = .conn c ∧ h' = .welcome) ∨ f y = some ⟨file, h'⟩ := by
    rcases Fds.open_some hy with ⟨-, he⟩ | ⟨-, hy⟩
    · cases he
      exact .inl ⟨rfl, rfl⟩
    · exact .inr hy
  have hmine' {y : RawFd} {c' : ConnId}
      (hy : Function.update f x (some ⟨.conn c, .welcome⟩) y = some ⟨.conn c', .welcome⟩) : c' = c := by
    rcases hold hy with ⟨hc, -⟩ | hy
    · exact File.conn.inj hc
    · exact hmine y c' hy
  refine ⟨?_, ?_, ?_, ?_, ?_, ?_, nofun, ?_, fun _ => rfl, h.queued.sublist hb, ?_⟩
  · intro y k h' hy
    rcases hold hy with ⟨hc, -⟩ | hy
    · cases hc
    · exact h.pages y k h' hy
  · intro y c' i hy
    rcases hold hy with ⟨-, hw⟩ | hy
    · cases hw
    · exact h.sockets y c' i hy
  · intro y c' h' hy
    rcases hold hy with ⟨hc, -⟩ | hy
    · rwa [File.conn.inj hc]
    · exact h.known y c' h' hy
  · intro y c' h' hy hw
    rcases hold hy with ⟨-, hw'⟩ | hy
    · exact absurd hw' hw
    · exact h.homed y c' h' hy hw
  · intro y z c' h₁ h₂ hy hz he₁ he₂
    rcases hold hy with ⟨-, rfl⟩ | hy
    · exact absurd rfl he₁
    · rcases hold hz with ⟨-, rfl⟩ | hz
      · exact absurd rfl he₂
      · exact h.once y z c' h₁ h₂ hy hz he₁ he₂
  · intro y z c₁ c₂ hy hz
    rw [hmine' hy, hmine' hz]
  · intro _ y c' hy
    obtain rfl := hmine' hy
    refine ⟨hhome, fun z h' hz => ?_⟩
    rcases hold hz with ⟨-, hw⟩ | hz
    · exact hw
    · exact hall z h' hz
  · intro c' hmem
    obtain ⟨hk', hhome', hno⟩ := h.unseen c' (hb.subset hmem)
    refine ⟨hk', hhome', fun y h' hy => ?_⟩
    rcases hold hy with ⟨hc, -⟩ | hy
    · rw [File.conn.inj hc] at hmem
      exact hnot hmem
    · exact hno y h' hy

/-- A connection is accepted, with no other in hand. -/
theorem accept {c : ConnId} {rest : List ConnId} {x : RawFd}
    (h : ConnectedOf f conns (c :: rest) early errors)
    (hnone : ∀ y, ¬ f.HeldBy .welcome y) :
    ConnectedOf (Function.update f x (some ⟨.conn c, .welcome⟩)) conns rest early' [] := by
  obtain ⟨hk, hhome, hno⟩ := h.unseen c List.mem_cons_self
  apply h.opens hk hhome (fun y h' hy => absurd hy (hno y h'))
  · exact fun y c' hy => absurd (Fds.HeldBy.of_eq hy) (hnone y)
  · exact List.sublist_cons_self c rest
  · exact (List.nodup_cons.mp h.queued).1

/-- The descriptor of a connection that was not passed on is duplicated. -/
theorem dup {c : ConnId} {fd x : RawFd} (h : ConnectedOf f conns backlog true errors)
    (hfd : f fd = some ⟨.conn c, .welcome⟩) :
    ConnectedOf (Function.update f x (some ⟨.conn c, .welcome⟩)) conns backlog early' [] := by
  obtain ⟨hhome, hall⟩ := h.unpassed rfl fd c hfd
  apply h.opens (h.known fd c _ hfd) hhome hall
  · exact fun y c' hy => h.single y fd c' c hy hfd
  · exact .refl backlog
  · exact fun hmem => (h.unseen c hmem).2.2 fd _ hfd

/-- A descriptor of a connection goes to the environment the connection is passed to. -/
theorem insertSend {c : ConnId} {x : RawFd} {i : EnvId} {conns' : ConnId → Option Conn}
    (h : ConnectedOf f conns backlog true errors) (hx : f x = some ⟨.conn c, .welcome⟩)
    (hhome : ∀ c', homeOf conns' c' = if c' = c then some i else homeOf conns c')
    (hk : ∀ c', conns c' ≠ none → conns' c' ≠ none) :
    ConnectedOf (f.pass x .welcome (.queue i)) conns' backlog false [] := by
  obtain ⟨-, hall⟩ := h.unpassed rfl x c hx
  -- what has not changed hands was there before
  have hold {y : RawFd} {file : File} {h' : Holder}
      (hy : f.pass x .welcome (.queue i) y = some ⟨file, h'⟩) :
      (y = x ∧ file = .conn c ∧ h' = .queue i) ∨ f y = some ⟨file, h'⟩ := by
    rcases Fds.pass_some hy with ⟨hyx, file', hx', he⟩ | hy
    · cases hx.symm.trans hx'
      cases he
      exact .inl ⟨hyx, rfl, rfl⟩
    · exact .inr hy
  -- the environments have no other descriptor of the connection
  have hother {y : RawFd} {h' : Holder} (hy : f y = some ⟨.conn c, h'⟩) : h'.env = none := by
    rw [hall y h' hy]
    rfl
  refine ⟨?_, ?_, ?_, ?_, ?_, ?_, nofun, nofun, nofun, h.queued, ?_⟩
  · intro y k h' hy
    rcases hold hy with ⟨-, hc, -⟩ | hy
    · cases hc
    · exact h.pages y k h' hy
  · intro y c' j hy
    rcases hold hy with ⟨-, -, hq⟩ | hy
    · cases hq
    · exact h.sockets y c' j hy
  · intro y c' h' hy
    apply hk
    rcases hold hy with ⟨-, hc, -⟩ | hy
    · rw [File.conn.inj hc]
      exact h.known x c _ hx
    · exact h.known y c' h' hy
  · intro y c' h' hy hw
    rw [hhome]
    rcases hold hy with ⟨-, hc, rfl⟩ | hy
    · rw [if_pos (File.conn.inj hc)]
      rfl
    · have hne : c' ≠ c := by
        rintro rfl
        exact hw (hall y h' hy)
      rw [if_neg hne]
      exact h.homed y c' h' hy hw
  · intro y z c' h₁ h₂ hy hz he₁ he₂
    rcases hold hy with ⟨rfl, hc, -⟩ | hy
    · obtain rfl := File.conn.inj hc
      rcases hold hz with ⟨rfl, -⟩ | hz
      · rfl
      · exact absurd (hother hz) he₂
    · rcases hold hz with ⟨-, hc, -⟩ | hz
      · rw [File.conn.inj hc] at hy
        exact absurd (hother hy) he₁
      · exact h.once y z c' h₁ h₂ hy hz he₁ he₂
  · intro y z c₁ c₂ hy hz
    rcases hold hy with ⟨-, -, hq⟩ | hy
    · cases hq
    · rcases hold hz with ⟨-, -, hq⟩ | hz
      · cases hq
      · exact h.single y z c₁ c₂ hy hz
  · intro c' hmem
    obtain ⟨hk', hhome', hno⟩ := h.unseen c' hmem
    have hne : c' ≠ c := by
      rintro rfl
      exact hno x _ hx
    refine ⟨hk c' hk', by rw [hhome, if_neg hne, hhome'], fun y h' hy => ?_⟩
    rcases hold hy with ⟨-, hc, -⟩ | hy
    · exact hne (File.conn.inj hc)
    · exact hno y h' hy

/-- A descriptor changes hands and stays with what the connection was passed to. -/
theorem pass {x : RawFd} {h₁ h₂ : Holder} (h : ConnectedOf f conns backlog early errors)
    (hconn : ∀ c, f x = some ⟨.conn c, h₁⟩ → homeOf conns c = h₂.env)
    (henv : h₂.env ≠ none → h₁.env ≠ none) (hw : h₂ ≠ .welcome) (hp : ∀ i, h₂ ≠ .page i)
    (hp₁ : ∀ i, h₁ ≠ .page i) (hearly : h₁ = .welcome → early = false)
    (herr : ∀ y ∈ errors', y ∈ errors) :
    ConnectedOf (f.pass x h₁ h₂) conns backlog early errors' := by
  have hold {y : RawFd} {file : File} {h' : Holder} (hy : f.pass x h₁ h₂ y = some ⟨file, h'⟩) :
      (y = x ∧ f x = some ⟨file, h₁⟩ ∧ h' = h₂) ∨ f y = some ⟨file, h'⟩ := by
    rcases Fds.pass_some hy with ⟨hyx, file', hx, he⟩ | hy
    · cases he
      exact .inl ⟨hyx, hx, rfl⟩
    · exact .inr hy
  -- it is one of an environment only if it was one before
  have hhad {y : RawFd} {c : ConnId} {h' : Holder} (hy : f.pass x h₁ h₂ y = some ⟨.conn c, h'⟩)
      (he : h'.env ≠ none) : ∃ h'', f y = some ⟨.conn c, h''⟩ ∧ h''.env ≠ none := by
    rcases hold hy with ⟨rfl, hx, rfl⟩ | hy
    · exact ⟨h₁, hx, henv he⟩
    · exact ⟨h', hy, he⟩
  refine ⟨?_, ?_, ?_, ?_, ?_, ?_, ?_, ?_, ?_, h.queued, ?_⟩
  · intro y k h' hy
    rcases hold hy with ⟨-, hx, -⟩ | hy
    · obtain ⟨i, hi⟩ := h.pages x k h₁ hx
      exact absurd hi (hp₁ i)
    · exact h.pages y k h' hy
  · intro y c i hy
    rcases hold hy with ⟨-, -, he⟩ | hy
    · exact hp i he.symm
    · exact h.sockets y c i hy
  · intro y c h' hy
    rcases hold hy with ⟨-, hx, -⟩ | hy
    · exact h.known x c h₁ hx
    · exact h.known y c h' hy
  · intro y c h' hy hne
    rcases hold hy with ⟨-, hx, rfl⟩ | hy
    · exact hconn c hx
    · exact h.homed y c h' hy hne
  · intro y z c h' h'' hy hz he he'
    obtain ⟨k, hy, hk⟩ := hhad hy he
    obtain ⟨k', hz, hk'⟩ := hhad hz he'
    exact h.once y z c k k' hy hz hk hk'
  · intro y z c c' hy hz
    rcases hold hy with ⟨-, -, he⟩ | hy
    · exact absurd he.symm hw
    · rcases hold hz with ⟨-, -, he⟩ | hz
      · exact absurd he.symm hw
      · exact h.single y z c c' hy hz
  · intro y hmem c hy
    rcases hold hy with ⟨-, -, he⟩ | hy
    · exact absurd he.symm hw
    · exact h.unhomed y (herr y hmem) c hy
  · intro ht y c hy
    rcases hold hy with ⟨-, -, he⟩ | hy
    · exact absurd he.symm hw
    · obtain ⟨hhome, hall⟩ := h.unpassed ht y c hy
      refine ⟨hhome, fun z h' hz => ?_⟩
      rcases hold hz with ⟨-, hx, -⟩ | hz
      · rw [hearly (hall x h₁ hx)] at ht
        cases ht
      · exact hall z h' hz
  · intro ht
    have hnil := h.calm ht
    exact List.eq_nil_iff_forall_not_mem.mpr fun y hy => by simpa [hnil] using herr y hy
  · intro c hmem
    obtain ⟨hk, hhome, hno⟩ := h.unseen c hmem
    refine ⟨hk, hhome, fun y h' hy => ?_⟩
    rcases hold hy with ⟨-, hx, -⟩ | hy
    · exact hno x h₁ hx
    · exact hno y h' hy

/-- Pages are added. -/
theorem addPages (h : ConnectedOf f conns backlog early errors) {i : EnvId}
    (hg : ∀ y d, g y = some d → f y = some d ∨ ∃ n, d = ⟨.memfd n, .page i⟩) :
    ConnectedOf g conns backlog early errors := by
  have hold {y : RawFd} {c : ConnId} {h' : Holder} (hy : g y = some ⟨.conn c, h'⟩) :
      f y = some ⟨.conn c, h'⟩ := by
    rcases hg y _ hy with hy | ⟨n, he⟩
    · exact hy
    · cases he
  refine ⟨?_, fun y c j hy => h.sockets y c j (hold hy), fun y c h' hy => h.known y c h' (hold hy),
    fun y c h' hy => h.homed y c h' (hold hy), fun y z c k k' hy hz => h.once y z c k k' (hold hy) (hold hz),
    fun y z c c' hy hz => h.single y z c c' (hold hy) (hold hz),
    fun y hmem c hy => h.unhomed y hmem c (hold hy), ?_, h.calm, h.queued, ?_⟩
  · intro y k h' hy
    rcases hg y _ hy with hy | ⟨n, he⟩
    · exact h.pages y k h' hy
    · cases he
      exact ⟨i, rfl⟩
  · intro he y c hy
    obtain ⟨hhome, hall⟩ := h.unpassed he y c (hold hy)
    exact ⟨hhome, fun z h' hz => hall z h' (hold hz)⟩
  · intro c hmem
    obtain ⟨hk, hhome, hno⟩ := h.unseen c hmem
    exact ⟨hk, hhome, fun y h' hy => hno y h' (hold hy)⟩

end ConnectedOf

/-! ## The steps of the welcome thread -/

namespace Welcome
variable {P : Externals} {w w' : Welcome} {a : WelcomeAct} {x : RawFd}

theorem errorSockets_closing {fds : List RawFd} {errors : List DetailedError}
    (hx : x ∈ (w.closing fds errors).errorSockets) : x ∈ socketsOf errors ++ socketsOf w.outbox := by
  unfold Welcome.closing at hx
  split at hx
  · split at hx
    · exact List.mem_append_right _ (by simpa [errorSockets, WelcomePc.errors] using hx)
    · exact List.mem_append_left _ (by simpa [errorSockets, WelcomePc.errors] using hx)
  · exact hx

theorem errorSockets_resume {k : After} (hx : x ∈ (w.resume k).errorSockets) :
    x ∈ socketsOf k.errors ++ socketsOf w.outbox := by
  cases k with
  | finish fds errors => exact errorSockets_closing hx
  | unwind fds => exact errorSockets_closing hx
  | drain | returning | teardown => exact hx

theorem errorSockets_onWelcome {r : Revents} (ho : w.outbox = []) :
    (w.onWelcome r).errorSockets = [] := by
  unfold Welcome.onWelcome
  split
  · simp [errorSockets, WelcomePc.errors, ho]
  · split
    · rfl
    · simp [errorSockets, WelcomePc.errors, ho]

theorem errorSockets_onPoll {r : PollResult} (ho : w.outbox = []) :
    (w.onPoll r).errorSockets = [] := by
  unfold Welcome.onPoll
  split
  · simp [errorSockets, WelcomePc.errors, ho]
  · split
    · simp [errorSockets, WelcomePc.errors, ho]
    · split
      · simp [errorSockets, WelcomePc.errors, ho]
      · exact errorSockets_onWelcome ho

/-- The only error that owns a socket is made where `insert_socket` cannot pass it. -/
theorem Moves.errorSockets (hm : Moves P w a w') (hx : x ∈ w'.errorSockets) :
    x ∈ w.errorSockets ∨ ∃ at', a = .insertSend false ∧ w.pc = .insertSend at' ∧ x = at'.passed := by
  have goto {pc pc' : WelcomePc} (hpc : w.pc = pc) (hpc' : w'.pc = pc')
      (ho : socketsOf w'.outbox = []) (he : socketsOf pc'.errors = socketsOf pc.errors) :
      x ∈ w.errorSockets ∨ ∃ at', a = .insertSend false ∧ w.pc = .insertSend at' ∧ x = at'.passed := by
    refine .inl ?_
    rw [Welcome.errorSockets, hpc', ho, he, List.append_nil] at hx
    rw [Welcome.errorSockets, hpc]
    exact List.mem_append_left _ hx
  -- the errors of a request go on to the end of it
  have ends {pc : WelcomePc} {errors : List DetailedError} (ho : w.outbox = []) (hpc : w.pc = pc)
      (hx : x ∈ socketsOf errors ++ socketsOf w.outbox) (he : socketsOf errors = socketsOf pc.errors) :
      x ∈ w.errorSockets ∨ ∃ at', a = .insertSend false ∧ w.pc = .insertSend at' ∧ x = at'.passed := by
    refine .inl ?_
    rw [ho, he] at hx
    rw [Welcome.errorSockets, hpc, ho]
    exact hx
  have none (hnone : w'.errorSockets = []) :
      x ∈ w.errorSockets ∨ ∃ at', a = .insertSend false ∧ w.pc = .insertSend at' ∧ x = at'.passed := by
    rw [hnone] at hx
    cases hx
  cases hm with
  | @sendError err errors ho =>
    refine .inl ?_
    rw [Welcome.errorSockets, ho]
    rcases List.mem_append.mp hx with hx | hx
    · exact List.mem_append_left _ hx
    · apply List.mem_append_right
      obtain ⟨e, he, hs⟩ := List.mem_filterMap.mp hx
      exact List.mem_filterMap.mpr ⟨e, List.mem_cons_of_mem _ he, hs⟩
  | createEvent ho hpc | listen ho hpc | drainBound ho hpc | accept ho hpc | notRoot ho hpc
  | recv ho hpc | occupied ho hpc | vacant ho hpc | dupFails ho hpc | envNew ho hpc
  | envNewFails ho hpc | insertSend ho hpc | insertWrite ho hpc | insertWriteFails ho hpc
  | refused ho hpc | hungUp ho hpc | dropWrite ho hpc | dropFields ho hpc | dropLocals ho hpc
  | teardown ho hpc | ended ho hpc => exact goto hpc rfl (congrArg socketsOf ho) rfl
  | createEventFails _ hpc | listenFails _ hpc | pollFails _ hpc | acceptFails _ hpc =>
    exact goto hpc rfl rfl rfl
  | drainDisconnected _ hpc => exact goto hpc hpc rfl rfl
  | @shutdownRead r _ hpc | @reloadRead r _ hpc | @closeRead r _ _ hpc =>
    refine goto hpc rfl ?_ rfl
    cases r <;> rfl
  | drainUnbound => exact .inl hx
  | poll ho => exact none (errorSockets_onPoll ho)
  | drainEmpty ho => exact none (errorSockets_onWelcome ho)
  | root ho hpc | getsockoptFails ho hpc | recvFails ho hpc =>
    exact ends ho hpc (errorSockets_closing hx) rfl
  | recvUnanswered ho hpc hm =>
    refine ends ho hpc (errorSockets_closing hx) ?_
    simp only [socketsOf, List.filterMap_cons, parseRequest_socket hm]
    rfl
  | recvMalformed ho hpc hm =>
    refine goto hpc rfl (congrArg socketsOf ho) ?_
    simp only [WelcomePc.errors, socketsOf, List.filterMap_cons, parseRequest_socket hm]
  | @insertSendFails at' ho hpc =>
    refine .inr ⟨at', rfl, hpc, ?_⟩
    rw [Welcome.errorSockets, failInsert, fail, ho] at hx
    exact List.mem_singleton.mp hx
  | @inserted at' serializes ho hpc =>
    cases serializes <;> exact goto hpc rfl (congrArg socketsOf ho) rfl
  | sendAbandon ho hpc => exact goto hpc rfl (congrArg socketsOf ho) (socketsOf_sendErrors _ _)
  | send ho hpc => exact ends ho hpc (errorSockets_closing hx) (socketsOf_sendErrors _ _)
  | @dropWritePanics i k ho hpc =>
    refine none ?_
    show socketsOf k.panics.errors ++ socketsOf w.outbox = []
    rw [k.panics_errors, ho]
    rfl
  | join ho hpc => exact ends ho hpc (errorSockets_resume hx) rfl
  | @joinPanics i k ho hpc =>
    have hnone := errorSockets_resume hx
    rw [k.panics_errors, panic, ho] at hnone
    cases hnone
  | close ho hpc => exact ends ho hpc (errorSockets_closing hx) rfl

theorem early_closing {fds : List RawFd} {errors : List DetailedError} :
    (w.closing fds errors).pc.early = false := by
  unfold Welcome.closing
  split
  · split <;> rfl
  · rfl

/-- A connection comes into the thread's hands when it is accepted. -/
theorem Moves.early (hm : Moves P w a w') (he : w'.pc.early = true) :
    w.pc.early = true ∨ ∃ fd, a = .accept (.ok fd) := by
  have late (hl : w'.pc.early = false) : w.pc.early = true ∨ ∃ fd, a = .accept (.ok fd) := by
    rw [hl] at he
    cases he
  cases hm with
  | sendError | drainUnbound | drainDisconnected => exact .inl he
  | accept => exact .inr ⟨_, rfl⟩
  | notRoot _ hpc | recv _ hpc | occupied _ hpc | vacant _ hpc | envNew _ hpc =>
    rw [hpc]
    exact .inl rfl
  | poll =>
    apply late
    unfold Welcome.onPoll Welcome.onWelcome
    repeat' split
    all_goals rfl
  | drainEmpty =>
    apply late
    unfold Welcome.onWelcome
    repeat' split
    all_goals rfl
  | root | getsockoptFails | recvFails | recvUnanswered | send | close => exact late early_closing
  | @inserted a serializes => cases serializes <;> exact late rfl
  | @join i k | @joinPanics i k => cases k <;> first | exact late rfl | exact late early_closing
  | _ => exact late rfl

end Welcome

namespace Daemon
variable {P : Externals} {s t u : Daemon}

/-- The table against the connections and the welcome thread. -/
abbrev Connected (s : Daemon) : Prop :=
  ConnectedOf s.fds s.conns s.backlog s.welcome.pc.early s.welcome.errorSockets

theorem connected_boot : boot.Connected := by
  constructor <;> first | exact List.nodup_nil | nofun

/-! ## The steps -/

theorem recvFrom_grow {x : RawFd} {m : Message} (h : s.recvFrom x m = some t) :
    ConnsGrow s.conns t.conns := by
  obtain ⟨c, conn, -, hc, ⟨rest, -, rfl⟩ | ⟨-, -, rfl⟩⟩ := recvFrom_eq_some h
  · exact .update hc rfl id
  · exact .refl _

theorem sendTo_grow {x : RawFd} (h : s.sendTo P x = some t) : ConnsGrow s.conns t.conns := by
  obtain ⟨c, conn, -, hc, -, rfl⟩ := sendTo_eq_some h
  exact .update hc rfl id

theorem recvFrom_frame {x : RawFd} {m : Message} (h : s.recvFrom x m = some t) :
    t.fds = s.fds ∧ t.backlog = s.backlog := by
  obtain ⟨c, conn, -, -, ⟨rest, -, rfl⟩ | ⟨-, -, rfl⟩⟩ := recvFrom_eq_some h <;> exact ⟨rfl, rfl⟩

theorem sendTo_frame {x : RawFd} (h : s.sendTo P x = some t) :
    t.fds = s.fds ∧ t.backlog = s.backlog := by
  obtain ⟨c, conn, -, -, -, rfl⟩ := sendTo_eq_some h
  exact ⟨rfl, rfl⟩

/-- What the welcome thread holds is a connection. -/
theorem Connected.conn_of_welcome {x : RawFd} (h : s.Connected) (hx : s.fds.HeldBy .welcome x) :
    ∃ c, s.fds x = some ⟨.conn c, .welcome⟩ := by
  obtain ⟨file, hx⟩ := Fds.heldBy_iff.mp hx
  cases file with
  | conn c => exact ⟨c, hx⟩
  | memfd k =>
    obtain ⟨i, hi⟩ := h.pages x k _ hx
    cases hi

theorem connAt_eq {x : RawFd} {c : ConnId} {h' : Holder} (hx : s.fds x = some ⟨.conn c, h'⟩) :
    s.connAt x = some c := by
  simp only [connAt, Fds.connAt, hx]

theorem Connected.welcome {a : WelcomeAct} {w : Welcome} (h : s.Connected) (hheld : s.Held)
    (hm : Welcome.Moves P s.welcome a w) (he : WelcomeEffect P s a u) :
    ConnectedOf u.fds u.conns u.backlog w.pc.early w.errorSockets := by
  -- descriptors are closed at most
  have rest {g : Fds} {conns : ConnId → Option Conn} {backlog : List ConnId}
      (hf : s.fds.Shrinks g) (hc : ConnsGrow s.conns conns) (hb : backlog.Sublist s.backlog)
      (ha : ∀ fd, a ≠ .accept (.ok fd)) (hs : a ≠ .insertSend false) :
      ConnectedOf g conns backlog w.pc.early w.errorSockets := by
    refine h.shrink hf hc hb (fun ht => ?_) fun x hx => ?_
    · rcases hm.early ht with hearly | ⟨fd, hfd⟩
      · exact hearly
      · exact absurd hfd (ha fd)
    · rcases hm.errorSockets hx with hold | ⟨at', hfail, -⟩
      · exact hold
      · exact absurd hfail hs
  cases he with
  | @accept fd c rest hb hfree =>
    cases hm with
    | accept ho hpc =>
      unfold Connected at h
      rw [hb] at h
      have hnone (y : RawFd) : ¬ s.fds.HeldBy .welcome y := by
        rw [← hheld.welcome, Welcome.held_eq ho, hpc]
        rintro ⟨⟩
      have herr : Welcome.errorSockets { s.welcome with pc := .getsockopt fd } = [] :=
        congrArg socketsOf ho
      rw [herr]
      exact h.accept hnone
  | @dup fd name passed d hpc' hfd hfree =>
    have hmem : s.fds.HeldBy .welcome fd := by
      rw [← hheld.welcome, Welcome.held, hpc']
      exact List.mem_append_left _ List.mem_cons_self
    obtain ⟨c, hc⟩ := h.conn_of_welcome hmem
    obtain rfl : ⟨.conn c, .welcome⟩ = d := Option.some.inj (hc.symm.trans hfd)
    have hearly : s.welcome.pc.early = true := by
      rw [hpc']
      rfl
    unfold Connected at h
    rw [hearly] at h
    cases hm with
    | occupied ho | vacant ho =>
      have hnil : socketsOf s.welcome.outbox = [] := congrArg socketsOf ho
      simp only [Welcome.errorSockets, WelcomePc.errors, socketsOf_nil, List.nil_append, hnil]
      exact h.dup hc
  | @insertSend at' e e' hpc' =>
    obtain ⟨c, hc⟩ := h.conn_of_welcome (hheld.of_passed hpc')
    have hearly : s.welcome.pc.early = true := by
      rw [hpc']
      rfl
    unfold Connected at h
    rw [hearly] at h
    cases hm with
    | insertSend ho =>
      have hnil : socketsOf s.welcome.outbox = [] := congrArg socketsOf ho
      simp only [Welcome.errorSockets, WelcomePc.errors, socketsOf_nil, List.nil_append, hnil]
      apply h.insertSend hc
      · intro c'
        simp only [connAt_eq hc, Option.some.injEq, homeOf]
        split
        · rename_i hcc
          subst hcc
          rw [if_pos rfl]
          cases hcon : s.conns c with
          | none => exact absurd hcon (h.known _ _ _ hc)
          | some conn => rfl
        · rename_i hcc
          rw [if_neg (fun hcc' => hcc hcc'.symm)]
      · intro c' hk
        split
        · simpa using hk
        · exact hk
  | insertSendFails hpc' =>
    cases hm with
    | @insertSendFails at' ho hpc =>
      obtain ⟨c, hc⟩ := h.conn_of_welcome (hheld.of_passed hpc)
      have hearly : s.welcome.pc.early = true := by
        rw [hpc]
        rfl
      refine { h with unhomed := ?_, unpassed := by rintro ⟨⟩, calm := by rintro ⟨⟩ }
      intro x _ c' hx
      exact (h.unpassed hearly x c' hx).1
  | @sendError err =>
    cases hm with
    | @sendError _ errors ho =>
      cases hsock : err.socket with
      | none =>
        simp only [Fds.handOver, hsock]
        exact rest (.refl _) (.refl _) (.refl _) (by simp) (by simp)
      | some x =>
        have hmem : x ∈ s.welcome.errorSockets := by
          apply List.mem_append_right
          rw [ho]
          exact List.mem_filterMap.mpr ⟨err, List.mem_cons_self, hsock⟩
        simp only [Fds.handOver, hsock]
        apply h.pass
        · exact fun c hc => h.unhomed x hmem c hc
        · exact fun hne => absurd rfl hne
        · simp
        · simp
        · simp
        · intro _
          cases hearly : s.welcome.pc.early with
          | false => rfl
          | true =>
            rw [h.calm hearly] at hmem
            cases hmem
        · intro y hy
          rcases Welcome.Moves.errorSockets (P := P) (.sendError ho) hy with hold | ⟨_, hfail, -⟩
          · exact hold
          · cases hfail
  | close => exact rest Fds.shrinks_closeHeld (.refl _) (.refl _) (by simp) (by simp)
  | recv _ hr =>
    obtain ⟨hf, hb⟩ := recvFrom_frame hr
    have hgrow := recvFrom_grow hr
    rw [hf, hb]
    exact rest (.refl _) hgrow (.refl _) (by simp) (by simp)
  | send _ hr =>
    obtain ⟨hf, hb⟩ := sendTo_frame hr
    have hgrow := sendTo_grow hr
    rw [hf, hb]
    exact rest (.refl _) hgrow (.refl _) (by simp) (by simp)
  | ended => exact rest (.refl _) (.refl _) (List.nil_sublist _) (by simp) (by simp)
  | @plain a hp =>
    apply rest (.refl _) (.refl _) (.refl _)
    · rintro fd rfl
      cases hp
    · rintro rfl
      cases hp
  | _ => exact rest (.refl _) (.refl _) (.refl _) (by simp) (by simp)

theorem EnvEffect.conns_grow {i : EnvId} {e e' : Env} {b : EnvAct} (he : EnvEffect P s i e e' b u) :
    ConnsGrow s.conns u.conns ∧ u.backlog = s.backlog := by
  cases he with
  | recv hr =>
    have hgrow := recvFrom_grow hr
    exact ⟨hgrow, (recvFrom_frame hr).2⟩
  | send hr =>
    have hgrow := sendTo_grow hr
    exact ⟨hgrow, (sendTo_frame hr).2⟩
  | _ => exact ⟨.refl _, rfl⟩

theorem Connected.env {i : EnvId} {e e' : Env} {b : EnvAct} (h : s.Connected)
    (he : EnvEffect P s i e e' b u) :
    ConnectedOf u.fds u.conns u.backlog s.welcome.pc.early s.welcome.errorSockets := by
  have rest (hf : s.fds.Shrinks u.fds) :
      ConnectedOf u.fds u.conns u.backlog s.welcome.pc.early s.welcome.errorSockets := by
    obtain ⟨hgrow, hb⟩ := he.conns_grow
    exact h.shrink hf hgrow (hb ▸ .refl _) id fun _ hx => hx
  cases he with
  | addEpoll hc =>
    apply h.pass
    · intro c hx
      exact h.homed _ c (.queue i) hx nofun
    · nofun
    · nofun
    · nofun
    · nofun
    · nofun
    · exact fun _ hy => hy
  | openMutex ha => exact h.addPages (Fds.addPages_some ha).2
  | hangup =>
    apply rest
    dsimp only
    split
    · exact Fds.shrinks_closeNumbers
    · exact .refl _
  | addEpollFails => exact rest Fds.shrinks_closeHeld
  | leave => exact rest (Fds.shrinks_closeAll.trans Fds.shrinks_closeNumbers)
  | dropListener => exact rest Fds.shrinks_closeAll
  | recv hr => exact rest ((recvFrom_frame hr).1 ▸ .refl _)
  | send hr => exact rest ((sendTo_frame hr).1 ▸ .refl _)
  | _ => exact rest (.refl _)

theorem shrinks_dropError (s : Daemon) (err : DetailedError) : s.fds.Shrinks (s.dropError err) := by
  unfold dropError
  split
  · exact Fds.shrinks_closeHeld
  · exact .refl _

theorem Connected.main {a : MainAct} (h : s.Connected) (hm : MainMoves s a t) : t.Connected := by
  have rest {f : Fds} (hf : s.fds.Shrinks f) :
      ConnectedOf f s.conns s.backlog s.welcome.pc.early s.welcome.errorSockets :=
    h.shrink hf (.refl _) (.refl _) id fun _ hx => hx
  cases hm with
  | @recv _ err =>
    have hdrop := rest (s.shrinks_dropError err)
    exact hdrop
  | recvShutdown =>
    have hdrop := rest (s.shrinks_dropError .shutdownSignal)
    exact hdrop
  | recvReload =>
    have hdrop := rest (s.shrinks_dropError .reloadRequest)
    exact hdrop
  | drain => exact rest (s.shrinks_dropError _)
  | fails | joinExits | success => exact rest Fds.shrinks_closeAll
  | listen => exact h.shrink (.refl _) (.refl _) (.refl _) nofun nofun
  | _ => exact h

/-- A client uses a connection of its own, or makes one. -/
theorem clientStep_grow {c : ConnId} {a : ClientAct} (hs : s.clientStep c a = some t) :
    ConnsGrow s.conns t.conns ∧ t.fds = s.fds ∧ t.welcome = s.welcome ∧
      (t.backlog = s.backlog ∨ s.conns c = none ∧ t.backlog = s.backlog ++ [c] ∧
        ∃ uid, t.conns = Function.update s.conns c (some ⟨uid, [], 0, false, false, false, none⟩)) := by
  cases a with
  | connect uid =>
    simp only [clientStep] at hs
    split at hs
    · rename_i hc
      cases hs
      exact ⟨.connect hc.2 rfl, rfl, rfl, .inr ⟨hc.2, rfl, uid, rfl⟩⟩
    · cases hs
  | send m =>
    simp only [clientStep] at hs
    split at hs
    · rename_i conn hc
      split at hs
      · cases hs
      · cases hs
        exact ⟨.update hc rfl id, rfl, rfl, .inl rfl⟩
    · cases hs
  | read =>
    simp only [clientStep] at hs
    split at hs
    · rename_i conn hc
      split at hs
      · cases hs
      · cases hs
        exact ⟨.update hc rfl id, rfl, rfl, .inl rfl⟩
    · cases hs
  | shutdown =>
    simp only [clientStep] at hs
    split at hs
    · rename_i conn hc
      cases hs
      exact ⟨.update hc rfl Conn.closed_shut, rfl, rfl, .inl rfl⟩
    · cases hs
  | close =>
    simp only [clientStep] at hs
    split at hs
    · rename_i conn hc
      cases hs
      exact ⟨.update hc rfl fun _ => rfl, rfl, rfl, .inl rfl⟩
    · cases hs

theorem Connected.client {c : ConnId} {a : ClientAct} (h : s.Connected)
    (hs : s.clientStep c a = some t) : t.Connected := by
  obtain ⟨hgrow, hf, hw, hb | ⟨hc, hb, uid, hconns⟩⟩ := clientStep_grow hs
  · unfold Connected
    rw [hf, hw, hb]
    exact h.shrink (.refl _) hgrow (.refl _) id fun _ hx => hx
  · unfold Connected
    rw [hf, hw, hb, hconns]
    exact h.connect hc rfl

theorem Connected.signal {sig : Signal} {thread : Thread} {interrupts : Bool} (h : s.Connected)
    (hm : SignalMoves s sig thread interrupts t) : t.Connected := by
  obtain ⟨shutdown, reload, terminated, reloaded, hshape⟩ := s.handler_shape sig
  cases hm with
  | handled | poll | wait =>
    rw [hshape]
    exact h

/-- A step keeps the table and the connections in agreement. -/
theorem Connected.step {a : Act} (h : s.Connected) (hheld : s.Held) (hs : s.step P a = some t) :
    t.Connected := by
  obtain ⟨-, hp⟩ := step_party hs
  cases hp with
  | main hm => exact h.main hm
  | welcome hm he =>
    have hconn := h.welcome hheld hm he
    exact hconn
  | env hi hmove he =>
    obtain ⟨-, hw, -, -⟩ := he.frame
    have hconn := h.env he
    rw [← hw] at hconn
    exact hconn
  | client hc => exact h.client hc
  | signal _ hm => exact h.signal hm

/-- The instances, the owners of the descriptors and the connections. -/
structure Accounted (s : Daemon) : Prop where
  instances : s.Instances
  held : s.Held
  connected : s.Connected

theorem accounted_boot : boot.Accounted := ⟨instances_boot, held_boot, connected_boot⟩

theorem Accounted.step {a : Act} (h : s.Accounted) (hs : s.step P a = some t) : t.Accounted :=
  ⟨h.instances.step hs, h.held.step h.instances hs, h.connected.step h.held hs⟩

theorem Accounted.run {ok : Daemon → Act → Prop} {as : List Act} (h : s.Accounted)
    (hr : Run (Daemon.step P) ok s as t) : t.Accounted :=
  hr.invariant (I := Accounted) (fun _ _ _ _ hs ht => hs.step ht) h

end Daemon
end Garnd
