import Garnd.Daemon

/- The start of an incarnation (`runtime.rs`): `check_privileges`, which lets only a
   process through that runs as the service's own user and group and can gain no
   privileges, and `setup_socket`, which binds the welcome socket to its name. -/
namespace Garnd

/-- `constants.rs`. -/
def userName : String := "garnd"
def groupName : String := "garnd"

/-- `getresuid` and `getresgid`. -/
structure ResIds where
  real : ℕ
  effective : ℕ
  saved : ℕ
  deriving DecidableEq, Repr

/-- The capability sets that are looked at. -/
inductive CapSet where
  | permitted
  | bounding
  deriving DecidableEq, Repr

/-- What `check_privileges` finds out about the process. `setfsuid` and `setfsgid`
return the id that is in place, and `u32::MAX` sets none. `allCaps` is `caps::all()` in
the order the set is walked in, `prctl` and `errno` are what the call to `prctl`
leaves. -/
structure Credentials where
  userFromName : String → Except Errno (Option ℕ)
  getresuid : Except Errno ResIds
  setfsuid : ℕ
  groupFromName : String → Except Errno (Option ℕ)
  getresgid : Except Errno ResIds
  setfsgid : ℕ
  getgroups : Except Errno (List ℕ)
  allCaps : List ℕ
  hasCap : CapSet → ℕ → Except Errno Bool
  getNoNewPrivs : Except Errno Bool
  prctl : Int32
  errno : Errno

/-- A call of `check_privileges` that may fail. -/
def privileged {α : Type} : Except Errno α → Except DetailedError α
  | .ok a => .ok a
  | .error errno => .error (.sys .privileges errno)

/-- `if` the condition holds, `return Err`. -/
def failIf (c : Prop) [Decidable c] (e : RuntimeError) : Except DetailedError Unit :=
  if c then .error (.runtime e) else .ok ()

/-- `ok_or`. -/
def okOr {α : Type} (e : RuntimeError) : Option α → Except DetailedError α
  | some a => .ok a
  | none => .error (.runtime e)

/-- The `SECBIT_` flags of `prctl`. -/
def secbitNoroot : Int32 := 1
def secbitNorootLocked : Int32 := 2
def secbitNoSetuidFixup : Int32 := 4
def secbitNoSetuidFixupLocked : Int32 := 8
def secbitKeepCaps : Int32 := 16
def secbitKeepCapsLocked : Int32 := 32
def secbitNoCapAmbientRaise : Int32 := 64
def secbitNoCapAmbientRaiseLocked : Int32 := 128

namespace Credentials

/-- `check_privileges`, without debug assertions. -/
def check (self : Credentials) : Except DetailedError Unit := do
  let garnUser ← okOr .userNonexistent (← privileged (self.userFromName userName))
  let resUid ← privileged self.getresuid
  failIf (resUid.real ≠ garnUser ∨ resUid.effective ≠ garnUser ∨ resUid.saved ≠ garnUser)
    .runAsWrongUser
  failIf (self.setfsuid ≠ garnUser) .runAsWrongUser
  let garnGroup ← okOr .groupNonexistent (← privileged (self.groupFromName groupName))
  let resGid ← privileged self.getresgid
  failIf (resGid.real ≠ garnGroup ∨ resGid.effective ≠ garnGroup ∨ resGid.saved ≠ garnGroup)
    .runAsWrongGroup
  failIf (self.setfsgid ≠ garnGroup) .runAsWrongGroup
  let groups ← privileged self.getgroups
  failIf (0 ∈ groups) .runWithRootGroup
  self.allCaps.forM fun cap =>
    [CapSet.permitted, CapSet.bounding].forM fun capSet => do
      let hasCap ← privileged (self.hasCap capSet cap)
      failIf (hasCap = true) .runWithCapabilities
  let noNewPrivs ← privileged self.getNoNewPrivs
  failIf (noNewPrivs = false) .mayObtainNewPrivileges
  if self.prctl = -1 then
    .error (.sys .privileges self.errno)
  else
    failIf (self.prctl &&& secbitNoroot = 0
      ∨ self.prctl &&& secbitNorootLocked = 0
      ∨ self.prctl &&& secbitKeepCaps > 0
      ∨ self.prctl &&& secbitKeepCapsLocked = 0
      ∨ self.prctl &&& secbitNoSetuidFixup = 0
      ∨ self.prctl &&& secbitNoSetuidFixupLocked = 0
      ∨ self.prctl &&& secbitNoCapAmbientRaise = 0
      ∨ self.prctl &&& secbitNoCapAmbientRaiseLocked = 0) .secureBitsNotSet

/-- `check_privileges`: the errors it sends, and its result. -/
def checkPrivileges (debugAssertions : Bool) (self : Credentials) :
    List DetailedError × Except DetailedError Unit :=
  if debugAssertions then ([.runtime .privilegeChecksDisabled], .ok ()) else ([], self.check)

/-- The process runs as the service's user and group only, in no group of root's, has no
capability and cannot get one: none is left in its bounding set, an `execve` gives it no
new privileges, and of the eight secure bits all are set but the one that would keep
capabilities. -/
structure Unprivileged (self : Credentials) : Prop where
  user : ∃ uid, self.userFromName userName = .ok (some uid) ∧
    self.getresuid = .ok ⟨uid, uid, uid⟩ ∧ self.setfsuid = uid
  group : ∃ gid, self.groupFromName groupName = .ok (some gid) ∧
    self.getresgid = .ok ⟨gid, gid, gid⟩ ∧ self.setfsgid = gid
  groups : ∃ groups, self.getgroups = .ok groups ∧ 0 ∉ groups
  caps : ∀ cap ∈ self.allCaps, ∀ capSet, self.hasCap capSet cap = .ok false
  noNewPrivs : self.getNoNewPrivs = .ok true
  secureBits : ∀ k < 8, self.prctl.toBitVec.getLsbD k = decide (k ≠ 4)

end Credentials

/-- The name is taken. -/
def eaddrinuse : Errno := 98

/-- What the calls of `setup_socket` return. -/
structure SocketCalls where
  socket : Except Errno Unit
  setsockopt : Except Errno Unit
  newAbstract : Except Errno Unit
  bind : Except Errno Unit

/-- `setup_socket`. The option and the address are part of making the socket. -/
def setupSocket (calls : SocketCalls) : Except DetailedError Unit := do
  socketCall calls.socket
  socketCall calls.setsockopt
  socketCall calls.newAbstract
  match calls.bind with
  | .error errno =>
    if errno = eaddrinuse then .error (.runtime .serviceAlreadyRunning)
    else .error (.sys .bind errno)
  | .ok () => .ok ()
where
  socketCall : Except Errno Unit → Except DetailedError Unit
    | .ok () => .ok ()
    | .error errno => .error (.sys .socket errno)

/-! ## What lets a process through -/

section
variable {α β : Type}

@[simp] theorem privileged_eq_ok {x : Except Errno α} {a : α} :
    privileged x = .ok a ↔ x = .ok a := by
  cases x <;> simp [privileged]

@[simp] theorem failIf_eq_ok {c : Prop} [Decidable c] {e : RuntimeError} {u : Unit} :
    failIf c e = .ok u ↔ ¬ c := by
  by_cases h : c <;> simp [failIf, h]

@[simp] theorem okOr_eq_ok {e : RuntimeError} {x : Option α} {a : α} :
    okOr e x = .ok a ↔ x = some a := by
  cases x <;> simp [okOr]

theorem toBool_eq_true {x : Except DetailedError Unit} : x.toBool = true ↔ x = .ok () := by
  cases x <;> simp [Except.toBool]

theorem bind_eq_ok {x : Except DetailedError α} {f : α → Except DetailedError β} {b : β} :
    x >>= f = .ok b ↔ ∃ a, x = .ok a ∧ f a = .ok b := by
  cases x <;> simp [bind, Except.bind]

theorem forM_eq_ok {l : List α} {f : α → Except DetailedError Unit} {u : Unit} :
    l.forM f = .ok u ↔ ∀ a ∈ l, f a = .ok () := by
  induction l with
  | nil => simp [pure, Except.pure]
  | cons a l ih =>
    have hcons : (a :: l).forM f = f a >>= fun _ => l.forM f := rfl
    simp only [hcons, bind_eq_ok, List.mem_cons, forall_eq_or_imp, ← ih]
    constructor
    · rintro ⟨_, h⟩
      exact h
    · intro h
      exact ⟨(), h⟩

end

/-- A mask of one bit takes that bit out. -/
theorem and_mask (w : Int32) {mask : Int32} {k : ℕ} (hm : mask.toBitVec = BitVec.twoPow 32 k) :
    w &&& mask = if w.toBitVec.getLsbD k then mask else 0 := by
  apply Int32.toBitVec_inj.mp
  rw [Int32.toBitVec_and, hm, BitVec.and_twoPow]
  split
  · exact hm.symm
  · rfl

theorem ResIds.own {r : ResIds} {id : ℕ} :
    ¬ (r.real ≠ id ∨ r.effective ≠ id ∨ r.saved ≠ id) ↔ r = ⟨id, id, id⟩ := by
  obtain ⟨real, effective, saved⟩ := r
  simp

namespace Credentials
variable {self : Credentials}

/-- What is asked of the secure bits. -/
theorem secureBits_iff :
    ¬ (self.prctl &&& secbitNoroot = 0
      ∨ self.prctl &&& secbitNorootLocked = 0
      ∨ self.prctl &&& secbitKeepCaps > 0
      ∨ self.prctl &&& secbitKeepCapsLocked = 0
      ∨ self.prctl &&& secbitNoSetuidFixup = 0
      ∨ self.prctl &&& secbitNoSetuidFixupLocked = 0
      ∨ self.prctl &&& secbitNoCapAmbientRaise = 0
      ∨ self.prctl &&& secbitNoCapAmbientRaiseLocked = 0) ↔
    ∀ k < 8, self.prctl.toBitVec.getLsbD k = decide (k ≠ 4) := by
  have hzero (mask : Int32) (k : ℕ) (hm : mask.toBitVec = BitVec.twoPow 32 k) (hne : mask ≠ 0) :
      self.prctl &&& mask = 0 ↔ self.prctl.toBitVec.getLsbD k = false := by
    rw [and_mask _ hm]
    split <;> simp_all
  have hkeep : self.prctl &&& secbitKeepCaps > 0 ↔ self.prctl.toBitVec.getLsbD 4 = true := by
    rw [and_mask (k := 4) _ (by decide)]
    split <;> rename_i h <;> simp only [h] <;> decide
  rw [hkeep, hzero secbitNoroot 0 (by decide) (by decide),
    hzero secbitNorootLocked 1 (by decide) (by decide),
    hzero secbitKeepCapsLocked 5 (by decide) (by decide),
    hzero secbitNoSetuidFixup 2 (by decide) (by decide),
    hzero secbitNoSetuidFixupLocked 3 (by decide) (by decide),
    hzero secbitNoCapAmbientRaise 6 (by decide) (by decide),
    hzero secbitNoCapAmbientRaiseLocked 7 (by decide) (by decide)]
  simp only [Nat.forall_lt_succ_right, Nat.not_lt_zero, IsEmpty.forall_iff, implies_true, not_or,
    Bool.not_eq_false, Bool.not_eq_true]
  simp
  tauto

/-- The word of a process whose bits are as asked for is no failure of `prctl`. -/
theorem secureBits_read (h : ∀ k < 8, self.prctl.toBitVec.getLsbD k = decide (k ≠ 4)) :
    self.prctl ≠ -1 := by
  intro heq
  have hkeep := h 4 (by decide)
  rw [heq] at hkeep
  revert hkeep
  decide

theorem caps_iff {cap : ℕ} :
    (∀ capSet ∈ [CapSet.permitted, .bounding], ∃ b, self.hasCap capSet cap = .ok b ∧ ¬ b = true) ↔
      ∀ capSet, self.hasCap capSet cap = .ok false := by
  constructor
  · intro h capSet
    obtain ⟨b, hb, hf⟩ := h capSet (by cases capSet <;> simp)
    rw [hb, Bool.eq_false_of_not_eq_true hf]
  · intro h capSet _
    exact ⟨false, h capSet, by simp⟩

/-- **The check.** It passes for an unprivileged process, and for no other. -/
theorem check_eq_ok : self.check = .ok () ↔ self.Unprivileged := by
  simp only [check, bind_eq_ok, privileged_eq_ok, okOr_eq_ok, failIf_eq_ok, forM_eq_ok, caps_iff,
    ResIds.own, not_not]
  constructor
  · rintro ⟨_, huser, uid, rfl, _, hres, -, rfl, -, hfs, _, hgroup, gid, rfl, _, hresg, -, rfl, -,
      hfsg, groups, hgroups, -, hroot, -, hcaps, noNewPrivs, hnnp, -, hnn, hbits⟩
    split at hbits
    · cases hbits
    · rw [Bool.eq_true_of_not_eq_false hnn] at hnnp
      exact ⟨⟨uid, huser, hres, hfs⟩, ⟨gid, hgroup, hresg, hfsg⟩, ⟨groups, hgroups, hroot⟩, hcaps,
        hnnp, secureBits_iff.mp (failIf_eq_ok.mp hbits)⟩
  · rintro ⟨⟨uid, huser, hres, hfs⟩, ⟨gid, hgroup, hresg, hfsg⟩, ⟨groups, hgroups, hroot⟩, hcaps,
      hnnp, hbits⟩
    refine ⟨_, huser, uid, rfl, _, hres, (), rfl, (), hfs, _, hgroup, gid, rfl, _, hresg, (), rfl,
      (), hfsg, groups, hgroups, (), hroot, (), hcaps, true, hnnp, (), by simp, ?_⟩
    rw [if_neg (secureBits_read hbits)]
    exact failIf_eq_ok.mpr (secureBits_iff.mpr hbits)

end Credentials

/-! ## The name of the welcome socket -/

theorem setupSocket_eq_ok {calls : SocketCalls} (h : setupSocket calls = .ok ()) :
    calls.bind = .ok () := by
  simp only [setupSocket, bind_eq_ok] at h
  obtain ⟨-, -, -, -, -, -, h⟩ := h
  split at h
  · split at h <;> cases h
  · assumption

/-- The service is said to run already where the name is taken, and there only. -/
theorem setupSocket_already {calls : SocketCalls}
    (h : setupSocket calls = .error (.runtime .serviceAlreadyRunning)) :
    calls.bind = .error eaddrinuse := by
  obtain ⟨socket, setsockopt, newAbstract, bind⟩ := calls
  cases socket <;> cases setsockopt <;> cases newAbstract <;> cases bind <;>
    simp_all [setupSocket, setupSocket.socketCall, Bind.bind, Except.bind]

end Garnd
