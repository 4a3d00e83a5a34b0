import Garnd.ShmLayout
import Mathlib.Order.Bounds.Defs

/- The arithmetic of the allocator as a debug build runs it, where an addition or a
   subtraction that leaves `usize` panics. Every number stays below `2^64`, for the
   rounding up reaches `2^63` at most and a size is below that, so both builds
   compute the same (`Inv.constructInShmChecked_eq`), and what they compute is the
   rounding up on natural numbers (`bump_exact`). -/
namespace Garnd
open PageLayout (alignUp alignUp_le alignUp_zero le_alignUp dvd_alignUp)
open Transition

/-- `a + b` on `usize`, `none` where it overflows. -/
def usizeCheckedAdd (a b : ℕ) : Option ℕ := if a + b < 2 ^ 64 then some (a + b) else none

/-- `a - b` on `usize`, `none` where it overflows. -/
def usizeCheckedSub (a b : ℕ) : Option ℕ := if b ≤ a then some (a - b) else none

theorem usizeCheckedAdd_eq {a b : ℕ} (h : a + b < 2 ^ 64) :
    usizeCheckedAdd a b = some (usizeAdd a b) := by
  rw [usizeCheckedAdd, if_pos h, usizeAdd, Nat.mod_eq_of_lt h]

theorem usizeCheckedSub_eq {a b : ℕ} (h : b ≤ a) : usizeCheckedSub a b = some (a - b) := if_pos h

namespace ShmAllocator

/-! ## The functions of a debug build -/

/-- `get_aligned_free_pointer`. -/
def getAlignedFreePointerChecked (self : ShmAllocator) (size align : ℕ) : Option (Option ℕ) := do
  let alignedFreePtr ←
    if self.freePtr % align = 0 then pure self.freePtr
    else do
      let gap ← usizeCheckedSub align (self.freePtr % align)
      usizeCheckedAdd self.freePtr gap
  let last ← usizeCheckedAdd alignedFreePtr size
  pure (if last > self.pageSize then none else some alignedFreePtr)

/-- The end of `construct_in_shm`. -/
def placeAtChecked (self : ShmAllocator) (name : String) (T : ShmType) (alignedFreePtr : ℕ)
    (constructor : Except DetailedError Unit) : Option Constructed := do
  let freePtr ← usizeCheckedAdd alignedFreePtr T.size
  let self := { self with freePtr := freePtr }
  match self.pages.getLast? with
  | none => pure ⟨.panic, none, self⟩
  | some last =>
    let slot : Slot := ⟨self.pages.length - 1, alignedFreePtr, T.size⟩
    match constructor with
    | .error e => pure ⟨.err e, some slot, self⟩
    | .ok () => do
      let page ← usizeCheckedSub self.pages.length 1
      pure ⟨.ok ⟨page, alignedFreePtr, last.fd⟩, some slot,
        { self with resources := self.resources.insert name ⟨T.uuid, page, alignedFreePtr, T⟩ }⟩

/-- `construct_in_shm` once there is a page. -/
def allocateChecked (self : ShmAllocator) (name : String) (T : ShmType) (os : ConstructCalls) :
    Option Constructed := do
  match ← self.getAlignedFreePointerChecked T.size T.align with
  | some alignedFreePtr => self.placeAtChecked name T alignedFreePtr os.constructor
  | none =>
    match self.createNewPage os.retryPage with
    | .error e => pure ⟨.err e, none, self⟩
    | .ok self => do
      match ← self.getAlignedFreePointerChecked T.size T.align with
      | some alignedFreePtr => self.placeAtChecked name T alignedFreePtr os.constructor
      | none => pure ⟨.panic, none, self⟩

/-- `construct_in_shm`. -/
def constructInShmChecked (self : ShmAllocator) (name : String) (T : ShmType)
    (os : ConstructCalls) : Option Constructed :=
  if name ∈ self.resources then
    some ⟨.err (.runtime (.resourceNameAlreadyInUse name)), none, self⟩
  else if T.size > self.pageSize then
    some ⟨.err (.runtime (.resourceTooLargeForPage self.pageSize T.size)), none, self⟩
  else if T.align > self.pageSize then
    some ⟨.err (.runtime (.resourceAlignmentLargerThanPage self.pageSize T.align)), none, self⟩
  else if self.pages.isEmpty then
    match self.createNewPage os.firstPage with
    | .error e => some ⟨.err e, none, self⟩
    | .ok self => self.allocateChecked name T os
  else self.allocateChecked name T os

/-! ## Nothing overflows -/

variable {a b : ShmAllocator} {name : String} {T : ShmType} {os : ConstructCalls}

theorem Inv.getAlignedFreePointerChecked_eq (h : Inv a) (hsize : T.size ≤ a.pageSize)
    (hal : T.align ≤ a.pageSize) : a.getAlignedFreePointerChecked T.size T.align =
      some (a.getAlignedFreePointer T.size T.align) := by
  have hlt := h.size_lt
  have hup := h.alignUp_le hal
  have hmod : a.freePtr % T.align < T.align := Nat.mod_lt _ T.align_pos
  have hpos := T.align_pos
  unfold alignUp at hup
  unfold getAlignedFreePointerChecked getAlignedFreePointer
  by_cases hz : a.freePtr % T.align = 0
  · rw [if_pos hz] at hup
    simp only [hz, if_true, Option.pure_def, Option.bind_eq_bind, Option.bind_some]
    rw [usizeCheckedAdd_eq (by omega)]
    rfl
  · rw [if_neg hz] at hup
    have hround : usizeAdd a.freePtr (T.align - a.freePtr % T.align) =
        a.freePtr + (T.align - a.freePtr % T.align) := Nat.mod_eq_of_lt (by omega)
    simp only [hz, if_false, Option.pure_def, Option.bind_eq_bind,
      usizeCheckedSub_eq (Nat.le_of_lt hmod), Option.bind_some]
    rw [usizeCheckedAdd_eq (by omega), Option.bind_some, hround, usizeCheckedAdd_eq (by omega)]
    rfl

theorem placeAtChecked_eq {p : ℕ} {ctor : Except DetailedError Unit} (hp : p + T.size < 2 ^ 64) :
    a.placeAtChecked name T p ctor = some (a.placeAt name T p ctor) := by
  unfold placeAtChecked placeAt
  rw [usizeCheckedAdd_eq hp]
  cases hl : a.pages.getLast? with
  | none => simp [hl]
  | some last =>
    have hne : a.pages ≠ [] := by
      intro hn
      simp [hn] at hl
    have hlen : 1 ≤ a.pages.length := List.length_pos_iff.mpr hne
    cases ctor with
    | error e => simp [hl]
    | ok u => simp [hl, usizeCheckedSub_eq hlen]

/-- A pointer that was found fits, and adding the size to it does not wrap. -/
theorem Inv.found_add_lt (h : Inv a) (hsize : T.size ≤ a.pageSize) (hal : T.align ≤ a.pageSize)
    {p : ℕ} (hp : a.getAlignedFreePointer T.size T.align = some p) : p + T.size < 2 ^ 64 := by
  have hlt := h.size_lt
  rw [h.getAlignedFreePointer_eq hsize hal] at hp
  split at hp
  · cases hp
    omega
  · cases hp

theorem Inv.allocateChecked_eq (h : Inv a) (hsize : T.size ≤ a.pageSize)
    (hal : T.align ≤ a.pageSize) :
    a.allocateChecked name T os = some (a.allocate name T os) := by
  unfold allocateChecked allocate
  rw [h.getAlignedFreePointerChecked_eq hsize hal]
  cases hp : a.getAlignedFreePointer T.size T.align with
  | some p => exact placeAtChecked_eq (h.found_add_lt hsize hal hp)
  | none =>
    cases hc : a.createNewPage os.retryPage with
    | error e => rfl
    | ok b =>
      have hg : Grown os a b := .page os.retryPage (.inr rfl) hc
      have hb := hg.inv h
      obtain ⟨-, hps, -⟩ := hg.layout_eq
      rw [← hps] at hsize hal
      simp only [Option.bind_eq_bind, Option.bind_some]
      rw [hb.getAlignedFreePointerChecked_eq hsize hal, Option.bind_some]
      cases hq : b.getAlignedFreePointer T.size T.align with
      | some q => exact placeAtChecked_eq (hb.found_add_lt hsize hal hq)
      | none => rfl

theorem Inv.constructInShmChecked_eq (h : Inv a) (name : String) (T : ShmType)
    (os : ConstructCalls) :
    a.constructInShmChecked name T os = some (a.constructInShm name T os) := by
  unfold constructInShmChecked constructInShm
  by_cases hname : name ∈ a.resources
  · rw [if_pos hname, if_pos hname]
  by_cases hsize : T.size > a.pageSize
  · rw [if_neg hname, if_neg hname, if_pos hsize, if_pos hsize]
  by_cases hal : T.align > a.pageSize
  · rw [if_neg hname, if_neg hname, if_neg hsize, if_neg hsize, if_pos hal, if_pos hal]
  rw [if_neg hname, if_neg hname, if_neg hsize, if_neg hsize, if_neg hal, if_neg hal]
  split
  · cases hc : a.createNewPage os.firstPage with
    | error e => rfl
    | ok b =>
      have hg : Grown os a b := .page os.firstPage (.inl rfl) hc
      obtain ⟨-, hps, -⟩ := hg.layout_eq
      exact (hg.inv h).allocateChecked_eq (by omega) (by omega)
  · exact h.allocateChecked_eq (by omega) (by omega)

/-! ## What is computed -/

theorem isLeast_alignUp {p align : ℕ} (h : 0 < align) :
    IsLeast {q | align ∣ q ∧ p ≤ q} (alignUp p align) :=
  ⟨⟨dvd_alignUp p h, le_alignUp p align⟩, fun _ hq => alignUp_le hq.2 hq.1⟩

/-- The pointer is the least multiple of the alignment from the free pointer on, where
the type fits behind it. -/
theorem Inv.getAlignedFreePointer_iff (h : Inv a) (hsize : T.size ≤ a.pageSize)
    (hal : T.align ≤ a.pageSize) (p : ℕ) : a.getAlignedFreePointer T.size T.align = some p ↔
      IsLeast {q | T.align ∣ q ∧ a.freePtr ≤ q} p ∧ p + T.size ≤ a.pageSize := by
  have hleast := isLeast_alignUp (p := a.freePtr) T.align_pos
  rw [h.getAlignedFreePointer_eq hsize hal]
  constructor
  · intro hp
    split at hp
    · rename_i hfit
      cases hp
      exact ⟨hleast, hfit⟩
    · cases hp
  · rintro ⟨hp, hfit⟩
    obtain rfl := hp.unique hleast
    exact if_pos hfit

/-- On a fresh page everything that passed the checks fits, at its start. -/
theorem Inv.retry_eq (h : Inv a) (hsize : T.size ≤ a.pageSize) (hal : T.align ≤ a.pageSize)
    {page : PageCalls} (hc : a.createNewPage page = .ok b) :
    b.getAlignedFreePointer T.size T.align = some 0 := by
  have hg : Grown ⟨page, page, .ok ()⟩ a b := .page page (.inl rfl) hc
  have hb := hg.inv h
  obtain ⟨fd, mem, -, -, rfl⟩ := createNewPage_ok hc
  rw [hb.getAlignedFreePointer_eq hsize hal]
  simp only [alignUp_zero, Nat.zero_add]
  exact if_pos hsize

theorem construct_no_panic (h : Inv a) : (a.constructInShm name T os).result ≠ .panic := by
  intro hpanic
  rcases construct_spec h name T os with hf | ⟨-, b, slot, -, hp⟩
  · obtain ⟨e, he⟩ := hf.err
    rw [he] at hpanic
    cases hpanic
  · rcases hp.outcome with ⟨e, -, he, -⟩ | ⟨last, -, -, hok, -⟩
    · rw [he] at hpanic
      cases hpanic
    · rw [hok] at hpanic
      cases hpanic

/-- **The bump arithmetic is exact.** In every state reached from `new`, for every size and
every power of two that the page size admits: nothing overflows in either function, the
aligned free pointer is the least multiple of the alignment from the free pointer on as
long as the size fits behind it, the free pointer stays within the page, and the retry on
a fresh page succeeds. -/
theorem bump_exact {sysconf : Except Errno (Option Int64)} {a₀ a : ShmAllocator}
    {calls : List ConstructCall} (hnew : new sysconf = .ok a₀)
    (hrun : Run step anyStep a₀ calls a) :
    (∀ size align, size ≤ a.pageSize → align ≤ a.pageSize → (∃ k, align = 2 ^ k) →
      a.getAlignedFreePointerChecked size align = some (a.getAlignedFreePointer size align) ∧
      (∀ p, a.getAlignedFreePointer size align = some p ↔
        IsLeast {q | align ∣ q ∧ a.freePtr ≤ q} p ∧ p + size ≤ a.pageSize) ∧
      ∀ page b, a.createNewPage page = .ok b → b.getAlignedFreePointer size align = some 0) ∧
    a.freePtr ≤ a.pageSize ∧
    ∀ name T os, a.constructInShmChecked name T os = some (a.constructInShm name T os) ∧
      (a.constructInShm name T os).self.freePtr ≤ (a.constructInShm name T os).self.pageSize ∧
      (a.constructInShm name T os).result ≠ .panic := by
  have h := run_inv hrun (new_inv hnew)
  refine ⟨fun size align hsize hal hk => ?_, h.freePtr_le, fun name T os => ?_⟩
  · let T : ShmType := ⟨0, "", size, align, hk⟩
    have hsize : T.size ≤ a.pageSize := hsize
    have hal : T.align ≤ a.pageSize := hal
    refine ⟨h.getAlignedFreePointerChecked_eq hsize hal, h.getAlignedFreePointer_iff hsize hal, ?_⟩
    exact fun page b hc => h.retry_eq hsize hal hc
  · exact ⟨h.constructInShmChecked_eq name T os, (construct_inv h name T os).freePtr_le,
      construct_no_panic h⟩

/-- One byte at the start of a page. -/
def oneByte : List ConstructCall :=
  let page : PageCalls := ⟨.ok 7, .ok (), .ok (), .ok 8192⟩
  [⟨"a", ⟨2, "u8", 1, 1, 0, rfl⟩, page, page, .ok ()⟩]

/-- At the limit: a page of `2^63 - 1` bytes whose first byte is taken, and an alignment
of `2^62`. -/
theorem bump_exact_limit : IsLeast {q | 2 ^ 62 ∣ q ∧ 1 ≤ q} (2 ^ 62) ∧
    2 ^ 62 + (2 ^ 62 - 1) ≤ 2 ^ 63 - 1 := by
  obtain ⟨a, hrun, hsize, hfree, hp⟩ : ∃ a : ShmAllocator,
      exec step (fun _ _ => true) ⟨∅, 2 ^ 63 - 1, [], 0⟩ oneByte = some a ∧
      a.pageSize = 2 ^ 63 - 1 ∧ a.freePtr = 1 ∧
      a.getAlignedFreePointer (2 ^ 62 - 1) (2 ^ 62) = some (2 ^ 62) := ⟨_, rfl, rfl, rfl, by decide +kernel⟩
  have hnew : new (.ok (some 9223372036854775807)) = .ok ⟨∅, 2 ^ 63 - 1, [], 0⟩ := rfl
  have h := bump_exact hnew (.of_exec (fun _ _ _ => trivial) hrun)
  have hlimit := ((h.1 (2 ^ 62 - 1) (2 ^ 62) (by omega) (by omega) ⟨62, rfl⟩).2.1 (2 ^ 62)).mp hp
  rw [hfree, hsize] at hlimit
  exact hlimit

end ShmAllocator
end Garnd
