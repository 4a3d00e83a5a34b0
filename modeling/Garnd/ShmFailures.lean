import Garnd.ShmArithmetic

/- What a `construct_in_shm` that returns `Err` leaves behind. Every failure comes
   before the allocator is touched, except the last: when the placement constructor
   is called, its page may have been added and the free pointer has moved behind the
   slot, and the early return takes neither back. `construct_reached` says when the
   constructor is called, and a failed call keeps the memory exactly if it is not, or
   the slot takes no room (`failed_construct_keeps_iff`). -/
namespace Garnd
open PageLayout (alignUp alignUp_zero alignUp_le le_alignUp dvd_alignUp)
open Transition

namespace ShmAllocator

/-- The system calls of one `create_new_page` succeed. -/
structure PageCalls.Granted (os : PageCalls) : Prop where
  memfdCreate : ∃ fd, os.memfdCreate = .ok fd
  ftruncate : os.ftruncate = .ok ()
  addSeals : os.addSeals = .ok ()
  mmap : ∃ mem, os.mmap = .ok mem

/-- The placement constructor is called: the checks before it pass, and there is room
for the type on the last page or another page can be had. -/
structure Reached (a : ShmAllocator) (c : ConstructCall) : Prop where
  unused : c.name ∉ a.resources
  size_le : c.T.size ≤ a.pageSize
  align_le : c.T.align ≤ a.pageSize
  first : a.pages = [] → c.os.firstPage.Granted
  retry : a.pages ≠ [] → alignUp a.freePtr c.T.align + c.T.size ≤ a.pageSize ∨
    c.os.retryPage.Granted

/-- A type without size whose slot begins at the free pointer. -/
def TakesNoRoom (a : ShmAllocator) (T : ShmType) : Prop :=
  a.pages ≠ [] ∧ T.size = 0 ∧ T.align ∣ a.freePtr

/-- The condition: a constructor that is called succeeds, or its slot takes no room. -/
def FailsEarly (a : ShmAllocator) (c : ConstructCall) : Prop :=
  Reached a c → c.os.constructor = .ok () ∨ TakesNoRoom a c.T

/-- The call returns `Err`. -/
def Fails (a : ShmAllocator) (c : ConstructCall) : Prop :=
  ∃ e, (a.constructInShm c.name c.T c.os).result = .err e

/-- The number of pages and the free pointer are the same. -/
def SameMemory (a b : ShmAllocator) : Prop :=
  b.pages.length = a.pages.length ∧ b.freePtr = a.freePtr

/-- The slot is on the last page where the type fits there, and else on a fresh one. -/
inductive Chosen (a : ShmAllocator) (c : ConstructCall) : ShmAllocator → Prop
  | last : a.pages ≠ [] → alignUp a.freePtr c.T.align + c.T.size ≤ a.pageSize → Chosen a c a
  | fresh {b : ShmAllocator} (calls : PageCalls) :
      (a.pages ≠ [] → a.pageSize < alignUp a.freePtr c.T.align + c.T.size) →
      a.createNewPage calls = .ok b → Chosen a c b

/-! ## When the constructor is called -/

variable {a b : ShmAllocator} {c : ConstructCall}

theorem createNewPage_granted_iff (h : a.pageSize < 2 ^ 63) (os : PageCalls) :
    (∃ b, a.createNewPage os = .ok b) ↔ os.Granted := by
  constructor
  · rintro ⟨b, hb⟩
    obtain ⟨fd, mem, hfd, hmem, -⟩ := createNewPage_ok hb
    simp only [createNewPage, hfd, hmem, not_le.mpr h, if_false] at hb
    cases hft : os.ftruncate with
    | error e => simp [hft] at hb
    | ok u =>
      cases hseal : os.addSeals with
      | error e => simp [hft, hseal] at hb
      | ok v => exact ⟨⟨fd, hfd⟩, hft, hseal, mem, hmem⟩
  · rintro ⟨⟨fd, hfd⟩, hft, hseal, mem, hmem⟩
    refine ⟨{ a with freePtr := 0, pages := a.pages ++ [⟨fd, mem⟩] }, ?_⟩
    simp only [createNewPage, hfd, not_le.mpr h, if_false, hft, hseal, hmem]

theorem createNewPage_refused (h : a.pageSize < 2 ^ 63) {os : PageCalls} (hos : ¬os.Granted) :
    ∃ e, a.createNewPage os = .error e := by
  cases hc : a.createNewPage os with
  | error e => exact ⟨e, rfl⟩
  | ok b => exact absurd ((createNewPage_granted_iff h os).mp ⟨b, hc⟩) hos

/-- With room on its last page, an allocator calls the constructor. -/
theorem allocate_fits (h : Inv a) (hne : a.pages ≠ []) (hsize : c.T.size ≤ a.pageSize)
    (hal : c.T.align ≤ a.pageSize) (hfit : alignUp a.freePtr c.T.align + c.T.size ≤ a.pageSize) :
    ∃ slot, Placed a c.name c.T c.os.constructor (a.allocate c.name c.T c.os) slot := by
  have hfree := h.getAlignedFreePointer_eq hsize hal
  rw [if_pos hfit] at hfree
  obtain ⟨last, hlast⟩ : ∃ last, a.pages.getLast? = some last :=
    Option.isSome_iff_exists.mp (by simpa using hne)
  have hp := placeAt_spec h c.name c.os.constructor hlast hfit hal
  simpa only [allocate, hfree] using hp

/-- A fresh page has room. -/
theorem allocate_fresh {os : PageCalls} (h : Inv a) (hc : a.createNewPage os = .ok b)
    (hsize : c.T.size ≤ a.pageSize) (hal : c.T.align ≤ a.pageSize) :
    ∃ slot, Placed b c.name c.T c.os.constructor (b.allocate c.name c.T c.os) slot := by
  have hg : Grown ⟨os, os, .ok ()⟩ a b := .page os (.inl rfl) hc
  have hb := hg.inv h
  obtain ⟨fd, mem, -, -, rfl⟩ := createNewPage_ok hc
  apply allocate_fits hb (by simp) hsize hal
  simp only [alignUp_zero]
  omega

/-- Everything a call does: where the constructor is called, it gets a slot on the page
`Chosen` names; elsewhere the call fails and nothing has changed. -/
theorem construct_reached (h : Inv a) (c : ConstructCall) :
    (Reached a c ∧ ∃ b slot, Chosen a c b ∧
      Placed b c.name c.T c.os.constructor (a.constructInShm c.name c.T c.os) slot) ∨
    (¬Reached a c ∧ Fails a c ∧ (a.constructInShm c.name c.T c.os).self = a) := by
  unfold Fails
  by_cases hname : c.name ∈ a.resources
  · refine .inr ⟨fun hr => hr.unused hname, ?_⟩
    simp [constructInShm, hname]
  by_cases hsize : c.T.size > a.pageSize
  · refine .inr ⟨fun hr => absurd hr.size_le (not_le.mpr hsize), ?_⟩
    simp [constructInShm, hname, hsize]
  by_cases hal : c.T.align > a.pageSize
  · refine .inr ⟨fun hr => absurd hr.align_le (not_le.mpr hal), ?_⟩
    simp [constructInShm, hname, hsize, hal]
  have hsize' := not_lt.mp hsize
  have hal' := not_lt.mp hal
  by_cases hpages : a.pages = []
  · by_cases hos : c.os.firstPage.Granted
    · obtain ⟨b, hb⟩ := (createNewPage_granted_iff h.size_lt _).mpr hos
      have heq : a.constructInShm c.name c.T c.os = b.allocate c.name c.T c.os := by
        simp [constructInShm, hname, hsize, hal, hpages, hb]
      obtain ⟨slot, hp⟩ := allocate_fresh h hb hsize' hal'
      rw [heq]
      exact .inl ⟨⟨hname, hsize', hal', fun _ => hos, fun hne => absurd hpages hne⟩, b, slot,
        .fresh c.os.firstPage (fun hne => absurd hpages hne) hb, hp⟩
    · obtain ⟨e, he⟩ := createNewPage_refused h.size_lt hos
      refine .inr ⟨fun hr => hos (hr.first hpages), ?_⟩
      simp [constructInShm, hname, hsize, hal, hpages, he]
  · have heq : a.constructInShm c.name c.T c.os = a.allocate c.name c.T c.os := by
      simp [constructInShm, hname, hsize, hal, hpages]
    rw [heq]
    by_cases hfit : alignUp a.freePtr c.T.align + c.T.size ≤ a.pageSize
    · obtain ⟨slot, hp⟩ := allocate_fits h hpages hsize' hal' hfit
      exact .inl ⟨⟨hname, hsize', hal', fun he => absurd he hpages, fun _ => .inl hfit⟩, a, slot,
        .last hpages hfit, hp⟩
    have hfree := h.getAlignedFreePointer_eq hsize' hal'
    rw [if_neg hfit] at hfree
    by_cases hos : c.os.retryPage.Granted
    · obtain ⟨b, hb⟩ := (createNewPage_granted_iff h.size_lt _).mpr hos
      have hretry : a.allocate c.name c.T c.os = b.allocate c.name c.T c.os := by
        simp only [allocate, hfree, hb, h.retry_eq hsize' hal' hb]
      obtain ⟨slot, hp⟩ := allocate_fresh h hb hsize' hal'
      rw [hretry]
      exact .inl ⟨⟨hname, hsize', hal', fun he => absurd he hpages, fun _ => .inr hos⟩, b, slot,
        .fresh c.os.retryPage (fun _ => not_le.mp hfit) hb, hp⟩
    · obtain ⟨e, he⟩ := createNewPage_refused h.size_lt hos
      refine .inr ⟨fun hr => (hr.retry hpages).elim hfit hos, ?_⟩
      simp [allocate, hfree, he]

/-! ## What a failed call keeps -/

theorem Placed.freePtr_eq {name : String} {T : ShmType} {ctor : Except DetailedError Unit}
    {r : Constructed} {slot : Slot} (hp : Placed b name T ctor r slot) :
    r.self.freePtr = alignUp b.freePtr T.align + T.size := by
  rw [← hp.offset]
  rcases hp.outcome with ⟨e, -, -, hself⟩ | ⟨last, -, -, -, hself⟩ <;> rw [hself]

/-- A slot leaves the pages and the free pointer as they were exactly if it takes no room. -/
theorem Chosen.sameMemory_iff {r : Constructed} {slot : Slot} (h : Inv a) (hc : Chosen a c b)
    (hp : Placed b c.name c.T c.os.constructor r slot) :
    SameMemory a r.self ↔ TakesNoRoom a c.T := by
  have hlen : r.self.pages.length = b.pages.length := by rw [hp.pages_eq.1]
  unfold SameMemory
  rw [hlen, hp.freePtr_eq]
  cases hc with
  | last hne hfit =>
    have hle : a.freePtr ≤ alignUp a.freePtr c.T.align := le_alignUp _ _
    have hdvd : c.T.align ∣ alignUp a.freePtr c.T.align := dvd_alignUp _ c.T.align_pos
    constructor
    · rintro ⟨-, htop⟩
      have hup : alignUp a.freePtr c.T.align = a.freePtr := by omega
      rw [hup] at hdvd
      exact ⟨hne, by omega, hdvd⟩
    · rintro ⟨-, hsize, hal⟩
      have hup : alignUp a.freePtr c.T.align = a.freePtr :=
        Nat.le_antisymm (alignUp_le le_rfl hal) hle
      exact ⟨rfl, by omega⟩
  | fresh calls hfull hnew =>
    obtain ⟨fd, mem, -, -, rfl⟩ := createNewPage_ok hnew
    constructor
    · rintro ⟨hpages, -⟩
      simp at hpages
    · rintro ⟨hne, hsize, hal⟩
      -- a slot of no size at the free pointer fits on the page there is
      have hup : alignUp a.freePtr c.T.align ≤ a.freePtr := alignUp_le le_rfl hal
      have hlt := hfull hne
      have hfree := h.freePtr_le
      omega

/-- A call keeps the memory where it fails exactly if it fails early. -/
theorem Inv.keeps_iff (h : Inv a) (c : ConstructCall) :
    (Fails a c → SameMemory a (a.constructInShm c.name c.T c.os).self) ↔ FailsEarly a c := by
  rcases construct_reached h c with ⟨hr, b, slot, hc, hp⟩ | ⟨hr, hfails, hself⟩
  · have hsame := hc.sameMemory_iff h hp
    have hfails : Fails a c ↔ c.os.constructor ≠ .ok () := by
      rcases hp.outcome with ⟨e, hctor, hres, -⟩ | ⟨last, hctor, -, hres, -⟩
      · simp [Fails, hres, hctor]
      · simp [Fails, hres, hctor]
    rw [hfails, hsame]
    constructor
    · intro hk _
      exact or_iff_not_imp_left.mpr hk
    · intro hk
      exact or_iff_not_imp_left.mp (hk hr)
  · rw [hself]
    exact ⟨fun _ hr' => absurd hr' hr, fun _ _ => ⟨rfl, rfl⟩⟩

/-- A type that fills a page and a constructor that fails: every call maps a page. -/
theorem Inv.failing_maps_page (h : Inv a) {e : DetailedError} (hname : c.name ∉ a.resources)
    (hsize : c.T.size = a.pageSize) (hal : c.T.align ≤ a.pageSize)
    (hfull : a.pages = [] ∨ 0 < a.freePtr) (hfirst : c.os.firstPage.Granted)
    (hretry : c.os.retryPage.Granted) (hctor : c.os.constructor = .error e) :
    Fails a c ∧ ∃ b, a.step c = some b ∧ b.pages.length = a.pages.length + 1 ∧ 0 < b.freePtr ∧
      b.resources = a.resources ∧ b.pageSize = a.pageSize := by
  have hpos := h.size_pos
  rcases construct_reached h c with ⟨-, b, slot, hc, hp⟩ | ⟨hr, -⟩
  · have hlen := hp.pages_eq.1
    have htop := hp.freePtr_eq
    cases hc with
    | last hne hfit =>
      have hle : a.freePtr ≤ alignUp a.freePtr c.T.align := le_alignUp _ _
      have hfree := hfull.resolve_left hne
      omega
    | fresh calls hfull' hnew =>
      obtain ⟨fd, mem, -, -, rfl⟩ := createNewPage_ok hnew
      rcases hp.outcome with ⟨e', -, hres, hself⟩ | ⟨last, hok, -⟩
      · refine ⟨⟨e', hres⟩, _, rfl, ?_, ?_, ?_, ?_⟩
        · rw [hlen]
          simp
        · omega
        · rw [hself]
        · rw [hself]
      · rw [hctor] at hok
        cases hok
  · exact absurd ⟨hname, hsize.le, hal, fun _ => hfirst, fun _ => .inr hretry⟩ hr

/-- So failing requests map as many pages as there are requests. -/
theorem Inv.failing_maps_pages (h : Inv a) {e : DetailedError} (hname : c.name ∉ a.resources)
    (hsize : c.T.size = a.pageSize) (hal : c.T.align ≤ a.pageSize)
    (hfull : a.pages = [] ∨ 0 < a.freePtr) (hfirst : c.os.firstPage.Granted)
    (hretry : c.os.retryPage.Granted) (hctor : c.os.constructor = .error e) (n : ℕ) :
    ∃ b, Run step Fails a (List.replicate n c) b ∧ b.pages.length = a.pages.length + n := by
  induction n generalizing a with
  | zero => exact ⟨a, .nil a, rfl⟩
  | succ n ih =>
    obtain ⟨hfails, b, hb, hlen, hfree, hres, hps⟩ :=
      h.failing_maps_page hname hsize hal hfull hfirst hretry hctor
    have hinv : Inv b := by
      simp only [step, Option.some.injEq] at hb
      exact hb ▸ construct_inv h c.name c.T c.os
    obtain ⟨d, hrun, hd⟩ := ih hinv (hres ▸ hname) (hps ▸ hsize) (hps ▸ hal) (.inr hfree)
    exact ⟨d, .cons hfails hb hrun, by omega⟩

/-- **When a failed construct consumes no shared memory.** In every state reached from
`new`: a call that returns `Err` leaves the number of pages and the free pointer as they
were exactly if its placement constructor is not called, would succeed, or takes no
room; and a run of failing calls of this kind, of any length, leaves both as they were. -/
theorem failed_construct_keeps_iff {sysconf : Except Errno (Option Int64)} {a₀ : ShmAllocator}
    {calls : List ConstructCall} (hnew : new sysconf = .ok a₀)
    (hrun : Run step anyStep a₀ calls a) :
    (∀ c, (Fails a c → SameMemory a (a.constructInShm c.name c.T c.os).self) ↔
      FailsEarly a c) ∧
    ∀ more b, Run step (fun s c => Fails s c ∧ FailsEarly s c) a more b → SameMemory a b := by
  have h := run_inv hrun (new_inv hnew)
  refine ⟨h.keeps_iff, fun more b hmore => ?_⟩
  refine (hmore.invariant (I := fun t => Inv t ∧ SameMemory a t) ?_ ⟨h, rfl, rfl⟩).2
  rintro s c t ⟨hfails, hearly⟩ ⟨hs, hpages, hfree⟩ ht
  simp only [step, Option.some.injEq] at ht
  have hkeep := (hs.keeps_iff c).mpr hearly hfails
  rw [← ht]
  exact ⟨construct_inv hs c.name c.T c.os, hkeep.1.trans hpages, hkeep.2.trans hfree⟩

/-- A mutex whose constructor fails. -/
def failing : ConstructCall :=
  let page : PageCalls := ⟨.ok 7, .ok (), .ok (), .ok 8192⟩
  ⟨"a", .pthreadMutex, page, page, .error .sendFailed⟩

/-- After the mutex, a name that is in use. -/
theorem failed_construct_keeps_iff_in_use : ∃ a,
    exec step (fun _ _ => true) ⟨∅, 4096, [], 0⟩ twoCalls = some a ∧
    SameMemory a (a.constructInShm failing.name failing.T failing.os).self := by
  obtain ⟨a, hrun, hname⟩ : ∃ a, exec step (fun _ _ => true) ⟨∅, 4096, [], 0⟩ twoCalls = some a ∧
      "a" ∈ a.resources := ⟨_, rfl, by decide⟩
  have hnew : new (.ok (some 4096)) = .ok ⟨∅, 4096, [], 0⟩ := rfl
  have h := failed_construct_keeps_iff hnew (.of_exec (fun _ _ _ => trivial) hrun)
  have hfails : Fails a failing :=
    ⟨.runtime (.resourceNameAlreadyInUse "a"), by simp [constructInShm, failing, hname]⟩
  exact ⟨a, hrun, (h.1 failing).mpr (fun hr => absurd hname hr.unused) hfails⟩

/-- A constructor that fails on the first page: the page stays, and the free pointer is
behind the slot. -/
theorem failed_construct_consumes : ¬∀ (sysconf : Except Errno (Option Int64))
    (a₀ a : ShmAllocator) (calls : List ConstructCall), new sysconf = .ok a₀ →
    Run step anyStep a₀ calls a →
    ∀ c, Fails a c → SameMemory a (a.constructInShm c.name c.T c.os).self := by
  intro hall
  have hnew : new (.ok (some 4096)) = .ok ⟨∅, 4096, [], 0⟩ := rfl
  have hsame := hall _ _ _ [] hnew (.nil _) failing ⟨_, rfl⟩
  exact absurd hsame.1 (by decide)

end ShmAllocator
end Garnd
