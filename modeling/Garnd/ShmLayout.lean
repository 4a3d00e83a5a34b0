import Garnd.ShmAllocator
import Garnd.Lib.PageLayout
import Garnd.Lib.Transition

/- Where `construct_in_shm` puts things. The allocator is an instance of the
   append-only page layout (`layout`); `construct_spec` says once what a call can
   do, and the layout invariant, the freshness of the slot a placement
   constructor is handed and the alignment of addresses follow from it. The
   bounds are tight on 64 bits: rounding up reaches `2^63` at most, because the
   alignment is a power of two, so adding a size below `2^63` does not wrap. -/
namespace Garnd
open PageLayout (alignUp alignUp_le alignUp_zero le_alignUp dvd_alignUp Entry Sound)
open Transition

/-- A resource as an entry of the page layout. -/
def ResourceMetadata.entry (r : ResourceMetadata) : Entry :=
  ⟨r.page, r.offset, r.destructor.size, r.destructor.align⟩

theorem ShmType.align_pos (T : ShmType) : 0 < T.align := by
  obtain ⟨k, hk⟩ := T.align_pow
  rw [hk]
  exact Nat.pow_pos (by decide)

/-- A power of two divides every power of two that is not smaller. -/
theorem ShmType.align_dvd (T : ShmType) {m : ℕ} (h : T.align ≤ 2 ^ m) : T.align ∣ 2 ^ m := by
  obtain ⟨k, hk⟩ := T.align_pow
  rw [hk] at h ⊢
  exact pow_dvd_pow 2 ((Nat.pow_le_pow_iff_right (by decide)).mp h)

namespace ShmAllocator

/-- The entry a slot becomes when a `T` is constructed in it. -/
def Slot.entry (s : Slot) (T : ShmType) : Entry := ⟨s.page, s.offset, s.size, T.align⟩

def layout (a : ShmAllocator) : PageLayout.State String :=
  { pageSize := a.pageSize
    pages := a.pages.length
    top := a.freePtr
    entry := fun n => (a.resources.lookup n).map ResourceMetadata.entry }

theorem layout_entry {a : ShmAllocator} {n : String} {r : ResourceMetadata}
    (h : a.resources.lookup n = some r) : a.layout.entry n = some r.entry := by
  simp [layout, h]

/-- What every reachable allocator satisfies. -/
structure Inv (a : ShmAllocator) : Prop where
  size_pos : 0 < a.pageSize
  size_lt : a.pageSize < 2 ^ 63
  sound : Sound a.layout
  typed : ∀ n r, a.resources.lookup n = some r →
    r.typeId = r.destructor.uuid ∧ r.destructor.align ≤ a.pageSize

theorem Inv.freePtr_le {a : ShmAllocator} (h : Inv a) : a.freePtr ≤ a.pageSize := h.sound.top_le

theorem new_inv {sysconf : Except Errno (Option Int64)} {a : ShmAllocator}
    (h : new sysconf = .ok a) : Inv a := by
  unfold new at h
  split at h
  · cases h
  · rename_i res
    split at h
    · cases h
    · split at h
      · cases h
      · cases h
        have hlt : res.toInt < 2 ^ 63 := res.toInt_lt
        refine ⟨?_, ?_, PageLayout.sound_empty _, by simp⟩ <;> simp only <;> omega
  · cases h

theorem new_empty {sysconf : Except Errno (Option Int64)} {a : ShmAllocator}
    (h : new sysconf = .ok a) : a.pages = [] ∧ a.resources = ∅ := by
  unfold new at h
  split at h
  · cases h
  · split at h
    · cases h
    · split at h
      · cases h
      · cases h
        exact ⟨rfl, rfl⟩
  · cases h

/-! ## The free pointer -/

theorem Inv.alignUp_le {a : ShmAllocator} (h : Inv a) {T : ShmType} (hal : T.align ≤ a.pageSize) :
    alignUp a.freePtr T.align ≤ 2 ^ 63 := by
  have hlt := h.size_lt
  have hfree := h.freePtr_le
  exact PageLayout.alignUp_le (by omega) (T.align_dvd (by omega))

/-- No addition in `get_aligned_free_pointer` wraps, so it is the rounding up and
the bound check on natural numbers. -/
theorem Inv.getAlignedFreePointer_eq {a : ShmAllocator} (h : Inv a) {T : ShmType}
    (hsize : T.size ≤ a.pageSize) (hal : T.align ≤ a.pageSize) :
    a.getAlignedFreePointer T.size T.align =
      if alignUp a.freePtr T.align + T.size ≤ a.pageSize then some (alignUp a.freePtr T.align)
      else none := by
  have hlt := h.size_lt
  have hup := h.alignUp_le hal
  have hround : (if a.freePtr % T.align = 0 then a.freePtr
      else usizeAdd a.freePtr (T.align - a.freePtr % T.align)) = alignUp a.freePtr T.align := by
    unfold alignUp at hup ⊢
    split
    · rfl
    · rename_i hp
      rw [if_neg hp] at hup
      exact Nat.mod_eq_of_lt (by omega)
  have hadd : usizeAdd (alignUp a.freePtr T.align) T.size = alignUp a.freePtr T.align + T.size :=
    Nat.mod_eq_of_lt (by omega)
  simp only [getAlignedFreePointer, hround, hadd]
  split <;> split <;> first | rfl | omega

/-! ## What one call can do -/

theorem createNewPage_ok {a b : ShmAllocator} {os : PageCalls} (h : a.createNewPage os = .ok b) :
    ∃ fd mem, os.memfdCreate = .ok fd ∧ os.mmap = .ok mem ∧
      b = { a with freePtr := 0, pages := a.pages ++ [⟨fd, mem⟩] } := by
  unfold createNewPage at h
  split at h
  · cases h
  · rename_i fd hfd
    split at h
    · cases h
    · split at h
      · cases h
      · split at h
        · cases h
        · split at h
          · cases h
          · rename_i mem hmem
            cases h
            exact ⟨fd, mem, hfd, hmem, rfl⟩

/-- `b` is `a`, or `a` with one page added by the calls `os` names. -/
inductive Grown (os : ConstructCalls) (a : ShmAllocator) : ShmAllocator → Prop
  | same : Grown os a a
  | page {b : ShmAllocator} (calls : PageCalls) :
      calls = os.firstPage ∨ calls = os.retryPage → a.createNewPage calls = .ok b → Grown os a b

/-- The layout of the grown allocator is the same layout or one page more. -/
theorem Grown.layout_eq {os : ConstructCalls} {a b : ShmAllocator} (h : Grown os a b) :
    b.resources = a.resources ∧ b.pageSize = a.pageSize ∧
      (b = a ∨ b.layout = PageLayout.addPage a.layout) := by
  cases h with
  | same => exact ⟨rfl, rfl, .inl rfl⟩
  | page calls _ hc =>
    obtain ⟨fd, mem, -, -, rfl⟩ := createNewPage_ok hc
    exact ⟨rfl, rfl, .inr (by simp [layout, PageLayout.addPage])⟩

theorem Grown.inv {os : ConstructCalls} {a b : ShmAllocator} (hg : Grown os a b) (h : Inv a) :
    Inv b := by
  obtain ⟨hres, hsize, rfl | hl⟩ := hg.layout_eq
  · exact h
  · refine ⟨hsize ▸ h.size_pos, hsize ▸ h.size_lt, hl ▸ h.sound.addPage, ?_⟩
    rw [hres, hsize]
    exact h.typed

/-- A slot for `T` was handed out on the last page of `b`, at the aligned free
pointer, and the constructor's answer decided the rest. -/
structure Placed (b : ShmAllocator) (name : String) (T : ShmType) (ctor : Except DetailedError Unit)
    (r : Constructed) (slot : Slot) : Prop where
  page : slot.page + 1 = b.pages.length
  offset : slot.offset = alignUp b.freePtr T.align
  size : slot.size = T.size
  fits : slot.offset + T.size ≤ b.pageSize
  align_le : T.align ≤ b.pageSize
  slot_eq : r.slot = some slot
  outcome :
    (∃ e, ctor = .error e ∧ r.result = .err e ∧
      r.self = { b with freePtr := slot.offset + T.size }) ∨
    (∃ last, ctor = .ok () ∧ b.pages[slot.page]? = some last ∧
      r.result = .ok ⟨slot.page, slot.offset, last.fd⟩ ∧
      r.self = { b with
        freePtr := slot.offset + T.size
        resources := b.resources.insert name ⟨T.uuid, slot.page, slot.offset, T⟩ })

theorem placeAt_spec {b : ShmAllocator} (h : Inv b) (name : String) {T : ShmType}
    (ctor : Except DetailedError Unit) {last : Page} (hlast : b.pages.getLast? = some last)
    (hfit : alignUp b.freePtr T.align + T.size ≤ b.pageSize) (hal : T.align ≤ b.pageSize) :
    ∃ slot, Placed b name T ctor (b.placeAt name T (alignUp b.freePtr T.align) ctor) slot := by
  have hlt := h.size_lt
  have hadd : usizeAdd (alignUp b.freePtr T.align) T.size = alignUp b.freePtr T.align + T.size :=
    Nat.mod_eq_of_lt (by omega)
  have hne : b.pages ≠ [] := by
    intro he
    simp [he] at hlast
  have hlen : b.pages.length - 1 + 1 = b.pages.length :=
    Nat.succ_pred_eq_of_pos (List.length_pos_iff.mpr hne)
  have hget : b.pages[b.pages.length - 1]? = some last := by rw [← hlast, List.getLast?_eq_getElem?]
  refine ⟨⟨b.pages.length - 1, alignUp b.freePtr T.align, T.size⟩, hlen, rfl, rfl, hfit, hal, ?_, ?_⟩
  · simp only [placeAt, hlast]
    cases ctor <;> rfl
  · cases ctor with
    | error e => exact .inl ⟨e, rfl, by simp [placeAt, hlast], by simp [placeAt, hlast, hadd]⟩
    | ok u =>
      exact .inr ⟨last, rfl, hget, by simp [placeAt, hlast], by simp [placeAt, hlast, hadd]⟩

/-- The call failed before a slot was handed out, with at most a page added. -/
structure Failed (os : ConstructCalls) (a : ShmAllocator) (r : Constructed) : Prop where
  err : ∃ e, r.result = .err e
  slot_eq : r.slot = none
  grown : Grown os a r.self

/-- The call handed out a slot on the last page it saw. -/
def HandedOut (os : ConstructCalls) (a : ShmAllocator) (name : String) (T : ShmType)
    (r : Constructed) : Prop :=
  ∃ b slot, Grown os a b ∧ Placed b name T os.constructor r slot

theorem failed_mk {os : ConstructCalls} {a b : ShmAllocator} {r : Constructed} {e : DetailedError}
    (hr : r = ⟨.err e, none, b⟩) (hg : Grown os a b) : Failed os a r := by
  subst hr
  exact ⟨⟨e, rfl⟩, rfl, hg⟩

theorem allocate_spec {a b : ShmAllocator} (h : Inv a) (name : String) {T : ShmType}
    {os : ConstructCalls} (hg : Grown os a b) (hne : b.pages ≠ []) (hsize : T.size ≤ a.pageSize)
    (hal : T.align ≤ a.pageSize) (hroom : b = a ∨ b.freePtr = 0) :
    Failed os a (b.allocate name T os) ∨ HandedOut os a name T (b.allocate name T os) := by
  have hb := hg.inv h
  obtain ⟨-, hps, -⟩ := hg.layout_eq
  have hfree := hb.getAlignedFreePointer_eq (T := T) (by omega) (by omega)
  obtain ⟨last, hlast⟩ : ∃ last, b.pages.getLast? = some last :=
    Option.isSome_iff_exists.mp (by simpa using hne)
  by_cases hfit : alignUp b.freePtr T.align + T.size ≤ b.pageSize
  · rw [if_pos hfit] at hfree
    obtain ⟨slot, hslot⟩ := placeAt_spec hb name os.constructor hlast hfit
      (by omega)
    exact .inr ⟨b, slot, hg, by simpa only [allocate, hfree] using hslot⟩
  · rw [if_neg hfit] at hfree
    -- a page whose free pointer is 0 has room, so the full page is `a`'s own
    obtain rfl : b = a := by
      rcases hroom with rfl | hz
      · rfl
      · rw [hz, alignUp_zero] at hfit
        omega
    cases hc : b.createNewPage os.retryPage with
    | error e => exact .inl (failed_mk (e := e) (by simp [allocate, hfree, hc]) .same)
    | ok c =>
      have hgc : Grown os b c := .page os.retryPage (.inr rfl) hc
      have hcinv := hgc.inv h
      obtain ⟨fd, mem, -, -, rfl⟩ := createNewPage_ok hc
      have hfree' := hcinv.getAlignedFreePointer_eq (T := T) hsize hal
      have hfit' : alignUp 0 T.align + T.size ≤ b.pageSize := by
        rw [alignUp_zero]
        omega
      rw [if_pos hfit'] at hfree'
      obtain ⟨slot, hslot⟩ := placeAt_spec hcinv name (T := T) os.constructor
        List.getLast?_concat hfit' hal
      exact .inr ⟨_, slot, hgc, by simpa only [allocate, hfree, hc, hfree'] using hslot⟩

/-- Everything one call can do: it fails with at most a page added, or it hands
out a slot for a name that is not in use. It never panics. -/
theorem construct_spec {a : ShmAllocator} (h : Inv a) (name : String) (T : ShmType)
    (os : ConstructCalls) :
    Failed os a (a.constructInShm name T os) ∨
    (name ∉ a.resources ∧ HandedOut os a name T (a.constructInShm name T os)) := by
  by_cases hname : name ∈ a.resources
  · exact .inl (failed_mk (by simp only [constructInShm, hname, if_true]; rfl) .same)
  by_cases hsize : T.size > a.pageSize
  · exact .inl (failed_mk (by simp only [constructInShm, hname, hsize, if_true, if_false]; rfl) .same)
  by_cases hal : T.align > a.pageSize
  · exact .inl (failed_mk
      (by simp only [constructInShm, hname, hsize, hal, if_true, if_false]; rfl) .same)
  by_cases hpages : a.pages = []
  · cases hc : a.createNewPage os.firstPage with
    | error e =>
      exact .inl (failed_mk (e := e) (by simp [constructInShm, hname, hsize, hal, hpages, hc]) .same)
    | ok b =>
      have heq : a.constructInShm name T os = b.allocate name T os := by
        simp [constructInShm, hname, hsize, hal, hpages, hc]
      have hg : Grown os a b := .page os.firstPage (.inl rfl) hc
      obtain ⟨fd, mem, -, -, rfl⟩ := createNewPage_ok hc
      rw [heq]
      exact (allocate_spec h name hg (by simp) (by omega) (by omega) (.inr rfl)).imp_right
        fun hp => ⟨hname, hp⟩
  · have heq : a.constructInShm name T os = a.allocate name T os := by
      simp [constructInShm, hname, hsize, hal, hpages]
    rw [heq]
    exact (allocate_spec h name .same hpages (by omega) (by omega) (.inl rfl)).imp_right
      fun hp => ⟨hname, hp⟩

/-! ## The layout invariant -/

/-- The layout after a slot was handed out: `top` moved, or the entry placed. -/
theorem Placed.inv {b : ShmAllocator} {name : String} {T : ShmType}
    {ctor : Except DetailedError Unit} {r : Constructed} {slot : Slot}
    (hp : Placed b name T ctor r slot) (h : Inv b) : Inv r.self := by
  have htop : b.freePtr ≤ slot.offset := hp.offset ▸ le_alignUp b.freePtr T.align
  rcases hp.outcome with ⟨e, -, -, hself⟩ | ⟨last, -, -, -, hself⟩
  · rw [hself]
    exact ⟨h.size_pos, h.size_lt,
      h.sound.raise (t := slot.offset + T.size) (Nat.le_trans htop (Nat.le_add_right _ _)) hp.fits,
      h.typed⟩
  · have hal : T.align ∣ slot.offset := hp.offset ▸ dvd_alignUp _ T.align_pos
    have hplace := h.sound.place (k := name) (e := ⟨slot.page, slot.offset, T.size, T.align⟩)
      hp.page htop hp.fits hal
    rw [hself]
    refine ⟨h.size_pos, h.size_lt, ?_, ?_⟩
    · convert hplace using 1
      simp only [layout, PageLayout.place, PageLayout.raise, PageLayout.State.mk.injEq, true_and]
      funext n
      by_cases hn : n = name
      · subst hn
        simp [ResourceMetadata.entry]
      · simp [hn, AList.lookup_insert_ne hn]
    · intro n q hq
      by_cases hn : n = name
      · subst hn
        simp only [AList.lookup_insert, Option.some.injEq] at hq
        subst hq
        exact ⟨rfl, hp.align_le⟩
      · rw [AList.lookup_insert_ne hn] at hq
        exact h.typed n q hq

theorem construct_inv {a : ShmAllocator} (h : Inv a) (name : String) (T : ShmType)
    (os : ConstructCalls) : Inv (a.constructInShm name T os).self := by
  rcases construct_spec h name T os with hf | ⟨-, b, slot, hg, hp⟩
  · exact hf.grown.inv h
  · exact hp.inv (hg.inv h)

theorem run_inv {a b : ShmAllocator} {calls : List ConstructCall} {ok : ShmAllocator → ConstructCall → Prop}
    (hr : Run step ok a calls b) (h : Inv a) : Inv b :=
  hr.invariant (I := Inv) (fun s c t _ hs ht => by
    simp only [step, Option.some.injEq] at ht
    exact ht ▸ construct_inv hs c.name c.T c.os) h

/-- A slot that is handed out meets no registered resource's bytes. -/
theorem HandedOut.disjoint {a : ShmAllocator} (h : Inv a) {name : String} {T : ShmType}
    {os : ConstructCalls} {r : Constructed} {slot : Slot} (ho : HandedOut os a name T r)
    (hs : r.slot = some slot) {n : String} {q : ResourceMetadata}
    (hq : a.resources.lookup n = some q) (hpage : q.page = slot.page) :
    Disjoint q.entry.bytes (slot.entry T).bytes := by
  obtain ⟨b, slot', hg, hp⟩ := ho
  obtain rfl : slot' = slot := by simpa [hp.slot_eq] using hs
  obtain ⟨hres, -, -⟩ := hg.layout_eq
  have hq' : b.layout.entry n = some q.entry := layout_entry (hres ▸ hq)
  have htop : b.freePtr ≤ slot'.offset := hp.offset ▸ le_alignUp b.freePtr T.align
  exact (hg.inv h).sound.fresh_disjoint (f := slot'.entry T) hp.page htop hq' hpage

/-! ## Addresses -/

/-- The pages `mmap` hands out during the call start at multiples of `m`. -/
def ConstructCall.BasesAligned (m : ℕ) (c : ConstructCall) : Prop :=
  ∀ mem, c.os.firstPage.mmap = .ok mem ∨ c.os.retryPage.mmap = .ok mem → m ∣ mem

/-- Every page starts at a multiple of the page size. -/
def PagesAligned (a : ShmAllocator) : Prop := ∀ p ∈ a.pages, a.pageSize ∣ p.mem

theorem Grown.pagesAligned {a b : ShmAllocator} {c : ConstructCall} (hg : Grown c.os a b)
    (hc : c.BasesAligned a.pageSize) (h : PagesAligned a) : PagesAligned b := by
  cases hg with
  | same => exact h
  | page calls hcalls hnew =>
    obtain ⟨fd, mem, -, hmem, rfl⟩ := createNewPage_ok hnew
    intro p hp
    rcases List.mem_append.mp hp with hp | hp
    · exact h p hp
    · obtain rfl := List.mem_singleton.mp hp
      rcases hcalls with rfl | rfl
      · exact hc mem (.inl hmem)
      · exact hc mem (.inr hmem)

theorem Placed.pages_eq {b : ShmAllocator} {name : String} {T : ShmType}
    {ctor : Except DetailedError Unit} {r : Constructed} {slot : Slot}
    (hp : Placed b name T ctor r slot) :
    r.self.pages = b.pages ∧ r.self.pageSize = b.pageSize := by
  rcases hp.outcome with ⟨e, -, -, hself⟩ | ⟨last, -, -, -, hself⟩ <;> rw [hself] <;> exact ⟨rfl, rfl⟩

theorem construct_pagesAligned {a : ShmAllocator} (hi : Inv a) (c : ConstructCall)
    (hc : c.BasesAligned a.pageSize) (h : PagesAligned a) :
    PagesAligned (a.constructInShm c.name c.T c.os).self ∧
      (a.constructInShm c.name c.T c.os).self.pageSize = a.pageSize := by
  rcases construct_spec hi c.name c.T c.os with hf | ⟨-, b, slot, hg, hp⟩
  · exact ⟨hf.grown.pagesAligned hc h, hf.grown.layout_eq.2.1⟩
  · obtain ⟨hpages, hsize⟩ := hp.pages_eq
    refine ⟨?_, hsize.trans hg.layout_eq.2.1⟩
    unfold PagesAligned
    rw [hpages, hsize]
    exact hg.pagesAligned hc h

theorem run_pagesAligned {a b : ShmAllocator} {calls : List ConstructCall}
    (hr : Run step anyStep a calls b) (hi : Inv a) (h : PagesAligned a)
    (hc : ∀ c ∈ calls, c.BasesAligned b.pageSize) : PagesAligned b := by
  have hsize : b.pageSize = a.pageSize := by
    refine (hr.invariant (I := fun t => Inv t ∧ t.pageSize = a.pageSize) ?_ ⟨hi, rfl⟩).2
    intro s c t _ hs ht
    simp only [step, Option.some.injEq] at ht
    subst ht
    refine ⟨construct_inv hs.1 c.name c.T c.os, ?_⟩
    rcases construct_spec hs.1 c.name c.T c.os with hf | ⟨-, d, slot, hg, hp⟩
    · exact hf.grown.layout_eq.2.1.trans hs.2
    · exact hp.pages_eq.2.trans (hg.layout_eq.2.1.trans hs.2)
  rw [hsize] at hc
  clear hsize
  induction hr with
  | nil _ => exact h
  | @cons s t u c cs _ ht _ ih =>
    simp only [step, Option.some.injEq] at ht
    obtain ⟨hp, hps⟩ := construct_pagesAligned hi c (hc c List.mem_cons_self) h
    subst ht
    exact ih (construct_inv hi c.name c.T c.os) hp
      (fun d hd => hps ▸ hc d (List.mem_cons_of_mem c hd))

/-- The slot handed out by a call: on the last page at the aligned free pointer
(the page the call found, or the one it added), clear of everything registered
before, and the place the returned location and the new entry name. -/
structure SlotSound (a : ShmAllocator) (name : String) (T : ShmType) (r : Constructed)
    (slot : Slot) : Prop where
  last : slot.page + 1 = r.self.pages.length
  offset : slot.page + 1 = a.pages.length ∧ slot.offset = alignUp a.freePtr T.align ∨
    slot.page = a.pages.length ∧ slot.offset = 0
  size : slot.size = T.size
  fits : slot.offset + T.size ≤ a.pageSize
  disjoint : ∀ n q, a.resources.lookup n = some q → q.page = slot.page →
    Disjoint q.entry.bytes (slot.entry T).bytes
  returned : ∀ loc, r.result = .ok loc → loc.page = slot.page ∧ loc.offset = slot.offset ∧
    r.self.resources.lookup name = some ⟨T.uuid, slot.page, slot.offset, T⟩

theorem construct_slotSound {a : ShmAllocator} (h : Inv a) {name : String} {T : ShmType}
    {os : ConstructCalls} {slot : Slot} (hs : (a.constructInShm name T os).slot = some slot) :
    SlotSound a name T (a.constructInShm name T os) slot := by
  rcases construct_spec h name T os with hf | ⟨-, ho⟩
  · rw [hf.slot_eq] at hs
    cases hs
  have hdisj := fun n q hq hp => ho.disjoint h hs (n := n) (q := q) hq hp
  obtain ⟨b, slot', hg, hp⟩ := ho
  obtain rfl : slot' = slot := by simpa [hp.slot_eq] using hs
  obtain ⟨-, hps, -⟩ := hg.layout_eq
  refine ⟨hp.pages_eq.1 ▸ hp.page, ?_, hp.size, hps ▸ hp.fits, hdisj, ?_⟩
  · cases hg with
    | same => exact .inl ⟨hp.page, hp.offset⟩
    | page calls _ hnew =>
      obtain ⟨fd, mem, -, -, rfl⟩ := createNewPage_ok hnew
      refine .inr ⟨?_, hp.offset.trans (alignUp_zero _)⟩
      simpa using hp.page
  · intro loc hloc
    rcases hp.outcome with ⟨e, -, he, -⟩ | ⟨last, -, -, hok, hself⟩
    · rw [he] at hloc
      cases hloc
    · rw [hok] at hloc
      cases hloc
      exact ⟨rfl, rfl, by rw [hself]; simp⟩

/-- **The allocator's layout.** In every state reached from `new` by any calls with
any outcomes: every registered resource lies on an existing page, at a multiple
of its type's alignment and inside the page; distinct resources on one page
occupy disjoint bytes; and every slot a placement constructor is handed is
`SlotSound`. If the page size is a power of two and `mmap` returns multiples of
it, every resource's address is aligned for its type. -/
theorem layout_sound {sysconf : Except Errno (Option Int64)} {a₀ a : ShmAllocator}
    {calls : List ConstructCall} (hnew : new sysconf = .ok a₀)
    (hrun : Run step anyStep a₀ calls a) :
    (∀ n r, a.resources.lookup n = some r →
      r.page < a.pages.length ∧ r.destructor.align ∣ r.offset ∧
        r.offset + r.destructor.size ≤ a.pageSize) ∧
    (∀ n m r q, a.resources.lookup n = some r → a.resources.lookup m = some q → n ≠ m →
      r.page = q.page → Disjoint r.entry.bytes q.entry.bytes) ∧
    (∀ name T os slot, (a.constructInShm name T os).slot = some slot →
      SlotSound a name T (a.constructInShm name T os) slot) ∧
    ((∃ k, a.pageSize = 2 ^ k) → (∀ c ∈ calls, c.BasesAligned a.pageSize) →
      ∀ n r page, a.resources.lookup n = some r → a.pages[r.page]? = some page →
        r.destructor.align ∣ page.mem + r.offset) := by
  have h₀ := new_inv hnew
  have h := run_inv hrun h₀
  refine ⟨?_, ?_, fun name T os slot hs => construct_slotSound h hs, ?_⟩
  · intro n r hr
    have he := layout_entry hr
    exact ⟨h.sound.page_lt n _ he, h.sound.aligned n _ he, h.sound.fits n _ he⟩
  · intro n m r q hr hq hne hpage
    exact h.sound.disjoint n m _ _ (layout_entry hr) (layout_entry hq) hne hpage
  · rintro ⟨k, hk⟩ hbases n r page hr hpage
    have hpages₀ : PagesAligned a₀ := by
      simp [PagesAligned, (new_empty hnew).1]
    have hmem := run_pagesAligned hrun h₀ hpages₀ hbases page (List.mem_of_getElem? hpage)
    have hle : r.destructor.align ≤ 2 ^ k := hk ▸ (h.typed n r hr).2
    have hdvd : r.destructor.align ∣ a.pageSize := hk ▸ r.destructor.align_dvd hle
    exact Nat.dvd_add (hdvd.trans hmem) (h.sound.aligned n _ (layout_entry hr))

/-- Two mutexes on one page at address 8192. -/
def twoCalls : List ConstructCall :=
  let page : PageCalls := ⟨.ok 7, .ok (), .ok (), .ok 8192⟩
  [⟨"a", .pthreadMutex, page, page, .ok ()⟩, ⟨"b", .pthreadMutex, page, page, .ok ()⟩]

theorem layout_sound_two :
    Disjoint (Entry.bytes ⟨0, 0, 40, 8⟩) (Entry.bytes ⟨0, 40, 40, 8⟩) ∧ 40 + 40 ≤ 4096 ∧
      8 ∣ 8192 + 40 := by
  obtain ⟨a, hrun, hsize, hpages, ha, hb⟩ : ∃ a : ShmAllocator,
      exec step (fun _ _ => true) ⟨∅, 4096, [], 0⟩ twoCalls = some a ∧ a.pageSize = 4096 ∧
      a.pages = [⟨7, 8192⟩] ∧ a.resources.lookup "a" = some ⟨1, 0, 0, .pthreadMutex⟩ ∧
      a.resources.lookup "b" = some ⟨1, 0, 40, .pthreadMutex⟩ := ⟨_, rfl, rfl, rfl, rfl, rfl⟩
  have hnew : new (.ok (some 4096)) = .ok ⟨∅, 4096, [], 0⟩ := rfl
  have h := layout_sound hnew (.of_exec (fun _ _ _ => trivial) hrun)
  refine ⟨h.2.1 "a" "b" _ _ ha hb (by decide) rfl, hsize ▸ (h.1 "b" _ hb).2.2,
    h.2.2.2 ⟨12, by rw [hsize]; rfl⟩ ?_ "b" _ ⟨7, 8192⟩ hb (by rw [hpages]; rfl)⟩
  intro c hc mem hmem
  rw [hsize]
  simp only [twoCalls, List.mem_cons, List.not_mem_nil, or_false] at hc
  rcases hc with rfl | rfl <;> rcases hmem with h | h <;> cases h <;> decide

end ShmAllocator
end Garnd
