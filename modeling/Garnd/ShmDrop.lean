import Garnd.ShmLayout

/- `Drop for ShmAllocator`. What the outside decides is an argument: the order in
   which the map is drained, which destructors panic and with what payload, what
   `munmap` returns, and whether the thread is already panicking. `drop` records what
   it does; the record is the drained resources' destructors and then the pages'
   `munmap`s (`Inv.drop_trace`), and the drained resources are those of the successful
   constructs (`run_registered`). -/
namespace Garnd
open Transition

namespace ShmAllocator

/-- What is written to the standard error while destructing. -/
inductive DropReport where
  | unmappingFailed (e : Errno)
  | panickedWhileDestructing
  deriving DecidableEq, Repr

/-- What `drop` does, in order. -/
inductive DropOp where
  | destruct (ptr : ℕ) (T : ShmType)
  | munmap (mem len : ℕ)
  | report (r : DropReport)

/-- A drained entry. -/
abbrev Drained := Sigma fun _ : String => ResourceMetadata

/-- What the outside decides during one `drop`. A destructor that panics has a payload. -/
structure DropCalls (Payload : Type) where
  drained : List Drained
  destructor : String → Option Payload
  outOfBounds : Payload
  munmap : Page → Except Errno Unit
  panicking : Bool

/-- What was done, and the payload `resume_unwind` is called with. -/
structure Dropped (Payload : Type) where
  trace : List DropOp
  resumed : Option Payload

variable {Payload : Type}

/-- One round of the drain: the destructor runs under `catch_unwind`, and so does the
indexing of the page vector before it. -/
def dropResource (self : ShmAllocator) (os : DropCalls Payload)
    (acc : List DropOp × Option Payload) (e : Drained) : List DropOp × Option Payload :=
  match self.pages[e.2.page]? with
  | none => (acc.1, acc.2.or (some os.outOfBounds))
  | some page =>
    let trace := acc.1 ++ [.destruct (page.mem + e.2.offset) e.2.destructor]
    match os.destructor e.1 with
    | none => (trace, acc.2)
    | some payload => (trace, acc.2.or (some payload))

/-- One round of the loop over the pages. -/
def unmapPage (self : ShmAllocator) (os : DropCalls Payload) (trace : List DropOp) (page : Page) :
    List DropOp :=
  match os.munmap page with
  | .ok () => trace ++ [.munmap page.mem self.pageSize]
  | .error e => trace ++ [.munmap page.mem self.pageSize, .report (.unmappingFailed e)]

/-- `drop`. -/
def drop (self : ShmAllocator) (os : DropCalls Payload) : Dropped Payload :=
  let acc := os.drained.foldl (self.dropResource os) ([], none)
  let trace := self.pages.foldl (self.unmapPage os) acc.1
  match acc.2 with
  | none => ⟨trace, none⟩
  | some firstPanic =>
    if os.panicking then ⟨trace ++ [.report .panickedWhileDestructing], none⟩
    else ⟨trace, some firstPanic⟩

/-! ## What a destructor is called with -/

/-- The destructor calls of a record. -/
def DropOp.destructed : DropOp → Option (ℕ × ShmType)
  | .destruct ptr T => some (ptr, T)
  | _ => none

/-- The `munmap` calls of a record. -/
def DropOp.unmapped : DropOp → Option (ℕ × ℕ)
  | .munmap mem len => some (mem, len)
  | _ => none

/-- Where a resource was placed, as what it is. -/
structure Resource where
  page : ℕ
  offset : ℕ
  T : ShmType

def Resource.ofEntry (e : Drained) : Resource := ⟨e.2.page, e.2.offset, e.2.destructor⟩

/-- The constructs that succeeded in a list of calls, with what they returned. -/
def succeeded : ShmAllocator → List ConstructCall → List Resource
  | _, [] => []
  | a, c :: cs =>
    let r := a.constructInShm c.name c.T c.os
    match r.result with
    | .ok location => ⟨location.page, location.offset, c.T⟩ :: succeeded r.self cs
    | _ => succeeded r.self cs

/-- The resource's page's base plus its offset, and its type. -/
def handle (a : ShmAllocator) (r : Resource) : Option (ℕ × ShmType) :=
  (a.pages[r.page]?).map fun page => (page.mem + r.offset, r.T)

/-! ## The registered resources are the constructed ones -/

variable {a b : ShmAllocator}

/-- A call enters what it constructed, and nothing where it fails. -/
theorem construct_registered (h : Inv a) (c : ConstructCall) :
    (∃ location, (a.constructInShm c.name c.T c.os).result = .ok location ∧
      (a.constructInShm c.name c.T c.os).self.resources.entries.map Resource.ofEntry =
        ⟨location.page, location.offset, c.T⟩ :: a.resources.entries.map Resource.ofEntry) ∨
    (∃ e, (a.constructInShm c.name c.T c.os).result = .err e ∧
      (a.constructInShm c.name c.T c.os).self.resources = a.resources) := by
  rcases construct_spec h c.name c.T c.os with hf | ⟨hname, b, slot, hg, hp⟩
  · obtain ⟨e, he⟩ := hf.err
    exact .inr ⟨e, he, hf.grown.layout_eq.1⟩
  · obtain ⟨hres, -, -⟩ := hg.layout_eq
    rcases hp.outcome with ⟨e, -, he, hself⟩ | ⟨last, -, -, hok, hself⟩
    · refine .inr ⟨e, he, ?_⟩
      rw [hself]
      exact hres
    · refine .inl ⟨_, hok, ?_⟩
      rw [← hres] at hname ⊢
      rw [hself]
      simp only [AList.entries_insert_of_notMem hname, List.map_cons]
      rfl

theorem run_registered {calls : List ConstructCall} (h : Inv a) (hrun : Run step anyStep a calls b) :
    (b.resources.entries.map Resource.ofEntry).Perm
      (succeeded a calls ++ a.resources.entries.map Resource.ofEntry) := by
  induction hrun with
  | nil a => exact .refl _
  | @cons a t b c cs _ ht _ ih =>
    simp only [step, Option.some.injEq] at ht
    subst ht
    have hnext := ih (construct_inv h c.name c.T c.os)
    rcases construct_registered h c with ⟨location, hok, hres⟩ | ⟨e, he, hres⟩
    · rw [hres] at hnext
      simp only [succeeded, hok]
      exact hnext.trans List.perm_middle
    · rw [hres] at hnext
      simpa only [succeeded, he] using hnext

/-! ## What is done -/

/-- The call of a destructor as what `drop` records. -/
def destructOp (d : ℕ × ShmType) : DropOp := .destruct d.1 d.2

/-- A registered resource lies on a page, so its destructor is called on it. -/
theorem Inv.dropResource_eq {e : Drained} (h : Inv a) (he : e ∈ a.resources.entries)
    (os : DropCalls Payload) : ∃ d, a.handle (.ofEntry e) = some d ∧
      ∀ acc, a.dropResource os acc e = (acc.1 ++ [destructOp d], acc.2.or (os.destructor e.1)) := by
  have hr : a.resources.lookup e.1 = some e.2 := AList.mem_lookup_iff.mpr he
  have hlt : e.2.page < a.pages.length := h.sound.page_lt e.1 _ (layout_entry hr)
  have hpage : a.pages[e.2.page]? = some a.pages[e.2.page] := List.getElem?_eq_getElem hlt
  refine ⟨(a.pages[e.2.page].mem + e.2.offset, e.2.destructor), ?_, fun acc => ?_⟩
  · simp only [handle, Resource.ofEntry, hpage, Option.map_some]
  · simp only [dropResource, hpage]
    cases os.destructor e.1 with
    | none => simp [destructOp]
    | some payload => rfl

/-- The drain calls every destructor in the order it drains, and keeps the first panic. -/
theorem Inv.drain_eq (h : Inv a) (os : DropCalls Payload) (l : List Drained)
    (hl : ∀ e ∈ l, e ∈ a.resources.entries) (acc : List DropOp × Option Payload) :
    ∃ ds : List (ℕ × ShmType), ds.map some = (l.map Resource.ofEntry).map a.handle ∧
      l.foldl (a.dropResource os) acc =
        (acc.1 ++ ds.map destructOp, acc.2.or (l.findSome? fun e => os.destructor e.1)) := by
  induction l generalizing acc with
  | nil => exact ⟨[], rfl, by simp⟩
  | cons e l ih =>
    obtain ⟨d, hd, heq⟩ := h.dropResource_eq (hl e List.mem_cons_self) os
    obtain ⟨ds, hds, hfold⟩ :=
      ih (fun e' he' => hl e' (List.mem_cons_of_mem e he')) (a.dropResource os acc e)
    refine ⟨d :: ds, by simp only [List.map_cons, hd, hds], ?_⟩
    rw [List.foldl_cons, hfold, heq]
    simp only [List.append_assoc, List.singleton_append, List.map_cons, List.findSome?_cons,
      Option.or_assoc]
    cases os.destructor e.1 with
    | none => simp
    | some payload => simp

/-- The loop over the pages unmaps each once and calls no destructor. -/
theorem unmap_eq (os : DropCalls Payload) (l : List Page) (trace : List DropOp) :
    ∃ rest, l.foldl (a.unmapPage os) trace = trace ++ rest ∧ rest.filterMap DropOp.destructed = [] ∧
      rest.filterMap DropOp.unmapped = l.map fun page => (page.mem, a.pageSize) := by
  induction l generalizing trace with
  | nil => exact ⟨[], by simp, rfl, rfl⟩
  | cons page l ih =>
    obtain ⟨rest, hfold, hnone, hall⟩ := ih (a.unmapPage os trace page)
    rw [List.foldl_cons, hfold]
    unfold unmapPage
    cases os.munmap page with
    | ok u =>
      refine ⟨.munmap page.mem a.pageSize :: rest, by simp, ?_, ?_⟩
      · simpa [DropOp.destructed] using hnone
      · simpa [DropOp.unmapped] using hall
    | error e =>
      refine ⟨.munmap page.mem a.pageSize :: .report (.unmappingFailed e) :: rest, by simp, ?_, ?_⟩
      · simpa [DropOp.destructed] using hnone
      · simpa [DropOp.unmapped, List.filterMap_cons] using hall

/-- Everything `drop` does: the destructors in drain order, then the pages. -/
theorem Inv.drop_trace (h : Inv a) {os : DropCalls Payload}
    (hdrained : os.drained.Perm a.resources.entries) :
    ∃ (ds : List (ℕ × ShmType)) (rest : List DropOp),
      (a.drop os).trace = ds.map destructOp ++ rest ∧
      ds.map some = (os.drained.map Resource.ofEntry).map a.handle ∧
      rest.filterMap DropOp.destructed = [] ∧
      rest.filterMap DropOp.unmapped = a.pages.map (fun page => (page.mem, a.pageSize)) ∧
      (a.drop os).resumed =
        if os.panicking then none else os.drained.findSome? fun e => os.destructor e.1 := by
  obtain ⟨ds, hds, hdrain⟩ := h.drain_eq os os.drained (fun e he => hdrained.mem_iff.mp he) ([], none)
  obtain ⟨rest, hpages, hnone, hall⟩ := unmap_eq (a := a) os a.pages (ds.map destructOp)
  simp only [List.nil_append, Option.none_or] at hdrain
  simp only [drop, hdrain, hpages]
  cases os.drained.findSome? fun e => os.destructor e.1 with
  | none => exact ⟨ds, rest, rfl, hds, hnone, hall, by simp⟩
  | some payload =>
    by_cases hp : os.panicking
    · refine ⟨ds, rest ++ [.report .panickedWhileDestructing], ?_, hds, ?_, ?_, ?_⟩
      · simp [hp]
      · simp [hnone, DropOp.destructed]
      · simp [hall, DropOp.unmapped]
      · simp [hp]
    · exact ⟨ds, rest, by simp [hp], hds, hnone, hall, by simp [hp]⟩

/-- **Dropping the allocator.** In every state reached from `new`, whatever order the
resources are drained in, whichever destructors panic and whichever `munmap`s fail: the
destructors that are called are those of the constructs that succeeded, each once, on
its page's base plus its offset and as the type it was constructed with; after them, and
without another destructor, every page is unmapped once; and what is resumed is the
first panic in drain order, unless the thread is panicking. -/
theorem drop_releases {sysconf : Except Errno (Option Int64)} {a₀ : ShmAllocator}
    {calls : List ConstructCall} (hnew : new sysconf = .ok a₀)
    (hrun : Run step anyStep a₀ calls a) {os : DropCalls Payload}
    (hdrained : os.drained.Perm a.resources.entries) :
    ∃ (ds : List (ℕ × ShmType)) (rest : List DropOp),
      (a.drop os).trace = ds.map destructOp ++ rest ∧
      (ds.map some).Perm ((succeeded a₀ calls).map a.handle) ∧
      rest.filterMap DropOp.destructed = [] ∧
      rest.filterMap DropOp.unmapped = a.pages.map (fun page => (page.mem, a.pageSize)) ∧
      (a.drop os).resumed =
        if os.panicking then none else os.drained.findSome? fun e => os.destructor e.1 := by
  have h₀ := new_inv hnew
  obtain ⟨ds, rest, htrace, hds, hnone, hall, hresumed⟩ := (run_inv hrun h₀).drop_trace hdrained
  refine ⟨ds, rest, htrace, ?_, hnone, hall, hresumed⟩
  have hempty : a₀.resources.entries = [] := by rw [(new_empty hnew).2]; rfl
  have hreg := run_registered h₀ hrun
  rw [hempty, List.map_nil, List.append_nil] at hreg
  rw [hds]
  exact ((hdrained.map _).trans hreg).map _

/-- The two mutexes, drained in the order they were constructed; both destructors panic
and the page cannot be unmapped. -/
def panicking : DropCalls ℕ :=
  { drained := [⟨"a", 1, 0, 0, .pthreadMutex⟩, ⟨"b", 1, 0, 40, .pthreadMutex⟩]
    destructor := fun name => if name = "a" then some 1 else some 2
    outOfBounds := 0
    munmap := fun _ => .error 22
    panicking := false }

theorem drop_releases_panicking : ∃ a,
    exec step (fun _ _ => true) ⟨∅, 4096, [], 0⟩ twoCalls = some a ∧
    (a.drop panicking).resumed = some 1 := by
  obtain ⟨a, hrun, hentries⟩ : ∃ a, exec step (fun _ _ => true) ⟨∅, 4096, [], 0⟩ twoCalls = some a ∧
      a.resources.entries = [⟨"b", 1, 0, 40, .pthreadMutex⟩, ⟨"a", 1, 0, 0, .pthreadMutex⟩] := ⟨_, rfl, rfl⟩
  have hnew : new (.ok (some 4096)) = .ok ⟨∅, 4096, [], 0⟩ := rfl
  have hdrained : panicking.drained.Perm a.resources.entries := by
    rw [hentries]
    exact .swap _ _ _
  obtain ⟨ds, rest, -, -, -, -, hresumed⟩ :=
    drop_releases hnew (.of_exec (fun _ _ _ => trivial) hrun) hdrained
  exact ⟨a, hrun, hresumed⟩

end ShmAllocator
end Garnd
