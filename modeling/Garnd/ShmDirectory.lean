import Garnd.ShmLayout
import Garnd.Lib.Directory

/- What the allocator is for: a directory that gives a name its type and its place,
   page, offset and `memfd`. The allocator stores a page's index and rebuilds the
   place from the page vector; `directory` is that reading. A `Session` is any
   sequence of `construct_in_shm` and `find_resource` calls, and what it came back
   with is a run of the append-only directory (`session_refines`). -/
namespace Garnd
open Transition
open Directory (Answer)
open PageLayout (alignUp alignUp_zero)

deriving instance DecidableEq for ShmType

namespace ShmAllocator

/-- The directory the allocator stands for. -/
def directory (a : ShmAllocator) : Directory.State String ShmType ClientResourceLocation :=
  fun name => (a.resources.lookup name).bind fun r =>
    (a.pages[r.page]?).map fun page => ⟨r.destructor, ⟨r.page, r.offset, page.fd⟩⟩

/-- A call of either kind, with what the outside answers to it. -/
inductive Request where
  | construct (c : ConstructCall)
  | find (name : String) (T : ShmType)

def Request.type : Request → ShmType
  | .construct c => c.T
  | .find _ T => T

/-- A result as an answer of the directory; a panic is none. -/
def constructed (name : String) (T : ShmType) :
    Outcome ClientResourceLocation → Option (Answer String ShmType ClientResourceLocation)
  | .ok location => some (.added name T location)
  | .err _ => some (.refused name T)
  | .panic => none

def looked (name : String) (T : ShmType) :
    Outcome (Option ClientResourceLocation) → Option (Answer String ShmType ClientResourceLocation)
  | .ok none => some (.absent name T)
  | .ok (some location) => some (.found name T location)
  | .err (.runtime (.resourceTypeMismatch _ _)) => some (.mismatch name T)
  | _ => none

/-- The allocator and what its calls have come back with. -/
structure Session where
  shm : ShmAllocator
  answers : List (Answer String ShmType ClientResourceLocation)

def Session.step (s : Session) : Request → Option Session
  | .construct c =>
    let r := s.shm.constructInShm c.name c.T c.os
    (constructed c.name c.T r.result).map fun answer => ⟨r.self, s.answers ++ [answer]⟩
  | .find name T =>
    (looked name T (s.shm.findResource name T)).map fun answer => ⟨s.shm, s.answers ++ [answer]⟩

/-- `memfd_create` returns a number that is not open. The pages' numbers are. -/
def Session.FreshFds (s : Session) : Request → Prop
  | .construct c => ∀ fd, c.os.firstPage.memfdCreate = .ok fd ∨ c.os.retryPage.memfdCreate = .ok fd →
      fd ∉ s.shm.pages.map Page.fd
  | .find _ _ => True

/-! ## The directory of an allocator -/

theorem directory_eq_some {a : ShmAllocator} {name : String}
    {e : Directory.Entry ShmType ClientResourceLocation} :
    a.directory name = some e ↔ ∃ r page, a.resources.lookup name = some r ∧
      a.pages[r.page]? = some page ∧ e = ⟨r.destructor, ⟨r.page, r.offset, page.fd⟩⟩ := by
  simp only [directory, Option.bind_eq_some_iff, Option.map_eq_some_iff]
  constructor
  · rintro ⟨r, hr, page, hpage, rfl⟩
    exact ⟨r, page, hr, hpage, rfl⟩
  · rintro ⟨r, page, hr, hpage, rfl⟩
    exact ⟨r, hr, page, hpage, rfl⟩

theorem Inv.page_get {a : ShmAllocator} (h : Inv a) {name : String} {r : ResourceMetadata}
    (hr : a.resources.lookup name = some r) : ∃ page, a.pages[r.page]? = some page :=
  ⟨_, List.getElem?_eq_getElem (h.sound.page_lt name _ (layout_entry hr))⟩

/-- A name is in the directory exactly if it is registered. -/
theorem Inv.directory_eq_none {a : ShmAllocator} (h : Inv a) {name : String} :
    a.directory name = none ↔ name ∉ a.resources := by
  rw [← AList.lookup_eq_none]
  constructor
  · intro hd
    cases hr : a.resources.lookup name with
    | none => rfl
    | some r =>
      obtain ⟨page, hpage⟩ := h.page_get hr
      rw [directory_eq_some.mpr ⟨r, page, hr, hpage, rfl⟩] at hd
      cases hd
  · intro hr
    simp [directory, hr]

theorem new_directory {sysconf : Except Errno (Option Int64)} {a : ShmAllocator}
    (h : new sysconf = .ok a) : a.directory = fun _ => none := by
  funext name
  simp [directory, (new_empty h).2]

/-- Another page moves no entry. -/
theorem Grown.directory_eq {os : ConstructCalls} {a b : ShmAllocator} (hg : Grown os a b)
    (h : Inv a) : b.directory = a.directory := by
  cases hg with
  | same => rfl
  | page calls _ hc =>
    obtain ⟨fd, mem, -, -, rfl⟩ := createNewPage_ok hc
    funext name
    cases hr : a.resources.lookup name with
    | none => simp [directory, hr]
    | some r =>
      have hlt : r.page < a.pages.length := h.sound.page_lt name _ (layout_entry hr)
      simp [directory, hr, List.getElem?_append_left hlt]

/-- What a handed-out slot does to the directory. -/
theorem Placed.directory_eq {b : ShmAllocator} {name : String} {T : ShmType}
    {ctor : Except DetailedError Unit} {r : Constructed} {slot : Slot}
    (hp : Placed b name T ctor r slot) :
    (∃ e, r.result = .err e ∧ r.self.directory = b.directory) ∨
    (∃ location, r.result = .ok location ∧
      r.self.directory = Function.update b.directory name (some ⟨T, location⟩)) := by
  rcases hp.outcome with ⟨e, -, hres, hself⟩ | ⟨last, -, hlast, hres, hself⟩
  · refine .inl ⟨e, hres, ?_⟩
    rw [hself]
    rfl
  · refine .inr ⟨_, hres, ?_⟩
    rw [hself]
    funext n
    by_cases hn : n = name
    · subst hn
      simp [directory, hlast]
    · simp [directory, AList.lookup_insert_ne hn, Function.update_of_ne hn]

/-- Everything `construct_in_shm` does to the directory. -/
theorem construct_directory {a : ShmAllocator} (h : Inv a) (name : String) (T : ShmType)
    (os : ConstructCalls) :
    (∃ e, (a.constructInShm name T os).result = .err e ∧
      (a.constructInShm name T os).self.directory = a.directory) ∨
    (∃ location, (a.constructInShm name T os).result = .ok location ∧ a.directory name = none ∧
      (a.constructInShm name T os).self.directory =
        Function.update a.directory name (some ⟨T, location⟩)) := by
  rcases construct_spec h name T os with hf | ⟨hname, b, slot, hg, hp⟩
  · obtain ⟨e, he⟩ := hf.err
    exact .inl ⟨e, he, hf.grown.directory_eq h⟩
  · have hb := hg.directory_eq h
    rcases hp.directory_eq with ⟨e, he, hd⟩ | ⟨location, hres, hd⟩
    · exact .inl ⟨e, he, hd.trans hb⟩
    · exact .inr ⟨location, hres, h.directory_eq_none.mpr hname, by rw [hd, hb]⟩

/-- The types of the registered resources. -/
def Typed (types : Set ShmType) (a : ShmAllocator) : Prop :=
  ∀ name r, a.resources.lookup name = some r → r.destructor ∈ types

theorem construct_typed {types : Set ShmType} {a : ShmAllocator} (h : Inv a) (ht : Typed types a)
    (name : String) {T : ShmType} (hT : T ∈ types) (os : ConstructCalls) :
    Typed types (a.constructInShm name T os).self := by
  rcases construct_spec h name T os with hf | ⟨-, b, slot, hg, hp⟩
  · unfold Typed
    rw [hf.grown.layout_eq.1]
    exact ht
  · have hb : Typed types b := by
      unfold Typed
      rw [hg.layout_eq.1]
      exact ht
    rcases hp.outcome with ⟨e, -, -, hself⟩ | ⟨last, -, -, -, hself⟩
    · rw [hself]
      exact hb
    · rw [hself]
      intro n r hr
      by_cases hn : n = name
      · subst hn
        simp only [AList.lookup_insert, Option.some.injEq] at hr
        subst hr
        exact hT
      · rw [AList.lookup_insert_ne hn] at hr
        exact hb n r hr

/-- `find_resource` answers as the directory does, and indexes an existing page. -/
theorem find_directory {types : Set ShmType} (hinj : Set.InjOn ShmType.uuid types)
    {a : ShmAllocator} (h : Inv a) (ht : Typed types a) (name : String) (T : ShmType)
    (hT : T ∈ types) : ∃ answer, looked name T (a.findResource name T) = some answer ∧
      Directory.step a.directory answer = some a.directory := by
  unfold findResource
  cases hr : a.resources.lookup name with
  | none =>
    refine ⟨.absent name T, rfl, ?_⟩
    have hd : a.directory name = none := by simp [directory, hr]
    simp only [Directory.step, hd]
  | some r =>
    obtain ⟨page, hpage⟩ := h.page_get hr
    have hd := directory_eq_some.mpr ⟨r, page, hr, hpage, rfl⟩
    -- the stored uuid is the one of the destructor's type
    have huuid := (h.typed name r hr).1
    by_cases htype : r.destructor = T
    · refine ⟨.found name T ⟨r.page, r.offset, page.fd⟩, ?_, ?_⟩
      · have hid : r.typeId = T.uuid := huuid.trans (congrArg ShmType.uuid htype)
        simp only [hid, ne_eq, not_true_eq_false, if_false, hpage, looked]
      · rw [htype] at hd
        simp only [Directory.step, hd, if_true]
    · refine ⟨.mismatch name T, ?_, ?_⟩
      · have hid : r.typeId ≠ T.uuid := by
          intro hid
          exact htype (hinj (ht name r hr) hT (huuid.symm.trans hid))
        simp only [hid, ne_eq, not_false_eq_true, if_true, looked]
      · simp only [Directory.step, hd, htype, if_false]

/-! ## Sessions -/

/-- A session whose allocator is sound and whose answers are a run of the directory. -/
structure Session.Refines (types : Set ShmType) (s : Session) : Prop where
  inv : Inv s.shm
  typed : Typed types s.shm
  run : Run Directory.step anyStep (fun _ => none) s.answers s.shm.directory

/-- A call goes through, and is a step of the directory. -/
theorem Session.Refines.step {types : Set ShmType} (hinj : Set.InjOn ShmType.uuid types)
    {s : Session} (h : s.Refines types) {q : Request} (hq : q.type ∈ types) :
    ∃ t answer, s.step q = some t ∧
      Directory.step s.shm.directory answer = some t.shm.directory ∧ t.Refines types := by
  cases q with
  | construct c =>
    have hinv := construct_inv h.inv c.name c.T c.os
    have htyped := construct_typed h.inv h.typed c.name hq c.os
    rcases construct_directory h.inv c.name c.T c.os with
      ⟨e, hres, hd⟩ | ⟨location, hres, hname, hd⟩
    · have hstep : Directory.step s.shm.directory (.refused c.name c.T) =
          some (s.shm.constructInShm c.name c.T c.os).self.directory := by
        simp only [Directory.step, hd]
      exact ⟨⟨_, s.answers ++ [.refused c.name c.T]⟩, _, by simp [Session.step, hres, constructed],
        hstep, hinv, htyped, h.run.snoc trivial hstep⟩
    · have hstep : Directory.step s.shm.directory (.added c.name c.T location) =
          some (s.shm.constructInShm c.name c.T c.os).self.directory := by
        simp only [Directory.step, hname, hd]
      exact ⟨⟨_, s.answers ++ [.added c.name c.T location]⟩, _,
        by simp [Session.step, hres, constructed], hstep, hinv, htyped, h.run.snoc trivial hstep⟩
  | find name T =>
    obtain ⟨answer, hres, hstep⟩ := find_directory hinj h.inv h.typed name T hq
    exact ⟨⟨s.shm, s.answers ++ [answer]⟩, answer, by simp [Session.step, hres], hstep,
      h.inv, h.typed, h.run.snoc trivial hstep⟩

/-- The condition that a request's type is among `types`. -/
def Session.TypeIn (types : Set ShmType) : Session → Request → Prop := fun _ q => q.type ∈ types

theorem Session.Refines.steps {types : Set ShmType} (hinj : Set.InjOn ShmType.uuid types)
    {s t : Session} (h : s.Refines types) {requests : List Request}
    (hrun : Run Session.step (Session.TypeIn types) s requests t) :
    t.Refines types ∧ Directory.Extends s.shm.directory t.shm.directory := by
  refine hrun.invariant
    (I := fun t => t.Refines types ∧ Directory.Extends s.shm.directory t.shm.directory) ?_
    ⟨h, fun _ _ hk => hk⟩
  rintro u q t hq ⟨hu, hext⟩ hs
  obtain ⟨t', answer, ht', hstep, href⟩ := hu.step hinj hq
  obtain rfl : t' = t := Option.some.inj (ht'.symm.trans hs)
  exact ⟨href, fun k e hk => Directory.step_extends hstep k e (hext k e hk)⟩

/-! ## Retries -/

/-- Everything the outside is asked for is granted. -/
structure ConstructCalls.Granted (os : ConstructCalls) : Prop where
  constructor : os.constructor = .ok ()
  pages : ∀ calls, calls = os.firstPage ∨ calls = os.retryPage →
    (∃ fd, calls.memfdCreate = .ok fd) ∧ calls.ftruncate = .ok () ∧ calls.addSeals = .ok () ∧
      ∃ mem, calls.mmap = .ok mem

theorem createNewPage_granted {a : ShmAllocator} (h : Inv a) {os : ConstructCalls}
    (hos : os.Granted) {calls : PageCalls} (hcalls : calls = os.firstPage ∨ calls = os.retryPage) :
    ∃ b, a.createNewPage calls = .ok b := by
  obtain ⟨⟨fd, hfd⟩, hft, hseal, mem, hmem⟩ := hos.pages calls hcalls
  have hlt : ¬ 2 ^ 63 ≤ a.pageSize := not_le.mpr h.size_lt
  refine ⟨{ a with freePtr := 0, pages := a.pages ++ [⟨fd, mem⟩] }, ?_⟩
  unfold createNewPage
  simp only [hfd, hlt, if_false, hft, hseal, hmem]

theorem Placed.granted {b : ShmAllocator} {name : String} {T : ShmType}
    {ctor : Except DetailedError Unit} {r : Constructed} {slot : Slot}
    (hp : Placed b name T ctor r slot) (hctor : ctor = .ok ()) :
    ∃ location, r.result = .ok location := by
  rcases hp.outcome with ⟨e, he, -, -⟩ | ⟨last, -, -, hres, -⟩
  · rw [hctor] at he
    cases he
  · exact ⟨_, hres⟩

theorem allocate_granted {a : ShmAllocator} (h : Inv a) (name : String) {T : ShmType}
    {os : ConstructCalls} (hos : os.Granted) (hne : a.pages ≠ []) (hsize : T.size ≤ a.pageSize)
    (hal : T.align ≤ a.pageSize) : ∃ location, (a.allocate name T os).result = .ok location := by
  have hfree := h.getAlignedFreePointer_eq hsize hal
  by_cases hfit : alignUp a.freePtr T.align + T.size ≤ a.pageSize
  · rw [if_pos hfit] at hfree
    obtain ⟨last, hlast⟩ : ∃ last, a.pages.getLast? = some last :=
      Option.isSome_iff_exists.mp (by simpa using hne)
    obtain ⟨slot, hp⟩ := placeAt_spec h name os.constructor hlast hfit hal
    simp only [allocate, hfree]
    exact hp.granted hos.constructor
  · rw [if_neg hfit] at hfree
    obtain ⟨b, hb⟩ := createNewPage_granted h hos (.inr rfl)
    have hgrown : Grown os a b := .page os.retryPage (.inr rfl) hb
    have hbinv : Inv b := hgrown.inv h
    obtain ⟨fd, mem, -, -, rfl⟩ := createNewPage_ok hb
    have hfree' := hbinv.getAlignedFreePointer_eq (T := T) hsize hal
    have hfit' : alignUp 0 T.align + T.size ≤ a.pageSize := by
      rw [alignUp_zero]
      omega
    rw [if_pos hfit'] at hfree'
    obtain ⟨slot, hp⟩ := placeAt_spec hbinv name (T := T) os.constructor List.getLast?_concat hfit' hal
    simp only [allocate, hfree, hb, hfree']
    exact hp.granted hos.constructor

/-- Where everything is granted, a name that is free and a type that fits on a page
are not refused. -/
theorem construct_granted {a : ShmAllocator} (h : Inv a) {name : String} {T : ShmType}
    {os : ConstructCalls} (hos : os.Granted) (hname : a.directory name = none)
    (hsize : T.size ≤ a.pageSize) (hal : T.align ≤ a.pageSize) :
    ∃ location, (a.constructInShm name T os).result = .ok location := by
  have hname' : name ∉ a.resources := h.directory_eq_none.mp hname
  by_cases hpages : a.pages = []
  · obtain ⟨b, hb⟩ := createNewPage_granted h hos (.inl rfl)
    have hgrown : Grown os a b := .page os.firstPage (.inl rfl) hb
    have hbinv : Inv b := hgrown.inv h
    obtain ⟨fd, mem, -, -, rfl⟩ := createNewPage_ok hb
    have hallocate := allocate_granted hbinv name hos (by simp) hsize hal
    simpa [constructInShm, hname', not_lt.mpr hsize, not_lt.mpr hal, hpages, hb] using hallocate
  · have hallocate := allocate_granted h name hos hpages hsize hal
    simpa [constructInShm, hname', not_lt.mpr hsize, not_lt.mpr hal, hpages] using hallocate

/-! ## Page indices and `memfd`s -/

theorem construct_fds {a : ShmAllocator} (h : Inv a) {c : ConstructCall}
    (hfresh : ∀ fd, c.os.firstPage.memfdCreate = .ok fd ∨ c.os.retryPage.memfdCreate = .ok fd →
      fd ∉ a.pages.map Page.fd) (hnodup : (a.pages.map Page.fd).Nodup) :
    ((a.constructInShm c.name c.T c.os).self.pages.map Page.fd).Nodup := by
  have hgrown : ∀ b, Grown c.os a b → (b.pages.map Page.fd).Nodup := by
    intro b hg
    cases hg with
    | same => exact hnodup
    | page calls hcalls hnew =>
      obtain ⟨fd, mem, hfd, -, rfl⟩ := createNewPage_ok hnew
      rw [List.map_append, List.map_singleton, ← List.concat_eq_append]
      refine List.Nodup.concat ?_ hnodup
      rcases hcalls with rfl | rfl
      · exact hfresh fd (.inl hfd)
      · exact hfresh fd (.inr hfd)
  rcases construct_spec h c.name c.T c.os with hf | ⟨-, b, slot, hg, hp⟩
  · exact hgrown _ hf.grown
  · rw [hp.pages_eq.1]
    exact hgrown b hg

/-- As long as `memfd_create` returns numbers that are not open, the pages have
distinct numbers. -/
theorem session_fds {types : Set ShmType} (hinj : Set.InjOn ShmType.uuid types) {s t : Session}
    (h : s.Refines types) (hnodup : (s.shm.pages.map Page.fd).Nodup) {requests : List Request}
    (hrun : Run Session.step (fun s q => Session.TypeIn types s q ∧ s.FreshFds q) s requests t) :
    (t.shm.pages.map Page.fd).Nodup := by
  refine (hrun.invariant (I := fun t => t.Refines types ∧ (t.shm.pages.map Page.fd).Nodup) ?_
    ⟨h, hnodup⟩).2
  rintro u q v ⟨hq, hfresh⟩ ⟨hu, hn⟩ hs
  obtain ⟨v', answer, hv', -, href⟩ := hu.step hinj hq
  obtain rfl : v' = v := Option.some.inj (hv'.symm.trans hs)
  refine ⟨href, ?_⟩
  cases q with
  | construct c =>
    obtain ⟨answer, -, rfl⟩ := Option.map_eq_some_iff.mp hs
    exact construct_fds hu.inv hfresh hn
  | find name T =>
    obtain ⟨answer, -, rfl⟩ := Option.map_eq_some_iff.mp hs
    exact hn

/-- On pages with distinct numbers, a page index and a `memfd` say the same. -/
theorem directory_coherent {a : ShmAllocator} (h : (a.pages.map Page.fd).Nodup)
    {n m : String} {e f : Directory.Entry ShmType ClientResourceLocation}
    (he : a.directory n = some e) (hf : a.directory m = some f) :
    e.place.page = f.place.page ↔ e.place.fd = f.place.fd := by
  obtain ⟨r, page, -, hpage, rfl⟩ := directory_eq_some.mp he
  obtain ⟨q, page', -, hpage', rfl⟩ := directory_eq_some.mp hf
  simp only
  constructor
  · intro heq
    rw [heq, hpage'] at hpage
    rw [Option.some.inj hpage]
  · intro heq
    obtain ⟨hlt, hget⟩ := List.getElem?_eq_some_iff.mp hpage
    obtain ⟨hlt', hget'⟩ := List.getElem?_eq_some_iff.mp hpage'
    have hinj := h.get_inj_iff (i := ⟨_, by simpa using hlt⟩) (j := ⟨_, by simpa using hlt'⟩)
    simpa [hget, hget', heq] using hinj

theorem new_refines {sysconf : Except Errno (Option Int64)} {a : ShmAllocator}
    (h : new sysconf = .ok a) (types : Set ShmType) :
    Session.Refines types ⟨a, []⟩ := by
  have hdir := new_directory h
  refine ⟨new_inv h, ?_, ?_⟩
  · intro n r hr
    simp [(new_empty h).2] at hr
  · rw [hdir]
    exact .nil _

/-- **The allocator is an append-only directory.** In every session over types with
distinct uuids: what the calls came back with is a run of the directory from the
empty one to the one the allocator stands for, which is finite; no next call
panics; where everything is granted, a free name and a type that fits on a page
are taken, whatever failed before; no entry ever changes or disappears; and as
long as `memfd_create` returns numbers that are not open, of all places that were
ever returned, those with one page index have one `memfd` and the other way
round. -/
theorem session_refines {sysconf : Except Errno (Option Int64)} {a : ShmAllocator}
    (hnew : new sysconf = .ok a) {types : Set ShmType} (hinj : Set.InjOn ShmType.uuid types)
    {requests : List Request} {s : Session}
    (hrun : Run Session.step (Session.TypeIn types) ⟨a, []⟩ requests s) :
    Run Directory.step anyStep (fun _ => none) s.answers s.shm.directory ∧
    {name | s.shm.directory name ≠ none}.Finite ∧
    (∀ q, q.type ∈ types → ∃ t, s.step q = some t) ∧
    (∀ name T os, ConstructCalls.Granted os → s.shm.directory name = none →
      T.size ≤ s.shm.pageSize → T.align ≤ s.shm.pageSize →
      ∃ location, (s.shm.constructInShm name T os).result = .ok location) ∧
    (∀ more t, Run Session.step (Session.TypeIn types) s more t →
      Directory.Extends s.shm.directory t.shm.directory) ∧
    (Run Session.step (fun s q => Session.TypeIn types s q ∧ s.FreshFds q) ⟨a, []⟩ requests s →
      ∀ x ∈ s.answers, ∀ y ∈ s.answers, ∀ p q, x.place = some p → y.place = some q →
        (p.page = q.page ↔ p.fd = q.fd)) := by
  have href₀ := new_refines hnew types
  have href := (href₀.steps hinj hrun).1
  refine ⟨href.run, Directory.run_finite href.run (by simp), ?_, ?_, ?_, ?_⟩
  · intro q hq
    obtain ⟨t, answer, ht, -, -⟩ := href.step hinj hq
    exact ⟨t, ht⟩
  · intro name T os hos hname hsize hal
    exact construct_granted href.inv hos hname hsize hal
  · intro more t hmore
    exact (href.steps hinj hmore).2
  · intro hfresh x hx y hy p q hp hq
    have hnodup := session_fds hinj href₀ (by simp [(new_empty hnew).1]) hfresh
    obtain ⟨n, e, he, rfl⟩ := Directory.place_of_run href.run hx hp
    obtain ⟨m, f, hf, rfl⟩ := Directory.place_of_run href.run hy hq
    exact directory_coherent hnodup he hf

/-- A constructor that fails, a retry under the same name, and a lookup. -/
def retrying : List Request :=
  let page : PageCalls := ⟨.ok 7, .ok (), .ok (), .ok 8192⟩
  [.construct ⟨"a", .pthreadMutex, page, page, .error .sendFailed⟩,
    .construct ⟨"a", .pthreadMutex, page, page, .ok ()⟩, .find "a" .pthreadMutex]

theorem session_refines_retry : ∃ s,
    exec Session.step (fun _ q => q.type = .pthreadMutex) ⟨⟨∅, 4096, [], 0⟩, []⟩ retrying = some s ∧
    Run Directory.step anyStep (fun _ => none) s.answers s.shm.directory ∧
    s.shm.directory "a" = some ⟨.pthreadMutex, ⟨0, 40, 7⟩⟩ := by
  obtain ⟨s, hexec, hdir⟩ : ∃ s,
      exec Session.step (fun _ q => q.type = .pthreadMutex) ⟨⟨∅, 4096, [], 0⟩, []⟩ retrying = some s ∧
      s.shm.directory "a" = some ⟨.pthreadMutex, ⟨0, 40, 7⟩⟩ := ⟨_, rfl, rfl⟩
  have hnew : new (.ok (some 4096)) = .ok ⟨∅, 4096, [], 0⟩ := rfl
  have hrun : Run Session.step (Session.TypeIn {ShmType.pthreadMutex}) ⟨⟨∅, 4096, [], 0⟩, []⟩ retrying s :=
    .of_exec (fun _ _ h => Set.mem_singleton_iff.mpr (of_decide_eq_true h)) hexec
  exact ⟨s, hexec, (session_refines hnew (Set.injOn_singleton _ _) hrun).1, hdir⟩

end ShmAllocator
end Garnd
