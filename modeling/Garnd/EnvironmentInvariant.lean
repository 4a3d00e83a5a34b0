import Garnd.Attach
import Garnd.ShmLayout
import Garnd.Lib.Registry

/- What an environment thread keeps by itself, whatever the others do: where it can
   be with what it holds (`Env.Local`), what it knows about its mutexes
   (`Env.Mutexes`), and how its way out looks from the registry of environments
   (`Env.phase`, `Env.PhaseStep`). -/
namespace Garnd
open Registry (Phase)

/-! ## `handle_open_mutex` and the allocator -/

namespace ShmAllocator

/-- `b` has everything `a` has, at the same place. -/
structure Extends (a b : ShmAllocator) : Prop where
  resources : ∀ n r, a.resources.lookup n = some r → b.resources.lookup n = some r
  pages : a.pages <+: b.pages

theorem Extends.refl (a : ShmAllocator) : Extends a a := ⟨fun _ _ h => h, List.prefix_rfl⟩

theorem Grown.extends {os : ConstructCalls} {a b : ShmAllocator} (h : Grown os a b) :
    Extends a b := by
  cases h with
  | same => exact .refl a
  | page calls _ hc =>
    obtain ⟨fd, mem, -, -, rfl⟩ := createNewPage_ok hc
    exact ⟨fun _ _ h => h, List.prefix_append _ _⟩

/-- The name is registered at the location. -/
def At (a : ShmAllocator) (name : String) (location : ClientResourceLocation) : Prop :=
  ∃ r page, a.resources.lookup name = some r ∧ r.page = location.page ∧
    r.offset = location.offset ∧ a.pages[location.page]? = some page ∧ page.fd = location.fd

theorem At.extends {a b : ShmAllocator} {name : String} {location : ClientResourceLocation}
    (h : a.At name location) (he : Extends a b) : b.At name location := by
  obtain ⟨r, page, hr, hp, ho, hg, hf⟩ := h
  obtain ⟨rest, hrest⟩ := he.pages
  refine ⟨r, page, he.resources name r hr, hp, ho, ?_, hf⟩
  rw [← hrest]
  exact List.getElem?_append_left (List.getElem?_eq_some_iff.mp hg).1 ▸ hg

/-- A name has one location. -/
theorem At.unique {a : ShmAllocator} {name : String} {l m : ClientResourceLocation}
    (hl : a.At name l) (hm : a.At name m) : l = m := by
  obtain ⟨r, page, hr, hp, ho, hg, hf⟩ := hl
  obtain ⟨q, page', hq, hp', ho', hg', hf'⟩ := hm
  obtain rfl : r = q := by simpa [hr] using hq
  have hpage : l.page = m.page := hp.symm.trans hp'
  have hfd : page = page' := by simpa [hpage, hg'] using hg.symm
  cases l
  cases m
  simp_all

theorem HandedOut.extends {os : ConstructCalls} {a : ShmAllocator} {name : String} {T : ShmType}
    {r : Constructed} (ho : HandedOut os a name T r) (hn : name ∉ a.resources) :
    Extends a r.self := by
  obtain ⟨b, slot, hg, hp⟩ := ho
  have he := hg.extends
  obtain ⟨hpages, -⟩ := hp.pages_eq
  refine ⟨fun n q hq => ?_, hpages ▸ he.pages⟩
  have hb := he.resources n q hq
  rcases hp.outcome with ⟨e, -, -, hself⟩ | ⟨last, -, -, -, hself⟩
  · rw [hself]
    exact hb
  · have hne : n ≠ name := by
      rintro rfl
      exact hn (AList.lookup_isSome.mp (by rw [hq]; rfl))
    rw [hself]
    simpa only [AList.lookup_insert_ne hne] using hb

/-- What a caller of `construct_in_shm` sees: it does not panic, nothing that is
registered moves, the location it returns is the name's, and where the placement
constructor returned `Ok` the name was free before and is registered now. -/
structure Sees (a : ShmAllocator) (name : String) (os : ConstructCalls) (r : Constructed) :
    Prop where
  inv : Inv r.self
  extends' : Extends a r.self
  noPanic : r.result ≠ .panic
  location : ∀ l, r.result = .ok l → r.self.At name l
  once : r.slot.isSome = true → os.constructor.isOk = true →
    name ∉ a.resources ∧ name ∈ r.self.resources

theorem construct_sees {a : ShmAllocator} (h : Inv a) (name : String) (T : ShmType)
    (os : ConstructCalls) : Sees a name os (a.constructInShm name T os) := by
  refine ⟨construct_inv h name T os, ?_, ?_, ?_, ?_⟩ <;>
    rcases construct_spec h name T os with hf | ⟨hn, ho⟩
  · exact hf.grown.extends
  · exact ho.extends hn
  · obtain ⟨e, he⟩ := hf.err
    rw [he]
    nofun
  · obtain ⟨b, slot, -, hp⟩ := ho
    rcases hp.outcome with ⟨e, -, hr, -⟩ | ⟨last, -, -, hr, -⟩ <;> rw [hr] <;> nofun
  · obtain ⟨e, he⟩ := hf.err
    rw [he]
    nofun
  · obtain ⟨b, slot, -, hp⟩ := ho
    intro l hl
    rcases hp.outcome with ⟨e, -, hr, -⟩ | ⟨last, -, hlast, hr, hself⟩
    · rw [hr] at hl
      cases hl
    · rw [hr] at hl
      cases hl
      rw [hself]
      exact ⟨_, last, AList.lookup_insert _, rfl, rfl, hlast, rfl⟩
  · rw [hf.slot_eq]
    nofun
  · obtain ⟨b, slot, -, hp⟩ := ho
    intro _ hc
    refine ⟨hn, ?_⟩
    rcases hp.outcome with ⟨e, he, -, -⟩ | ⟨last, -, -, -, hself⟩
    · rw [he] at hc
      cases hc
    · rw [hself]
      simp

end ShmAllocator

/-- The same for `find_resource` followed by `construct_in_shm`. -/
theorem Env.findOrConstruct_sees (P : Externals) {a : ShmAllocator} (h : a.Inv) (name : String)
    (os : ShmAllocator.ConstructCalls) : a.Sees name os (Env.findOrConstruct P a name os) := by
  unfold Env.findOrConstruct ShmAllocator.findResource
  cases hl : a.resources.lookup name with
  | none => exact ShmAllocator.construct_sees h name _ os
  | some q =>
    have hlt : q.page < a.pages.length :=
      h.sound.page_lt name q.entry (ShmAllocator.layout_entry hl)
    by_cases ht : q.typeId = P.pthreadMutex.uuid
    · simp only [ht, ne_eq, not_true_eq_false, if_false, List.getElem?_eq_getElem hlt]
      refine ⟨h, .refl a, nofun, ?_, nofun⟩
      rintro _ ⟨⟩
      exact ⟨q, _, hl, rfl, rfl, List.getElem?_eq_getElem hlt, rfl⟩
    · simp only [ht, ne_eq, not_false_eq_true, if_true]
      exact ⟨h, .refl a, nofun, nofun, nofun⟩

/-! ## The thread by itself -/

/-- The step says nothing to the registry. -/
def EnvAct.silent (a : EnvAct) : Prop := (∀ b, a ≠ .closeSend b) ∧ ∀ b, a ≠ .closeWrite b

namespace EnvPc

/-- The thread has not entered its loop. -/
def starting : EnvPc → Bool
  | .allocNew | .epollNew | .epollAdd _ => true
  | _ => false

/-- The thread has dropped its locals. -/
def emptied : EnvPc → Bool
  | .captures | .ended => true
  | _ => false

/-- The thread is past the place where it announces its close. -/
def pastClose : EnvPc → Bool
  | .closeWrite _ | .leave | .captures | .ended => true
  | _ => false

/-- The errors the thread has collected and not put in the outbox. -/
def errors : EnvPc → List DetailedError
  | .send _ _ errors _ | .closeWrite errors => errors
  | _ => []

/-- The thread has seen the drop event, or it is in the rest of the batch. -/
def seesDrop : EnvPc → Prop
  | .dropRead _ => True
  | pc => .drop ∈ pc.rest

end EnvPc

namespace Env

/-- Where the thread can be with what it holds. -/
structure Local (e : Env) : Prop where
  start : e.pc.starting = true →
    e.added = [] ∧ e.sockets = ∅ ∧ e.interest = [] ∧ e.constructed = []
  empty : e.pc.emptied = true → e.sockets = ∅ ∧ e.interest = []
  drop : e.pc.seesDrop → 0 < e.dropEvent
  told : (∃ errors, e.pc = .closeWrite errors) → e.announced = true
  untold : e.announced = true → e.pc.pastClose = true
  registered : ∀ p ∈ e.interest, p ∈ e.added
  members : ∀ x ∈ e.sockets, ∃ c, (x, c) ∈ e.interest

variable {P : Externals} {e e' : Env} {a : EnvAct}

/-- The thread moves on and keeps what it holds. -/
theorem Local.goto {pc : EnvPc} (h : e.Local) (hpc : e.pc = pc) (hsock : e'.sockets = e.sockets)
    (hint : e'.interest = e.interest) (hadd : e'.added = e.added)
    (hann : e'.announced = e.announced) (hstart : e'.pc.starting = false)
    (hempty : e'.pc.emptied = false)
    (hdrop : e'.pc.seesDrop → pc.seesDrop ∧ e'.dropEvent = e.dropEvent)
    (hclose : ∀ errors, e'.pc ≠ .closeWrite errors)
    (hpast : pc.pastClose = true → e'.pc.pastClose = true) : e'.Local := by
  subst hpc
  refine ⟨?_, ?_, ?_, ?_, ?_, by rw [hint, hadd]; exact h.registered, by rw [hsock, hint]; exact h.members⟩
  · rw [hstart]
    nofun
  · rw [hempty]
    nofun
  · intro hd
    obtain ⟨hd, he⟩ := hdrop hd
    rw [he]
    exact h.drop hd
  · rintro ⟨errors, he⟩
    exact absurd he (hclose errors)
  · rw [hann]
    exact fun ha => hpast (h.untold ha)

theorem local_new (name : String) (i : EnvId) : (new name i).Local :=
  ⟨fun _ => ⟨rfl, rfl, rfl, rfl⟩, nofun, nofun, nofun, nofun, nofun, nofun⟩

theorem Local.step (h : e.Local) (hs : e.step P a = some e') : e'.Local := by
  cases step_moves hs with
  | sendError => exact ⟨h.start, h.empty, h.drop, h.told, h.untold, h.registered, h.members⟩
  | allocNew _ hpc | epollNew _ hpc =>
    have hst := h.start (by rw [hpc]; rfl)
    have hun := h.untold
    rw [hpc] at hun
    exact ⟨fun _ => hst, nofun, nofun, nofun, fun ha => (nomatch hun ha), h.registered, h.members⟩
  | @epollAdd left _ hpc =>
    have hst := h.start (by rw [hpc]; rfl)
    have hun := h.untold
    rw [hpc] at hun
    split
    · exact h.goto hpc rfl rfl rfl rfl rfl rfl nofun nofun nofun
    · exact ⟨fun _ => hst, nofun, nofun, nofun, fun ha => (nomatch hun ha), h.registered, h.members⟩
  | allocFails _ hpc | allocPanics _ hpc | epollNewFails _ hpc | epollAddFails _ hpc
  | waitFails _ hpc | batchOver _ hpc | addPanics _ hpc | openMutexPanics _ hpc =>
    exact h.goto hpc rfl rfl rfl rfl rfl rfl nofun nofun nofun
  | closeWrite _ hpc => exact h.goto hpc rfl rfl rfl rfl rfl rfl nofun nofun (fun _ => rfl)
  | addRead _ hpc | addReadFails _ hpc | addTake _ hpc | addEmpty _ hpc | addEpollFails _ hpc
  | respond _ hpc | respondFails _ hpc | recvFails _ hpc | recv _ hpc | recvMalformed _ hpc
  | recvUnanswered _ hpc | openMutex _ hpc | send _ hpc | sendFails _ hpc =>
    exact h.goto hpc rfl rfl rfl rfl rfl rfl (fun hd => ⟨hd, rfl⟩) nofun nofun
  | addEvent _ hpc | readable _ hpc =>
    exact h.goto hpc rfl rfl rfl rfl rfl rfl (fun hd => ⟨List.mem_cons_of_mem _ hd, rfl⟩) nofun nofun
  | dropEvent _ hpc =>
    exact h.goto hpc rfl rfl rfl rfl rfl rfl (fun _ => ⟨List.mem_cons_self, rfl⟩) nofun nofun
  | dropRead _ hpc | dropReadFails _ hpc =>
    exact h.goto hpc rfl rfl rfl rfl rfl rfl nofun nofun (fun _ => rfl)
  | wait _ hpc _ _ hr =>
    have hun := h.untold
    rw [hpc] at hun
    exact ⟨nofun, nofun, fun hd => of_decide_eq_true (hr .drop hd), nofun, fun ha => (nomatch hun ha),
      h.registered, h.members⟩
  | lastGone _ hpc =>
    have hun := h.untold
    rw [hpc] at hun
    exact ⟨nofun, nofun, nofun, nofun, fun ha => (nomatch hun ha), h.registered, by simp⟩
  | oneGone _ hpc =>
    have hun := h.untold
    have hdr := h.drop
    rw [hpc] at hun hdr
    exact ⟨nofun, nofun, fun hd => hdr (List.mem_cons_of_mem _ hd), nofun, fun ha => (nomatch hun ha),
      h.registered, fun x hx => h.members x (Finset.mem_of_mem_erase hx)⟩
  | @addEpoll listener source rest _ hpc =>
    have hun := h.untold
    have hdr := h.drop
    rw [hpc] at hun hdr
    refine ⟨nofun, nofun, hdr, nofun, fun ha => (nomatch hun ha), ?_, ?_⟩
    · intro p hp
      rcases List.mem_cons.mp hp with rfl | hp
      · exact List.mem_append_right _ List.mem_cons_self
      · exact List.mem_append_left _ (h.registered p hp)
    · intro x hx
      rcases Finset.mem_insert.mp hx with rfl | hx
      · exact ⟨source, List.mem_cons_self⟩
      · obtain ⟨c, hc⟩ := h.members x hx
        exact ⟨c, List.mem_cons_of_mem _ hc⟩
  | closeSend _ hpc =>
    exact ⟨nofun, nofun, nofun, fun _ => rfl, fun _ => rfl, h.registered, h.members⟩
  | leave _ hpc => exact ⟨nofun, fun _ => ⟨rfl, rfl⟩, nofun, nofun, fun _ => rfl, nofun, by simp⟩
  | dropSync _ hpc | dropListener _ hpc =>
    have hem := h.empty (by rw [hpc]; rfl)
    split <;> exact ⟨nofun, fun _ => hem, nofun, nofun, fun _ => rfl, h.registered, h.members⟩

/-! ## The mutexes -/

/-- What the thread knows about its mutexes: the allocator is sound, a name was
constructed once at most and is registered since, and what is about to be sent is
where the name is registered. -/
structure Mutexes (e : Env) : Prop where
  alloc : ∀ shm, e.shm = some shm → shm.Inv
  once : e.constructed.Nodup
  built : ∀ shm, e.shm = some shm → ∀ n ∈ e.constructed, n ∈ shm.resources
  offered : ∀ fd n location errors rest, e.pc = .send fd (.openMutexOk n location) errors rest →
    ∃ shm, e.shm = some shm ∧ shm.At n location

theorem mutexes_new (name : String) (i : EnvId) : (new name i).Mutexes :=
  ⟨nofun, List.nodup_nil, nofun, nofun⟩

/-- The thread moves on without touching its mutexes. -/
theorem Mutexes.goto (h : e.Mutexes) (hs : e'.shm = e.shm) (hc : e'.constructed = e.constructed)
    (hp : ∀ fd n location errors rest, e'.pc ≠ .send fd (.openMutexOk n location) errors rest) :
    e'.Mutexes where
  alloc := by rw [hs]; exact h.alloc
  once := by rw [hc]; exact h.once
  built := by rw [hs, hc]; exact h.built
  offered fd n location errors rest he := absurd he (hp fd n location errors rest)

/-- `handle_open_mutex`: what was constructed now was not constructed before. -/
theorem Mutexes.openMutex {shm : ShmAllocator} {name : String}
    {os : ShmAllocator.ConstructCalls} (h : e.Mutexes) (hs : e.shm = some shm)
    (hshm : e'.shm = some (findOrConstruct P shm name os).self)
    (hc : e'.constructed = if ranConstructor os (findOrConstruct P shm name os)
      then e.constructed ++ [name] else e.constructed)
    (hp : ∀ fd n location errors rest, e'.pc = .send fd (.openMutexOk n location) errors rest →
      n = name ∧ (findOrConstruct P shm name os).result = .ok location) : e'.Mutexes := by
  have hsees := findOrConstruct_sees P (h.alloc shm hs) name os
  have hbuilt := h.built shm hs
  have hold : ∀ n ∈ e.constructed, n ∈ (findOrConstruct P shm name os).self.resources := by
    intro n hn
    obtain ⟨r, hr⟩ := Option.isSome_iff_exists.mp (AList.lookup_isSome.mpr (hbuilt n hn))
    exact AList.lookup_isSome.mp (by rw [hsees.extends'.resources n r hr]; rfl)
  have hran : ranConstructor os (findOrConstruct P shm name os) = true →
      name ∉ shm.resources ∧ name ∈ (findOrConstruct P shm name os).self.resources := by
    intro hr
    simp only [ranConstructor, Bool.and_eq_true] at hr
    exact hsees.once hr.1 hr.2
  refine ⟨?_, ?_, ?_, ?_⟩
  · rw [hshm]
    rintro _ ⟨⟩
    exact hsees.inv
  · rw [hc]
    split
    · rename_i hr
      refine h.once.append (List.nodup_singleton name) ?_
      exact List.disjoint_singleton.mpr fun hn => (hran hr).1 (hbuilt name hn)
    · exact h.once
  · rw [hshm, hc]
    rintro _ ⟨⟩ n hn
    split at hn
    · rename_i hr
      rcases List.mem_append.mp hn with hn | hn
      · exact hold n hn
      · obtain rfl := List.mem_singleton.mp hn
        exact (hran hr).2
    · exact hold n hn
  · intro fd n location errors rest he
    obtain ⟨rfl, hr⟩ := hp fd n location errors rest he
    exact ⟨_, hshm, hsees.location location hr⟩

theorem Mutexes.step (h : e.Mutexes) (hl : e.Local) (hs : e.step P a = some e') : e'.Mutexes := by
  cases step_moves hs with
  | sendError => exact ⟨h.alloc, h.once, h.built, h.offered⟩
  | allocNew _ hpc hn =>
    obtain ⟨-, -, -, hc⟩ := hl.start (by rw [hpc]; rfl)
    refine ⟨?_, h.once, ?_, nofun⟩
    · rintro _ ⟨⟩
      exact ShmAllocator.new_inv hn
    · simp [hc]
  | openMutex _ _ hshm hr =>
    refine h.openMutex hshm rfl rfl ?_
    rintro fd n location errors rest ⟨⟩
    exact hr n location rfl
  | openMutexPanics _ _ hshm => exact h.openMutex hshm rfl rfl nofun
  | leave => exact ⟨nofun, h.once, nofun, nofun⟩
  | epollAdd | dropSync | dropListener =>
    split <;> exact h.goto rfl rfl nofun
  | _ => exact h.goto rfl rfl nofun

/-- `handle_open_mutex` does not panic. -/
theorem Mutexes.no_panic (h : e.Mutexes) {shm : ShmAllocator} {name : String}
    {os : ShmAllocator.ConstructCalls} (hs : e.shm = some shm) :
    (findOrConstruct P shm name os).result ≠ .panic :=
  (findOrConstruct_sees P (h.alloc shm hs) name os).noPanic

/-! ## The errors -/

/-- What the thread reports is an error, never a message that ends the incarnation. -/
def Mute (e : Env) : Prop := ∀ err ∈ e.outbox ++ e.pc.errors, err.isTerminal = false

theorem mute_new (name : String) (i : EnvId) : (new name i).Mute := nofun

/-- The errors of the new state are among known ones. -/
theorem Mute.of (h : ∀ err ∈ e'.outbox, err.isTerminal = false)
    (hp : ∀ err ∈ e'.pc.errors, err.isTerminal = false) : e'.Mute := by
  intro err he
  rcases List.mem_append.mp he with he | he
  · exact h err he
  · exact hp err he

theorem Mute.clear (h : ∀ err ∈ e'.outbox, err.isTerminal = false) (hp : e'.pc.errors = []) :
    e'.Mute := .of h (by simp [hp])

theorem Mute.step (h : e.Mute) (hs : e.step P a = some e') : e'.Mute := by
  have hout : ∀ err ∈ e.outbox, err.isTerminal = false := fun err he =>
    h err (List.mem_append_left _ he)
  have hpend : ∀ err ∈ e.pc.errors, err.isTerminal = false := fun err he =>
    h err (List.mem_append_right _ he)
  cases step_moves hs with
  | sendError ho =>
    exact .of (fun err he => hout err (by rw [ho]; exact List.mem_cons_of_mem _ he)) hpend
  | allocFails _ _ hn =>
    exact .clear (by simpa [reportAndClose] using ShmAllocator.new_error hn) rfl
  | epollNewFails | epollAddFails | waitFails | respondFails | recvFails | dropReadFails =>
    exact .clear (by simp [reportAndClose, DetailedError.isTerminal]) rfl
  | epollAdd => split <;> exact .clear hout rfl
  | recvMalformed _ _ hm => exact .of hout (by simpa [EnvPc.errors] using parseRequest_error hm)
  | recvUnanswered _ _ hm =>
    exact .clear (by simpa [DetailedError.isTerminal] using parseRequest_error hm) rfl
  | openMutex _ _ _ _ herr => exact .of hout herr
  | send _ hpc =>
    rw [hpc] at hpend
    exact .clear hpend rfl
  | sendFails _ hpc =>
    rw [hpc] at hpend
    refine .clear (fun err he => ?_) rfl
    rcases List.mem_append.mp he with he | he
    · exact hpend err he
    · rw [List.mem_singleton.mp he]
      rfl
  | @closeSend sent => cases sent <;> exact .of hout (by simp [EnvPc.errors, DetailedError.isTerminal])
  | @closeWrite written _ _ hpc =>
    rw [hpc] at hpend
    refine .clear (fun err he => ?_) rfl
    rcases List.mem_append.mp he with he | he
    · exact hpend err he
    · cases written
      · rw [List.mem_singleton.mp he]
        rfl
      · cases he
  | dropSync | dropListener => split <;> exact .clear hout rfl
  | _ => exact .clear hout rfl

/-! ## The way out -/

/-- The thread as an instance of a registry. -/
def phase (e : Env) : Phase :=
  match e.pc with
  | .closeSend => .leaving
  | .closeWrite _ => .sent
  | .leave | .captures => .gone e.announced false
  | .ended => .gone e.announced true
  | _ => .running

theorem phase_running : e.phase = .running ↔ e.pc.left = false := by
  cases h : e.pc <;> simp [phase, h, EnvPc.left]

/-- What a step of the thread does to its phase. A thread that goes without a word
has been dropped by its owner or has panicked before it served anyone. -/
inductive PhaseStep (e e' : Env) : EnvAct → Prop
  | same {b : EnvAct} : b.silent → e'.phase = e.phase → PhaseStep e e' b
  | leaves {b : EnvAct} : b.silent → e.phase = .running → e'.phase = .leaving → PhaseStep e e' b
  | quits {b : EnvAct} : b.silent → e.phase = .running → e'.phase = .gone false false →
      0 < e.dropEvent ∨ e.added = [] → PhaseStep e e' b
  | sends {sent : Bool} : e.phase = .leaving → e'.phase = .sent → PhaseStep e e' (.closeSend sent)
  | raises {written : Bool} : e.phase = .sent → e'.phase = .gone true false →
      PhaseStep e e' (.closeWrite written)
  | ends {b : EnvAct} {told : Bool} : b.silent → e.phase = .gone told false →
      e'.phase = .gone told true → PhaseStep e e' b

theorem phase_step {c : Owner} {mark : ℕ} (hl : e.Local) (hm : e.Mutexes) (ha : e.Attached c mark)
    (hs : e.step P a = some e') : PhaseStep e e' a := by
  have hquiet (hp : e.pc.pastClose = false) : e.announced = false := by
    cases han : e.announced with
    | false => rfl
    | true =>
      rw [hl.untold han] at hp
      cases hp
  cases step_moves hs with
  | sendError => exact .same ⟨nofun, nofun⟩ rfl
  | allocFails _ hpc | epollNewFails _ hpc | epollAddFails _ hpc | waitFails _ hpc
  | lastGone _ hpc =>
    exact .leaves ⟨nofun, nofun⟩ (by simp only [phase, hpc]) rfl
  | allocPanics _ hpc =>
    refine .quits ⟨nofun, nofun⟩ (by simp only [phase, hpc]) ?_ (.inr (hl.start (by rw [hpc]; rfl)).1)
    simp only [phase, hquiet (by rw [hpc]; rfl)]
  | addPanics _ hpc hr =>
    have hc := ha.wired.owner.mp (Channel.tryRecv_eq_disconnected.mp hr).2
    exact absurd hc (ha.open_of_busy (by rw [hpc]; rfl))
  | openMutexPanics _ _ hshm hr => exact absurd hr (hm.no_panic hshm)
  | dropRead _ hpc | dropReadFails _ hpc =>
    refine .quits ⟨nofun, nofun⟩ (by simp only [phase, hpc]) ?_
      (.inl (hl.drop (by rw [hpc]; trivial)))
    simp only [phase, hquiet (by rw [hpc]; rfl)]
  | closeSend _ hpc => exact .sends (by simp only [phase, hpc]) rfl
  | closeWrite _ hpc =>
    refine .raises (by simp only [phase, hpc]) ?_
    simp only [phase, hl.told ⟨_, hpc⟩]
  | leave _ hpc => exact .same ⟨nofun, nofun⟩ (by simp only [phase, hpc])
  | dropSync _ hpc =>
    have hp : e.phase = .gone e.announced false := by simp only [phase, hpc]
    split
    · exact .same ⟨nofun, nofun⟩ hp.symm
    · exact .ends ⟨nofun, nofun⟩ hp rfl
  | dropListener _ hpc =>
    have hp : e.phase = .gone e.announced false := by simp only [phase, hpc]
    split
    · exact .ends ⟨nofun, nofun⟩ hp rfl
    · exact .same ⟨nofun, nofun⟩ hp.symm
  | epollAdd _ hpc => split <;> exact .same ⟨nofun, nofun⟩ (by simp only [phase, hpc])
  | allocNew _ hpc | epollNew _ hpc | wait _ hpc | batchOver _ hpc | addEvent _ hpc
  | dropEvent _ hpc | oneGone _ hpc | readable _ hpc | addRead _ hpc | addReadFails _ hpc
  | addTake _ hpc | addEmpty _ hpc | addEpoll _ hpc | addEpollFails _ hpc | respond _ hpc
  | respondFails _ hpc | recvFails _ hpc | recv _ hpc | recvMalformed _ hpc | recvUnanswered _ hpc
  | openMutex _ hpc | send _ hpc | sendFails _ hpc =>
    exact .same ⟨nofun, nofun⟩ (by simp only [phase, hpc])

/-! ## An instance that is not being dropped -/

/-- What holds of an instance as long as its owner has not begun to drop it. If it
has gone without a word, nobody was ever attached to it. -/
structure Kept (e : Env) : Prop where
  undropped : e.dropEvent = 0
  loud : ∀ ended, e.phase = .gone false ended → e.added = []

theorem kept_new (name : String) (i : EnvId) : (new name i).Kept := ⟨rfl, nofun⟩

/-- Nobody is attached by a step that leads out of the loop. -/
theorem added_of_gone {told ended : Bool} (hs : e.step P a = some e')
    (hg : e'.phase = .gone told ended) : e'.added = e.added := by
  cases step_moves hs with
  | addEpoll => cases hg
  | _ => rfl

theorem senders_step (hs : e.step P a = some e') :
    e'.addListener.senders = e.addListener.senders := by
  cases step_moves hs <;> rfl

theorem dropEvent_step (hs : e.step P a = some e') (hz : e.dropEvent = 0) : e'.dropEvent = 0 := by
  cases step_moves hs with
  | dropRead _ _ hr => exact (EventFd.read_eq_some.mp hr).2
  | _ => exact hz

theorem name_step (hs : e.step P a = some e') : e'.name = e.name := by
  cases step_moves hs <;> rfl

theorem added_step (hs : e.step P a = some e') : e.added <+: e'.added := by
  cases step_moves hs with
  | addEpoll => exact List.prefix_append _ _
  | _ => exact List.prefix_rfl

theorem Kept.step (h : e.Kept) (hp : PhaseStep e e' a) (hs : e.step P a = some e') : e'.Kept := by
  refine ⟨dropEvent_step hs h.undropped, fun ended hg => ?_⟩
  rw [added_of_gone hs hg]
  cases hp with
  | same _ heq => exact h.loud ended (heq ▸ hg)
  | leaves _ _ hl =>
    rw [hl] at hg
    cases hg
  | quits _ _ _ hd =>
    rcases hd with hd | hd
    · rw [h.undropped] at hd
      cases hd
    · exact hd
  | sends _ hl =>
    rw [hl] at hg
    cases hg
  | raises _ hl =>
    rw [hl] at hg
    cases hg
  | ends _ hgone hl =>
    rw [hl] at hg
    cases hg
    exact h.loud false hgone

/-! ## Steps of the others -/

/-- What the owner and the signal handlers leave alone: all that is the thread's. -/
structure SameThread (e e' : Env) : Prop where
  name : e'.name = e.name
  pc : e'.pc = e.pc
  outbox : e'.outbox = e.outbox
  panicked : e'.panicked = e.panicked
  raisedBy : e'.raisedBy = e.raisedBy
  sockets : e'.sockets = e.sockets
  interest : e'.interest = e.interest
  shm : e'.shm = e.shm
  added : e'.added = e.added
  constructed : e'.constructed = e.constructed
  announced : e'.announced = e.announced

theorem sameThread_insertSend {x : RawFd} (h : e.insertSend x = some e') : SameThread e e' := by
  obtain ⟨chan, -, rfl⟩ := Option.map_eq_some_iff.mp h
  exact ⟨rfl, rfl, rfl, rfl, rfl, rfl, rfl, rfl, rfl, rfl, rfl⟩

theorem sameThread_insertWrite (h : e.insertWrite = some e') : SameThread e e' := by
  obtain ⟨count, -, rfl⟩ := Option.map_eq_some_iff.mp h
  exact ⟨rfl, rfl, rfl, rfl, rfl, rfl, rfl, rfl, rfl, rfl, rfl⟩

theorem sameThread_insertRecv : SameThread e e.insertRecv :=
  ⟨rfl, rfl, rfl, rfl, rfl, rfl, rfl, rfl, rfl, rfl, rfl⟩

theorem sameThread_dropWrite (h : e.dropWrite = some e') : SameThread e e' := by
  obtain ⟨count, -, rfl⟩ := Option.map_eq_some_iff.mp h
  exact ⟨rfl, rfl, rfl, rfl, rfl, rfl, rfl, rfl, rfl, rfl, rfl⟩

theorem sameThread_dropFields : SameThread e e.dropFields :=
  ⟨rfl, rfl, rfl, rfl, rfl, rfl, rfl, rfl, rfl, rfl, rfl⟩

theorem SameThread.refl (e : Env) : SameThread e e :=
  ⟨rfl, rfl, rfl, rfl, rfl, rfl, rfl, rfl, rfl, rfl, rfl⟩

theorem SameThread.phase (h : SameThread e e') : e'.phase = e.phase := by
  simp only [Env.phase, h.pc, h.announced]

theorem Local.same (hl : e.Local) (h : SameThread e e') (hd : e.dropEvent ≤ e'.dropEvent) :
    e'.Local where
  start hst := by
    rw [h.added, h.sockets, h.interest, h.constructed]
    exact hl.start (h.pc ▸ hst)
  empty hem := by
    rw [h.sockets, h.interest]
    exact hl.empty (h.pc ▸ hem)
  drop hdr := Nat.lt_of_lt_of_le (hl.drop (h.pc ▸ hdr)) hd
  told ht := by
    rw [h.announced]
    exact hl.told (h.pc ▸ ht)
  untold ha := by
    rw [h.pc]
    exact hl.untold (h.announced ▸ ha)
  registered := by
    rw [h.interest, h.added]
    exact hl.registered
  members := by
    rw [h.interest, h.sockets]
    exact hl.members

theorem Mutexes.same (hm : e.Mutexes) (h : SameThread e e') : e'.Mutexes where
  alloc := by rw [h.shm]; exact hm.alloc
  once := by rw [h.constructed]; exact hm.once
  built := by rw [h.shm, h.constructed]; exact hm.built
  offered := by rw [h.pc, h.shm]; exact hm.offered

theorem Kept.same (hk : e.Kept) (h : SameThread e e') (hd : e'.dropEvent = e.dropEvent) : e'.Kept where
  undropped := hd.trans hk.undropped
  loud := by rw [h.phase, h.added]; exact hk.loud

end Env

end Garnd
