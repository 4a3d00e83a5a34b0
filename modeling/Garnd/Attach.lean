import Garnd.EnvironmentMoves
import Garnd.Lib.Rendezvous
import Garnd.Lib.Transition

/- `insert_socket` against the environment's thread. The thread and the owner's
   half of the objects refine the rendezvous of one client and one server
   (`Env.rendezvous`); `Attached` is the invariant they share, kept by every step
   of the thread (`Attached.thread`) and by every call of the owner. `Party` is the
   system of one owner that attaches any number of sockets and drops the
   environment, against the thread. -/
namespace Garnd
open Rendezvous (Client Server Inv Step)
open Transition

/-- What the owner of an `Environment` is doing with it. -/
abbrev Owner := Client RawFd

/-- A response that is not `Ok`. -/
def isErr (r : Except DetailedError Unit) : Prop := ∃ e, r = .error e

/-- The thread as a server of attach requests. -/
def EnvPc.server : EnvPc → Server RawFd (Except DetailedError Unit)
  | .addRead _ => .reading
  | .addDrain _ => .draining
  | .addEpoll listener _ => .serving listener
  | .respond result _ => .answering result
  | pc => if pc.left then .left else .running (pc.rest.contains .add)

/-- The environment as a rendezvous of its owner and its thread. -/
def Env.rendezvous (e : Env) (c : Owner) (mark : ℕ) :
    Rendezvous.State RawFd (Except DetailedError Unit) :=
  { client := c
    server := e.pc.server
    event := e.addEvent
    requests := e.addListener.queue
    responses := e.syncResponse.queue
    served := e.added.map Prod.fst
    mark := mark }

/-- The ends of the two channels. -/
structure Env.Wired (e : Env) (c : Owner) : Prop where
  owner : e.addListener.senders = ∅ ↔ c = .closed
  ownerRx : e.syncResponse.receiver = false ↔ c = .closed
  thread : e.syncResponse.senders = ∅ → e.pc.left = true
  threadRx : e.addListener.receiver = false → e.pc.left = true

/-- The shape of a batch: `add_listener_event` is in it once at most. -/
structure Env.Batched (e : Env) : Prop where
  once : (e.pc.rest.map Event.registration).Nodup
  alone : e.pc.adding = true → .add ∉ e.pc.rest

/-- The invariant of an environment whose owner is at `c`. -/
structure Env.Attached (e : Env) (c : Owner) (mark : ℕ) : Prop where
  wired : e.Wired c
  batched : e.Batched
  inv : Inv (.ok ()) isErr (e.rendezvous c mark)

theorem Env.attached_new (name : String) (i : EnvId) : (Env.new name i).Attached .idle 0 where
  wired := by constructor <;> simp [Env.new, Channel.new]
  batched := ⟨by simp [Env.new, EnvPc.rest], by simp [Env.new, EnvPc.rest]⟩
  inv := Rendezvous.inv_start

theorem EnvPc.server_left {pc : EnvPc} (h : pc.left = true) : pc.server = .left := by
  cases pc <;> simp_all [EnvPc.left, EnvPc.server]

theorem EnvPc.left_of_server {pc : EnvPc} (h : pc.server = .left) : pc.left = true := by
  cases pc <;> simp_all [EnvPc.left, EnvPc.server]

namespace Env
variable {P : Externals} {e e' : Env} {c : Owner} {mark : ℕ}

/-- A busy thread has an owner that waits for it, so the owner is not closed. -/
theorem Attached.open_of_busy (h : e.Attached c mark) (hb : e.pc.adding = true) : c ≠ .closed := by
  rintro rfl
  have hs : (e.rendezvous .closed mark).server ≠ .left := by
    intro hs
    have := EnvPc.left_of_server hs
    cases hpc : e.pc <;> simp_all [EnvPc.left, EnvPc.adding]
  obtain ⟨a, ha⟩ := h.inv.waiting_of_busy hs fun seen hs' => by
    simp only [rendezvous] at hs'
    cases hpc : e.pc <;> simp_all [EnvPc.server, EnvPc.adding]
  cases ha

/-- Where the thread is `running`, the part of the batch it has left decides
whether it has seen the event. -/
theorem running_of_rest (e : Env) (c : Owner) (mark : ℕ) (ha : e.pc.adding = false)
    (hl : e.pc.left = false) :
    (e.rendezvous c mark).server = .running (e.pc.rest.contains .add) := by
  cases hpc : e.pc <;> simp_all [rendezvous, EnvPc.server, EnvPc.adding, EnvPc.left]

/-- The owner sees the position of the thread and what the two share. -/
theorem rendezvous_congr (hs : e'.pc.server = e.pc.server) (ha : e'.addEvent = e.addEvent)
    (hq : e'.addListener.queue = e.addListener.queue)
    (hr : e'.syncResponse.queue = e.syncResponse.queue) (hd : e'.added = e.added) :
    e'.rendezvous c mark = e.rendezvous c mark := by
  simp only [rendezvous, hs, ha, hq, hr, hd]

/-- One step of the thread, seen by the owner: nothing, or a step of the server. -/
theorem Attached.thread_step {a : EnvAct} (h : e.Attached c mark) (hs : e.step P a = some e') :
    e'.rendezvous c mark = e.rendezvous c mark ∨
      Step (.ok ()) isErr (e.rendezvous c mark) (e'.rendezvous c mark) := by
  have hopen := h.open_of_busy
  have hrun := running_of_rest e c mark
  cases step_moves hs with
  | sendError => exact .inl rfl
  | allocNew _ hpc | epollNew _ hpc | batchOver _ hpc | dropEvent _ hpc | oneGone _ hpc
  | readable _ hpc | recvFails _ hpc | recv _ hpc | recvMalformed _ hpc | recvUnanswered _ hpc
  | openMutex _ hpc | send _ hpc | sendFails _ hpc | closeSend _ hpc | closeWrite _ hpc | leave _ hpc =>
    exact .inl (rendezvous_congr (by rw [hpc]; rfl) rfl rfl rfl rfl)
  | epollAdd _ hpc =>
    refine .inl (rendezvous_congr ?_ rfl rfl rfl rfl)
    rw [hpc]
    dsimp only
    split <;> rfl
  | dropSync _ hpc =>
    refine .inl (rendezvous_congr ?_ rfl rfl rfl rfl)
    rw [hpc]
    dsimp only
    split <;> rfl
  | allocFails _ hpc | allocPanics _ hpc | epollNewFails _ hpc | epollAddFails _ hpc
  | waitFails _ hpc | lastGone _ hpc | openMutexPanics _ hpc | dropRead _ hpc | dropReadFails _ hpc =>
    exact .inr (.leave (hrun (by rw [hpc]; rfl) (by rw [hpc]; rfl)))
  | wait _ hpc _ _ hr =>
    refine .inr (.look (by rw [hrun (by rw [hpc]; rfl) (by rw [hpc]; rfl), hpc]; rfl) fun hseen => ?_)
    exact of_decide_eq_true (hr .add (List.contains_iff_mem.mp hseen))
  | addEvent _ hpc =>
    exact .inr (.begin (by rw [hrun (by rw [hpc]; rfl) (by rw [hpc]; rfl), hpc]; rfl))
  | addRead _ hpc hr =>
    obtain ⟨hpos, rfl⟩ := EventFd.read_eq_some.mp hr
    exact .inr (.read (by simp only [rendezvous, hpc]; rfl) hpos)
  | addReadFails _ hpc hr =>
    exact .inr (.readFail (by simp only [rendezvous, hpc]; rfl) (EventFd.read_eq_none.mp hr))
  | addTake _ hpc hr =>
    obtain ⟨q, hq⟩ := Channel.tryRecv_eq_got.mp hr
    refine .inr (.congr (.take (by simp only [rendezvous, hpc]; rfl) hq) ?_)
    simp only [rendezvous, Channel.rest, hq, List.tail_cons]
    rfl
  | addEmpty _ hpc hr =>
    obtain ⟨hq, -⟩ := Channel.tryRecv_eq_empty.mp hr
    exact .inr (.finish (by simp only [rendezvous, hpc]; rfl) hq)
  | addPanics _ hpc hr =>
    have hd := (Channel.tryRecv_eq_disconnected.mp hr).2
    exact absurd (h.wired.owner.mp hd) (hopen (by simp [hpc, EnvPc.adding]))
  | addEpoll _ hpc =>
    refine .inr (.congr (.serve (by simp only [rendezvous, hpc]; rfl)) ?_)
    simp only [rendezvous, List.map_append, List.map_cons, List.map_nil]
    rfl
  | addEpollFails _ hpc =>
    exact .inr (.refuse (by simp only [rendezvous, hpc]; rfl) ⟨_, rfl⟩)
  | @respond result rest chan _ hpc hr =>
    obtain ⟨-, rfl⟩ := Channel.send_eq_some.mp hr
    have hadd : .add ∉ rest := by
      have := h.batched.alone (by simp [hpc, EnvPc.adding])
      simpa [hpc, EnvPc.rest] using this
    refine .inr (.congr (.answer (by simp only [rendezvous, hpc]; rfl)) ?_)
    simp [rendezvous, EnvPc.server, EnvPc.left, EnvPc.rest, hadd]
  | respondFails _ hpc hr =>
    have hrx := Channel.send_eq_none.mp hr
    exact absurd (h.wired.ownerRx.mp hrx) (hopen (by simp [hpc, EnvPc.adding]))
  | dropListener _ hpc =>
    have hleft : (if e.syncResponse.senders = ∅ then EnvPc.ended else .captures).left = true := by
      split <;> rfl
    refine .inr (.congr (.discard (EnvPc.server_left (by rw [hpc]; rfl))) ?_)
    simp only [rendezvous, EnvPc.server_left hleft, Channel.dropReceiver, hpc]
    rfl

/-- A thread that has left its loop stays out of it. -/
theorem left_step {a : EnvAct} (h : e.pc.left = true) (hs : e.step P a = some e') :
    e'.pc.left = true := by
  cases step_moves hs with
  | sendError => exact h
  | closeSend | closeWrite | leave => rfl
  | dropSync | dropListener => dsimp only; split <;> rfl
  | _ => simp_all [EnvPc.left]

/-- The thread leaves the owner's ends of the channels alone, and gives up its own
only once it has left its loop. -/
theorem Wired.step {a : EnvAct} (h : e.Wired c) (hs : e.step P a = some e') : e'.Wired c := by
  obtain ⟨howner, hownerRx, hthread, hthreadRx⟩ := h
  have hleft : e.pc.left = true → e'.pc.left = true := fun hl => left_step hl hs
  cases step_moves hs with
  | respond _ _ hr =>
    obtain ⟨-, rfl⟩ := Channel.send_eq_some.mp hr
    exact ⟨howner, hownerRx, fun hn => hleft (hthread hn), fun hn => hleft (hthreadRx hn)⟩
  | dropSync | dropListener =>
    refine ⟨howner, hownerRx, fun _ => ?_, fun _ => ?_⟩ <;> dsimp only <;> split <;> rfl
  | _ => exact ⟨howner, hownerRx, fun hn => hleft (hthread hn), fun hn => hleft (hthreadRx hn)⟩

theorem Batched.of_nil (h : e.pc.rest = []) : e.Batched where
  once := by simp [h]
  alone := by simp [h]

/-- The batch keeps its shape while it is worked off. -/
theorem Batched.of_suffix (h : e.Batched) (hr : e'.pc.rest <:+ e.pc.rest)
    (ha : e'.pc.adding = true → e.pc.adding = true) : e'.Batched where
  once := h.once.sublist (hr.sublist.map _)
  alone hadd hmem := h.alone (ha hadd) (hr.subset hmem)

theorem Batched.step {a : EnvAct} (h : e.Batched) (hs : e.step P a = some e') : e'.Batched := by
  cases step_moves hs with
  | sendError => exact ⟨h.once, h.alone⟩
  | wait _ _ _ hnd => exact ⟨hnd, nofun⟩
  | addEvent _ hpc =>
    obtain ⟨honce, -⟩ := h
    simp only [hpc, EnvPc.rest, List.map_cons, List.nodup_cons] at honce
    exact ⟨honce.2, fun _ hadd => honce.1 (List.mem_map_of_mem hadd)⟩
  | dropEvent _ hpc | oneGone _ hpc | readable _ hpc =>
    exact h.of_suffix (by rw [hpc]; exact List.suffix_cons _ _) nofun
  | recv _ hpc | recvMalformed _ hpc | recvFails _ hpc | recvUnanswered _ hpc | openMutex _ hpc
  | send _ hpc | sendFails _ hpc | respond _ hpc | respondFails _ hpc =>
    exact h.of_suffix (by rw [hpc]; exact List.suffix_rfl) nofun
  | addRead _ hpc | addReadFails _ hpc | addTake _ hpc | addEmpty _ hpc | addEpoll _ hpc
  | addEpollFails _ hpc =>
    exact h.of_suffix (by rw [hpc]; exact List.suffix_rfl) (fun _ => by rw [hpc]; rfl)
  | epollAdd => refine .of_nil ?_; dsimp only; split <;> rfl
  | dropSync | dropListener => refine .of_nil ?_; dsimp only; split <;> rfl
  | _ => exact .of_nil rfl

theorem Attached.thread {a : EnvAct} (h : e.Attached c mark) (hs : e.step P a = some e') :
    e'.Attached c mark where
  wired := h.wired.step hs
  batched := h.batched.step hs
  inv := by
    rcases h.thread_step hs with heq | hstep
    · exact heq ▸ h.inv
    · exact h.inv.step hstep

/-! ## The owner's calls -/

theorem Batched.of_pc (h : e.Batched) (hp : e'.pc = e.pc) : e'.Batched :=
  ⟨by rw [hp]; exact h.once, by rw [hp]; exact h.alone⟩

/-- Between two of its calls the owner keeps its ends. -/
theorem Wired.of_open {c' : Owner} (h : e.Wired c) (hc : c ≠ .closed) (hc' : c' ≠ .closed)
    (hp : e'.pc = e.pc) (hs : e'.addListener.senders = e.addListener.senders)
    (hr : e'.addListener.receiver = e.addListener.receiver)
    (hs' : e'.syncResponse.senders = e.syncResponse.senders)
    (hr' : e'.syncResponse.receiver = e.syncResponse.receiver) : e'.Wired c' where
  owner := by rw [hs, h.owner]; exact ⟨fun h => absurd h hc, fun h => absurd h hc'⟩
  ownerRx := by rw [hr', h.ownerRx]; exact ⟨fun h => absurd h hc, fun h => absurd h hc'⟩
  thread := by rw [hs', hp]; exact h.thread
  threadRx := by rw [hr, hp]; exact h.threadRx

theorem Attached.insertSend {x : RawFd} (h : e.Attached .idle mark)
    (hs : e.insertSend x = some e') : e'.Attached (.writing x) e.added.length := by
  obtain ⟨chan, hc, rfl⟩ := Option.map_eq_some_iff.mp hs
  obtain ⟨-, rfl⟩ := Channel.send_eq_some.mp hc
  refine ⟨h.wired.of_open nofun nofun rfl rfl rfl rfl rfl, h.batched.of_pc rfl, ?_⟩
  have := h.inv.send x rfl
  simpa only [rendezvous, List.length_map] using this

/-- A send fails only on a thread that has left its loop. -/
theorem Attached.insertSend_none {x : RawFd} (h : e.Attached c mark) (hs : e.insertSend x = none) :
    e.pc.left = true :=
  h.wired.threadRx (Channel.send_eq_none.mp (Option.map_eq_none_iff.mp hs))

theorem Attached.insertWrite {x : RawFd} (h : e.Attached (.writing x) mark)
    (hs : e.insertWrite = some e') : e'.Attached (.waiting x) mark := by
  obtain ⟨count, hc, rfl⟩ := Option.map_eq_some_iff.mp hs
  obtain ⟨-, rfl⟩ := EventFd.write_eq_some.mp hc
  exact ⟨h.wired.of_open nofun nofun rfl rfl rfl rfl rfl, h.batched.of_pc rfl, h.inv.write rfl⟩

/-- The write fails only where the event was raised often enough and never read:
the thread has left its loop. -/
theorem Attached.insertWrite_none {x : RawFd} (h : e.Attached (.writing x) mark)
    (hs : e.insertWrite = none) :
    e.pc.left = true ∧ e.Attached .idle mark ∧ e.added.length = mark := by
  have hnone := Option.map_eq_none_iff.mp hs
  have hs : (e.rendezvous (.writing x) mark).server = .left := by
    by_contra hl
    obtain ⟨-, hz, -⟩ := h.inv.live hl
    have hz : e.addEvent = 0 := hz
    rw [hz, EventFd.write_zero] at hnone
    cases hnone
  obtain ⟨hr, hm⟩ := h.inv.dead hs
  refine ⟨EnvPc.left_of_server hs, ⟨h.wired.of_open nofun nofun rfl rfl rfl rfl rfl, h.batched,
    Rendezvous.dead_iff hs hr⟩, ?_⟩
  simpa only [rendezvous, List.length_map] using hm

/-- The response a waiting owner takes is about its own socket. -/
theorem Attached.outcome {x : RawFd} {r : Except DetailedError Unit}
    (h : e.Attached (.waiting x) mark) (hr : e.syncResponse.tryRecv = .got r) :
    r = .ok () ∧ (e.added.map Prod.fst).drop mark = [x] ∨ isErr r ∧ e.added.length = mark := by
  obtain ⟨q, hq⟩ := Channel.tryRecv_eq_got.mp hr
  have := (h.inv.outcome (s := e.rendezvous (.waiting x) mark) rfl hq).2
  simpa only [Rendezvous.Outcome, rendezvous, List.length_map] using this

theorem Attached.insertRecv {x : RawFd} {r : Except DetailedError Unit}
    (h : e.Attached (.waiting x) mark) (hr : e.syncResponse.tryRecv = .got r) :
    e.insertRecv.Attached .idle mark := by
  obtain ⟨q, hq⟩ := Channel.tryRecv_eq_got.mp hr
  refine ⟨h.wired.of_open nofun nofun rfl rfl rfl rfl rfl, h.batched.of_pc rfl, ?_⟩
  have := h.inv.recv (s := e.rendezvous (.waiting x) mark) rfl hq
  simpa only [rendezvous, Env.insertRecv, Channel.rest, hq, List.tail_cons] using this

/-- A receive that finds the channel closed: the thread has left its loop. -/
theorem Attached.hangup {x : RawFd} (h : e.Attached (.waiting x) mark)
    (hr : e.syncResponse.tryRecv = .disconnected) : e.Attached .idle mark ∧
      e.added.length = mark := by
  obtain ⟨hq, hn⟩ := Channel.tryRecv_eq_disconnected.mp hr
  have hleft : (e.rendezvous (.waiting x) mark).server = .left :=
    EnvPc.server_left (h.wired.thread hn)
  refine ⟨⟨h.wired.of_open nofun nofun rfl rfl rfl rfl rfl, h.batched,
    h.inv.step (.hangup rfl hleft hq)⟩, ?_⟩
  rcases h.inv.dead hleft with ⟨-, hm⟩ | ⟨b, hb, -⟩
  · simpa only [rendezvous, List.length_map] using hm
  · simp [rendezvous, hq] at hb

/-- A thread that is in its loop does not sleep over its owner's call. -/
theorem Attached.due {x : RawFd} (h : e.Attached (.waiting x) mark) (hl : e.pc.left = false) :
    e.syncResponse.queue ≠ [] ∨ 0 < e.addEvent ∨ e.pc.adding = true := by
  rcases h.inv.owed rfl with hr | he | hb | hs
  · exact .inl hr
  · exact .inr (.inl he)
  · right
    right
    simp only [rendezvous] at hb
    cases hpc : e.pc <;> simp_all [EnvPc.server, EnvPc.adding, EnvPc.left, Server.busy]
  · rw [EnvPc.left_of_server hs] at hl
    cases hl

/-- Between calls the mark says nothing. -/
theorem Attached.of_idle (h : e.Attached .idle mark) (mark' : ℕ) : e.Attached .idle mark' :=
  ⟨h.wired, h.batched, fun hs => h.inv.live hs, fun hs => h.inv.dead hs⟩

theorem Attached.dropWrite (h : e.Attached c mark) (hs : e.dropWrite = some e') :
    e'.Attached c mark := by
  obtain ⟨count, -, rfl⟩ := Option.map_eq_some_iff.mp hs
  exact ⟨⟨h.wired.owner, h.wired.ownerRx, h.wired.thread, h.wired.threadRx⟩,
    ⟨h.batched.once, h.batched.alone⟩, h.inv⟩

theorem Attached.dropFields (h : e.Attached .idle mark) : e.dropFields.Attached .closed mark where
  wired := ⟨by simp [Env.dropFields], by simp [Env.dropFields, Channel.dropReceiver],
    h.wired.thread, h.wired.threadRx⟩
  batched := ⟨h.batched.once, h.batched.alone⟩
  inv := h.inv.step (.close rfl)

end Env
end Garnd
