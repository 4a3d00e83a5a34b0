import Garnd.Attach

/- One owner of an `Environment` against its thread: the owner calls
   `insert_socket` any number of times, then drops the environment (`Drop`, the
   fields in their order, the join). The thread takes its steps with any results
   of its calls. `attach_rendezvous` is what holds in every interleaving; while the
   thread is in its loop there is one undelivered socket at most, and
   `two_undelivered` shows why not after it. -/
namespace Garnd
open Rendezvous (Client Server)
open Transition

/-- Where the owner is: between calls, in `insert_socket`, or in the drop. -/
inductive PartyPc where
  | idle
  | writing (socket : RawFd)
  | waiting (socket : RawFd)
  | dropping
  | joining
  | gone
  deriving DecidableEq, Repr

def PartyPc.owner : PartyPc → Owner
  | .idle | .dropping => .idle
  | .writing socket => .writing socket
  | .waiting socket => .waiting socket
  | .joining | .gone => .closed

/-- An `insert_socket` that has returned: its socket and result, the sockets that
were registered with epoll and put in the `SocketSet` while it ran, and whether
its own was in the set when it returned. -/
structure Return where
  socket : RawFd
  result : Except DetailedError Unit
  registered : List RawFd
  member : Bool

/-- `mark` and `returns` are history: how many sockets had been registered when the
current call began, and the calls that have returned. -/
structure Party where
  pc : PartyPc
  env : Env
  mark : ℕ
  returns : List Return

inductive PartyAct where
  | insertSend (socket : RawFd)
  | insertWrite
  | insertRecv
  | dropWrite
  | dropFields
  | join
  | thread (a : EnvAct)

namespace Party

def new (name : String) (i : EnvId) : Party := ⟨.idle, .new name i, 0, []⟩

/-- `insert_socket` returns. -/
def returnWith (s : Party) (socket : RawFd) (result : Except DetailedError Unit) : Party :=
  { s with
    pc := .idle
    returns := s.returns ++
      [⟨socket, result, (s.env.added.map Prod.fst).drop s.mark, socket ∈ s.env.sockets⟩] }

/-- One step. A socket that is passed is a descriptor of its own, so its number is
not that of a socket the thread has. -/
def step (P : Externals) (s : Party) : PartyAct → Option Party
  | .insertSend socket =>
    if s.pc = .idle ∧ socket ∉ s.env.sockets then
      let s := { s with mark := s.env.added.length }
      match s.env.insertSend socket with
      | some e => some { s with pc := .writing socket, env := e }
      | none => some (s.returnWith socket (.error .sendFailed))
    else none
  | .insertWrite =>
    match s.pc with
    | .writing socket =>
      match s.env.insertWrite with
      | some e => some { s with pc := .waiting socket, env := e }
      | none => some (s.returnWith socket (.error (.sys .eventWrite eagain)))
    | _ => none
  | .insertRecv =>
    match s.pc with
    | .waiting socket =>
      match s.env.syncResponse.tryRecv with
      | .got r => some ({ s with env := s.env.insertRecv }.returnWith socket r)
      | .disconnected => some (s.returnWith socket (.error .recvFailed))
      | .empty => none
    | _ => none
  | .dropWrite =>
    if s.pc = .idle then s.env.dropWrite.map fun e => { s with pc := .dropping, env := e } else none
  | .dropFields =>
    if s.pc = .dropping then some { s with pc := .joining, env := s.env.dropFields } else none
  | .join =>
    match s.pc, s.env.pc with
    | .joining, .ended => some { s with pc := .gone }
    | _, _ => none
  | .thread a => (s.env.step P a).map fun e => { s with env := e }

/-- Replay a run. -/
def replay (P : Externals) (s : Party) (as : List PartyAct) : Option Party :=
  exec (step P) (fun _ _ => true) s as

theorem run_of_replay {P : Externals} {s t : Party} {as : List PartyAct}
    (h : s.replay P as = some t) : Run (step P) anyStep s as t :=
  .of_exec (fun _ _ _ => trivial) h

/-- While a call for `socket` runs, `socket` is in the set only if the call put it
there. -/
def OwnSocket (s : Party) : Prop :=
  ∀ socket, s.pc.owner = .writing socket ∨ s.pc.owner = .waiting socket →
    s.mark ≤ s.env.added.length ∧
      (socket ∈ s.env.sockets → socket ∈ (s.env.added.map Prod.fst).drop s.mark)

/-- A call that has returned said what happened to its socket. -/
def Return.Truthful (r : Return) : Prop :=
  (r.result = .ok () → r.registered = [r.socket]) ∧
  (isErr r.result → r.registered = [] ∧ r.member = false)

structure Inv (s : Party) : Prop where
  attached : s.env.Attached s.pc.owner s.mark
  own : s.OwnSocket
  told : ∀ r ∈ s.returns, Return.Truthful r

variable {P : Externals} {s t : Party}

theorem inv_new (name : String) (i : EnvId) : (new name i).Inv where
  attached := Env.attached_new name i
  own := by simp [OwnSocket, new, PartyPc.owner]
  told := by simp [new]

theorem Inv.at_pc {pc : PartyPc} (h : s.Inv) (hpc : s.pc = pc) :
    s.env.Attached pc.owner s.mark := hpc ▸ h.attached

/-- Only a registration makes the set larger, and it is recorded. -/
theorem OwnSocket.thread {a : EnvAct} {e : Env} (h : s.OwnSocket) (hs : s.env.step P a = some e) :
    OwnSocket { s with env := e } := by
  intro socket hc
  obtain ⟨hm, hin⟩ := h socket hc
  cases Env.step_moves hs with
  | addEpoll =>
    refine ⟨by simp; omega, fun hmem => ?_⟩
    simp only [List.map_append, List.map_cons, List.map_nil]
    rw [List.drop_append_of_le_length (by simpa using hm)]
    rcases Finset.mem_insert.mp hmem with rfl | hold
    · simp
    · exact List.mem_append_left _ (hin hold)
  | lastGone | leave => exact ⟨hm, fun hmem => by simp at hmem⟩
  | oneGone => exact ⟨hm, fun hmem => hin (Finset.mem_of_mem_erase hmem)⟩
  | _ => exact ⟨hm, hin⟩

/-- A call that returns puts the owner between calls, with one more return. -/
theorem Inv.returnWith {socket : RawFd} {result : Except DetailedError Unit}
    (h : s.env.Attached .idle s.mark) (ht : ∀ r ∈ s.returns, Return.Truthful r)
    (hok : result = .ok () → (s.env.added.map Prod.fst).drop s.mark = [socket])
    (herr : isErr result → s.env.added.length = s.mark ∧ socket ∉ s.env.sockets) :
    (s.returnWith socket result).Inv where
  attached := h
  own := by simp [OwnSocket, Party.returnWith, PartyPc.owner]
  told := by
    intro r hr
    simp only [Party.returnWith, List.mem_append, List.mem_singleton] at hr
    rcases hr with hr | rfl
    · exact ht r hr
    · refine ⟨hok, fun he => ?_⟩
      obtain ⟨hm, hs⟩ := herr he
      exact ⟨by simp [← hm], by simpa using hs⟩

theorem Inv.insertSend {socket : RawFd} (h : s.Inv)
    (hs : step P s (.insertSend socket) = some t) : t.Inv := by
  simp only [step] at hs
  split at hs
  · rename_i hg
    obtain ⟨hpc, hnot⟩ := hg
    have ha : s.env.Attached .idle s.mark := h.at_pc hpc
    split at hs <;> rename_i hsend <;> cases hs
    · rename_i e
      refine ⟨ha.insertSend hsend, ?_, h.told⟩
      obtain ⟨chan, -, rfl⟩ := Option.map_eq_some_iff.mp hsend
      intro socket' hc
      obtain rfl : socket = socket' := by simpa [PartyPc.owner] using hc
      exact ⟨Nat.le_refl _, fun hmem => absurd hmem hnot⟩
    · exact .returnWith (ha.of_idle _) h.told nofun fun _ => ⟨rfl, hnot⟩
  · cases hs

theorem Inv.insertWrite (h : s.Inv) (hs : step P s .insertWrite = some t) : t.Inv := by
  simp only [step] at hs
  split at hs
  · rename_i socket hpc
    have ha : s.env.Attached (.writing socket) s.mark := h.at_pc hpc
    split at hs <;> rename_i hwrite <;> cases hs
    · refine ⟨ha.insertWrite hwrite, ?_, h.told⟩
      obtain ⟨count, -, rfl⟩ := Option.map_eq_some_iff.mp hwrite
      intro socket' hc
      obtain rfl : socket = socket' := by simpa [PartyPc.owner] using hc
      exact h.own socket (.inl (by rw [hpc]; rfl))
    · obtain ⟨-, hidle, hm⟩ := ha.insertWrite_none hwrite
      refine .returnWith hidle h.told nofun fun _ => ⟨hm, fun hmem => ?_⟩
      have hin := (h.own socket (.inl (by rw [hpc]; rfl))).2 hmem
      rw [← hm, List.drop_eq_nil_of_le (by simp)] at hin
      cases hin
  · cases hs

theorem Inv.insertRecv (h : s.Inv) (hs : step P s .insertRecv = some t) : t.Inv := by
  simp only [step] at hs
  split at hs
  · rename_i socket hpc
    have ha : s.env.Attached (.waiting socket) s.mark := h.at_pc hpc
    -- a socket the call did not register is not in the set
    have hout (hm : s.env.added.length = s.mark) : socket ∉ s.env.sockets := fun hmem => by
      have hin := (h.own socket (.inr (by rw [hpc]; rfl))).2 hmem
      rw [← hm, List.drop_eq_nil_of_le (by simp)] at hin
      cases hin
    split at hs <;> rename_i hrecv
    · cases hs
      have ho := ha.outcome hrecv
      refine .returnWith (ha.insertRecv hrecv) h.told (fun hok => ?_) (fun herr => ?_)
      · rcases ho with ⟨-, hadd⟩ | ⟨⟨err, he⟩, -⟩
        · exact hadd
        · rw [he] at hok
          cases hok
      · rcases ho with ⟨hok, -⟩ | ⟨-, hm⟩
        · obtain ⟨err, he⟩ := herr
          rw [hok] at he
          cases he
        · exact ⟨hm, hout hm⟩
    · cases hs
      obtain ⟨hidle, hm⟩ := ha.hangup hrecv
      exact .returnWith hidle h.told (by simp) fun _ => ⟨hm, hout hm⟩
    · cases hs
  · cases hs

theorem Inv.step {a : PartyAct} (h : s.Inv) (hs : step P s a = some t) : t.Inv := by
  cases a with
  | insertSend socket => exact h.insertSend hs
  | insertWrite => exact h.insertWrite hs
  | insertRecv => exact h.insertRecv hs
  | dropWrite =>
    simp only [Party.step] at hs
    split at hs
    · rename_i hpc
      obtain ⟨e, he, rfl⟩ := Option.map_eq_some_iff.mp hs
      have ha : s.env.Attached .idle s.mark := h.at_pc hpc
      exact ⟨ha.dropWrite he, by simp [OwnSocket, PartyPc.owner], h.told⟩
    · cases hs
  | dropFields =>
    simp only [Party.step] at hs
    split at hs
    · rename_i hpc
      cases hs
      have ha : s.env.Attached .idle s.mark := h.at_pc hpc
      exact ⟨ha.dropFields, by simp [OwnSocket, PartyPc.owner], h.told⟩
    · cases hs
  | join =>
    simp only [Party.step] at hs
    split at hs
    · rename_i hpc hend
      cases hs
      have ha : s.env.Attached .closed s.mark := h.at_pc hpc
      exact ⟨ha, by simp [OwnSocket, PartyPc.owner], h.told⟩
    · cases hs
  | thread a =>
    obtain ⟨e, he, rfl⟩ := Option.map_eq_some_iff.mp hs
    exact ⟨h.attached.thread he, h.own.thread he, h.told⟩

theorem run_inv {name : String} {i : EnvId} {as : List PartyAct}
    (hr : Run (Party.step P) anyStep (new name i) as s) : s.Inv :=
  hr.invariant (I := Inv) (fun _ _ _ _ h hs => h.step hs) (inv_new name i)

/-! ## The rendezvous -/

/-- A waiting owner is owed a response: one is queued, or the thread is in its loop
with `add_listener_event` pending or being handled, or the thread has left it. -/
def Owed (s : Party) : Prop :=
  s.env.syncResponse.queue ≠ [] ∨
    s.env.pc.left = false ∧ (0 < s.env.addEvent ∨ s.env.pc.adding = true) ∨
    s.env.pc.left = true

theorem Inv.owed {socket : RawFd} (h : s.Inv) (hc : s.pc = .waiting socket) : s.Owed := by
  have ha : s.env.Attached (.waiting socket) s.mark := h.at_pc hc
  cases hl : s.env.pc.left with
  | true => exact .inr (.inr hl)
  | false => exact (ha.due hl).imp_right fun hdue => .inl ⟨hl, hdue⟩

theorem Inv.no_panic (h : s.Inv) : ¬ ((∃ rest, s.env.pc = .addDrain rest) ∧
    s.env.addListener.tryRecv = .disconnected) := by
  rintro ⟨⟨rest, hpc⟩, hr⟩
  have hc := h.attached.wired.owner.mp (Channel.tryRecv_eq_disconnected.mp hr).2
  exact h.attached.open_of_busy (by rw [hpc]; rfl) hc

/-- What holds in every interleaving: a waiting owner is owed a response; at most one
response is queued, and at most one socket while the thread is in its loop; every
call that has returned told the truth about its own socket; and the panic in
`add_listener` is not reached. -/
theorem attach_rendezvous {name : String} {i : EnvId} {as : List PartyAct}
    (hr : Run (Party.step P) anyStep (new name i) as s) :
    (∀ socket, s.pc = .waiting socket → s.Owed) ∧
    (s.env.syncResponse.queue.length ≤ 1 ∧
      (s.env.pc.left = false → s.env.addListener.queue.length ≤ 1)) ∧
    (∀ r ∈ s.returns, Return.Truthful r) ∧
    ¬ ((∃ rest, s.env.pc = .addDrain rest) ∧ s.env.addListener.tryRecv = .disconnected) := by
  have h := run_inv hr
  refine ⟨fun socket hc => h.owed hc, ⟨h.attached.inv.responses_le, fun hl => ?_⟩, h.told, h.no_panic⟩
  refine h.attached.inv.requests_le fun hs => ?_
  rw [EnvPc.left_of_server hs] at hl
  cases hl

/-- A thread that starts, attaches a socket and is asked for a second one. -/
def attachTwice : List PartyAct :=
  [.insertSend 5, .insertWrite, .thread (.allocNew (.ok (some 4096))), .thread (.epollNew (.ok ())),
    .thread (.epollAdd (.ok ())), .thread (.epollAdd (.ok ())), .thread (.wait (.ok [.add])),
    .thread (.dispatch (some .add)), .thread .addRead, .thread (.addTryRecv (.got 5)),
    .thread (.addEpoll 5 (.ok 0)), .thread (.addTryRecv .empty), .thread .respond, .insertRecv,
    .insertSend 6, .insertWrite]

theorem attach_rendezvous_twice : ∃ s : Party, s.pc = .waiting 6 ∧ s.Owed ∧ s.returns.length = 1 ∧
    ∀ r ∈ s.returns, Return.Truthful r := by
  obtain ⟨s, hs⟩ : ∃ s, (new "a" 0).replay .oneLetter attachTwice = some s :=
    Option.isSome_iff_exists.mp (by decide)
  have hpc : ((new "a" 0).replay .oneLetter attachTwice).map (fun s => (s.pc, s.returns.length)) =
      some (.waiting 6, 1) := by decide
  simp only [hs, Option.map_some, Option.some.injEq, Prod.mk.injEq] at hpc
  have h := attach_rendezvous (run_of_replay hs)
  exact ⟨s, hpc.1, h.1 6 hpc.1, hpc.2, h.2.2.1⟩

/-- A thread that fails to start gives up its response sender before it gives up
the sockets it was passed, so the owner is refused once and passes another one. -/
def refusedTwice : List PartyAct :=
  [.thread (.allocNew (.error 22)), .thread (.sendError (.sys .sysconf 22)),
    .thread (.closeSend true), .thread (.closeWrite true), .thread (.leave false),
    .thread .dropSync, .insertSend 5, .insertWrite, .insertRecv, .insertSend 6]

theorem two_undelivered : ¬ ∀ as (s : Party), Run (Party.step .oneLetter) anyStep (new "a" 0) as s →
    s.env.addListener.queue.length ≤ 1 := by
  intro h
  obtain ⟨s, hs⟩ : ∃ s, (new "a" 0).replay .oneLetter refusedTwice = some s :=
    Option.isSome_iff_exists.mp (by decide)
  have hq : ((new "a" 0).replay .oneLetter refusedTwice).map (fun s => s.env.addListener.queue) =
      some [5, 6] := by decide
  simp only [hs, Option.map_some, Option.some.injEq] at hq
  have hle := h _ s (run_of_replay hs)
  simp [hq] at hle

end Party
end Garnd
