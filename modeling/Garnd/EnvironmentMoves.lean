import Garnd.Environment

/- What one step of an environment thread can do, branch by branch (`Env.Moves`).
   `Env.step_moves` says that `Env.step` does nothing else, so that an invariant of
   the thread is a case analysis over `Moves` and never unfolds the step function. -/
namespace Garnd

/-! ## The errors of `handle_open_mutex` -/

namespace ShmAllocator

theorem createNewPage_error {self : ShmAllocator} {os : PageCalls} {err : DetailedError}
    (h : self.createNewPage os = .error err) : err.isTerminal = false := by
  unfold createNewPage at h
  repeat' split at h
  all_goals
    cases h
    try rfl

theorem placeAt_error {self : ShmAllocator} {name : String} {T : ShmType} {ptr : ℕ}
    {constructor : Except DetailedError Unit} {err : DetailedError}
    (h : (self.placeAt name T ptr constructor).result = .err err) : constructor = .error err := by
  unfold placeAt at h
  dsimp only at h
  split at h
  · cases h
  · split at h <;> cases h
    rfl

theorem allocate_error {self : ShmAllocator} {name : String} {T : ShmType} {os : ConstructCalls}
    {err : DetailedError} (h : (self.allocate name T os).result = .err err) :
    os.constructor = .error err ∨ err.isTerminal = false := by
  unfold allocate at h
  split at h
  · exact .inl (placeAt_error h)
  · split at h
    · rename_i hp
      cases h
      exact .inr (createNewPage_error hp)
    · split at h
      · exact .inl (placeAt_error h)
      · cases h

theorem constructInShm_error {self : ShmAllocator} {name : String} {T : ShmType}
    {os : ConstructCalls} {err : DetailedError}
    (h : (self.constructInShm name T os).result = .err err) :
    os.constructor = .error err ∨ err.isTerminal = false := by
  unfold constructInShm at h
  split at h
  · cases h
    exact .inr rfl
  · split at h
    · cases h
      exact .inr rfl
    · split at h
      · cases h
        exact .inr rfl
      · split at h
        · split at h
          · rename_i hp
            cases h
            exact .inr (createNewPage_error hp)
          · exact allocate_error h
        · exact allocate_error h

theorem findResource_error {self : ShmAllocator} {name : String} {T : ShmType} {err : DetailedError}
    (h : self.findResource name T = .err err) : err.isTerminal = false := by
  unfold findResource at h
  repeat' split at h
  all_goals
    cases h
    try rfl

theorem new_error {sysconf : Except Errno (Option Int64)} {err : DetailedError}
    (h : ShmAllocator.new sysconf = .err err) : err.isTerminal = false := by
  unfold ShmAllocator.new at h
  repeat' split at h
  all_goals
    cases h
    try rfl

end ShmAllocator

namespace Env

/-- An error of `handle_open_mutex` is none of the messages to `main`. -/
theorem findOrConstruct_error {P : Externals} {shm : ShmAllocator} {name : String}
    {os : ShmAllocator.ConstructCalls} {err : DetailedError} (hos : foreign os = true)
    (h : (findOrConstruct P shm name os).result = .err err) : err.isTerminal = false := by
  have hconstruct (he : os.constructor = .error err ∨ err.isTerminal = false) :
      err.isTerminal = false := by
    rcases he with he | he
    · simpa [foreign, he] using hos
    · exact he
  unfold findOrConstruct at h
  split at h
  · cases h
  · exact hconstruct (ShmAllocator.constructInShm_error h)
  · rename_i hf
    cases h
    exact ShmAllocator.findResource_error hf
  · cases h

/-! ## Steps -/

/-- The steps of the thread, one constructor for each branch. -/
inductive Moves (P : Externals) (e : Env) : EnvAct → Env → Prop
  | sendError {err errors} : e.outbox = err :: errors →
      Moves P e (.sendError err) { e with outbox := errors }
  | allocNew {sysconf shm} : e.outbox = [] → e.pc = .allocNew → ShmAllocator.new sysconf = .ok shm →
      Moves P e (.allocNew sysconf) { e with shm := some shm, pc := .epollNew }
  | allocFails {sysconf err} : e.outbox = [] → e.pc = .allocNew →
      ShmAllocator.new sysconf = .err err → Moves P e (.allocNew sysconf) (e.reportAndClose err)
  | allocPanics {sysconf} : e.outbox = [] → e.pc = .allocNew → ShmAllocator.new sysconf = .panic →
      Moves P e (.allocNew sysconf) { e with panicked := true, pc := .leave }
  | epollNew : e.outbox = [] → e.pc = .epollNew →
      Moves P e (.epollNew (.ok ())) { e with pc := .epollAdd 2 }
  | epollNewFails {errno} : e.outbox = [] → e.pc = .epollNew →
      Moves P e (.epollNew (.error errno)) (e.reportAndClose (.sys .epollCreate errno))
  | epollAdd {left} : e.outbox = [] → e.pc = .epollAdd left →
      Moves P e (.epollAdd (.ok ())) { e with pc := if left ≤ 1 then .wait else .epollAdd (left - 1) }
  | epollAddFails {left errno} : e.outbox = [] → e.pc = .epollAdd left →
      Moves P e (.epollAdd (.error errno)) (e.reportAndClose (.sys .epollAdd errno))
  | wait {events} : e.outbox = [] → e.pc = .wait → events ≠ [] →
      (events.map Event.registration).Nodup → (∀ ev ∈ events, e.raisable ev = true) →
      Moves P e (.wait (.ok events)) { e with pc := .batch events }
  | waitFails {errno} : e.outbox = [] → e.pc = .wait →
      Moves P e (.wait (.error errno))
        ({ e with interrupted := false }.reportAndClose (.sys .epollWait errno))
  | batchOver : e.outbox = [] → e.pc = .batch [] → Moves P e (.dispatch none) { e with pc := .wait }
  | addEvent {rest} : e.outbox = [] → e.pc = .batch (.add :: rest) →
      Moves P e (.dispatch (some .add)) { e with pc := .addRead rest }
  | dropEvent {rest} : e.outbox = [] → e.pc = .batch (.drop :: rest) →
      Moves P e (.dispatch (some .drop)) { e with pc := .dropRead rest }
  | lastGone {data source rest} : e.outbox = [] → e.pc = .batch (.conn data source true :: rest) →
      e.sockets.erase data = ∅ → Moves P e (.dispatch (some (.conn data source true)))
        { e with sockets := ∅, pc := .closeSend }
  | oneGone {data source rest} : e.outbox = [] → e.pc = .batch (.conn data source true :: rest) →
      e.sockets.erase data ≠ ∅ → Moves P e (.dispatch (some (.conn data source true)))
        { e with sockets := e.sockets.erase data, pc := .batch rest }
  | readable {data source rest} : e.outbox = [] → e.pc = .batch (.conn data source false :: rest) →
      Moves P e (.dispatch (some (.conn data source false)))
        { e with raisedBy := some source, pc := .recv data rest }
  | addRead {rest count} : e.outbox = [] → e.pc = .addRead rest →
      EventFd.read e.addEvent = some count →
      Moves P e .addRead { e with addEvent := count, pc := .addDrain rest }
  | addReadFails {rest} : e.outbox = [] → e.pc = .addRead rest → EventFd.read e.addEvent = none →
      Moves P e .addRead { e with pc := .respond (.error (.sys .eventRead eagain)) rest }
  | addTake {rest listener} : e.outbox = [] → e.pc = .addDrain rest →
      e.addListener.tryRecv = .got listener → Moves P e (.addTryRecv (.got listener))
        { e with addListener := e.addListener.rest, pc := .addEpoll listener rest }
  | addEmpty {rest} : e.outbox = [] → e.pc = .addDrain rest → e.addListener.tryRecv = .empty →
      Moves P e (.addTryRecv .empty) { e with pc := .respond (.ok ()) rest }
  | addPanics {rest} : e.outbox = [] → e.pc = .addDrain rest →
      e.addListener.tryRecv = .disconnected →
      Moves P e (.addTryRecv .disconnected) { e with panicked := true, pc := .leave }
  | addEpoll {listener source rest} : e.outbox = [] → e.pc = .addEpoll listener rest →
      Moves P e (.addEpoll listener (.ok source))
        { e with
          interest := (listener, source) :: e.interest
          sockets := insert listener e.sockets
          added := e.added ++ [(listener, source)]
          pc := .addDrain rest }
  | addEpollFails {listener errno rest} : e.outbox = [] → e.pc = .addEpoll listener rest →
      Moves P e (.addEpoll listener (.error errno))
        { e with pc := .respond (.error (.sys .epollAdd errno)) rest }
  | respond {result rest chan} : e.outbox = [] → e.pc = .respond result rest →
      e.syncResponse.send result = some chan →
      Moves P e .respond { e with syncResponse := chan, pc := .batch rest }
  | respondFails {result rest} : e.outbox = [] → e.pc = .respond result rest →
      e.syncResponse.send result = none →
      Moves P e .respond { e with outbox := [.sendFailed], pc := .batch rest }
  | dropRead {rest count} : e.outbox = [] → e.pc = .dropRead rest →
      EventFd.read e.dropEvent = some count →
      Moves P e .dropRead { e with dropEvent := count, pc := .leave }
  | dropReadFails {rest} : e.outbox = [] → e.pc = .dropRead rest →
      EventFd.read e.dropEvent = none →
      Moves P e .dropRead { e with outbox := [.sys .eventRead eagain], pc := .leave }
  | recvFails {fd rest errno serializes} : e.outbox = [] → e.pc = .recv fd rest →
      Moves P e (.recv fd (.error errno) serializes)
        { e with outbox := [.sys .recv errno], pc := .batch rest }
  | recv {fd rest m name serializes} : e.outbox = [] → e.pc = .recv fd rest →
      P.environmentRequest m = .ok name →
      Moves P e (.recv fd (.ok m) serializes) { e with pc := .openMutex fd name rest }
  | recvMalformed {fd rest m err} : e.outbox = [] → e.pc = .recv fd rest →
      P.environmentRequest m = .error err →
      Moves P e (.recv fd (.ok m) true) { e with pc := .send fd .malformedRequest [err] rest }
  | recvUnanswered {fd rest m err} : e.outbox = [] → e.pc = .recv fd rest →
      P.environmentRequest m = .error err →
      Moves P e (.recv fd (.ok m) false) { e with outbox := [err, .serialize], pc := .batch rest }
  | openMutex {fd name rest shm os serializes response errors} : e.outbox = [] →
      e.pc = .openMutex fd name rest → e.shm = some shm →
      (∀ n location, response = .openMutexOk n location →
        n = name ∧ (findOrConstruct P shm name os).result = .ok location) →
      (∀ err ∈ errors, err.isTerminal = false) → Moves P e (.openMutex os serializes)
        { e with
          shm := some (findOrConstruct P shm name os).self
          constructed :=
            if ranConstructor os (findOrConstruct P shm name os) then e.constructed ++ [name]
            else e.constructed
          pc := .send fd response errors rest }
  | openMutexPanics {fd name rest shm os serializes} : e.outbox = [] →
      e.pc = .openMutex fd name rest → e.shm = some shm →
      (findOrConstruct P shm name os).result = .panic →
      Moves P e (.openMutex os serializes)
        { e with
          shm := some (findOrConstruct P shm name os).self
          constructed :=
            if ranConstructor os (findOrConstruct P shm name os) then e.constructed ++ [name]
            else e.constructed
          panicked := true
          pc := .leave }
  | send {fd response errors rest} : e.outbox = [] → e.pc = .send fd response errors rest →
      Moves P e (.send fd response (.ok ())) { e with outbox := errors, pc := .batch rest }
  | sendFails {fd response errors rest errno} : e.outbox = [] →
      e.pc = .send fd response errors rest → Moves P e (.send fd response (.error errno))
        { e with outbox := errors ++ [.sys response.call errno], pc := .batch rest }
  | closeSend {sent} : e.outbox = [] → e.pc = .closeSend → Moves P e (.closeSend sent)
      { e with announced := true, pc := .closeWrite (if sent then [] else [.sendFailed]) }
  | closeWrite {written errors} : e.outbox = [] → e.pc = .closeWrite errors →
      Moves P e (.closeWrite written)
        { e with
          outbox := errors ++ (if written then [] else [.sys .eventWrite eagain])
          pc := .leave }
  | leave {panics} : e.outbox = [] → e.pc = .leave → (panics = true → e.hasResources = true) →
      Moves P e (.leave panics)
      { e with
        interest := []
        sockets := ∅
        shm := none
        panicked := e.panicked || panics
        pc := .captures }
  | dropSync : e.outbox = [] → e.pc = .captures → e.syncResponse.senders ≠ ∅ →
      Moves P e .dropSync
        { e with
          syncResponse := { e.syncResponse with senders := ∅ }
          pc := if e.addListener.receiver then .captures else .ended }
  | dropListener : e.outbox = [] → e.pc = .captures → e.addListener.receiver = true →
      Moves P e .dropListener
        { e with
          addListener := e.addListener.dropReceiver
          pc := if e.syncResponse.senders = ∅ then .ended else .captures }

variable {P : Externals} {e e' : Env} {a : EnvAct}

theorem dispatch_moves {next : Option Event} {events : List Event} (ho : e.outbox = [])
    (hpc : e.pc = .batch events) (hn : next = events.head?) :
    Moves P e (.dispatch next) (e.dispatch next events.tail) := by
  subst hn
  cases events with
  | nil => exact .batchOver ho hpc
  | cons ev rest =>
    cases ev with
    | add => exact .addEvent ho hpc
    | drop => exact .dropEvent ho hpc
    | conn data source hangup =>
      cases hangup with
      | false => exact .readable ho hpc
      | true =>
        simp only [List.head?_cons, List.tail_cons, dispatch, if_true]
        split
        · rename_i hs
          simp only [hs]
          exact .lastGone ho hpc hs
        · rename_i hs
          exact .oneGone ho hpc hs

theorem parse_moves {fd : RawFd} {rest : List Event} {r : Except Errno Message}
    {serializes : Bool} (ho : e.outbox = []) (hpc : e.pc = .recv fd rest) :
    Moves P e (.recv fd r serializes) (e.parse P fd rest serializes r) := by
  cases r with
  | error errno => exact .recvFails ho hpc
  | ok m =>
    simp only [parse]
    split
    · rename_i name hm
      exact .recv ho hpc hm
    · rename_i err hm
      cases serializes with
      | true => exact .recvMalformed ho hpc hm
      | false => exact .recvUnanswered ho hpc hm

theorem openMutex_moves {fd : RawFd} {name : String} {rest : List Event} {shm : ShmAllocator}
    {os : ShmAllocator.ConstructCalls} {serializes : Bool} (ho : e.outbox = [])
    (hpc : e.pc = .openMutex fd name rest) (hs : e.shm = some shm) (hos : foreign os = true) :
    Moves P e (.openMutex os serializes) (e.openMutex P shm fd name rest os serializes) := by
  simp only [openMutex]
  split
  · rename_i location hr
    split
    · refine .openMutex ho hpc hs (fun n l h => ?_) nofun
      cases h
      exact ⟨rfl, hr⟩
    · exact .openMutex ho hpc hs nofun (by simp [DetailedError.isTerminal])
  · rename_i err hr
    exact .openMutex ho hpc hs nofun (by simpa using findOrConstruct_error hos hr)
  · rename_i hr
    exact .openMutexPanics ho hpc hs hr

theorem act_moves (ho : e.outbox = []) (h : e.act P a = some e') : Moves P e a e' := by
  cases a with
  | sendError err => simp [act] at h
  | allocNew sysconf =>
    simp only [act] at h
    split at h
    · rename_i hpc
      split at h <;> rename_i hr <;> cases h
      · exact .allocNew ho hpc hr
      · exact .allocFails ho hpc hr
      · exact .allocPanics ho hpc hr
    · cases h
  | epollNew r =>
    simp only [act] at h
    split at h
    · rename_i hpc
      split at h <;> cases h
      · exact .epollNew ho hpc
      · exact .epollNewFails ho hpc
    · cases h
  | epollAdd r =>
    simp only [act] at h
    split at h
    · rename_i left hpc
      split at h <;> cases h
      · exact .epollAdd ho hpc
      · exact .epollAddFails ho hpc
    · cases h
  | wait r =>
    simp only [act] at h
    split at h
    · rename_i hpc
      split at h
      · split at h
        · rename_i hg
          obtain ⟨hne, -, hnd, hr⟩ := hg
          cases h
          exact .wait ho hpc hne hnd hr
        · cases h
      · cases h
        exact .waitFails ho hpc
    · cases h
  | dispatch next =>
    simp only [act] at h
    split at h
    · rename_i events hpc
      split at h
      · rename_i hn
        cases h
        exact dispatch_moves ho hpc hn
      · cases h
    · cases h
  | addRead =>
    simp only [act] at h
    split at h
    · rename_i rest hpc
      split at h <;> rename_i hr <;> cases h
      · exact .addRead ho hpc hr
      · exact .addReadFails ho hpc hr
    · cases h
  | addTryRecv r =>
    simp only [act] at h
    split at h
    · rename_i rest hpc
      split at h
      · rename_i hr
        split at h <;> cases h
        · exact .addTake ho hpc hr.symm
        · exact .addEmpty ho hpc hr.symm
        · exact .addPanics ho hpc hr.symm
      · cases h
    · cases h
  | addEpoll listener r =>
    simp only [act] at h
    split at h
    · rename_i listener' rest hpc
      split at h
      · rename_i hl
        subst hl
        split at h <;> cases h
        · exact .addEpoll ho hpc
        · exact .addEpollFails ho hpc
      · cases h
    · cases h
  | respond =>
    simp only [act] at h
    split at h
    · rename_i result rest hpc
      split at h <;> rename_i hr <;> cases h
      · exact .respond ho hpc hr
      · exact .respondFails ho hpc hr
    · cases h
  | dropRead =>
    simp only [act] at h
    split at h
    · rename_i rest hpc
      split at h <;> rename_i hr <;> cases h
      · exact .dropRead ho hpc hr
      · exact .dropReadFails ho hpc hr
    · cases h
  | recv fd r serializes =>
    simp only [act] at h
    split at h
    · rename_i fd' rest hpc
      split at h
      · rename_i hfd
        subst hfd
        cases h
        exact parse_moves ho hpc
      · cases h
    · cases h
  | openMutex os serializes =>
    simp only [act] at h
    split at h
    · rename_i fd name rest shm hpc hs
      split at h
      · rename_i hos
        cases h
        exact openMutex_moves ho hpc hs hos
      · cases h
    · cases h
  | send fd response r =>
    simp only [act] at h
    split at h
    · rename_i fd' response' errors rest hpc
      split at h
      · rename_i heq
        obtain ⟨rfl, rfl⟩ := heq
        split at h <;> cases h
        · exact .send ho hpc
        · exact .sendFails ho hpc
      · cases h
    · cases h
  | closeSend sent =>
    simp only [act] at h
    split at h
    · rename_i hpc
      cases h
      exact .closeSend ho hpc
    · cases h
  | closeWrite written =>
    simp only [act] at h
    split at h
    · rename_i errors hpc
      cases h
      exact .closeWrite ho hpc
    · cases h
  | leave panics =>
    simp only [act] at h
    split at h
    · rename_i hpc
      split at h
      · cases h
      · rename_i hp
        cases h
        refine .leave ho hpc fun hpanics => ?_
        simpa [hpanics] using hp
    · cases h
  | dropSync =>
    simp only [act] at h
    split at h
    · rename_i hpc
      split at h
      · cases h
      · rename_i hs
        cases h
        exact .dropSync ho hpc hs
    · cases h
  | dropListener =>
    simp only [act] at h
    split at h
    · rename_i hpc
      split at h
      · rename_i hr
        cases h
        exact .dropListener ho hpc hr
      · cases h
    · cases h

/-- Everything a step can do. -/
theorem step_moves (h : e.step P a = some e') : Moves P e a e' := by
  unfold step at h
  split at h
  · rename_i err
    split at h
    · rename_i err' errors ho
      split at h
      · rename_i heq
        subst heq
        cases h
        exact .sendError ho
      · cases h
    · cases h
  · split at h
    · rename_i ho
      exact act_moves ho h
    · cases h

end Env
end Garnd
