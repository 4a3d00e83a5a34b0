import Garnd.ShmAllocator
import Mathlib.Data.UInt

/- What the daemon takes from outside its own sources, and the part of the two
   `receive_and_parse_request` functions that is a function of the received bytes.
   `garnshared` fixes the largest sizes of a request, its deserializers and the
   mutex type; each protocol has one request, which names an environment or a
   mutex. The kernel fixes how many messages a peer's receive queue takes and
   where descriptor numbers end. The parties of the protocols have numbers that are never used again. -/
namespace Garnd

/-- An `Environment` that was made, and a connection a client made. -/
abbrev EnvId := ℕ
abbrev ConnId := ℕ

/-- The threads of the process. -/
inductive Thread where
  | main
  | welcome
  | env (i : EnvId)
  deriving DecidableEq, Repr

structure Externals where
  welcomeMaxSize : ℕ
  environmentMaxSize : ℕ
  deserializeWelcome : String → Option String
  deserializeEnvironment : String → Option String
  pthreadMutex : ShmType
  peerQueue : ℕ
  openMax : ℕ

/-- An instance for concrete runs: a request is one character, the name, and a peer
takes one message at a time. -/
def Externals.oneLetter : Externals where
  welcomeMaxSize := 1
  environmentMaxSize := 1
  deserializeWelcome s := if s = "\x00" then none else some s
  deserializeEnvironment s := if s = "\x00" then none else some s
  pthreadMutex := .pthreadMutex
  peerQueue := 1
  openMax := 16

/-- A message on a `SOCK_SEQPACKET` socket. -/
abbrev Message := List UInt8

/-- The zeroed buffer of `maxSize` bytes after `recv`: what does not fit is lost. -/
def receiveBuffer (maxSize : ℕ) (m : Message) : ByteArray :=
  ⟨(m.take maxSize ++ List.replicate (maxSize - m.length) 0).toArray⟩

/-- From the received message to the request: the whole buffer is checked to be
UTF-8 and handed to the deserializer. -/
def parseRequest (maxSize : ℕ) (deserialize : String → Option String) (m : Message) :
    Except DetailedError String :=
  match String.fromUTF8? (receiveBuffer maxSize m) with
  | none => .error .invalidUtf8
  | some requestStr =>
    match deserialize requestStr with
    | none => .error .malformed
    | some name => .ok name

theorem parseRequest_error {maxSize : ℕ} {deserialize : String → Option String} {m : Message}
    {err : DetailedError} (h : parseRequest maxSize deserialize m = .error err) :
    err.isTerminal = false := by
  unfold parseRequest at h
  split at h
  · cases h
    rfl
  · split at h <;> cases h
    rfl

/-- The request a welcome message carries: the environment to open. -/
def Externals.welcomeRequest (P : Externals) (m : Message) : Except DetailedError String :=
  parseRequest P.welcomeMaxSize P.deserializeWelcome m

/-- The request an environment message carries: the mutex to open. -/
def Externals.environmentRequest (P : Externals) (m : Message) : Except DetailedError String :=
  parseRequest P.environmentMaxSize P.deserializeEnvironment m

end Garnd
