import Mathlib.Data.Nat.Notation

/- The errors the daemon passes around. `DetailedError` is the boxed error of
   the error channel: what was wrapped is kept, so that `main` can ask whether it
   is a `ShutdownSignal` or a `ReloadRequest`. A failed system call is the call and
   the `errno` it returned. The trace metadata the wrapper adds is only printed
   and is left out. -/
namespace Garnd

/-- A descriptor number. -/
abbrev RawFd := ℕ

/-- An `errno` value. -/
abbrev Errno := ℕ

/-- A wait was interrupted by a signal handler. -/
def eintr : Errno := 4

/-- A nonblocking operation that would have to wait. -/
def eagain : Errno := 11

/-- A send to a peer that takes nothing more. -/
def epipe : Errno := 32

/-- The fallible calls whose failures are reported. -/
inductive Call where
  | eventfd | eventRead | eventWrite | listen | poll | accept | getsockopt | recv | send | sendmsg
  | dup | spawn | sysconf | epollCreate | epollAdd | epollWait | memfdCreate | ftruncate | addSeals
  | mmap | mutexInit | notify | socket | bind | sigaction | privileges
  deriving DecidableEq, Repr

inductive RuntimeError where
  | privilegeChecksDisabled
  | userNonexistent
  | groupNonexistent
  | runAsWrongUser
  | runAsWrongGroup
  | runWithRootGroup
  | runWithCapabilities
  | mayObtainNewPrivileges
  | secureBitsNotSet
  | serviceAlreadyRunning
  | welcomeSocketFailed
  | getPageSizeFailed
  | resourceNameAlreadyInUse (resourceName : String)
  | resourceAlignmentLargerThanPage (pageSize alignment : ℕ)
  | resourceTooLargeForPage (pageSize size : ℕ)
  | resourceTypeMismatch (requestedType resourceType : String)
  deriving DecidableEq, Repr

inductive DetailedError where
  | sys (call : Call) (errno : Errno)
  | runtime (e : RuntimeError)
  | shutdownSignal
  | reloadRequest
  | ignoredRootRequest
  | tryRecvDisconnected
  | recvFailed
  | sendFailed
  | socketSendFailed (socket : RawFd)
  | invalidUtf8
  | malformed
  | serialize
  | intConversion
  deriving DecidableEq, Repr

/-- The socket an error owns: a `SendError` holds what could not be sent. -/
def DetailedError.socket : DetailedError → Option RawFd
  | .socketSendFailed socket => some socket
  | _ => none

/-- The messages after which `main` stops receiving. -/
def DetailedError.isTerminal : DetailedError → Bool
  | .shutdownSignal | .reloadRequest => true
  | _ => false

/-- What a function that may also panic comes back with. -/
inductive Outcome (α : Type) where
  | ok (a : α)
  | err (e : DetailedError)
  | panic
  deriving DecidableEq, Repr

end Garnd
