import Mathlib.Data.Finset.Erase
import Mathlib.Data.Finset.Insert
import Mathlib.Data.Nat.Notation
import Mathlib.Algebra.Group.Nat.Defs

/- Multi-producer single-consumer channels and event counters. A channel knows
   who still holds a sender and whether the receiver is alive, because what
   `send` and `tryRecv` return depends on it. An event counter is the kernel's
   nonblocking eventfd: a read takes the whole count and fails on zero, a write
   fails where the count would pass the maximum. -/

/-- A channel of `α` with senders held by members of `κ`. -/
structure Channel (κ α : Type) where
  queue : List α
  senders : Finset κ
  receiver : Bool

/-- What a receive that does not wait returns. -/
inductive TryRecv (α : Type) where
  | got (a : α)
  | empty
  | disconnected
  deriving DecidableEq, Repr

namespace Channel

variable {κ α : Type} [DecidableEq κ]

/-- A new channel whose senders are held by `ks`. -/
def new (ks : Finset κ) : Channel κ α := ⟨[], ks, true⟩

/-- `send`: the message is refused where the receiver is gone. -/
def send (c : Channel κ α) (a : α) : Option (Channel κ α) :=
  if c.receiver then some { c with queue := c.queue ++ [a] } else none

/-- `try_recv`. A blocking receive returns the same, and waits on `empty`. -/
def tryRecv (c : Channel κ α) : TryRecv α :=
  match c.queue with
  | a :: _ => .got a
  | [] => if c.senders = ∅ then .disconnected else .empty

/-- The channel after a receive. -/
def rest (c : Channel κ α) : Channel κ α := { c with queue := c.queue.tail }

/-- The receiver is dropped, and what is queued with it. -/
def dropReceiver (c : Channel κ α) : Channel κ α := { c with queue := [], receiver := false }

omit [DecidableEq κ] in
theorem send_eq_some {c d : Channel κ α} {a : α} :
    c.send a = some d ↔ c.receiver = true ∧ d = { c with queue := c.queue ++ [a] } := by
  unfold send
  split <;> rename_i h <;> simp [h, eq_comm]

omit [DecidableEq κ] in
theorem send_eq_none {c : Channel κ α} {a : α} : c.send a = none ↔ c.receiver = false := by
  unfold send
  split <;> rename_i h <;> simp [h]

theorem tryRecv_eq_got {c : Channel κ α} {a : α} :
    c.tryRecv = .got a ↔ ∃ q, c.queue = a :: q := by
  unfold tryRecv
  split
  · rename_i b q hq
    simp [hq]
  · rename_i hq
    split <;> simp [hq]

theorem tryRecv_eq_empty {c : Channel κ α} :
    c.tryRecv = .empty ↔ c.queue = [] ∧ c.senders ≠ ∅ := by
  unfold tryRecv
  split
  · rename_i b q hq
    simp [hq]
  · rename_i hq
    split <;> rename_i hs <;> simp [hq, hs]

theorem tryRecv_eq_disconnected {c : Channel κ α} :
    c.tryRecv = .disconnected ↔ c.queue = [] ∧ c.senders = ∅ := by
  unfold tryRecv
  split
  · rename_i b q hq
    simp [hq]
  · rename_i hq
    split <;> rename_i hs <;> simp [hq, hs]

/-- One more sender, held by `k`. -/
def addSender (c : Channel κ α) (k : κ) : Channel κ α := { c with senders := insert k c.senders }

/-- The sender held by `k` is dropped. -/
def dropSender (c : Channel κ α) (k : κ) : Channel κ α := { c with senders := c.senders.erase k }

end Channel

namespace EventFd

/-- The largest count a counter holds. -/
def max : ℕ := 2 ^ 64 - 2

/-- `write(1)` on a counter: the new count, or `none` where it would pass `max`. -/
def write (count : ℕ) : Option ℕ := if count + 1 ≤ max then some (count + 1) else none

/-- `read` on a counter: the new count, or `none` on zero. -/
def read (count : ℕ) : Option ℕ := if count = 0 then none else some 0

theorem write_eq_some {count next : ℕ} :
    write count = some next ↔ count < max ∧ next = count + 1 := by
  unfold write
  split <;> simp [eq_comm] <;> omega

theorem write_zero : write 0 = some 1 := by simp [write, max]

theorem read_eq_some {count next : ℕ} : read count = some next ↔ 0 < count ∧ next = 0 := by
  unfold read
  split <;> simp [eq_comm] <;> omega

theorem read_eq_none {count : ℕ} : read count = none ↔ count = 0 := by
  unfold read
  split <;> simp_all

end EventFd
