import Garnd.Lib.PageUsage
import Garnd.ShmFailures

/- How much shared memory an allocator maps. Pages are only added for a call that gets a
   slot, and nothing is ever given back, so the bound is in what the calls that got one
   asked for, whether their constructors succeeded or not. -/
namespace Garnd
open PageLayout (Frugal alignUp_zero)
open Transition

namespace ShmAllocator

/-- What a call asks for: the bytes of its type, and those its alignment may cost. It
counts where the call gets a slot. -/
def demand (self : ShmAllocator) (c : ConstructCall) : List ℕ :=
  match (self.constructInShm c.name c.T c.os).slot with
  | some _ => [c.T.size + (c.T.align - 1)]
  | none => []

variable {a b : ShmAllocator} {c : ConstructCall} {demands : List ℕ}

/-- The pages are no more than the slots, and take twice what was asked for at most. -/
structure Modest (a : ShmAllocator) (demands : List ℕ) : Prop where
  inv : Inv a
  pages : a.pages.length ≤ demands.length
  frugal : Frugal a.pageSize a.pages.length a.freePtr demands.sum

/-- More may have been asked for. -/
theorem Modest.append (h : Modest a demands) (more : List ℕ) : Modest a (demands ++ more) := by
  refine ⟨h.inv, h.pages.trans ?_, h.frugal.mono ?_⟩
  · rw [List.length_append]
    exact Nat.le_add_right _ _
  · rw [List.sum_append]
    exact Nat.le_add_right _ _

/-- An allocator that is new has mapped nothing. -/
theorem modest_new {sysconf : Except Errno (Option Int64)} (hnew : new sysconf = .ok a)
    (demands : List ℕ) : Modest a demands := by
  refine ⟨new_inv hnew, ?_, ?_⟩ <;> rw [(new_empty hnew).1]
  · exact Nat.zero_le _
  · exact PageLayout.frugal_empty

/-- A call that gets a slot. -/
theorem Modest.placed {r : Constructed} {slot : Slot} (h : Modest a demands) (hinv : Inv r.self)
    (hc : Chosen a c b) (hp : Placed b c.name c.T c.os.constructor r slot) :
    Modest r.self (demands ++ [c.T.size + (c.T.align - 1)]) := by
  obtain ⟨hpages, hsize⟩ := hp.pages_eq
  refine ⟨hinv, ?_, ?_⟩
  · have hlen := h.pages
    rw [hpages, List.length_append, List.length_singleton]
    cases hc with
    | last => omega
    | fresh calls _ hnew =>
      obtain ⟨fd, mem, -, -, rfl⟩ := createNewPage_ok hnew
      simpa using hlen
  · rw [hpages, hsize, hp.freePtr_eq, List.sum_append, List.sum_singleton]
    cases hc with
    | last => exact h.frugal.fits c.T.align_pos
    | fresh calls hfull hnew =>
      obtain ⟨fd, mem, -, -, rfl⟩ := createNewPage_ok hnew
      rw [alignUp_zero, Nat.zero_add, List.length_append]
      exact h.frugal.fresh c.T.align_pos fun hpos => hfull (List.length_pos_iff.mp hpos)

/-- One call. -/
theorem Modest.step (h : Modest a demands) (hs : a.step c = some b) :
    Modest b (demands ++ demand a c) := by
  simp only [ShmAllocator.step, Option.some.injEq] at hs
  subst hs
  have hinv := construct_inv h.inv c.name c.T c.os
  rcases construct_reached h.inv c with ⟨-, b, slot, hc, hp⟩ | ⟨hr, hfails, hself⟩
  · simpa only [demand, hp.slot_eq] using h.placed hinv hc hp
  · rw [hself]
    exact h.append _

/-- **Memory.** After any calls, failing ones included: the pages are no more than the
slots that were handed out, and they take at most twice the bytes these were asked for
with their alignment, and one page. -/
theorem usage_bounded {sysconf : Except Errno (Option Int64)} {a₀ : ShmAllocator}
    {calls : List ConstructCall} (hnew : new sysconf = .ok a₀)
    (hrun : Run ShmAllocator.step anyStep a₀ calls a) :
    a.pages.length ≤ (collect ShmAllocator.step demand a₀ calls).length ∧
    a.pageSize * a.pages.length ≤
      2 * (collect ShmAllocator.step demand a₀ calls).sum + a.pageSize := by
  have h : Modest a ([] ++ collect ShmAllocator.step demand a₀ calls) :=
    hrun.invariant_collect (fun _ _ _ _ _ h hs => h.step hs) (modest_new hnew [])
  rw [List.nil_append] at h
  exact ⟨h.pages, h.frugal.le⟩

/-- Two mutexes and one whose constructor fails, on pages that hold one: slots of 47
bytes with their alignment, and three pages. -/
theorem usage_bounded_three : ∃ a, exec ShmAllocator.step (fun _ _ => true) ⟨∅, 64, [], 0⟩
      (twoCalls ++ [{ failing with name := "c" }]) = some a ∧ a.pages.length = 3 ∧
    a.pageSize * a.pages.length ≤ 2 * 141 + a.pageSize := by
  obtain ⟨a, hrun, hpages⟩ : ∃ a, exec ShmAllocator.step (fun _ _ => true) ⟨∅, 64, [], 0⟩
      (twoCalls ++ [{ failing with name := "c" }]) = some a ∧ a.pages.length = 3 :=
    ⟨_, rfl, rfl⟩
  have hnew : new (.ok (some 64)) = .ok ⟨∅, 64, [], 0⟩ := rfl
  have h := usage_bounded hnew (.of_exec (fun _ _ _ => trivial) hrun)
  have hsum : (collect ShmAllocator.step demand ⟨∅, 64, [], 0⟩
      (twoCalls ++ [{ failing with name := "c" }])).sum = 141 := rfl
  rw [hsum] at h
  exact ⟨a, hrun, hpages, h.2⟩

end ShmAllocator
end Garnd
