import Garnd.Lib.PageLayout

/- How much memory an append-only layout takes. A request takes the room for its size
   and at most `align - 1` bytes before it, and what a page has left over when the next
   one is added is less than the request that did not fit. So the pages are never more
   than twice what was asked for, and one page (`Frugal.le`). -/
namespace PageLayout

variable {pageSize pages top demand size align : Nat}

/-- The full pages and the used part of the last one are at most twice the demand. -/
def Frugal (pageSize pages top demand : Nat) : Prop :=
  0 < pages → pageSize * (pages - 1) + top ≤ 2 * demand

theorem frugal_empty : Frugal pageSize 0 top demand := fun h => absurd h (Nat.lt_irrefl 0)

theorem Frugal.mono {demand' : Nat} (h : Frugal pageSize pages top demand)
    (hle : demand ≤ demand') : Frugal pageSize pages top demand' :=
  fun hp => (h hp).trans (Nat.mul_le_mul_left 2 hle)

/-- A request that fits on the last page. -/
theorem Frugal.fits (h : Frugal pageSize pages top demand) (ha : 0 < align) :
    Frugal pageSize pages (alignUp top align + size) (demand + (size + (align - 1))) := by
  intro hp
  have hold := h hp
  have hup := alignUp_lt top ha
  omega

/-- The pages that are full, and the one that is not. -/
theorem mul_pages (hp : 0 < pages) : pageSize * pages = pageSize * (pages - 1) + pageSize := by
  rw [← Nat.mul_succ, Nat.succ_eq_add_one, Nat.sub_add_cancel hp]

/-- A request that gets a page of its own, because there is none or it does not fit on
the last one. -/
theorem Frugal.fresh (h : Frugal pageSize pages top demand) (ha : 0 < align)
    (hfull : 0 < pages → pageSize < alignUp top align + size) :
    Frugal pageSize (pages + 1) size (demand + (size + (align - 1))) := by
  intro _
  rw [Nat.add_sub_cancel]
  rcases Nat.eq_zero_or_pos pages with rfl | hp
  · omega
  · have hold := h hp
    have hover := hfull hp
    have hup := alignUp_lt top ha
    rw [mul_pages hp]
    omega

/-- All pages together. -/
theorem Frugal.le (h : Frugal pageSize pages top demand) :
    pageSize * pages ≤ 2 * demand + pageSize := by
  rcases Nat.eq_zero_or_pos pages with rfl | hp
  · exact Nat.zero_le _
  · rw [mul_pages hp]
    exact Nat.add_le_add_right ((Nat.le_add_right _ top).trans (h hp)) pageSize

end PageLayout
