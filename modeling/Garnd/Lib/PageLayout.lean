import Mathlib.Order.Interval.Set.Disjoint
import Mathlib.Order.Interval.Set.Basic
import Mathlib.Logic.Function.Basic
import Mathlib.Data.Nat.Prime.Basic
import Mathlib.Data.Set.BooleanAlgebra
import Mathlib.Order.CompletePartialOrder

/- Append-only layouts of named entries on pages of one size. Only the last page
   is being filled: `top` is its first byte that was never handed out, and it is
   reset when a page is added. `Sound` ties every entry on every page to that one
   number. The three operations (`addPage`, `raise`, `place`) keep it, and a slot
   at or above `top` on the last page meets no entry's bytes (`fresh_disjoint`).
   `alignUp` is the rounding such an allocator uses. -/
namespace PageLayout

/-- `p` rounded up to a multiple of `a`. -/
def alignUp (p a : Nat) : Nat := if p % a = 0 then p else p + (a - p % a)

theorem le_alignUp (p a : Nat) : p ≤ alignUp p a := by
  unfold alignUp
  split <;> omega

theorem dvd_alignUp {a : Nat} (p : Nat) (ha : 0 < a) : a ∣ alignUp p a := by
  unfold alignUp
  split
  · rename_i h
    exact Nat.dvd_of_mod_eq_zero h
  · have hlt : p % a < a := Nat.mod_lt p ha
    have hdiv : a * (p / a) + p % a = p := Nat.div_add_mod p a
    refine ⟨p / a + 1, ?_⟩
    rw [Nat.mul_add, Nat.mul_one]
    omega

theorem alignUp_lt {a : Nat} (p : Nat) (ha : 0 < a) : alignUp p a < p + a := by
  unfold alignUp
  have hlt : p % a < a := Nat.mod_lt p ha
  split <;> omega

/-- `alignUp p a` is the least multiple of `a` from `p` on. -/
theorem alignUp_le {p q a : Nat} (hpq : p ≤ q) (hq : a ∣ q) : alignUp p a ≤ q := by
  unfold alignUp
  split
  · exact hpq
  · rename_i hp
    obtain ⟨c, rfl⟩ := hq
    have hdiv : a * (p / a) + p % a = p := Nat.div_add_mod p a
    have hlt : p / a < c := by
      by_contra hle
      have := Nat.mul_le_mul_left a (Nat.le_of_not_lt hle)
      omega
    have hnext : a * (p / a + 1) ≤ a * c := Nat.mul_le_mul_left a hlt
    rw [Nat.mul_add, Nat.mul_one] at hnext
    omega

theorem alignUp_zero (a : Nat) : alignUp 0 a = 0 := by simp [alignUp]

/-- An entry: its page, its byte range on it, and the alignment it asked for. -/
structure Entry where
  page : Nat
  offset : Nat
  size : Nat
  align : Nat
  deriving DecidableEq, Repr

/-- The bytes an entry occupies on its page. -/
def Entry.bytes (e : Entry) : Set Nat := Set.Ico e.offset (e.offset + e.size)

/-- A layout over names `κ`. -/
structure State (κ : Type) where
  pageSize : Nat
  pages : Nat
  top : Nat
  entry : κ → Option Entry

/-- The layout invariant. -/
structure Sound {κ : Type} (s : State κ) : Prop where
  top_le : s.top ≤ s.pageSize
  page_lt : ∀ k e, s.entry k = some e → e.page < s.pages
  aligned : ∀ k e, s.entry k = some e → e.align ∣ e.offset
  fits : ∀ k e, s.entry k = some e → e.offset + e.size ≤ s.pageSize
  below : ∀ k e, s.entry k = some e → e.page + 1 = s.pages → e.offset + e.size ≤ s.top
  disjoint : ∀ k l e f, s.entry k = some e → s.entry l = some f → k ≠ l → e.page = f.page →
    Disjoint e.bytes f.bytes

variable {κ : Type} {s : State κ}

theorem bytes_disjoint {e f : Entry} (h : e.offset + e.size ≤ f.offset) :
    Disjoint e.bytes f.bytes :=
  Set.Ico_disjoint_Ico.mpr (by simp only [min_le_iff, le_max_iff]; omega)

/-- A slot at or above `top` on the last page meets no entry's bytes. -/
theorem Sound.fresh_disjoint (h : Sound s) {f : Entry} (hpage : f.page + 1 = s.pages)
    (htop : s.top ≤ f.offset) {k : κ} {e : Entry} (he : s.entry k = some e)
    (hsame : e.page = f.page) : Disjoint e.bytes f.bytes := by
  have hbelow := h.below k e he (by omega)
  exact bytes_disjoint (by omega)

/-- The layout with nothing on it. -/
def empty (κ : Type) (pageSize : Nat) : State κ := ⟨pageSize, 0, 0, fun _ => none⟩

theorem sound_empty (pageSize : Nat) : Sound (empty κ pageSize) where
  top_le := Nat.zero_le _
  page_lt := by simp [empty]
  aligned := by simp [empty]
  fits := by simp [empty]
  below := by simp [empty]
  disjoint := by simp [empty]

/-- A new last page, of which nothing is handed out. -/
def addPage (s : State κ) : State κ := { s with pages := s.pages + 1, top := 0 }

theorem Sound.addPage (h : Sound s) : Sound (addPage s) where
  top_le := Nat.zero_le _
  page_lt k e he := Nat.lt_succ_of_lt (h.page_lt k e he)
  aligned := h.aligned
  fits := h.fits
  below k e he hp := by
    have hlt : e.page < s.pages := h.page_lt k e he
    have hp : e.page + 1 = s.pages + 1 := hp
    omega
  disjoint := h.disjoint

/-- `top` moved up to `t`: the bytes below are handed out or given up. -/
def raise (s : State κ) (t : Nat) : State κ := { s with top := t }

theorem Sound.raise (h : Sound s) {t : Nat} (hle : s.top ≤ t) (ht : t ≤ s.pageSize) :
    Sound (raise s t) where
  top_le := ht
  page_lt := h.page_lt
  aligned := h.aligned
  fits := h.fits
  below k e he hp := Nat.le_trans (h.below k e he hp) hle
  disjoint := h.disjoint

variable [DecidableEq κ]

/-- The slot of `e` handed out on the last page and entered under `k`. -/
def place (s : State κ) (k : κ) (e : Entry) : State κ :=
  { raise s (e.offset + e.size) with entry := Function.update s.entry k (some e) }

theorem Sound.place (h : Sound s) {k : κ} {e : Entry} (hpage : e.page + 1 = s.pages)
    (htop : s.top ≤ e.offset) (hfit : e.offset + e.size ≤ s.pageSize) (hal : e.align ∣ e.offset) :
    Sound (place s k e) := by
  have hr : Sound (PageLayout.raise s (e.offset + e.size)) := h.raise (by omega) hfit
  have split {l : κ} {f : Entry} (hf : (PageLayout.place s k e).entry l = some f) :
      l = k ∧ f = e ∨ l ≠ k ∧ s.entry l = some f := by
    by_cases hl : l = k
    · subst hl
      simp [PageLayout.place] at hf
      exact .inl ⟨rfl, hf.symm⟩
    · simp [PageLayout.place, hl] at hf
      exact .inr ⟨hl, hf⟩
  refine ⟨hr.top_le, ?_, ?_, ?_, ?_, ?_⟩
  · intro l f hf
    rcases split hf with ⟨-, rfl⟩ | ⟨-, hf⟩
    · show f.page < s.pages
      omega
    · exact h.page_lt l f hf
  · intro l f hf
    rcases split hf with ⟨-, rfl⟩ | ⟨-, hf⟩
    · exact hal
    · exact h.aligned l f hf
  · intro l f hf
    rcases split hf with ⟨-, rfl⟩ | ⟨-, hf⟩
    · exact hfit
    · exact h.fits l f hf
  · intro l f hf hp
    rcases split hf with ⟨-, rfl⟩ | ⟨-, hf⟩
    · exact Nat.le_refl _
    · exact hr.below l f hf hp
  · intro l m f g hf hg hne hsame
    rcases split hf with ⟨rfl, rfl⟩ | ⟨-, hf'⟩
    · rcases split hg with ⟨rfl, -⟩ | ⟨-, hg'⟩
      · exact absurd rfl hne
      · exact (h.fresh_disjoint hpage htop hg' hsame.symm).symm
    · rcases split hg with ⟨-, rfl⟩ | ⟨-, hg'⟩
      · exact h.fresh_disjoint hpage htop hf' hsame
      · exact h.disjoint l m f g hf' hg' hne hsame

end PageLayout
