import Mathlib.Algebra.Order.Group.Defs
import Mathlib.Data.List.Infix
import Mathlib.Tactic.Abel
import Mathlib.Tactic.Linarith

/- A limiter that counts calls in windows of a fixed width. A window starts at the
   first call that comes after the last one has passed, so windows do not tile
   the time axis. `Counted` says what the counter knows about the calls it has
   seen; from it, any span of one width meets two windows at most
   (`Counted.span_le`), and when a call is refused, the calls of the window are
   what the limit counts (`Counted.refused`). Times are an ordered group. -/
namespace FixedWindow

variable {τ : Type} [AddCommGroup τ] [LinearOrder τ]

/-- The start of the current window and the calls it has counted. -/
structure Counter (τ : Type) where
  start : τ
  count : ℕ

/-- One call at `t`: it starts a window, or it is counted in the current one, or
(`none`) it would bring the count to the limit. -/
def call (width : τ) (limit : ℕ) (c : Counter τ) (t : τ) : Option (Counter τ) :=
  if c.start + width ≤ t then some ⟨t, 1⟩
  else if limit ≤ c.count + 1 then none
  else some ⟨c.start, c.count + 1⟩

/-- The calls at `ts`, one after the other. -/
def calls (width : τ) (limit : ℕ) : Counter τ → List τ → Option (Counter τ)
  | c, [] => some c
  | c, t :: ts => (call width limit c t).bind fun d => calls width limit d ts

/-- The start of the window that is current after the calls at `ts`, and the calls
that fell into it. -/
def window (width : τ) : τ × List τ → List τ → τ × List τ
  | w, [] => w
  | w, t :: ts => window width (if w.1 + width ≤ t then (t, [t]) else (w.1, w.2 ++ [t])) ts

/-- How many of `ts` lie in the span of one width from `a` on. -/
def spanned (width a : τ) (ts : List τ) : ℕ := (ts.filter fun t => a ≤ t ∧ t < a + width).length

theorem calls_append {width : τ} {limit : ℕ} (c : Counter τ) (ts us : List τ) :
    calls width limit c (ts ++ us) =
      (calls width limit c ts).bind fun d => calls width limit d us := by
  induction ts generalizing c with
  | nil => rfl
  | cons t ts ih =>
    simp only [List.cons_append, calls, Option.bind_assoc]
    congr 1
    funext d
    exact ih d

theorem window_append {width : τ} (w : τ × List τ) (ts us : List τ) :
    window width w (ts ++ us) = window width (window width w ts) us := by
  induction ts generalizing w with
  | nil => rfl
  | cons t ts ih => exact ih _

theorem spanned_append (width a : τ) (ts us : List τ) :
    spanned width a (ts ++ us) = spanned width a ts + spanned width a us := by
  simp [spanned]

theorem spanned_le (width a : τ) (ts : List τ) : spanned width a ts ≤ ts.length :=
  List.length_filter_le _ _

/-- A sublist inside the span is counted whole. -/
theorem length_le_spanned {width a : τ} {us ts : List τ} (h : us.Sublist ts)
    (hin : ∀ t ∈ us, a ≤ t ∧ t < a + width) : us.length ≤ spanned width a ts := by
  have hall : us.filter (fun t => a ≤ t ∧ t < a + width) = us :=
    List.filter_eq_self.mpr fun t ht => decide_eq_true (hin t ht)
  calc us.length = (us.filter fun t => a ≤ t ∧ t < a + width).length := by rw [hall]
    _ ≤ spanned width a ts := (h.filter _).length_le

/-- What the counter says of the calls `ts` it has let pass: `cur` are those of the
current window and `old` the earlier ones. -/
structure Counted (width : τ) (limit : ℕ) (ts : List τ) (c : Counter τ) (old cur : List τ) :
    Prop where
  split : ts = old ++ cur
  count : cur.length = c.count
  below : c.count < limit
  before : ∀ t ∈ old, t < c.start
  inside : ∀ t ∈ cur, c.start ≤ t ∧ t < c.start + width
  recent : ∀ a, c.start < a + width → (old.filter fun t => a ≤ t).length < limit
  span : ∀ a, spanned width a ts ≤ 2 * (limit - 1)

theorem Counted.nil {width : τ} {limit : ℕ} (h : 0 < limit) (start : τ) :
    Counted width limit [] ⟨start, 0⟩ [] [] := by
  refine ⟨rfl, rfl, h, ?_, ?_, ?_, ?_⟩
  · intro t ht
    cases ht
  · intro t ht
    cases ht
  · intro a _
    exact h
  · intro a
    exact Nat.zero_le _

/-- A call that is counted in the current window. -/
theorem Counted.again {width : τ} {limit : ℕ} {ts old cur : List τ} {c : Counter τ} {t : τ}
    (h : Counted width limit ts c old cur) (hstart : c.start ≤ t) (ht : t < c.start + width)
    (hcount : c.count + 1 < limit) :
    Counted width limit (ts ++ [t]) ⟨c.start, c.count + 1⟩ old (cur ++ [t]) := by
  refine ⟨by rw [h.split, List.append_assoc], by simp [h.count], hcount, h.before, ?_, h.recent, ?_⟩
  · intro u hu
    rcases List.mem_append.mp hu with hu | hu
    · exact h.inside u hu
    · obtain rfl := List.mem_singleton.mp hu
      exact ⟨hstart, ht⟩
  · intro a
    by_cases ha : t < a + width
    · have hold : spanned width a old ≤ (old.filter fun u => a ≤ u).length := by
        refine (List.monotone_filter_right old fun u hu => ?_).length_le
        simp only [decide_eq_true_eq] at hu ⊢
        exact hu.1
      have hr := h.recent a (lt_of_le_of_lt hstart ha)
      have hcur := spanned_le width a (cur ++ [t])
      have hc := h.count
      rw [h.split, List.append_assoc, spanned_append]
      simp only [List.length_append, List.length_singleton] at hcur
      omega
    · have hnone : spanned width a [t] = 0 := by
        simp [spanned, ha]
      have hspan := h.span a
      rw [spanned_append]
      omega

variable [IsOrderedAddMonoid τ]

/-- A call that starts a window. What was recent to the new window was called in
the last one. -/
theorem Counted.next {width : τ} {limit : ℕ} {ts old cur : List τ} {c : Counter τ} {t : τ}
    (h : Counted width limit ts c old cur) (hlimit : 2 ≤ limit) (hwidth : 0 < width)
    (ht : c.start + width ≤ t) : Counted width limit (ts ++ [t]) ⟨t, 1⟩ ts [t] := by
  have hlt := h.below
  have hrecent : ∀ a, t < a + width → (ts.filter fun u => a ≤ u).length < limit := by
    intro a ha
    have hstart : c.start < a := lt_of_add_lt_add_right (lt_of_le_of_lt ht ha)
    have hold : old.filter (fun u => a ≤ u) = [] := by
      refine List.filter_eq_nil_iff.mpr fun u hu => ?_
      have hlt := (h.before u hu).trans hstart
      simpa using hlt
    have hcur := List.length_filter_le (fun u => a ≤ u) cur
    rw [h.split, List.filter_append, hold, List.nil_append]
    have hcount := h.count
    omega
  refine ⟨rfl, rfl, hlimit, ?_, ?_, hrecent, ?_⟩
  · intro u hu
    rw [h.split] at hu
    rcases List.mem_append.mp hu with hu | hu
    · exact (h.before u hu).trans_le (le_trans (le_add_of_nonneg_right hwidth.le) ht)
    · exact (h.inside u hu).2.trans_le ht
  · intro u hu
    obtain rfl := List.mem_singleton.mp hu
    exact ⟨le_rfl, lt_add_of_pos_right u hwidth⟩
  · intro a
    rw [spanned_append]
    by_cases ha : t < a + width
    · have hle : spanned width a ts ≤ (ts.filter fun u => a ≤ u).length := by
        refine (List.monotone_filter_right ts fun u hu => ?_).length_le
        simp only [decide_eq_true_eq] at hu ⊢
        exact hu.1
      have hone := spanned_le width a [t]
      have hr := hrecent a ha
      simp only [List.length_singleton] at hone
      omega
    · have hnone : spanned width a [t] = 0 := by
        simp [spanned, ha]
      have hspan := h.span a
      omega

/-- The window the counter is in is the one the calls determine. -/
def Agrees (width start : τ) (ts : List τ) (c : Counter τ) (cur : List τ) : Prop :=
  window width (start, []) ts = (c.start, cur)

/-- The run: after calls in order that all passed, the counter is right about them. -/
theorem counted {width start : τ} {limit : ℕ} (hlimit : 2 ≤ limit) (hwidth : 0 < width)
    {ts : List τ} {c : Counter τ} (hsorted : ts.Pairwise (· ≤ ·)) (hstart : ∀ t ∈ ts, start ≤ t)
    (h : calls width limit ⟨start, 0⟩ ts = some c) :
    ∃ old cur, Counted width limit ts c old cur ∧ Agrees width start ts c cur ∧
      ∀ t, start ≤ t → (∀ u ∈ ts, u ≤ t) → c.start ≤ t := by
  induction ts using List.reverseRecOn generalizing c with
  | nil =>
    cases h
    exact ⟨[], [], .nil (by omega) start, rfl, fun t ht _ => ht⟩
  | append_singleton ts t ih =>
    rw [calls_append] at h
    obtain ⟨d, hd, ht⟩ := Option.bind_eq_some_iff.mp h
    obtain ⟨hts, -, hle⟩ := List.pairwise_append.mp hsorted
    obtain ⟨old, cur, hcounted, hagrees, hlast⟩ :=
      ih hts (fun u hu => hstart u (List.mem_append_left _ hu)) hd
    have htstart := hstart t (List.mem_append_right _ (List.mem_singleton_self t))
    have hdt : d.start ≤ t := hlast t htstart fun u hu => hle u hu t (List.mem_singleton_self t)
    simp only [calls, call] at ht
    unfold Agrees at hagrees
    by_cases hnext : d.start + width ≤ t
    · simp only [hnext, if_true, Option.bind_some, Option.some.injEq] at ht
      subst ht
      refine ⟨ts, [t], hcounted.next hlimit hwidth hnext, ?_, ?_⟩
      · simp [Agrees, window_append, hagrees, window, hnext]
      · intro u _ hu
        exact hu t (by simp)
    · simp only [hnext, if_false] at ht
      by_cases hfull : limit ≤ d.count + 1
      · simp [hfull] at ht
      · simp only [hfull, if_false, Option.bind_some, Option.some.injEq] at ht
        subst ht
        refine ⟨old, cur ++ [t], hcounted.again hdt (not_le.mp hnext) (by omega), ?_, ?_⟩
        · simp [Agrees, window_append, hagrees, window, hnext]
        · intro u hu hall
          exact hlast u hu fun v hv => hall v (List.mem_append_left _ hv)

/-- A call that is refused, in terms of the calls before it: they and it fill the
window to the limit, and all of them lie in the last `e` exactly if the first of
the window does. -/
theorem Counted.refused {width e : τ} {limit : ℕ} {ts old cur : List τ} {c : Counter τ} {t : τ}
    (h : Counted width limit ts c old cur) (hlimit : 2 ≤ limit) (he : 0 ≤ e)
    (hsorted : cur.Pairwise (· ≤ ·)) (hcall : call width limit c t = none) :
    limit ≤ ((ts ++ [t]).filter fun u => t - e ≤ u).length ↔
      ∀ first, cur.head? = some first → t - e ≤ first := by
  have hfull : limit = cur.length + 1 := by
    unfold call at hcall
    have hb := h.below
    have hc := h.count
    split at hcall
    · cases hcall
    · split at hcall
      · omega
      · cases hcall
  obtain ⟨first, rest, hcur⟩ : ∃ first rest, cur = first :: rest := by
    cases hc : cur with
    | nil => rw [hc] at hfull; simp at hfull; omega
    | cons first rest => exact ⟨first, rest, rfl⟩
  have htself : t - e ≤ t := sub_le_self t he
  have hone : ([t].filter fun u => t - e ≤ u) = [t] := by simp [he]
  have hlen : limit = rest.length + 2 := by rw [hfull, hcur, List.length_cons]
  rw [h.split, hcur, List.filter_append, List.length_append, hone, List.filter_append,
    List.length_append, List.length_singleton]
  constructor
  · intro hle first' hf
    obtain rfl : first = first' := Option.some.inj hf
    by_contra hnot
    have hfirst : first < t - e := not_le.mp hnot
    -- what came before the window is older still
    have hold : old.filter (fun u => t - e ≤ u) = [] := by
      refine List.filter_eq_nil_iff.mpr fun u hu => ?_
      have hu' := (h.before u hu).trans_le (h.inside first (by rw [hcur]; simp)).1
      simp only [decide_eq_true_eq, not_le]
      exact hu'.trans hfirst
    have hrest := List.length_filter_le (fun u => t - e ≤ u) rest
    have hnot' : ¬ decide (t - e ≤ first) = true := by simpa only [decide_eq_true_eq] using hnot
    rw [hold, List.filter_cons, if_neg hnot'] at hle
    simp only [List.length_nil] at hle
    omega
  · intro hf
    have hfirst := hf first rfl
    have hall : (first :: rest).filter (fun u => t - e ≤ u) = first :: rest := by
      refine List.filter_eq_self.mpr fun u hu => decide_eq_true ?_
      rw [hcur] at hsorted
      rcases List.mem_cons.mp hu with rfl | hu
      · exact hfirst
      · exact hfirst.trans ((List.pairwise_cons.mp hsorted).1 u hu)
    rw [hall, List.length_cons]
    omega

end FixedWindow
