import Garnd.Errors
import Garnd.Lib.FixedWindow
import Mathlib.Data.Int.Order.Basic

/- `circuit_breaker.rs`: the guard against reload loops. The arithmetic is that of
   the code: `i64` and `usize` operations that wrap. `elapsed_iff` and
   `circuitBreaker_eq` show that nothing wraps and that the breaker is a
   fixed-window limiter on nanoseconds whose windows are one second longer than
   the configured epoch, because whole seconds are compared strictly. From the
   limiter follow the bound on reload storms (`reload_storm_bounded`) and when
   exactly a trip is one the configured epoch accounts for (`trip_accounted`). -/
namespace Garnd
open FixedWindow (Counter Counted)

/-- A reading of the monotonic clock. -/
structure Timespec where
  tvSec : Int64
  tvNsec : Int64
  sec_nonneg : 0 ≤ tvSec
  nsec_nonneg : 0 ≤ tvNsec
  nsec_lt : tvNsec < 1000000000
  deriving DecidableEq

/-- The reading when the system boots. -/
def Timespec.zero : Timespec := ⟨0, 0, by decide, by decide, by decide⟩

/-- The nanoseconds a reading stands for. -/
def Timespec.nanos (t : Timespec) : ℤ := t.tvSec.toInt * 1000000000 + t.tvNsec.toInt

/-- The three statics. The two of the epoch's start hold a clock reading. -/
structure CircuitBreaker where
  epochStart : Timespec
  reloadsSinceEpochStart : UInt64
  deriving DecidableEq

/-- The statics start at 0. -/
def CircuitBreaker.new : CircuitBreaker :=
  ⟨⟨0, 0, by decide, by decide, by decide⟩, 0⟩

/-- The constants. The first one is used as an `i64`. -/
def circuitBreakerEpochSeconds : Int64 := 3
def circuitBreakerReloadsPerEpoch : UInt64 := 100

namespace CircuitBreaker

/-- `seconds_since_epoch_start`. -/
def secondsSinceEpochStart (self : CircuitBreaker) (currentTime : Timespec) : Int64 :=
  currentTime.tvSec - self.epochStart.tvSec -
    (if self.epochStart.tvNsec > currentTime.tvNsec then 1 else 0)

/-- `circuit_breaker`, given what `clock_gettime` returned; `none` is `instant_exit`.
`E` and `R` are the constants. -/
def circuitBreaker (E : Int64) (R : UInt64) (self : CircuitBreaker)
    (clock : Except Errno Timespec) : Option CircuitBreaker :=
  match clock with
  | .error _ => none
  | .ok currentTime =>
    if self.secondsSinceEpochStart currentTime > E then
      some ⟨currentTime, 1⟩
    else if self.reloadsSinceEpochStart + 1 ≥ R then none
    else some { self with reloadsSinceEpochStart := self.reloadsSinceEpochStart + 1 }

/-- The calls at the readings, as long as they return. -/
def run (E : Int64) (R : UInt64) : CircuitBreaker → List Timespec → Option CircuitBreaker
  | self, [] => some self
  | self, t :: ts => (self.circuitBreaker E R (.ok t)).bind fun next => next.run E R ts

/-- The operations of one call do not overflow. -/
structure NoOverflow (self : CircuitBreaker) (t : Timespec) : Prop where
  difference : (t.tvSec - self.epochStart.tvSec).toInt = t.tvSec.toInt - self.epochStart.tvSec.toInt
  borrow : (self.secondsSinceEpochStart t).toInt = t.tvSec.toInt - self.epochStart.tvSec.toInt -
    (if self.epochStart.tvNsec > t.tvNsec then 1 else 0)
  counter : (self.reloadsSinceEpochStart + 1).toNat = self.reloadsSinceEpochStart.toNat + 1

/-! ## The breaker as a limiter -/

theorem sec_bounds (t : Timespec) : 0 ≤ t.tvSec.toInt ∧ t.tvSec.toInt < 2 ^ 63 :=
  ⟨Int64.le_iff_toInt_le.mp t.sec_nonneg, t.tvSec.toInt_lt⟩

theorem nsec_bounds (t : Timespec) : 0 ≤ t.tvNsec.toInt ∧ t.tvNsec.toInt < 1000000000 :=
  ⟨Int64.le_iff_toInt_le.mp t.nsec_nonneg, Int64.lt_iff_toInt_lt.mp t.nsec_lt⟩

/-- A difference that fits is exact. -/
theorem toInt_sub {a b : Int64} (hlo : -2 ^ 63 ≤ a.toInt - b.toInt) (hhi : a.toInt - b.toInt < 2 ^ 63) :
    (a - b).toInt = a.toInt - b.toInt := by
  rw [Int64.toInt_sub]
  exact Int.bmod_eq_of_le (by omega) (by omega)

/-- The counter of the limiter: nanoseconds, and the calls of the epoch. -/
def counter (self : CircuitBreaker) : Counter ℤ :=
  ⟨self.epochStart.nanos, self.reloadsSinceEpochStart.toNat⟩

/-- The width of the limiter's windows: one second more than the epoch. -/
def width (E : Int64) : ℤ := (E.toInt + 1) * 1000000000

theorem difference_exact {self : CircuitBreaker} {t : Timespec}
    (h : self.epochStart.nanos ≤ t.nanos) :
    (t.tvSec - self.epochStart.tvSec).toInt = t.tvSec.toInt - self.epochStart.tvSec.toInt ∧
      self.epochStart.tvSec.toInt ≤ t.tvSec.toInt := by
  have ⟨hs, hs'⟩ := sec_bounds self.epochStart
  have ⟨ht, ht'⟩ := sec_bounds t
  have ⟨hn, hn'⟩ := nsec_bounds self.epochStart
  have ⟨hm, hm'⟩ := nsec_bounds t
  unfold Timespec.nanos at h
  exact ⟨toInt_sub (by omega) (by omega), by omega⟩

theorem borrow_exact {self : CircuitBreaker} {t : Timespec}
    (h : self.epochStart.nanos ≤ t.nanos) :
    (self.secondsSinceEpochStart t).toInt = t.tvSec.toInt - self.epochStart.tvSec.toInt -
      (if self.epochStart.tvNsec > t.tvNsec then 1 else 0) := by
  obtain ⟨hd, hle⟩ := difference_exact h
  have ⟨ht, ht'⟩ := sec_bounds t
  have ⟨hs, hs'⟩ := sec_bounds self.epochStart
  unfold secondsSinceEpochStart
  split
  · rw [toInt_sub] <;> rw [hd, show (1 : Int64).toInt = 1 from rfl] <;> omega
  · rw [toInt_sub] <;> rw [hd, show (0 : Int64).toInt = 0 from rfl] <;> omega

/-- More than `E` whole seconds have passed exactly when `E + 1` seconds have. -/
theorem elapsed_iff {self : CircuitBreaker} {t : Timespec} (E : Int64)
    (h : self.epochStart.nanos ≤ t.nanos) :
    self.secondsSinceEpochStart t > E ↔ self.epochStart.nanos + width E ≤ t.nanos := by
  have ⟨hn, hn'⟩ := nsec_bounds self.epochStart
  have ⟨hm, hm'⟩ := nsec_bounds t
  have hb := borrow_exact h
  rw [gt_iff_lt, Int64.lt_iff_toInt_lt, hb]
  unfold Timespec.nanos width
  split <;> rename_i hborrow <;> rw [gt_iff_lt, Int64.lt_iff_toInt_lt] at hborrow <;> omega

theorem counter_exact {self : CircuitBreaker} {R : UInt64}
    (h : self.reloadsSinceEpochStart.toNat < R.toNat) :
    (self.reloadsSinceEpochStart + 1).toNat = self.reloadsSinceEpochStart.toNat + 1 := by
  have hR : R.toNat < 2 ^ 64 := R.toNat_lt
  rw [UInt64.toNat_add, show (1 : UInt64).toNat = 1 from rfl]
  omega

theorem noOverflow {self : CircuitBreaker} {t : Timespec} {R : UInt64}
    (h : self.epochStart.nanos ≤ t.nanos) (hcount : self.reloadsSinceEpochStart.toNat < R.toNat) :
    NoOverflow self t :=
  ⟨(difference_exact h).1, borrow_exact h, counter_exact hcount⟩

/-- One call of the breaker is one call of the limiter. -/
theorem circuitBreaker_eq {self : CircuitBreaker} {t : Timespec} (E : Int64) {R : UInt64}
    (h : self.epochStart.nanos ≤ t.nanos) (hcount : self.reloadsSinceEpochStart.toNat < R.toNat) :
    (self.circuitBreaker E R (.ok t)).map counter =
      FixedWindow.call (width E) R.toNat self.counter t.nanos := by
  have helapsed : self.secondsSinceEpochStart t > E ↔ self.counter.start + width E ≤ t.nanos :=
    elapsed_iff E h
  have hadd : (self.reloadsSinceEpochStart + 1).toNat = self.counter.count + 1 :=
    counter_exact hcount
  simp only [circuitBreaker, FixedWindow.call]
  by_cases hnext : self.counter.start + width E ≤ t.nanos
  · rw [if_pos (helapsed.mpr hnext), if_pos hnext]
    rfl
  · rw [if_neg (mt helapsed.mp hnext), if_neg hnext]
    by_cases hfull : self.reloadsSinceEpochStart + 1 ≥ R
    · have hle : R.toNat ≤ self.counter.count + 1 := by
        rw [← hadd]
        exact UInt64.le_iff_toNat_le.mp hfull
      rw [if_pos hfull, if_pos hle]
      rfl
    · have hlt : ¬ R.toNat ≤ self.counter.count + 1 := by
        rw [← hadd]
        exact mt UInt64.le_iff_toNat_le.mpr hfull
      rw [if_neg hfull, if_neg hlt]
      simp only [Option.map_some, counter, hadd]

/-- What a call that returns leaves: a count below the limit, and an epoch that has
started by the time of the call. -/
theorem circuitBreaker_returns {self next : CircuitBreaker} {t : Timespec} {E : Int64} {R : UInt64}
    (hR : 2 ≤ R) (h : self.epochStart.nanos ≤ t.nanos)
    (hcount : self.reloadsSinceEpochStart.toNat < R.toNat)
    (hret : self.circuitBreaker E R (.ok t) = some next) :
    next.reloadsSinceEpochStart.toNat < R.toNat ∧ next.epochStart.nanos ≤ t.nanos := by
  have hR' : 2 ≤ R.toNat := UInt64.le_iff_toNat_le.mp hR
  have hadd := counter_exact hcount
  unfold circuitBreaker at hret
  split at hret
  · cases hret
  · rename_i t' heq
    cases heq
    split at hret
    · cases hret
      exact ⟨hR', le_rfl⟩
    · split at hret
      · cases hret
      · rename_i hfull
        cases hret
        have hlt := mt UInt64.le_iff_toNat_le.mpr hfull
        exact ⟨not_le.mp hlt, h⟩

/-- The run: on readings that do not go back, the breaker is the limiter. -/
theorem run_eq {E : Int64} {R : UInt64} (hR : 2 ≤ R) {readings : List Timespec}
    {self : CircuitBreaker} (hcount : self.reloadsSinceEpochStart.toNat < R.toNat)
    (hsorted : readings.Pairwise (·.nanos ≤ ·.nanos))
    (hstart : ∀ t ∈ readings, self.epochStart.nanos ≤ t.nanos) :
    (self.run E R readings).map counter =
      FixedWindow.calls (width E) R.toNat self.counter (readings.map Timespec.nanos) := by
  induction readings generalizing self with
  | nil => rfl
  | cons t ts ih =>
    obtain ⟨hle, hts⟩ := List.pairwise_cons.mp hsorted
    have ht := hstart t List.mem_cons_self
    have heq := circuitBreaker_eq E ht hcount
    simp only [run, List.map_cons, FixedWindow.calls, ← heq]
    cases hcall : self.circuitBreaker E R (.ok t) with
    | none => rfl
    | some next =>
      obtain ⟨hcount', hstart'⟩ := circuitBreaker_returns hR ht hcount hcall
      exact ih hcount' hts fun u hu => hstart'.trans (hle u hu)

theorem nanos_nonneg (t : Timespec) : 0 ≤ t.nanos := by
  have ⟨hs, _⟩ := sec_bounds t
  have ⟨hn, _⟩ := nsec_bounds t
  unfold Timespec.nanos
  omega

theorem new_run_eq {E : Int64} {R : UInt64} (hR : 2 ≤ R) {readings : List Timespec}
    (hsorted : readings.Pairwise (·.nanos ≤ ·.nanos)) :
    (new.run E R readings).map counter =
      FixedWindow.calls (width E) R.toNat ⟨0, 0⟩ (readings.map Timespec.nanos) :=
  run_eq hR (Nat.lt_of_lt_of_le (by decide) (UInt64.le_iff_toNat_le.mp hR)) hsorted
    fun t _ => nanos_nonneg t

theorem width_pos {E : Int64} (hE : 0 ≤ E) : 0 < width E := by
  have h := Int64.le_iff_toInt_le.mp hE
  rw [show (0 : Int64).toInt = 0 from rfl] at h
  unfold width
  omega

/-- What holds of the statics after calls that all returned. -/
theorem new_run_counted {E : Int64} (hE : 0 ≤ E) {R : UInt64} (hR : 2 ≤ R)
    {readings : List Timespec} {self : CircuitBreaker}
    (hsorted : readings.Pairwise (·.nanos ≤ ·.nanos)) (h : new.run E R readings = some self) :
    ∃ old cur, Counted (width E) R.toNat (readings.map Timespec.nanos) self.counter old cur ∧
      FixedWindow.Agrees (width E) 0 (readings.map Timespec.nanos) self.counter cur ∧
      ∀ t : Timespec, (∀ u ∈ readings, u.nanos ≤ t.nanos) → self.epochStart.nanos ≤ t.nanos := by
  have heq := new_run_eq (E := E) hR hsorted
  rw [h, Option.map_some] at heq
  have hsorted' : (readings.map Timespec.nanos).Pairwise (· ≤ ·) := List.pairwise_map.mpr hsorted
  obtain ⟨old, cur, hcounted, hagrees, hlast⟩ := FixedWindow.counted
    (UInt64.le_iff_toNat_le.mp hR) (width_pos hE) hsorted'
    (fun t ht => by
      obtain ⟨u, -, rfl⟩ := List.mem_map.mp ht
      exact nanos_nonneg u) heq.symm
  refine ⟨old, cur, hcounted, hagrees, fun t ht => hlast t.nanos (nanos_nonneg t) ?_⟩
  intro u hu
  obtain ⟨v, hv, rfl⟩ := List.mem_map.mp hu
  exact ht v hv

theorem run_append {E : Int64} {R : UInt64} (self : CircuitBreaker) (ts us : List Timespec) :
    self.run E R (ts ++ us) = (self.run E R ts).bind fun next => next.run E R us := by
  induction ts generalizing self with
  | nil => rfl
  | cons t ts ih =>
    simp only [List.cons_append, run, Option.bind_assoc]
    congr 1
    funext next
    exact ih next

/-! ## Reload storms -/

/-- The first and the last of the readings are less than `E + 1` seconds apart. -/
def Within (E : Int64) (readings : List Timespec) : Prop :=
  ∀ first last, readings.head? = some first → readings.getLast? = some last →
    last.nanos - first.nanos < (E.toInt + 1) * 1000000000

/-- Calls inside such a span number `2 (R - 1)` at most. -/
theorem within_length_le {E : Int64} (hE : 0 ≤ E) {R : UInt64} (hR : 2 ≤ R)
    {readings calls : List Timespec} {self : CircuitBreaker}
    (hsorted : readings.Pairwise (·.nanos ≤ ·.nanos)) (h : new.run E R readings = some self)
    (hsub : calls.Sublist readings) (hwithin : Within E calls) :
    calls.length ≤ 2 * (R.toNat - 1) := by
  obtain ⟨old, cur, hcounted, -, -⟩ := new_run_counted hE hR hsorted h
  cases calls with
  | nil => exact Nat.zero_le _
  | cons first rest =>
    have hcalls := hsorted.sublist hsub
    obtain ⟨last, hlast⟩ : ∃ last, (first :: rest).getLast? = some last :=
      ⟨_, List.getLast?_cons⟩
    have hspan := hwithin first last rfl hlast
    have hin : ∀ t ∈ (first :: rest).map Timespec.nanos,
        first.nanos ≤ t ∧ t < first.nanos + width E := by
      intro t ht
      obtain ⟨u, hu, rfl⟩ := List.mem_map.mp ht
      have hlower : first.nanos ≤ u.nanos := by
        rcases List.mem_cons.mp hu with rfl | hu
        · exact le_rfl
        · exact (List.pairwise_cons.mp hcalls).1 u hu
      have hupper : u.nanos ≤ last.nanos := by
        obtain ⟨init, hinit⟩ := List.getLast?_eq_some_iff.mp hlast
        rw [hinit] at hcalls hu
        rcases List.mem_append.mp hu with hu | hu
        · exact (List.pairwise_append.mp hcalls).2.2 u hu last (List.mem_singleton_self last)
        · rw [List.mem_singleton.mp hu]
      unfold width
      omega
    have hlen := FixedWindow.length_le_spanned (hsub.map Timespec.nanos) hin
    rw [List.length_map] at hlen
    exact hlen.trans (hcounted.span first.nanos)

/-- **Reload storms.** On readings that do not go back, with the statics starting at
0: after every prefix of calls that returned, the counter is at most `R - 1`; no
operation of any call overflows, the last one included; of calls that all
returned, those in less than `E + 1` seconds number `2 (R - 1)` at most; so
`2 R - 1` calls in less than `E + 1` seconds end the process. -/
theorem reload_storm_bounded {E : Int64} (hE : 0 ≤ E) {R : UInt64} (hR : 2 ≤ R)
    {readings : List Timespec} (hsorted : readings.Pairwise (·.nanos ≤ ·.nanos)) :
    (∀ before self, before <+: readings → new.run E R before = some self →
      self.reloadsSinceEpochStart.toNat ≤ R.toNat - 1) ∧
    (∀ before t self, before ++ [t] <+: readings → new.run E R before = some self →
      NoOverflow self t) ∧
    (∀ self calls, new.run E R readings = some self → calls.Sublist readings → Within E calls →
      calls.length ≤ 2 * (R.toNat - 1)) ∧
    (∀ calls, calls.Sublist readings → Within E calls → 2 * R.toNat - 1 ≤ calls.length →
      new.run E R readings = none) := by
  have hR' : 2 ≤ R.toNat := UInt64.le_iff_toNat_le.mp hR
  have hbelow : ∀ before self, before <+: readings → new.run E R before = some self →
      self.reloadsSinceEpochStart.toNat < R.toNat := by
    intro before self hpre hrun
    obtain ⟨old, cur, hcounted, -, -⟩ :=
      new_run_counted hE hR (hsorted.sublist hpre.sublist) hrun
    exact hcounted.below
  refine ⟨?_, ?_, ?_, ?_⟩
  · intro before self hpre hrun
    have hlt := hbelow before self hpre hrun
    omega
  · intro before t self hpre hrun
    have hbefore : before <+: readings := (List.prefix_append before [t]).trans hpre
    obtain ⟨old, cur, -, -, hlast⟩ :=
      new_run_counted hE hR (hsorted.sublist hbefore.sublist) hrun
    have hle := (List.pairwise_append.mp (hsorted.sublist hpre.sublist)).2.2
    exact noOverflow (hlast t fun u hu => hle u hu t (List.mem_singleton_self t))
      (hbelow before self hbefore hrun)
  · intro self calls hrun hsub hwithin
    exact within_length_le hE hR hsorted hrun hsub hwithin
  · intro calls hsub hwithin hlen
    cases hrun : new.run E R readings with
    | none => rfl
    | some self =>
      have hle := within_length_le hE hR hsorted hrun hsub hwithin
      omega

/-- Readings at whole seconds, and at half past one. -/
def second (s : Int64) (h : 0 ≤ s) : Timespec := ⟨s, 0, h, by decide, by decide⟩
def halfPast (s : Int64) (h : 0 ≤ s) : Timespec := ⟨s, 500000000, h, by decide, by decide⟩

/-- Two reloads in an epoch of three seconds: the third within four ends the process. -/
theorem reload_storm_bounded_three :
    (∃ self, new.run 3 2 [second 10 (by decide)] = some self ∧
      self.reloadsSinceEpochStart.toNat ≤ 1) ∧
    new.run 3 2 [second 10 (by decide), second 11 (by decide), halfPast 13 (by decide)] = none := by
  have hsorted : [second 10 (by decide), second 11 (by decide), halfPast 13 (by decide)].Pairwise
      (·.nanos ≤ ·.nanos) := by decide
  have h := reload_storm_bounded (E := 3) (R := 2) (by decide) (by decide) hsorted
  refine ⟨⟨_, rfl, h.1 [second 10 (by decide)] _ ⟨_, rfl⟩ rfl⟩, ?_⟩
  refine h.2.2.2 _ (List.Sublist.refl _) ?_ (by decide)
  intro first last hfirst hlast
  cases hfirst
  cases hlast
  decide

/-! ## Trips -/

/-- The calls the breaker counts in the epoch that is current after the readings, in
nanoseconds. -/
def epochCalls (E : Int64) (readings : List Timespec) : List ℤ :=
  (FixedWindow.window (width E) (0, []) (readings.map Timespec.nanos)).2

/-- How many of the readings lie in the last `E` seconds before `t`. -/
def recentCalls (E : Int64) (t : Timespec) (readings : List Timespec) : ℕ :=
  (readings.filter fun u => t.nanos - E.toInt * 1000000000 ≤ u.nanos).length

/-- **Trips.** A call that reaches `instant_exit` makes `R` calls in the last `E`
seconds if and only if it comes at most `E` seconds after the first call of its
epoch. -/
theorem trip_accounted {E : Int64} (hE : 0 ≤ E) {R : UInt64} (hR : 2 ≤ R)
    {readings : List Timespec} {t : Timespec} {self : CircuitBreaker}
    (hsorted : (readings ++ [t]).Pairwise (·.nanos ≤ ·.nanos))
    (hrun : new.run E R readings = some self) (htrip : self.circuitBreaker E R (.ok t) = none) :
    R.toNat ≤ recentCalls E t (readings ++ [t]) ↔
      ∀ first, (epochCalls E readings).head? = some first →
        t.nanos ≤ first + E.toInt * 1000000000 := by
  obtain ⟨hbefore, -, hle⟩ := List.pairwise_append.mp hsorted
  obtain ⟨old, cur, hcounted, hagrees, hlast⟩ := new_run_counted hE hR hbefore hrun
  have hstart := hlast t fun u hu => hle u hu t (List.mem_singleton_self t)
  have hcall : FixedWindow.call (width E) R.toNat self.counter t.nanos = none := by
    rw [← circuitBreaker_eq E hstart hcounted.below, htrip]
    rfl
  have hnonneg : 0 ≤ E.toInt * 1000000000 := by
    have h := Int64.le_iff_toInt_le.mp hE
    rw [show (0 : Int64).toInt = 0 from rfl] at h
    omega
  have hcur : cur.Pairwise (· ≤ ·) := by
    refine (List.pairwise_map.mpr hbefore).sublist ?_
    rw [hcounted.split]
    exact List.sublist_append_right old cur
  have hepoch : epochCalls E readings = cur := congrArg Prod.snd hagrees
  have hcount : recentCalls E t (readings ++ [t]) =
      ((readings.map Timespec.nanos ++ [t.nanos]).filter
        fun u => t.nanos - E.toInt * 1000000000 ≤ u).length := by
    unfold recentCalls
    rw [← List.map_singleton, ← List.map_append, List.filter_map, List.length_map]
    rfl
  rw [hcount, hepoch, hcounted.refused (UInt64.le_iff_toNat_le.mp hR) hnonneg hcur hcall]
  simp only [sub_le_iff_le_add]

/-- With the code's constants: one reload at 10 s and 99 at 13.5 s. The last of them
ends the process, although only 99 lie in the last three seconds. -/
theorem trip_unaccounted : ∃ readings t self,
    (readings ++ [t]).Pairwise (·.nanos ≤ ·.nanos) ∧
    new.run circuitBreakerEpochSeconds circuitBreakerReloadsPerEpoch readings = some self ∧
    self.circuitBreaker circuitBreakerEpochSeconds circuitBreakerReloadsPerEpoch (.ok t) = none ∧
    recentCalls circuitBreakerEpochSeconds t (readings ++ [t]) < 100 :=
  ⟨second 10 (by decide) :: List.replicate 98 (halfPast 13 (by decide)), halfPast 13 (by decide),
    _, by decide +kernel, rfl, by decide +kernel, by decide +kernel⟩

/-- Two reloads at once, where two are too many. -/
theorem trip_accounted_two :
    2 ≤ recentCalls 3 (second 10 (by decide)) [second 10 (by decide), second 10 (by decide)] := by
  have hsorted : ([second 10 (by decide)] ++ [second 10 (by decide)]).Pairwise
      (·.nanos ≤ ·.nanos) := by decide
  refine (trip_accounted (E := 3) (R := 2) (by decide) (by decide) hsorted rfl (by decide)).mpr ?_
  intro first hfirst
  cases hfirst
  decide

end CircuitBreaker
end Garnd
