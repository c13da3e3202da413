import HttpDispatch.RateLimiter
import Mathlib.Algebra.Order.Field.Rat
import Mathlib.Algebra.Order.Group.MinMax
import Mathlib.Tactic.Linarith
import Mathlib.Tactic.Ring

/-!
# Runs of a rate limiter

A limiter is asked for permits one after the other, by callers that are ready to wait for
different times.  This module says what one attempt can lead to (`RateLimiter.acquires`) and
what a whole run leaves behind: the limiter (`RateLimiter.after`) and the times at which the
granted permits take effect (`RateLimiter.grants`).

### The time at which the bucket is empty

The number of permits and the time of the last refill move together, so neither is a good
measure of what has been handed out.  `RateLimiter.emptyAt` is: the time at which a bucket
that fills without a limit is empty, in the past while there are permits and in the future
while some are reserved.  Waiting does not change it, a permit moves it on by the time that
it takes to refill one (`emptyAt_spend`), and the limit on the bucket keeps it from falling
more than a second behind the clock (`emptyAt_refill`).
-/

namespace HttpDispatch

/-- **A request for a permit**: when it comes, and how many seconds it is ready to wait. -/
structure Attempt where
  /-- When it comes. -/
  now : Rat
  /-- How long it is ready to wait. -/
  timeout : Rat
  /-- Nobody waits for less than no time. -/
  timeout_nonneg : 0 ≤ timeout

namespace RateLimiter

variable {l : RateLimiter} {a : Attempt} {as : List Attempt} {now : Rat}

/-! ### The rate -/

theorem one_le_rate (l : RateLimiter) : 1 ≤ l.rate := by
  rw [rate]
  exact_mod_cast l.rate_pos

theorem zero_lt_rate (l : RateLimiter) : 0 < l.rate := one_pos.trans_le l.one_le_rate

theorem rate_inv_pos (l : RateLimiter) : 0 < l.rate⁻¹ := inv_pos.2 l.zero_lt_rate

theorem rate_inv_le_one (l : RateLimiter) : l.rate⁻¹ ≤ 1 := inv_le_one_of_one_le₀ l.one_le_rate

@[simp] theorem rate_start (permitsPerSecond timeoutMs : Nat) (now : Rat) :
    (start permitsPerSecond timeoutMs now).rate = (max permitsPerSecond 1 : Nat) := rfl

@[simp] theorem rate_withBucket (l : RateLimiter) (b : Bucket) : (l.withBucket b).rate = l.rate :=
  rfl

@[simp] theorem bucket_withBucket (l : RateLimiter) (b : Bucket) :
    (l.withBucket b).bucket = b := rfl

/-! ### Refilling -/

theorem elapsed_nonneg (since now : Rat) : 0 ≤ elapsed since now := by
  unfold elapsed
  split
  · exact sub_nonneg.2 ‹_›
  · exact le_rfl

@[simp] theorem refilledAt_refill (l : RateLimiter) (now : Rat) :
    (l.refill now).refilledAt = now := rfl

/-- A bucket is filled until it is full. -/
theorem available_refill (l : RateLimiter) (now : Rat) :
    (l.refill now).available
      = min (l.bucket.available + elapsed l.bucket.refilledAt now * l.rate) l.rate :=
  (min_def ..).symm

theorem available_refill_le (l : RateLimiter) (now : Rat) : (l.refill now).available ≤ l.rate := by
  rw [available_refill]
  exact min_le_right ..

/-- A refill takes no permit away, unless there were more than the bucket holds. -/
theorem min_available_le_refill (l : RateLimiter) (now : Rat) :
    min l.bucket.available l.rate ≤ (l.refill now).available := by
  rw [available_refill]
  refine min_le_min_right _ (le_add_of_nonneg_right ?_)
  exact mul_nonneg (elapsed_nonneg ..) l.zero_lt_rate.le

/-! ### The time at which the bucket is empty -/

/-- **When the bucket is empty**, if it fills without a limit. -/
def emptyAt (l : RateLimiter) : Rat := l.bucket.refilledAt - l.bucket.available * l.rate⁻¹

/-- **A refill** leaves the bucket empty when it was, but at most a second ago. -/
theorem emptyAt_refill (h : l.bucket.refilledAt ≤ now) :
    (l.withBucket (l.refill now)).emptyAt = max l.emptyAt (now - 1) := by
  have hinv : l.rate * l.rate⁻¹ = 1 := mul_inv_cancel₀ l.zero_lt_rate.ne'
  have hfilled : (l.bucket.available + (now - l.bucket.refilledAt) * l.rate) * l.rate⁻¹
      = l.bucket.available * l.rate⁻¹ + (now - l.bucket.refilledAt) := by
    rw [add_mul, mul_assoc, hinv, mul_one]
  have helapsed : elapsed l.bucket.refilledAt now = now - l.bucket.refilledAt := if_pos h
  rw [emptyAt, bucket_withBucket, refilledAt_refill, rate_withBucket, available_refill, helapsed,
    min_mul_of_nonneg _ _ l.rate_inv_pos.le, hfilled, hinv, emptyAt, ← max_sub_sub_left]
  congr 1
  ring

/-- **A permit** moves the time on by what it takes to refill one. -/
theorem emptyAt_spend (l : RateLimiter) (b : Bucket) :
    (l.withBucket (spend b)).emptyAt = (l.withBucket b).emptyAt + l.rate⁻¹ := by
  simp only [emptyAt, spend, bucket_withBucket, rate_withBucket]
  ring

/-! ### One attempt -/

/-- **How long until a permit is due**; computed only for want of one. -/
def due? (l : RateLimiter) (now : Rat) : Option Rat :=
  if 1 ≤ (l.refill now).available then none
  else some ((1 - (l.refill now).available) / l.rate)

theorem due?_eq_none_iff : l.due? now = none ↔ 1 ≤ (l.refill now).available := by
  simp [due?]

theorem due?_eq_some_iff {wait : Rat} :
    l.due? now = some wait ↔
      (l.refill now).available < 1 ∧ (1 - (l.refill now).available) / l.rate = wait := by
  simp [due?]

/-- **A wait that is computed is positive.** -/
theorem due?_pos {wait : Rat} (h : l.due? now = some wait) : 0 < wait := by
  obtain ⟨hlack, rfl⟩ := due?_eq_some_iff.1 h
  exact div_pos (sub_pos.2 hlack) l.zero_lt_rate

/-- A permit that is waited for is the one that empties the bucket when the wait is over. -/
theorem add_due?_eq {wait : Rat} (h : l.due? now = some wait) :
    now + wait = (l.withBucket (spend (l.refill now))).emptyAt := by
  obtain ⟨-, rfl⟩ := due?_eq_some_iff.1 h
  simp only [emptyAt, spend, bucket_withBucket, rate_withBucket, refilledAt_refill, div_eq_mul_inv]
  ring

/-- **Ask for a permit** and see what becomes of the limiter. -/
def attempt (l : RateLimiter) (a : Attempt) : Permit × RateLimiter :=
  l.acquireFor a.now a.timeout

/-- **What an attempt can lead to.** -/
inductive Acquires (l : RateLimiter) (a : Attempt) : Permit × RateLimiter → Prop
  /-- There is a permit. -/
  | atOnce (stocked : l.due? a.now = none) :
      Acquires l a (.granted 0, l.withBucket (spend (l.refill a.now)))
  /-- The next permit is due in time. -/
  | reserved {wait : Rat} (due : l.due? a.now = some wait) (timely : wait ≤ a.timeout) :
      Acquires l a (.granted wait, l.withBucket (spend (l.refill a.now)))
  /-- The next permit is due too late. -/
  | refused {wait : Rat} (due : l.due? a.now = some wait) (late : a.timeout < wait) :
      Acquires l a (.refused, l.withBucket (l.refill a.now))

theorem acquires (l : RateLimiter) (a : Attempt) : l.Acquires a (l.attempt a) := by
  rw [attempt, acquireFor]
  dsimp only
  split
  · next hstocked => exact .atOnce (due?_eq_none_iff.2 hstocked)
  · next hlack =>
      have due := due?_eq_some_iff.2 ⟨not_le.1 hlack, rfl⟩
      split
      · next hlate => exact .refused due hlate
      · next htimely => exact .reserved due (not_lt.1 htimely)

/-- No attempt changes the rate. -/
theorem Acquires.rate_eq {r : Permit × RateLimiter} (h : l.Acquires a r) : r.2.rate = l.rate := by
  cases h <;> rfl

/-- Every attempt refills the bucket. -/
theorem Acquires.refilledAt_eq {r : Permit × RateLimiter} (h : l.Acquires a r) :
    r.2.bucket.refilledAt = a.now := by
  cases h <;> rfl

/-! ### Runs -/

/-- **The limiter after a run.** -/
def after (l : RateLimiter) (as : List Attempt) : RateLimiter :=
  as.foldl (fun l a => (l.attempt a).2) l

@[simp] theorem after_nil (l : RateLimiter) : l.after [] = l := rfl

@[simp] theorem after_cons (l : RateLimiter) (a : Attempt) (as : List Attempt) :
    l.after (a :: as) = (l.attempt a).2.after as := rfl

@[simp] theorem rate_after (l : RateLimiter) (as : List Attempt) : (l.after as).rate = l.rate := by
  induction as generalizing l with
  | nil => rfl
  | cons a as ih => rw [after_cons, ih, (l.acquires a).rate_eq]

/-- When a permit takes effect, if it is granted: after the wait. -/
def effectiveAt? (now : Rat) : Permit → Option Rat
  | .granted wait => some (now + wait)
  | .refused => none

/-- **When the permits take effect** that a run is granted, in the order of the attempts. -/
def grants (l : RateLimiter) : List Attempt → List Rat
  | [] => []
  | a :: as => (effectiveAt? a.now (l.attempt a).1).toList ++ grants (l.attempt a).2 as

/-- **The clock does not step back** during a run. -/
def Chronological (l : RateLimiter) (as : List Attempt) : Prop :=
  (l.bucket.refilledAt :: as.map Attempt.now).IsChain (· ≤ ·)

theorem chronological_cons_iff :
    l.Chronological (a :: as) ↔
      l.bucket.refilledAt ≤ a.now ∧ (l.attempt a).2.Chronological as := by
  rw [Chronological, Chronological, (l.acquires a).refilledAt_eq, List.map_cons,
    List.isChain_cons_cons]

end RateLimiter

end HttpDispatch
