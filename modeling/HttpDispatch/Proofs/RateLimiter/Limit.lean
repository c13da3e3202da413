import HttpDispatch.Proofs.RateLimiter.Run

/-!
# What a rate limiter guarantees

However often and with whatever patience permits are asked for, in every window of time the
permits that take effect are at most one second's worth and what the rate allows for the
length of the window (`RateLimiter.grantsWithin_le`).  The bucket never holds more than one
second's worth, and never owes more than the most patient caller so far could wait for.

The argument for the windows is by `RateLimiter.emptyAt`.  A permit moves this time on by a
fixed step, and it takes effect no earlier than the time that it leads to, so the permits of a
window are at most as many as there are steps up to its end (`emptyAt_add_le`).  When the first
of them takes effect, that time is at most a second behind.
-/

namespace HttpDispatch

namespace RateLimiter

variable {l : RateLimiter} {a : Attempt} {as : List Attempt} {r : Permit × RateLimiter}

/-! ### The bucket -/

/-- **The bucket is never overfull.** -/
theorem Acquires.available_le (h : l.Acquires a r) : r.2.bucket.available ≤ l.rate := by
  have hrefill := l.available_refill_le a.now
  have hspend : (spend (l.refill a.now)).available ≤ l.rate :=
    (sub_le_self _ zero_le_one).trans hrefill
  cases h with
  | atOnce => exact hspend
  | reserved => exact hspend
  | refused => exact hrefill

/-- **The bucket owes no more than callers wait for.** -/
theorem Acquires.neg_le_available {longest : Rat} (h : l.Acquires a r)
    (htimeout : a.timeout ≤ longest) (hl : -(l.rate * longest) ≤ l.bucket.available) :
    -(l.rate * longest) ≤ r.2.bucket.available := by
  have howed : -(l.rate * longest) ≤ 0 :=
    neg_nonpos.2 (mul_nonneg l.zero_lt_rate.le (a.timeout_nonneg.trans htimeout))
  cases h with
  | atOnce stocked =>
      exact howed.trans (sub_nonneg.2 (due?_eq_none_iff.1 stocked))
  | @reserved wait due timely =>
      obtain ⟨-, hwait⟩ := due?_eq_some_iff.1 due
      rw [div_eq_iff l.zero_lt_rate.ne'] at hwait
      have hbound : wait * l.rate ≤ longest * l.rate :=
        mul_le_mul_of_nonneg_right (timely.trans htimeout) l.zero_lt_rate.le
      show -(l.rate * longest) ≤ (l.refill a.now).available - 1
      linarith
  | refused =>
      have hrefill := l.min_available_le_refill a.now
      exact (le_min hl (howed.trans l.zero_lt_rate.le)).trans hrefill

/-- The bounds for the bucket hold after every run. -/
theorem available_after {longest : Rat} (hlongest : ∀ a ∈ as, a.timeout ≤ longest)
    (hle : l.bucket.available ≤ l.rate) (hl : -(l.rate * longest) ≤ l.bucket.available) :
    (l.after as).bucket.available ≤ l.rate ∧
      -(l.rate * longest) ≤ (l.after as).bucket.available := by
  induction as generalizing l with
  | nil => exact ⟨hle, hl⟩
  | cons a as ih =>
      have step := l.acquires a
      rw [after_cons, ← step.rate_eq]
      refine ih (fun b hb => hlongest b (List.mem_cons_of_mem _ hb)) ?_ ?_
      · rw [step.rate_eq]
        exact step.available_le
      · rw [step.rate_eq]
        exact step.neg_le_available (hlongest a List.mem_cons_self) hl

/-! ### One permit -/

/-- The bucket is not empty any earlier for being asked. -/
theorem Acquires.emptyAt_le (h : l.Acquires a r) (clock : l.bucket.refilledAt ≤ a.now) :
    l.emptyAt ≤ r.2.emptyAt := by
  have hrefill : l.emptyAt ≤ (l.withBucket (l.refill a.now)).emptyAt := by
    rw [emptyAt_refill clock]
    exact le_max_left ..
  have hspend : l.emptyAt ≤ (l.withBucket (spend (l.refill a.now))).emptyAt := by
    rw [emptyAt_spend]
    exact hrefill.trans (le_add_of_nonneg_right l.rate_inv_pos.le)
  cases h with
  | atOnce => exact hspend
  | reserved => exact hspend
  | refused => exact hrefill

/-- **A permit that takes effect at a time**, and what it does to the limiter. -/
structure Spends (l : RateLimiter) (time : Rat) (next : RateLimiter) : Prop where
  /-- The bucket is empty one step later than before. -/
  step : l.emptyAt + l.rate⁻¹ ≤ next.emptyAt
  /-- The permit does not take effect before it has been refilled. -/
  refilled : next.emptyAt ≤ time
  /-- The bucket is empty within the second before. -/
  fresh : time - 1 + l.rate⁻¹ ≤ next.emptyAt

/-- A permit that is granted is spent when it takes effect. -/
theorem Acquires.spends {time : Rat} (h : l.Acquires a r) (clock : l.bucket.refilledAt ≤ a.now)
    (htime : effectiveAt? a.now r.1 = some time) : l.Spends time r.2 := by
  have hspend : (l.withBucket (spend (l.refill a.now))).emptyAt
      = max l.emptyAt (a.now - 1) + l.rate⁻¹ := by rw [emptyAt_spend, emptyAt_refill clock]
  have hstep : l.emptyAt + l.rate⁻¹ ≤ (l.withBucket (spend (l.refill a.now))).emptyAt := by
    rw [hspend]
    exact add_le_add_left (le_max_left ..) _
  cases h with
  | atOnce stocked =>
      obtain rfl : a.now + 0 = time := Option.some.inj htime
      refine ⟨hstep, ?_, ?_⟩
      · -- one permit, at least, was there before the last
        have hone : 1 ≤ (l.refill a.now).available := due?_eq_none_iff.1 stocked
        have hnonneg : 0 ≤ ((l.refill a.now).available - 1) * l.rate⁻¹ :=
          mul_nonneg (sub_nonneg.2 hone) l.rate_inv_pos.le
        rw [add_zero]
        exact sub_le_self _ hnonneg
      · rw [hspend, add_zero]
        exact add_le_add_left (le_max_right ..) _
  | reserved due timely =>
      obtain rfl := Option.some.inj htime
      rw [add_due?_eq due]
      exact ⟨hstep, le_rfl, by linarith [l.rate_inv_le_one]⟩
  | refused => cases htime

/-! ### Windows -/

/-- **How many permits take effect in a window** that opens at a time and is open for some
seconds. -/
def grantsWithin (l : RateLimiter) (as : List Attempt) (opening length : Rat) : Nat :=
  (l.grants as).countP fun t => opening ≤ t ∧ t ≤ opening + length

variable {opening length : Rat}

/-- An attempt adds nothing to a window, or one permit that takes effect in it. -/
theorem grantsWithin_cons (l : RateLimiter) (a : Attempt) (as : List Attempt)
    (opening length : Rat) :
    l.grantsWithin (a :: as) opening length = (l.attempt a).2.grantsWithin as opening length ∨
    ∃ time, effectiveAt? a.now (l.attempt a).1 = some time ∧ opening ≤ time ∧
      time ≤ opening + length ∧ l.grantsWithin (a :: as) opening length
        = (l.attempt a).2.grantsWithin as opening length + 1 := by
  simp only [grantsWithin, grants, List.countP_append]
  cases htime : effectiveAt? a.now (l.attempt a).1 with
  | none => simp
  | some time =>
      by_cases hwithin : opening ≤ time ∧ time ≤ opening + length
      · exact .inr ⟨time, rfl, hwithin.1, hwithin.2, by simp [hwithin, add_comm]⟩
      · exact .inl (by simp [hwithin])

/-- **The permits of a window** are steps up to its end. -/
theorem emptyAt_add_le (h : l.Chronological as)
    (hne : l.grantsWithin as opening length ≠ 0) :
    l.emptyAt + l.grantsWithin as opening length * l.rate⁻¹ ≤ opening + length := by
  induction as generalizing l with
  | nil => exact absurd rfl hne
  | cons a as ih =>
      obtain ⟨clock, later⟩ := chronological_cons_iff.1 h
      have step := l.acquires a
      rw [← step.rate_eq]
      rcases l.grantsWithin_cons a as opening length with hcount | ⟨time, htime, -, hle, hcount⟩
      · rw [hcount] at hne ⊢
        linarith [ih later hne, step.emptyAt_le clock]
      · have hspends := step.spends clock htime
        have hstep := hspends.step
        rw [← step.rate_eq] at hstep
        rw [hcount]
        push_cast
        by_cases hrest : (l.attempt a).2.grantsWithin as opening length = 0
        · rw [hrest]
          push_cast
          linarith [hspends.refilled]
        · linarith [ih later hrest]

/-- The permits of a window take up at most its length and the second before. -/
theorem grantsWithin_mul_le (h : l.Chronological as) (opening : Rat) (hlength : 0 ≤ length) :
    l.grantsWithin as opening length * l.rate⁻¹ ≤ 1 + length := by
  induction as generalizing l with
  | nil => simpa [grantsWithin, grants] using add_nonneg zero_le_one hlength
  | cons a as ih =>
      obtain ⟨clock, later⟩ := chronological_cons_iff.1 h
      have step := l.acquires a
      rw [← step.rate_eq]
      rcases l.grantsWithin_cons a as opening length with hcount | ⟨time, htime, hle, -, hcount⟩
      · rw [hcount]
        exact ih later
      · -- this is the first permit of the window: from here on it is a matter of steps
        have hfresh := (step.spends clock htime).fresh
        rw [← step.rate_eq] at hfresh
        rw [hcount]
        push_cast
        by_cases hrest : (l.attempt a).2.grantsWithin as opening length = 0
        · rw [hrest]
          push_cast
          linarith [(l.attempt a).2.rate_inv_le_one]
        · linarith [emptyAt_add_le later hrest]

/-- **The limit**: in every window, one second's worth and what the rate allows for its
length. -/
theorem grantsWithin_le (h : l.Chronological as) (opening : Rat) (hlength : 0 ≤ length) :
    l.grantsWithin as opening length ≤ l.rate + l.rate * length := by
  have hmul := grantsWithin_mul_le h opening hlength
  rw [← div_eq_mul_inv, div_le_iff₀ l.zero_lt_rate] at hmul
  linarith

/-! ### Whole runs -/

/-- The longest that a caller of a run is ready to wait. -/
def longest (as : List Attempt) : Rat := (as.map Attempt.timeout).foldr max 0

theorem timeout_le_longest (as : List Attempt) : ∀ a ∈ as, a.timeout ≤ longest as := by
  induction as with
  | nil => nofun
  | cons b as ih =>
      intro a ha
      rcases List.mem_cons.1 ha with rfl | ha
      · exact le_max_left ..
      · exact (ih a ha).trans (le_max_right ..)

theorem longest_nonneg (as : List Attempt) : 0 ≤ longest as := by
  induction as with
  | nil => exact le_rfl
  | cons a as ih => exact ih.trans (le_max_right ..)

/-- **A limiter keeps a rate** through a run. -/
structure Keeps (l : RateLimiter) (rate : Rat) (as : List Attempt) : Prop where
  /-- In every window the permits that take effect are limited. -/
  window : ∀ opening length, 0 ≤ length →
    (l.grantsWithin as opening length : Rat) ≤ rate + rate * length
  /-- The bucket holds at most one second's worth. -/
  available_le : (l.after as).bucket.available ≤ rate
  /-- It owes at most what the most patient caller could wait for. -/
  neg_le_available : -(rate * longest as) ≤ (l.after as).bucket.available
  /-- Waits that are computed are positive. -/
  due_pos : ∀ now wait, (l.after as).due? now = some wait → 0 < wait
  /-- Whoever is granted a permit waits no longer than he is ready to. -/
  wait_le : ∀ a wait, ((l.after as).attempt a).1 = .granted wait → wait ≤ a.timeout

/-- A permit that is granted is waited for within the timeout. -/
theorem Acquires.wait_le {wait : Rat} (h : l.Acquires a r) (hwait : r.1 = .granted wait) :
    wait ≤ a.timeout := by
  cases h with
  | atOnce => cases hwait; exact a.timeout_nonneg
  | reserved due timely => cases hwait; exact timely
  | refused => cases hwait

/-- **A limiter that starts with a full bucket keeps its rate** through every run in which the
clock does not step back. -/
theorem keeps_start {permitsPerSecond timeoutMs : Nat} {now : Rat} {as : List Attempt}
    (clock : (now :: as.map Attempt.now).IsChain (· ≤ ·)) :
    (start permitsPerSecond timeoutMs now).Keeps (max permitsPerSecond 1 : Nat) as := by
  have hrate := rate_start permitsPerSecond timeoutMs now
  have hclock : (start permitsPerSecond timeoutMs now).Chronological as := clock
  have hfull : (start permitsPerSecond timeoutMs now).bucket.available
      = (start permitsPerSecond timeoutMs now).rate := rfl
  have hnonneg := (start permitsPerSecond timeoutMs now).zero_lt_rate.le
  have hbucket := available_after (timeout_le_longest as) hfull.le
    ((neg_nonpos.2 (mul_nonneg hnonneg (longest_nonneg as))).trans (hnonneg.trans hfull.ge))
  rw [← hrate]
  exact
    { window := fun opening length hlength => grantsWithin_le hclock opening hlength
      available_le := hbucket.1
      neg_le_available := hbucket.2
      due_pos := fun now wait => due?_pos
      wait_le := fun a wait => (acquires _ a).wait_le }

/-- With two permits a second, a burst of five callers is granted two permits at once and one
after half a second; no more fit into that window. -/
theorem keeps_start_burst :
    let half : (0 : Rat) ≤ 1 / 2 := by decide +kernel
    let as : List Attempt :=
      [⟨0, 0, le_rfl⟩, ⟨0, 0, le_rfl⟩, ⟨0, 1 / 2, half⟩, ⟨0, 1 / 2, half⟩, ⟨1 / 4, 1 / 2, half⟩]
    (0 :: as.map Attempt.now).IsChain (· ≤ ·) ∧
      (start 2 200 0).Keeps (max 2 1 : Nat) as ∧
      (start 2 200 0).grants as = [0, 0, 1 / 2] ∧
      ((start 2 200 0).grantsWithin as 0 (1 / 2) : Rat) = 2 + 2 * (1 / 2) := by
  intro half as
  have clock : (0 :: as.map Attempt.now).IsChain (· ≤ ·) := by decide +kernel
  exact ⟨clock, keeps_start clock, by decide +kernel, by decide +kernel⟩

end RateLimiter

end HttpDispatch
