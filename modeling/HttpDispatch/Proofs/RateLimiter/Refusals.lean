import HttpDispatch.Proofs.RateLimiter.Run

/-!
# Refused attempts leave no trace

An attempt that is refused refills the bucket all the same, and moves the time of the last refill.
Nobody else can tell: refills over adjacent times add up (`RateLimiter.refilled_refilled`), also
where the limit on the bucket cuts one of them short and where permits are owed.  So a limiter that
has refused somebody and one that was never asked answer alike from then on
(`RateLimiter.SameFrom`).

For a whole run this means that refused attempts may be left out of it, all of them or some, and
all that is on record about the others stays (`RateLimiter.transcript_of_leavesOut`): a caller
neither gains nor loses permits by asking more often.
-/

namespace HttpDispatch

deriving instance DecidableEq for Attempt

namespace RateLimiter

variable {l l' : RateLimiter} {a : Attempt} {as : List Attempt} {now later : Rat}

/-! ### Refills add up -/

/-- The limiter with its bucket refilled. -/
def refilled (l : RateLimiter) (now : Rat) : RateLimiter := l.withBucket (l.refill now)

@[simp] theorem rate_refilled (l : RateLimiter) (now : Rat) : (l.refilled now).rate = l.rate := rfl

@[simp] theorem bucket_refilled (l : RateLimiter) (now : Rat) :
    (l.refilled now).bucket = l.refill now := rfl

@[simp] theorem withBucket_refilled (l : RateLimiter) (now : Rat) (b : Bucket) :
    (l.refilled now).withBucket b = l.withBucket b := rfl

/-- Two gains one after the other, each cut at a limit, are one gain. -/
theorem min_add_min_add {gain : Rat} (held before limit : Rat) (hgain : 0 ≤ gain) :
    min (min (held + before) limit + gain) limit = min (held + (before + gain)) limit := by
  rw [min_add, min_assoc, min_eq_right (le_add_of_nonneg_right hgain), add_assoc]

/-- **Refills over adjacent times add up.** -/
theorem refill_refilled (hnow : l.bucket.refilledAt ≤ now) (hlater : now ≤ later) :
    (l.refilled now).refill later = l.refill later := by
  have hbefore : elapsed l.bucket.refilledAt now = now - l.bucket.refilledAt := if_pos hnow
  have hsince : elapsed now later = later - now := if_pos hlater
  have hwhole : elapsed l.bucket.refilledAt later = later - l.bucket.refilledAt :=
    if_pos (hnow.trans hlater)
  have hgain : 0 ≤ (later - now) * l.rate :=
    mul_nonneg (sub_nonneg.2 hlater) l.zero_lt_rate.le
  have havailable : ((l.refilled now).refill later).available = (l.refill later).available := by
    rw [available_refill, available_refill, bucket_refilled, available_refill, refilledAt_refill,
      rate_refilled, hbefore, hsince, hwhole, min_add_min_add _ _ _ hgain]
    congr 2
    ring
  exact congrArg (Bucket.mk · later) havailable

theorem refilled_refilled (hnow : l.bucket.refilledAt ≤ now) (hlater : now ≤ later) :
    (l.refilled now).refilled later = l.refilled later :=
  congrArg l.withBucket (refill_refilled hnow hlater)

/-! ### Limiters that cannot be told apart -/

/-- **The same from some time on**: refilled at that time or later, the limiters are equal. -/
def SameFrom (time : Rat) (l l' : RateLimiter) : Prop :=
  ∀ now, time ≤ now → l.refilled now = l'.refilled now

theorem SameFrom.refl (time : Rat) (l : RateLimiter) : SameFrom time l l := fun _ _ => rfl

/-- What a limiter finds due, it reads off its bucket when that is refilled. -/
theorem due?_congr (h : l.refilled now = l'.refilled now) : l.due? now = l'.due? now := by
  have hbucket : l.refill now = l'.refill now := congrArg bucket h
  have hrate : l.rate = l'.rate := by rw [← rate_refilled l now, h, rate_refilled]
  rw [due?, due?, hbucket, hrate]

/-- **Limiters that are equal when refilled answer alike** and are equal thereafter. -/
theorem attempt_congr (h : l.refilled a.now = l'.refilled a.now) : l.attempt a = l'.attempt a := by
  have hbucket : l.refill a.now = l'.refill a.now := congrArg bucket h
  have hrate : l.rate = l'.rate := by rw [← rate_refilled l a.now, h, rate_refilled]
  have hwith (b : Bucket) : l.withBucket b = l'.withBucket b := by
    rw [← withBucket_refilled l a.now, h, withBucket_refilled]
  simp only [attempt, acquireFor, hbucket, hrate, hwith]

/-- A limiter that refuses is refilled, and nothing else. -/
theorem Acquires.eq_refilled {r : Permit × RateLimiter} (h : l.Acquires a r)
    (hrefused : r.1 = .refused) : r.2 = l.refilled a.now := by
  cases h with
  | atOnce => cases hrefused
  | reserved => cases hrefused
  | refused => rfl

/-- **Nobody can tell afterwards that somebody was refused.** -/
theorem SameFrom.of_refused (h : SameFrom l.bucket.refilledAt l l')
    (clock : l.bucket.refilledAt ≤ a.now) (hrefused : (l.attempt a).1 = .refused) :
    SameFrom (l.attempt a).2.bucket.refilledAt (l.attempt a).2 l' := by
  intro now hnow
  rw [(l.acquires a).refilledAt_eq] at hnow
  rw [(l.acquires a).eq_refilled hrefused, refilled_refilled clock hnow]
  exact h now (clock.trans hnow)

/-! ### Whole runs -/

/-- **An attempt on record**, with all that was worked out for it. -/
structure Entry where
  /-- The attempt. -/
  attempt : Attempt
  /-- How long until a permit was due, if there was none. -/
  due : Option Rat
  /-- The answer. -/
  permit : Permit
  deriving DecidableEq

/-- **The record of a run.** -/
def transcript (l : RateLimiter) : List Attempt → List Entry
  | [] => []
  | a :: as => ⟨a, l.due? a.now, (l.attempt a).1⟩ :: transcript (l.attempt a).2 as

@[simp] theorem transcript_nil (l : RateLimiter) : l.transcript [] = [] := rfl

theorem transcript_cons (l : RateLimiter) (a : Attempt) (as : List Attempt) :
    l.transcript (a :: as)
      = ⟨a, l.due? a.now, (l.attempt a).1⟩ :: (l.attempt a).2.transcript as := rfl

/-- **Some refused attempts are left out** of a record, and nothing else is. -/
inductive LeavesOut : List Entry → List Entry → Prop
  | nil : LeavesOut [] []
  | keep {es kept : List Entry} (e : Entry) : LeavesOut es kept → LeavesOut (e :: es) (e :: kept)
  | leave {e : Entry} {es kept : List Entry} :
      e.permit = .refused → LeavesOut es kept → LeavesOut (e :: es) kept

/-- What is kept of a record is the record of any limiter that cannot be told apart from the
first one. -/
theorem SameFrom.transcript_eq {kept : List Entry} (same : SameFrom l.bucket.refilledAt l l')
    (clock : l.Chronological as) (h : LeavesOut (l.transcript as) kept) :
    l'.transcript (kept.map Entry.attempt) = kept := by
  induction as generalizing l l' kept with
  | nil =>
      cases h
      rfl
  | cons a as ih =>
      obtain ⟨hnow, hrest⟩ := chronological_cons_iff.1 clock
      rw [transcript_cons] at h
      cases h with
      | @keep _ kept _ hkept =>
          -- from here on the two limiters are one
          have hsame := same a.now hnow
          have htail := ih (.refl _ _) hrest hkept
          rw [List.map_cons, transcript_cons, ← due?_congr hsame, ← attempt_congr hsame, htail]
      | leave hrefused hkept => exact ih (same.of_refused hnow hrefused) hrest hkept

/-- **Refused attempts may be left out of a run**: what is on record about the others stays. -/
theorem transcript_of_leavesOut {kept : List Entry} (clock : l.Chronological as)
    (h : LeavesOut (l.transcript as) kept) : l.transcript (kept.map Entry.attempt) = kept :=
  (SameFrom.refl _ l).transcript_eq clock h

/-- Two permits a second, and a bucket in debt: one of two callers who are refused while it is
being paid back did not have to come, for all that the last caller gets. -/
theorem transcript_of_leavesOut_debt :
    let eighth : (0 : Rat) ≤ 1 / 8 := by decide +kernel
    let threeEighths : (0 : Rat) ≤ 3 / 8 := by decide +kernel
    let as : List Attempt :=
      [⟨0, 0, le_rfl⟩, ⟨0, 0, le_rfl⟩, ⟨1 / 4, 3 / 8, threeEighths⟩,
        ⟨1 / 2, 1 / 8, eighth⟩, ⟨3 / 4, 0, le_rfl⟩, ⟨7 / 8, 1 / 8, eighth⟩]
    let kept : List Entry :=
      [⟨⟨0, 0, le_rfl⟩, none, .granted 0⟩, ⟨⟨0, 0, le_rfl⟩, none, .granted 0⟩,
        ⟨⟨1 / 4, 3 / 8, threeEighths⟩, some (1 / 4), .granted (1 / 4)⟩,
        ⟨⟨3 / 4, 0, le_rfl⟩, some (1 / 4), .refused⟩,
        ⟨⟨7 / 8, 1 / 8, eighth⟩, some (1 / 8), .granted (1 / 8)⟩]
    (start 2 200 0).Chronological as ∧ LeavesOut ((start 2 200 0).transcript as) kept ∧
      (start 2 200 0).transcript (kept.map Entry.attempt) = kept := by
  intro eighth threeEighths as kept
  have clock : (start 2 200 0).Chronological as := by
    unfold Chronological
    decide +kernel
  have hrecord : (start 2 200 0).transcript as
      = kept.take 3 ++ ⟨⟨1 / 2, 1 / 8, eighth⟩, some (1 / 2), .refused⟩ :: kept.drop 3 := by
    decide +kernel
  have hleaves : LeavesOut ((start 2 200 0).transcript as) kept := by
    rw [hrecord]
    exact .keep _ (.keep _ (.keep _ (.leave rfl (.keep _ (.keep _ .nil)))))
  exact ⟨clock, hleaves, transcript_of_leavesOut clock hleaves⟩

end RateLimiter

end HttpDispatch
