/-!
# Rate limiting

A bucket of permits, refilled at a steady rate and never above one second's
worth.  A request takes a permit at once if there is one.  Otherwise it may
**reserve** the next permit, if that becomes due within a timeout, and waits for
it; the number of permits available is then negative.

Times are exact numbers of seconds, so that adjacent refills add up and every law
of the limiter is a law of rational arithmetic.
-/

namespace HttpDispatch

/-- The permits at hand. -/
structure Bucket where
  /-- The number of permits; negative while some are reserved. -/
  available : Rat
  /-- When it was last refilled. -/
  refilledAt : Rat
  deriving DecidableEq, Repr

/-- **A rate limiter.** -/
structure RateLimiter where
  /-- Permits for each second. -/
  permitsPerSecond : Nat
  /-- How long a request may wait, in milliseconds. -/
  timeoutMs : Nat
  /-- The permits at hand. -/
  bucket : Bucket
  /-- The rate is positive. -/
  rate_pos : 0 < permitsPerSecond
  deriving DecidableEq, Repr

/-- The answer to a request for a permit. -/
inductive Permit where
  /-- Granted, after a wait in seconds. -/
  | granted (wait : Rat)
  /-- Refused. -/
  | refused
  deriving DecidableEq, Repr

/-- Whether a permit was granted. -/
def Permit.isGranted : Permit → Bool
  | granted _ => true
  | refused => false

/-- How long the caller waits. -/
def Permit.wait : Permit → Rat
  | granted wait => wait
  | refused => 0

namespace RateLimiter

/-- **A limiter with a full bucket**; a rate of zero is taken as one. -/
def start (permitsPerSecond timeoutMs : Nat) (now : Rat) : RateLimiter where
  permitsPerSecond := max permitsPerSecond 1
  timeoutMs := timeoutMs
  bucket := ⟨(max permitsPerSecond 1 : Nat), now⟩
  rate_pos := by omega

/-- The rate as a rational number. -/
def rate (l : RateLimiter) : Rat := l.permitsPerSecond

/-- Milliseconds as seconds. -/
def seconds (milliseconds : Nat) : Rat := (milliseconds : Rat) / 1000

/-- The time that has passed; a clock that steps back counts as one that stands
still. -/
def elapsed (since now : Rat) : Rat := if since ≤ now then now - since else 0

/-- **Refill a bucket**, up to one second's worth. -/
def refill (l : RateLimiter) (now : Rat) : Bucket :=
  let filled := l.bucket.available + elapsed l.bucket.refilledAt now * l.rate
  ⟨if filled ≤ l.rate then filled else l.rate, now⟩

/-- The limiter with another bucket. -/
def withBucket (l : RateLimiter) (bucket : Bucket) : RateLimiter := { l with bucket }

/-- A bucket with one permit less. -/
def spend (b : Bucket) : Bucket := { b with available := b.available - 1 }

/-- **Ask for a permit**, ready to wait some seconds for it. -/
def acquireFor (l : RateLimiter) (now timeout : Rat) : Permit × RateLimiter :=
  let bucket := l.refill now
  if 1 ≤ bucket.available then (.granted 0, l.withBucket (spend bucket))
  else
    let wait := (1 - bucket.available) / l.rate
    if timeout < wait then (.refused, l.withBucket bucket)
    else (.granted wait, l.withBucket (spend bucket))

/-- Ask for a permit, ready to wait as long as the limiter allows. -/
def acquire (l : RateLimiter) (now : Rat) : Permit × RateLimiter :=
  l.acquireFor now (seconds l.timeoutMs)

end RateLimiter

end HttpDispatch
