import HttpDispatch.Config.Basic
import HttpDispatch.Negotiation.Registry
import HttpDispatch.RateLimiter

/-!
# What a configuration sets up

The translator registry of the negotiation section and the rate limiter of the
throttle section.
-/

namespace HttpDispatch

/-- The registry that a negotiation section describes: the built-in translators,
the configured extensions in key order, and the configured default. -/
def Registry.Setup.ofSettings (s : NegotiationSettings) : Registry.Setup where
  translators := empty.registerBuiltIn.translators
  aliases := s.extensions.entries
  defaultExtension := s.defaultExtension

/-- **The registry of a configuration.** -/
def Registry.ofSettings (s : NegotiationSettings) : Except ConfigError Registry :=
  (Setup.ofSettings s).build

/-- **The rate limiter of a configuration**, if there is a limit. -/
def RateLimiter.ofSettings? (s : ThrottleSettings) (now : Rat) : Option RateLimiter :=
  s.maxRequestsPerSecond.map fun rate => start rate s.acquireTimeoutMs now

end HttpDispatch
