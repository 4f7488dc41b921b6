import TrackResolver.Context

/-!
# The settings of the service

What a settings file can say. Every part has a default, and a file that says nothing gives the
defaults.

`Config` is the service's `TomlConfig`; its parts are `ServerConfig`, `RateLimitConfig` with `is_enabled`
and `period`, and `LoggingConfig`.
-/
namespace TrackResolver

/-- At most `requests` calls in `perSeconds` seconds. -/
structure RateLimit where
  requests : UInt64 := 30
  perSeconds : UInt64 := 300
deriving DecidableEq

namespace RateLimit

/-- A limit of nothing, or in no time, is no limit. -/
def isEnabled (r : RateLimit) : Bool := 0 < r.requests && 0 < r.perSeconds

def period (r : RateLimit) : Duration := .ofSeconds r.perSeconds.toNat

end RateLimit

structure ServerSettings where
  bindAddress : String := "127.0.0.1:3000"
  rateLimit : RateLimit := {}
deriving DecidableEq

structure LoggingSettings where
  level : String := "info"
  file : Option String := none
deriving DecidableEq

structure Config where
  server : ServerSettings := {}
  logging : LoggingSettings := {}
  /-- The context that requests are laid on. -/
  context : Context := {}
  /-- The engines of a search that names none. -/
  engines : Option (List String) := none
deriving DecidableEq

end TrackResolver
