import TrackResolver.Config
import TrackResolver.Context.Json

/-!
# Settings as JSON

How settings are written, and how a limit is read.
-/
namespace TrackResolver

open Json (Node Reader Value field readUInt64)
open Reading (Record)

/-- How a limit is read from JSON. -/
def RateLimit.jsonRecord : Record Node RateLimit where
  name := "RateLimitConfig"
  blank := {}
  fields :=
    [field "requests" readUInt64 fun requests r => { r with requests },
     field "per_secs" readUInt64 fun perSeconds r => { r with perSeconds }]

def RateLimit.read : Reader RateLimit := Json.readRecord jsonRecord

def RateLimit.toJson (r : RateLimit) : Value :=
  .object [("requests", .integer r.requests.toNat), ("per_secs", .integer r.perSeconds.toNat)]

def ServerSettings.toJson (s : ServerSettings) : Value :=
  .object [("bind_address", .text s.bindAddress), ("rate_limit", s.rateLimit.toJson)]

def LoggingSettings.toJson (s : LoggingSettings) : Value :=
  .object (("level", .text s.level) :: Value.optional "log_file" .text s.file)

def Config.toJson (c : Config) : Value :=
  .object
    ([("server", c.server.toJson), ("logging", c.logging.toJson), ("context", c.context.toJson)] ++
      Value.optional "engines" (fun names => .list (names.map .text)) c.engines)

end TrackResolver
