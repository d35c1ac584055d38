import FrontDoor.Decimal.Style
import FrontDoor.Json.Decode
import FrontDoor.RateLimit.Limiter
import FrontDoor.Text.Quoted

namespace FrontDoor.RateLimit

structure Settings where
  maxTokens : Nat := 60
  refillPerSecond : Float := 1.0
  priority : Int := 10
  scope : String := "/"
  pruneEvery : Nat := 1024

inductive SettingsError where
  | zeroCapacity
  | invalidRefill (rate : Float)

namespace SettingsError

def text : SettingsError → String
  | zeroCapacity => "max_tokens must be at least 1"
  | invalidRefill rate =>
    "refill_per_second must be a finite, non-negative number (got " ++ Decimal.plain.write rate ++ ")"

def outline : SettingsError → String
  | zeroCapacity => "ZeroCapacity"
  | invalidRefill rate => Text.Outline.tuple "InvalidRefill" [Decimal.outline.write rate]

end SettingsError

namespace Settings

def validate (s : Settings) : Except SettingsError Unit :=
  if s.maxTokens = 0 then .error .zeroCapacity
  else if !s.refillPerSecond.isFinite || s.refillPerSecond < 0.0 then
    .error (.invalidRefill s.refillPerSecond)
  else .ok ()

def limits (s : Settings) : Limits Float :=
  Limits.withPruneEvery ⟨s.maxTokens, s.refillPerSecond, 1024⟩ s.pruneEvery

open Json.Decode in
def ofJson : Json.Decoder Settings :=
  let default : Settings := {}
  record "RateLimitSettings" ["max_tokens", "refill_per_second", "priority", "scope", "prune_every"]
    fun fields ↦ do
    return {
      maxTokens := ← fields.optional "max_tokens" (natural "u32" 32) default.maxTokens
      refillPerSecond := ← fields.optional "refill_per_second" double default.refillPerSecond
      priority := ← fields.optional "priority"
        (integer "i32" (-0x80000000) 0x7fffffff) default.priority
      scope := ← fields.optional "scope" text default.scope
      pruneEvery := ← fields.optional "prune_every" (natural "usize" 64) default.pruneEvery }

def toJson (s : Settings) : Json :=
  .ofMembers [("max_tokens", .int s.maxTokens), ("refill_per_second", .ofFloat s.refillPerSecond),
    ("priority", .int s.priority), ("scope", .text s.scope), ("prune_every", .int s.pruneEvery)]

end Settings

def BucketStatus.toJson (s : BucketStatus Float) : Json :=
  .ofMembers [("key", .text s.key), ("remaining", .int s.remaining), ("max_tokens", .int s.maxTokens),
    ("refill_per_second", .ofFloat s.refillPerSecond)]

end FrontDoor.RateLimit
