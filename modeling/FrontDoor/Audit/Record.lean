import FrontDoor.Json.Decode
import FrontDoor.Payload.Reading

namespace FrontDoor.Audit

structure Record where
  method : String
  path : String
  status : Nat
  requestId : Uuid
  timestamp : Time.Timestamp

namespace Record

def toJson (r : Record) : Json :=
  .ofMembers [("method", .text r.method), ("path", .text r.path), ("status", .int r.status),
    ("request_id", .text (toString r.requestId)), ("timestamp", .text (toString r.timestamp))]

def parsed {α : Type} (expected : String) (read : String → Except String α) : Json.Decoder α
  | .text s => read s
  | value => .error (Json.invalidType value expected)

open Json.Decode in
def ofJson : Json.Decoder Record :=
  record "AuditRecord" ["method", "path", "status", "request_id", "timestamp"] fun fields ↦ do
    return {
      method := ← fields.required "method" text
      path := ← fields.required "path" text
      status := ← fields.required "status" (natural "u16" 16)
      requestId := ← fields.required "request_id" (parsed "a formatted UUID string" Uuid.reading)
      timestamp := ← fields.required "timestamp"
        (parsed "an RFC 3339 formatted date and time string" Time.Timestamp.reading) }

end Record

structure Settings where
  capacity : Nat := 256

namespace Settings

open Json.Decode in
def ofJson : Json.Decoder Settings :=
  record "AuditSettings" ["capacity"] fun fields ↦ do
    return { capacity := ← fields.optional "capacity" (natural "usize" 64) ({} : Settings).capacity }

def toJson (s : Settings) : Json := .ofMembers [("capacity", .int s.capacity)]

end Settings

end FrontDoor.Audit
