import FrontDoor.Error.Basic
import FrontDoor.Http.Message
import FrontDoor.Json.Printer
import FrontDoor.Json.Record

namespace FrontDoor.Http

structure ErrorBody where
  error : String
  message : String

namespace ErrorBody

def toJson (b : ErrorBody) : Json :=
  .ofMembers [("error", .text b.error), ("message", .text b.message)]

structure Partial where
  error : Option String := none
  message : Option String := none

open Json.Reader in
def fields : List (RecordField Partial) := [
  { name := "error"
    isSet := fun p ↦ p.error.isSome
    read := fun p ↦ return { p with error := some (← text) } },
  { name := "message"
    isSet := fun p ↦ p.message.isSome
    read := fun p ↦ return { p with message := some (← text) } }]

def Partial.finish (p : Partial) : Except String ErrorBody :=
  match p.error, p.message with
  | none, _ => .error "missing field `error`"
  | some _, none => .error "missing field `message`"
  | some error, some message => .ok ⟨error, message⟩

open Json.Reader in
def parse (s : String) : Except Json.Problem ErrorBody :=
  (record "ApiErrorResponse" maxDepth fields ({} : Partial) Partial.finish).run s

end ErrorBody

variable {υ : Type}

def errorResponse (e : AppError) : Response :=
  .json e.kind.status (ErrorBody.mk e.kind.code e.message).toJson.write

def respondWith (e : AppError) : Effect υ Response := do
  if 500 ≤ e.kind.status then
    Effect.log .error .errorResponse "Request failed"
      [("kind", .text e.kind.code), ("error", .text e.message)]
  return errorResponse e

end FrontDoor.Http

namespace FrontDoor.AppError

def ofJsonProblem (e : Json.Problem) : AppError :=
  ⟨.serialization, "JSON serialization error: " ++ e.text, [e.text]⟩

end FrontDoor.AppError

namespace FrontDoor.ErrorKind

open Json.Reader in
def parse (s : String) : Except Json.Problem ErrorKind :=
  (variant maxDepth (all.map name) ofName?).run s

end FrontDoor.ErrorKind
