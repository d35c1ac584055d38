import FrontDoor.Net.Address
import FrontDoor.RequestContext

namespace FrontDoor.Http

/-- The methods an endpoint can serve, in the order in which they are listed to clients. -/
inductive Method where
  | get
  | head
  | trace
  | put
  | post
  | patch
  | options
  | delete
  | connect
deriving DecidableEq, Repr

namespace Method

def all : List Method := [get, head, trace, put, post, patch, options, delete, connect]

def name : Method → String
  | get => "GET"
  | head => "HEAD"
  | trace => "TRACE"
  | put => "PUT"
  | post => "POST"
  | patch => "PATCH"
  | options => "OPTIONS"
  | delete => "DELETE"
  | connect => "CONNECT"

def ofName? (name : String) : Option Method := all.find? fun m ↦ m.name = name

end Method

structure Request where
  method : String
  path : String
  query : Option String := none
  headers : List (String × String) := []
  peer : Option Net.SocketAddress := none
  context : Option RequestContext := none

namespace Request

/-- Splits a target into path and query; what follows `#` is dropped, and so are scheme and host. -/
def splitTarget (target : String) : String × Option String :=
  let cs := target.toList.takeWhile (· ≠ '#')
  let cs :=
    if cs.head? = some '/' then cs
    else
      match (List.range cs.length).find? fun i ↦ (cs.drop i).take 3 = [':', '/', '/'] with
      | some i => (cs.drop (i + 3)).dropWhile fun c ↦ c ≠ '/' && c ≠ '?'
      | none => cs
  let path := cs.takeWhile (· ≠ '?')
  let path := if path.isEmpty then ['/'] else path
  match cs.dropWhile (· ≠ '?') with
  | [] => (String.ofList path, none)
  | _ :: query => (String.ofList path, some (String.ofList query))

/-- The text of the first header with this name, if it is visible ASCII. -/
def header? (r : Request) (name : String) : Option String :=
  match r.headers.find? fun h ↦ h.1 = name with
  | some (_, value) =>
    if value.toList.all fun c ↦ ' ' ≤ c && c ≤ '~' || c = '\t' then some value else none
  | none => none

end Request

structure Response where
  status : Nat
  headers : List (String × String) := []
  body : String := ""
deriving DecidableEq

namespace Response

def header? (r : Response) (name : String) : Option String :=
  (r.headers.find? fun h ↦ h.1 = name).map (·.2)

def setHeader (r : Response) (name value : String) : Response :=
  { r with headers := (r.headers.filter fun h ↦ h.1 ≠ name) ++ [(name, value)] }

def addHeader (r : Response) (name value : String) : Response :=
  if (r.header? name).isSome then r else { r with headers := r.headers ++ [(name, value)] }

def empty (status : Nat) : Response := { status }

def text (status : Nat) (body : String) : Response :=
  { status, headers := [("content-type", "text/plain; charset=utf-8")], body }

def json (status : Nat) (body : String) : Response :=
  { status, headers := [("content-type", "application/json")], body }

def isSuccess (r : Response) : Bool := 200 ≤ r.status && r.status < 300

end Response

variable {υ : Type}

abbrev Service (υ : Type) := Request → Effect υ Response

abbrev Layer (υ : Type) := Service υ → Service υ

end FrontDoor.Http
