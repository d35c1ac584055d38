namespace FrontDoor

inductive ErrorKind where
  | notFound
  | authentication
  | authorization
  | validation
  | conflict
  | rateLimit
  | internal
  | configuration
  | plugin
  | serialization
deriving DecidableEq, Repr

namespace ErrorKind

def all : List ErrorKind :=
  [notFound, authentication, authorization, validation, conflict, rateLimit, internal, configuration,
    plugin, serialization]

def name : ErrorKind → String
  | notFound => "NotFound"
  | authentication => "Authentication"
  | authorization => "Authorization"
  | validation => "Validation"
  | conflict => "Conflict"
  | rateLimit => "RateLimit"
  | internal => "Internal"
  | configuration => "Configuration"
  | plugin => "Plugin"
  | serialization => "Serialization"

def code : ErrorKind → String
  | notFound => "NOT_FOUND"
  | authentication => "AUTHENTICATION"
  | authorization => "AUTHORIZATION"
  | validation => "VALIDATION"
  | conflict => "CONFLICT"
  | rateLimit => "RATE_LIMIT"
  | internal => "INTERNAL"
  | configuration => "CONFIGURATION"
  | plugin => "PLUGIN"
  | serialization => "SERIALIZATION"

def status : ErrorKind → Nat
  | validation => 400
  | authentication => 401
  | authorization => 403
  | notFound => 404
  | conflict => 409
  | rateLimit => 429
  | internal | configuration | plugin | serialization => 500

def ofName? (name : String) : Option ErrorKind := all.find? fun kind ↦ kind.name = name

end ErrorKind

end FrontDoor
