import FrontDoor.Config.Coercion
import FrontDoor.Config.Path
import FrontDoor.Toml.Document

namespace FrontDoor.Config

abbrev Layer := List (String × Value)

inductive Format where
  | toml
  | json
deriving DecidableEq

namespace Format

def all : List Format := [.toml, .json]

def ending : Format → String
  | .toml => "toml"
  | .json => "json"

def rootText : Value → String
  | .scalar _ (.int n) => "64-bit integer `" ++ toString n ++ "`"
  | .scalar _ (.double x) => "floating point `" ++ Decimal.plain.write x ++ "`"
  | value => value.kindText

def read (format : Format) (origin : Option String) (text : String) : Except String Layer :=
  match format with
  | .toml =>
    match Toml.parse text with
    | none => .error "TOML parse error"
    | some members => (Value.ofTomlMembers origin members).mapError Value.Overflow.text
  | .json =>
    match Json.parse text with
    | .error problem => .error problem.text
    | .ok value =>
      match Value.ofJson origin value with
      | .table _ members => .ok members
      | value =>
        .error (Complaint.text ⟨"invalid type: " ++ rootText value ++ ", expected a map", "", origin⟩)

end Format

def tidyPath (path : String) : String :=
  "/".intercalate ((path.splitOn "/").filter fun part ↦ part ≠ "" ∧ part ≠ ".")

/-- What follows the last point of a file's name, unless the name starts with that point. -/
def ending? (path : String) : Option String :=
  match ((path.splitOn "/").getLastD "").splitOn "." with
  | [_] | ["", _] => none
  | parts => parts.getLast?

/-- The file that a name stands for: the name itself if it ends as a format does, or the name with
such an ending. -/
def findFile (files : String → Option String) (name : String) : Option (String × Format) :=
  let path := tidyPath name
  if !name.endsWith "/" && (files path).isSome then
    (Format.all.find? fun format ↦ ending? path = some format.ending).map (path, ·)
  else
    (Format.all.map fun format ↦ (path ++ "." ++ format.ending, format)).find? fun p ↦
      (files p.1).isSome

def fileLayer (files : String → Option String) (name : String) : Except String Layer :=
  match findFile files name with
  | none => .ok []
  | some (path, format) =>
    (format.read (some path) ((files path).getD "")).mapError fun message ↦ message ++ " in " ++ path

def variableValue (text : String) : Scalar :=
  match Text.lower text with
  | "true" => .bool true
  | "false" => .bool false
  | _ =>
    match (Decimal.integer? text.toList).filter Value.fits with
    | some n => .int n
    | none =>
      match Decimal.float? text.toList with
      | some x => .double x
      | none => .text text

/-- The entry of a variable, if its name is one of ours; two underscores separate the parts of a
path. -/
def variableEntry? (entry : String × String) : Option (String × Value) :=
  match (Text.lower entry.1).splitOn "gatehouse__" with
  | "" :: rest =>
    let key := ".".intercalate (("gatehouse__".intercalate rest).splitOn "__")
    some (key, .scalar (some "the environment") (variableValue entry.2))
  | _ => none

def variablesLayer (vars : List (String × String)) : Layer := vars.filterMap variableEntry?

def layerNames (environment : String) : List String := ["config/default", "config/" ++ environment]

def AppConfig.ofLayers (layers : List Layer) : Except Complaint AppConfig :=
  AppConfig.read lenientReading (layers.foldl Value.withLayer (.table none []))

def AppConfig.fromToml (text : String) : Except AppError AppConfig :=
  let config : Except String AppConfig := do
    (AppConfig.ofLayers [← Format.toml.read none text]).mapError Complaint.text
  config.mapError fun message ↦ ⟨.configuration, "Configuration error: " ++ message, [message]⟩

def AppConfig.load (environment : String) (files : String → Option String)
    (vars : List (String × String)) :
    Except AppError AppConfig := do
  let fault (what message : String) : AppError := ⟨.configuration, what ++ message, []⟩
  let layers ← (layerNames environment).mapM fun name ↦
    (fileLayer files name).mapError (fault "Failed to build config: ")
  (AppConfig.ofLayers (layers ++ [variablesLayer vars])).mapError fun complaint ↦
    fault "Failed to deserialize config: " complaint.text

end FrontDoor.Config
