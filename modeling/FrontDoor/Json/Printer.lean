import FrontDoor.Json.Basic
import FrontDoor.Decimal.Style
import FrontDoor.Text.Quoted

namespace FrontDoor.Json

def escapeChar (c : Char) : String :=
  if c = '"' then "\\\""
  else if c = '\\' then "\\\\"
  else if c = '\n' then "\\n"
  else if c = '\r' then "\\r"
  else if c = '\t' then "\\t"
  else if c.toNat = 8 then "\\b"
  else if c.toNat = 12 then "\\f"
  else if c.toNat < 16 then "\\u000" ++ Text.digitsIn 16 c.toNat
  else if c.toNat < 32 then "\\u00" ++ Text.digitsIn 16 c.toNat
  else c.toString

def quote (s : String) : String :=
  "\"" ++ s.toList.foldl (fun acc c ↦ acc ++ escapeChar c) "" ++ "\""

mutual

def write : Json → String
  | .null => "null"
  | .bool b => if b then "true" else "false"
  | .int n => toString n
  | .double x => Decimal.json.write x
  | .text s => quote s
  | .list items => "[" ++ ",".intercalate (writeItems items) ++ "]"
  | .object members => "\x7b" ++ ",".intercalate (writeMembers members) ++ "\x7d"

def writeItems : List Json → List String
  | [] => []
  | item :: rest => write item :: writeItems rest

def writeMembers : List (String × Json) → List String
  | [] => []
  | (key, value) :: rest => (quote key ++ ":" ++ write value) :: writeMembers rest

end

end FrontDoor.Json
