import FrontDoor.Text.Printable

namespace FrontDoor.Text

def digitsIn (base n : Nat) : String := String.ofList (Nat.toDigits base n)

def escapeChar (c : Char) : String :=
  if c = '"' then "\\\""
  else if c = '\\' then "\\\\"
  else if c = '\n' then "\\n"
  else if c = '\r' then "\\r"
  else if c = '\t' then "\\t"
  else if c.toNat = 0 then "\\0"
  else if isPrintable c then c.toString
  else "\\u\x7b" ++ digitsIn 16 c.toNat ++ "\x7d"

def quoted (s : String) : String :=
  "\"" ++ s.toList.foldl (fun acc c ↦ acc ++ escapeChar c) "" ++ "\""

namespace Outline

def list (items : List String) : String := "[" ++ ", ".intercalate items ++ "]"

def map (entries : List (String × String)) : String :=
  "\x7b" ++ ", ".intercalate (entries.map fun e ↦ e.1 ++ ": " ++ e.2) ++ "\x7d"

def tuple (name : String) (parts : List String) : String :=
  if parts.isEmpty then name else name ++ "(" ++ ", ".intercalate parts ++ ")"

def record (name : String) (fields : List (String × String)) : String :=
  if fields.isEmpty then name
  else name ++ " \x7b " ++ ", ".intercalate (fields.map fun f ↦ f.1 ++ ": " ++ f.2) ++ " \x7d"

def option (part : Option String) : String :=
  match part with
  | none => "None"
  | some p => tuple "Some" [p]

end Outline

end FrontDoor.Text
