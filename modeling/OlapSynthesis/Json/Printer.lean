import OlapSynthesis.Json.Basic

namespace OlapSynthesis.Json

def hexDigit (n : Nat) : Char :=
  if n < 10 then Char.ofNat (0x30 + n) else Char.ofNat (0x61 + (n - 10))

def escaped (c : Char) : List Char :=
  if c = '"' then ['\\', '"']
  else if c = '\\' then ['\\', '\\']
  else if c = '\n' then ['\\', 'n']
  else if c = '\r' then ['\\', 'r']
  else if c = '\t' then ['\\', 't']
  else if c = '\x08' then ['\\', 'b']
  else if c = '\x0c' then ['\\', 'f']
  else if c.toNat < 0x20 then
    ['\\', 'u', '0', '0', hexDigit (c.toNat / 16), hexDigit (c.toNat % 16)]
  else [c]

def quoted (s : String) : String :=
  "\"" ++ String.ofList (s.toList.flatMap escaped) ++ "\""

def Number.render : Number → String
  | .whole value => toString value
  | .decimal negative digits exponent =>
    (if negative then "-" else "") ++ toString digits ++ "e" ++ toString exponent

structure Style where
  /-- What stands before an item `depth` levels deep. -/
  lineBreak : Nat → String
  /-- What stands between a key and its value. -/
  colon : String

def Style.compact : Style :=
  ⟨fun _ => "", ":"⟩

def Style.indented : Style :=
  ⟨fun depth => "\n" ++ String.ofList (List.replicate (2 * depth) ' '), ": "⟩

mutual

/-- The written form of a value that begins `depth` levels deep. -/
def write (style : Style) (depth : Nat) : Json → String
  | .null => "null"
  | .bool value => if value then "true" else "false"
  | .number value => value.render
  | .text value => quoted value
  | .array [] => "[]"
  | .array (item :: rest) =>
    "[" ++ style.lineBreak (depth + 1) ++ write style (depth + 1) item ++
      writeItems style (depth + 1) rest ++ style.lineBreak depth ++ "]"
  | .object [] => "\x7b\x7d"
  | .object ((key, value) :: rest) =>
    "\x7b" ++ style.lineBreak (depth + 1) ++ quoted key ++ style.colon ++
      write style (depth + 1) value ++ writeMembers style (depth + 1) rest ++
      style.lineBreak depth ++ "\x7d"

def writeItems (style : Style) (depth : Nat) : List Json → String
  | [] => ""
  | item :: rest =>
    "," ++ style.lineBreak depth ++ write style depth item ++ writeItems style depth rest

def writeMembers (style : Style) (depth : Nat) : List (String × Json) → String
  | [] => ""
  | (key, value) :: rest =>
    "," ++ style.lineBreak depth ++ quoted key ++ style.colon ++ write style depth value ++
      writeMembers style depth rest

end

def compact (value : Json) : String :=
  value.write .compact 0

def pretty (value : Json) : String :=
  value.write .indented 0

end OlapSynthesis.Json
