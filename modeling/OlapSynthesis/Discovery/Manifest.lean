import OlapSynthesis.Codec.Basic
import OlapSynthesis.Json.Reader

namespace OlapSynthesis
open Codec

structure Manifest where
  separator : Char
  columns : List (String × String)
deriving DecidableEq, Repr

namespace Manifest

/-- The separator of a manifest that names none. -/
def defaultSeparator : Char :=
  ','

def encodeColumn (column : String × String) : Json :=
  .object [("name", .text column.1), ("type", .text column.2)]

def decodeColumn (j : Json) : Decoded (String × String) := do
  let m ← plainMembers ["name", "type"] j
  return (← required (m.read "name" text), ← required (m.read "type" text))

def encode (manifest : Manifest) : Json :=
  .object [("separator", .text manifest.separator.toString),
    ("columns", .array (manifest.columns.map encodeColumn))]

def decode (j : Json) : Decoded Manifest := do
  let m ← plainMembers ["separator", "columns"] j
  return ⟨← orElse defaultSeparator (m.read "separator" char),
    ← required (m.read "columns" (list decodeColumn))⟩

def ofText? (s : String) : Option Manifest :=
  Json.ofText? s >>= fun j => (decode j).toOption

end Manifest

end OlapSynthesis
