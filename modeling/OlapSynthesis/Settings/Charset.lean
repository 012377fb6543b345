import OlapSynthesis.Model

namespace OlapSynthesis.Charset

/-- The canonical names, each with the other names of the charset. -/
def known : List (String × List String) :=
  [("UTF-8", ["utf8"]),
    ("UTF-16", ["utf16"]),
    ("UTF-16BE", ["utf-16be"]),
    ("UTF-16LE", ["utf-16le"]),
    ("US-ASCII", ["ascii"]),
    ("ISO-8859-1", ["latin1", "iso8859-1", "iso_8859_1"]),
    ("ISO-8859-15", ["latin9", "iso8859-15"]),
    ("windows-1252", ["cp1252"])]

/-- The charset of a configuration that names none. -/
def default : String :=
  "ISO-8859-1"

/-- The charset that stands in for an unknown one. -/
def fallback : String :=
  "UTF-8"

def canonical? (name : String) : Option String :=
  (known.find? fun (canonical, others) =>
    Text.sameIgnoringCase canonical name || others.any (Text.sameIgnoringCase · name)).map (·.1)

/-- The charset to read files in, with a warning if the requested one is not known. -/
def resolve (requested : String) : String × Option Warning :=
  let name := Text.trim requested
  match canonical? name with
  | some canonical => (canonical, none)
  | none => (fallback, some (.unknownCharset name fallback))

end OlapSynthesis.Charset
