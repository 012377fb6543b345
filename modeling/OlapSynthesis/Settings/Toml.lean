import OlapSynthesis.Settings.Toml.Table
import OlapSynthesis.Store
import OlapSynthesis.Text.Scan

namespace OlapSynthesis.Toml
open Scan

def isBlank (c : Char) : Bool :=
  c == ' ' || c == '\t'

/-- A character beyond ASCII may stand wherever text may. -/
def isForeign (c : Char) : Bool :=
  0x80 ≤ c.toNat

/-- A tab, or an ASCII character that is printed. -/
def isPlain (c : Char) : Bool :=
  c == '\t' || (0x20 ≤ c.toNat && c.toNat ≤ 0x7E) || isForeign c

def blanks : Scan Unit :=
  skipWhile isBlank

def newline : Scan Unit :=
  char '\n' <|> word "\r\n"

def comment : Scan Unit := do
  char '#'
  skipWhile isPlain

def lineEnd : Scan Unit := do
  blanks
  let _ ← optional? comment
  newline <|> atEnd

/-- What may stand around the items of an array. -/
def gap : Scan Unit :=
  (do let _ ← takeSome isBlank) <|> newline <|> (do comment; newline)

def gaps : Scan Unit := do
  let _ ← many gap

def hexDigit (c : Char) : Option Nat :=
  if c.isDigit then some (c.toNat - 0x30)
  else if 'a' ≤ c ∧ c ≤ 'f' then some (c.toNat - 0x61 + 10)
  else if 'A' ≤ c ∧ c ≤ 'F' then some (c.toNat - 0x41 + 10)
  else none

def digitsValue (base : Nat) (ds : List Char) : Nat :=
  ds.foldl (fun n d => n * base + (hexDigit d).getD 0) 0

def numbered (digits : Nat) : Scan Char := do
  let ds ← (List.replicate digits ()).mapM fun _ => one fun c => (hexDigit c).isSome
  let n := digitsValue 16 ds
  if n < 0xD800 ∨ (0xE000 ≤ n ∧ n < 0x110000) then return Char.ofNat n else failure

def shortEscape? (c : Char) : Option Char :=
  [('b', '\x08'), ('t', '\t'), ('n', '\n'), ('f', '\x0c'), ('r', '\r'), ('"', '"'),
    ('\\', '\\')].lookup c

def escape : Scan Char := do
  char '\\'
  match ← one fun _ => true with
  | 'u' => numbered 4
  | 'U' => numbered 8
  | c =>
    match shortEscape? c with
    | some meant => return meant
    | none => failure

/-- Quotes that do not end a string between triple quotes. -/
def innerQuotes (quote : Char) : Scan (List Char) := do
  let quotes ← takeSome (· == quote)
  if quotes.length < 3 then return quotes else failure

/-- The triple quote that ends a string, and the quotes before it that belong to the string. -/
def closingQuotes (quote : Char) : Scan (List Char) := do
  let quotes ← takeWhile (· == quote)
  if 3 ≤ quotes.length ∧ quotes.length ≤ 5 then return quotes.drop 3 else failure

def longString (quote : Char) (piece : Scan (List Char)) : Scan String := do
  word (String.ofList [quote, quote, quote])
  let _ ← optional? newline
  let pieces ← many (piece <|> (do newline; return ['\n']) <|> innerQuotes quote)
  return String.ofList (pieces.flatten ++ (← closingQuotes quote))

/-- A backslash at the end of a line hides all blanks and line ends that follow. -/
def hiddenLineEnd : Scan (List Char) := do
  char '\\'
  blanks
  newline
  skipWhile fun c => isBlank c
  let _ ← many (newline <|> (do let _ ← takeSome isBlank))
  return []

def isBasic (c : Char) : Bool :=
  isPlain c && c != '"' && c != '\\'

def isLiteral (c : Char) : Bool :=
  isPlain c && c != '\''

def basicString : Scan String := do
  char '"'
  let cs ← many (one isBasic <|> escape)
  char '"'
  return String.ofList cs

def literalString : Scan String := do
  char '\''
  let cs ← takeWhile isLiteral
  char '\''
  return String.ofList cs

def string : Scan String :=
  longString '"' ((do return [← one isBasic]) <|> hiddenLineEnd <|> (do return [← escape]))
    <|> basicString <|> longString '\'' (takeSome isLiteral) <|> literalString

/-- Digits, which single underscores may part. -/
def partedDigits (isDigit : Char → Bool) : Scan (List Char) := do
  let first ← one isDigit
  let more ← many (one isDigit <|> (do char '_'; one isDigit))
  return first :: more

/-- A sign, if there is one: whether it is a minus. -/
def sign : Scan Bool :=
  (do char '-'; return true) <|> (do char '+'; return false) <|> return false

/-- Digits without a needless zero in front. -/
def decimalDigits : Scan (List Char) :=
  (do char '0'; return ['0']) <|> partedDigits Char.isDigit

/-- A whole number, if it fits into 64 bits with sign. -/
def wholeOf (n : Int) : Scan Setting :=
  if Int64.minValue.toInt ≤ n ∧ n ≤ Int64.maxValue.toInt then return .whole n else failure

def based (mark : String) (base : Nat) : Scan Setting := do
  word mark
  let ds ← partedDigits fun c => (hexDigit c).any (· < base)
  wholeOf (digitsValue base ds)

def integer : Scan Setting :=
  based "0x" 16 <|> based "0o" 8 <|> based "0b" 2 <|> do
    let negative ← sign
    let n := digitsValue 10 (← decimalDigits)
    wholeOf (if negative then -n else n)

def exponent : Scan Int := do
  let _ ← one fun c => c == 'e' || c == 'E'
  let negative ← sign
  let n : Nat := digitsValue 10 (← partedDigits Char.isDigit)
  return if negative then -n else n

/-- Whether so many tenths of tenths are too much for a float of 64 bits, which is so from halfway
between the greatest one and the next power of two on. -/
def isTooGreat (digits : Nat) (exponent : Int) : Bool :=
  let length := (toString digits).length
  if digits = 0 ∨ length + exponent < 300 then false
  else if 400 < length + exponent then true
  else
    let bound := Nat.pow 2 1024 - Nat.pow 2 970
    match exponent with
    | .ofNat n => bound ≤ digits * Nat.pow 10 n
    | .negSucc n => bound * Nat.pow 10 (n + 1) ≤ digits

def float : Scan Setting := do
  let negative ← sign
  let front ← decimalDigits
  let fraction ← optional? (do char '.'; partedDigits Char.isDigit)
  let exponent ← if fraction.isNone then some <$> exponent else optional? exponent
  let fraction := fraction.getD []
  if !negative && isTooGreat (digitsValue 10 (front ++ fraction))
      (exponent.getD 0 - fraction.length) then failure
  else return .real

def specialFloat : Scan Setting := do
  let _ ← sign
  word "inf" <|> word "nan"
  return .real

def bounded (digits low high : Nat) : Scan Nat := do
  let n := digitsValue 10 (← (List.replicate digits ()).mapM fun _ => one Char.isDigit)
  if low ≤ n ∧ n ≤ high then return n else failure

def date : Scan Unit := do
  let year ← bounded 4 0 9999
  char '-'
  let month ← bounded 2 1 12
  char '-'
  let _ ← bounded 2 1 (CalendarDate.daysInMonth year month)

def time : Scan Unit := do
  let _ ← bounded 2 0 23
  char ':'
  let _ ← bounded 2 0 59
  char ':'
  let _ ← bounded 2 0 60
  let _ ← optional? (do char '.'; takeSome Char.isDigit)

def offset : Scan Unit :=
  (do let _ ← one fun c => c == 'Z' || c == 'z') <|> do
    let _ ← one fun c => c == '+' || c == '-'
    let _ ← bounded 2 0 23
    char ':'
    let _ ← bounded 2 0 59

def timeOfDay : Scan Unit := do
  let _ ← one fun c => c == 'T' || c == 't' || c == ' '
  time
  let _ ← optional? offset

def momentKey : String :=
  "$__toml_private_datetime"

/-- A date, a time or both. A moment is kept as a table with one entry. -/
def moment : Scan Setting := do
  let written ← taken ((do date; let _ ← optional? timeOfDay) <|> time)
  return .table [(momentKey, .text (String.ofList written))]

def isBareKey (c : Char) : Bool :=
  c.isAlphanum || c == '_' || c == '-'

def simpleKey : Scan String :=
  basicString <|> literalString <|> (do return String.ofList (← takeSome isBareKey))

/-- How deep arrays and inline tables may nest, and how many parts a key may have. -/
def deepest : Nat :=
  79

/-- A key: its last part and the parts before it. -/
def dottedKey : Scan (List String × String) := do
  let parts ← separated '.' (do blanks; let part ← simpleKey; blanks; return part)
  match parts.reverse with
  | last :: before => if before.length < deepest then return (before.reverse, last) else failure
  | [] => failure

def assignment (value : Scan Setting) : Scan Assignment := do
  let (path, key) ← dottedKey
  char '='
  blanks
  return ⟨path, key, ← value⟩

/-- The items of an array; a comma may follow the last one. -/
def items (value : Scan Setting) : Scan (List Setting) := do
  let item : Scan Setting := do
    let item ← value
    gaps
    return item
  let first ← item
  let more ← many (do char ','; gaps; item)
  let _ ← optional? (do char ','; gaps)
  return first :: more

def array (value : Scan Setting) : Scan Setting := do
  char '['
  gaps
  let items ← items value <|> return []
  char ']'
  return .list items

def inlineTable (value : Scan Setting) : Scan Setting := do
  char '{'
  blanks
  let entry : Scan Assignment := do
    let entry ← assignment value
    blanks
    return entry
  let entries ← separated ',' entry <|> return []
  char '}'
  match inlineTable? entries with
  | some setting => return setting
  | none => failure

def simpleValue : Scan Setting :=
  (do return .text (← string)) <|> (do word "true"; return .truth true) <|>
    (do word "false"; return .truth false) <|> moment <|> float <|> specialFloat <|> integer

def valueWithin : Nat → Scan Setting
  | 0 => simpleValue
  | depth + 1 =>
    array (valueWithin depth) <|> inlineTable (valueWithin depth) <|> simpleValue

def value : Scan Setting :=
  valueWithin deepest

inductive Statement
  | nothing
  | assignment (assignment : Assignment)
  | header (path : List String) (key : String) (isArray : Bool)

def header (isArray : Bool) (opening closing : String) : Scan Statement := do
  word opening
  let (path, key) ← dottedKey
  word closing
  return .header path key isArray

def statement : Scan Statement := do
  blanks
  match ← peek? with
  | none => failure
  | some '#' | some '\r' | some '\n' => return .nothing
  | some '[' => header true "[[" "]]" <|> header false "[" "]"
  | some _ => return .assignment (← assignment value)

def statements : Scan (List Statement) := do
  let _ ← optional? (char '\uFEFF')
  let statements ← many (do let statement ← statement; lineEnd; return statement)
  blanks
  return statements

def documentOf : List Statement → Document
  | [] => ⟨[], []⟩
  | .nothing :: rest => documentOf rest
  | .assignment a :: rest =>
    let document := documentOf rest
    { document with assignments := a :: document.assignments }
  | .header path key isArray :: rest =>
    let document := documentOf rest
    ⟨[], ⟨path, key, isArray, document.assignments⟩ :: document.sections⟩

/-- What a document of TOML 1.0 says; one that breaks the grammar or defines something twice says
nothing. -/
def ofText? (s : String) : Option Setting :=
  whole? statements s >>= fun statements => (documentOf statements).setting?

end OlapSynthesis.Toml
