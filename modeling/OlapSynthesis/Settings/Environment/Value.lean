import OlapSynthesis.Settings.Setting
import OlapSynthesis.Text
import OlapSynthesis.Text.Scan

namespace OlapSynthesis.EnvironmentValue

open Scan

inductive Fault
  | ungrammatical
  | cutCharacter
deriving DecidableEq, Repr

abbrev Reader := StateT (List Char) (Except Fault)

instance : MonadLift Scan Reader where
  monadLift scan s :=
    match scan s with
    | some result => .ok result
    | none => .error .ungrammatical

def isGap (c : Char) : Bool :=
  c == ' ' || c == '\t' || c == '\n' || c == '\r' || c == '\x0c'

def isEnd (c : Char) : Bool :=
  c == ',' || c == '{' || c == '}' || c == '[' || c == ']'

def isKeyChar (c : Char) : Bool :=
  c.isAlphanum || c == '_' || c == '-'

def isQuotable (c : Char) : Bool :=
  c == '\t' || (0x20 ≤ c.toNat && c != '\x7f')

def hexDigitValue (c : Char) : Nat :=
  if c.isDigit then c.toNat - 0x30 else c.toLower.toNat - 0x61 + 10

def isHexDigit (c : Char) : Bool :=
  c.isDigit || ('a' ≤ c.toLower && c.toLower ≤ 'f')

def charByNumber (digits : Nat) : Scan Char := do
  let ds ← (List.replicate digits ()).mapM fun _ => one isHexDigit
  let n := ds.foldl (fun n d => n * 16 + hexDigitValue d) 0
  if n < 0xD800 ∨ (0xE000 ≤ n ∧ n < 0x110000) then return Char.ofNat n else failure

def escapedChar : Scan Char := do
  char '\\'
  match ← one fun _ => true with
  | '"' => return '"'
  | '\\' => return '\\'
  | 'b' => return '\x08'
  | 'f' => return '\x0c'
  | 'n' => return '\n'
  | 'r' => return '\r'
  | 't' => return '\t'
  | 'u' => charByNumber 4
  | 'U' => charByNumber 8
  | _ => failure

def unescaped : Scan (List Char) := do
  let cs ← many (escapedChar <|> one fun c => isQuotable c && c != '\\')
  atEnd
  return cs

/-- What stands before the closing quote, which no backslash precedes, and what follows it. -/
def untilQuote? : List Char → Option (List Char × List Char)
  | [] => none
  | '"' :: rest => some ([], rest)
  | '\\' :: c :: rest => (untilQuote? rest).map fun (inside, rest) => ('\\' :: c :: inside, rest)
  | c :: rest => (untilQuote? rest).map fun (inside, rest) => (c :: inside, rest)

/-- What quotes hold. Before the first escape the text is cut to as many bytes as it has characters,
which takes nothing away from ASCII; where the cut falls within a character, the value breaks down.
-/
def textOf (inside : List Char) : Except Fault (List Char) :=
  let front := inside.takeWhile (· != '\\')
  let escapes := inside.dropWhile (· != '\\')
  if !front.all isQuotable then .error .ungrammatical
  else if escapes.isEmpty then .ok front
  else
    match Text.firstBytes? front.length front, unescaped.run' escapes with
    | none, _ => .error .cutCharacter
    | some _, none => .error .ungrammatical
    | some front, some cs => .ok (front ++ cs)

def quoted : Reader String := do
  char '"'
  match untilQuote? (← get) with
  | none => throw .ungrammatical
  | some (inside, rest) =>
    set rest
    return String.ofList (← textOf inside)

/-- The whole number that a text writes, where it fits into 64 bits with or without sign. -/
def whole? (s : List Char) : Option Int :=
  let (negative, ds) := match s with
    | '-' :: ds => (true, ds)
    | '+' :: ds => (false, ds)
    | ds => (false, ds)
  if ds.isEmpty || !ds.all Char.isDigit then none
  else
    let n : Int := ds.foldl (fun n d => n * 10 + (d.toNat - 0x30)) 0
    if negative then if Int64.minValue.toInt ≤ -n then some (-n) else none
    else if n < UInt64.size then some n else none

/-- A number with a fraction: digits around a full stop, and perhaps an exponent. -/
def fraction : Scan Unit := do
  let _ ← optional? (one fun c => c == '+' || c == '-')
  let front ← takeWhile Char.isDigit
  char '.'
  let back ← takeWhile Char.isDigit
  if front.isEmpty && back.isEmpty then failure
  let _ ← optional? (do
    let _ ← one fun c => c == 'e' || c == 'E'
    let _ ← optional? (one fun c => c == '+' || c == '-')
    takeSome Char.isDigit)

/-- What a text without quotes means: a number, where it writes one. -/
def bare (s : String) : Setting :=
  if (Scan.whole? fraction s).isSome then .real
  else
    match whole? s.toList with
    | some n => .whole n
    | none => .text s

/-- Items with commas between, up to the closing mark. A comma may follow the last one. Of so many
items there are at most. -/
def itemsWithin (closing : Char) (item : Reader α) : Nat → Reader (List α)
  | 0 => throw .ungrammatical
  | count + 1 => do
    if (← peek?) = some closing then
      char closing
      return []
    let first ← item
    if (← peek?) = some ',' then
      char ','
      return first :: (← itemsWithin closing item count)
    char closing
    return [first]

def listed (opening closing : Char) (item : Reader α) : Reader (List α) := do
  char opening
  itemsWithin closing item ((← get).length + 1)

def entry (value : Reader Setting) : Reader (String × Setting) := do
  skipWhile isGap
  let key ← match ← peek? with
    | some '"' => quoted
    | _ => String.ofList <$> takeSome isKeyChar
  skipWhile isGap
  char '='
  return (key, ← value)

/-- A value without quotes. The words for truth and falsehood go first. -/
def unquoted : Scan Setting :=
  (do word "true"; return .truth true) <|> (do word "false"; return .truth false) <|> do
    let s ← takeWhile (!isEnd ·)
    return bare (Text.trim (String.ofList s))

/-- A value in which lists and tables nest at most so deep. -/
def valueWithin : Nat → Reader Setting
  | 0 => throw .ungrammatical
  | depth + 1 => do
    skipWhile isGap
    let setting ← match ← peek? with
      | some '{' => do
        let entries ← listed '{' '}' (entry (valueWithin depth))
        pure (.table (entries.foldl (fun l e => Dictionary.insertEntry e.1 e.2 l) []))
      | some '[' => do pure (.list (← listed '[' ']' (valueWithin depth)))
      | some '"' => do pure (.text (← quoted))
      | some '\'' => do
        char '\''
        let c ← one fun _ => true
        char '\''
        pure (.text c.toString)
      | _ => unquoted
    skipWhile isGap
    return setting

/-- The setting that the value of a variable writes, unless the value breaks down. A value that does
not follow the grammar to its end is a text, as it stands. -/
def setting? (value : String) : Option Setting :=
  let whole : Reader Setting := do
    let setting ← valueWithin (value.length + 1)
    atEnd
    return setting
  match whole.run' value.toList with
  | .ok setting => some setting
  | .error .ungrammatical => some (.text value)
  | .error .cutCharacter => none

end OlapSynthesis.EnvironmentValue
