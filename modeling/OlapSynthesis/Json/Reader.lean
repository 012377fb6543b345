import OlapSynthesis.Json.Basic

namespace OlapSynthesis.Json

def isBlankChar (c : Char) : Bool :=
  c == ' ' || c == '\t' || c == '\n' || c == '\r'

def skipBlanks (s : List Char) : List Char :=
  s.dropWhile isBlankChar

def hexValue? (c : Char) : Option Nat :=
  if c.isDigit then some (c.toNat - 0x30)
  else if 'a' ≤ c ∧ c ≤ 'f' then some (c.toNat - 0x61 + 10)
  else if 'A' ≤ c ∧ c ≤ 'F' then some (c.toNat - 0x41 + 10)
  else none

def hexQuad? : List Char → Option (Nat × List Char)
  | a :: b :: c :: d :: rest => do
    let a ← hexValue? a
    let b ← hexValue? b
    let c ← hexValue? c
    let d ← hexValue? d
    return (((a * 16 + b) * 16 + c) * 16 + d, rest)
  | _ => none

def shortEscape? (c : Char) : Option Char :=
  if c = '"' || c = '\\' || c = '/' then some c
  else if c = 'b' then some '\x08'
  else if c = 'f' then some '\x0c'
  else if c = 'n' then some '\n'
  else if c = 'r' then some '\r'
  else if c = 't' then some '\t'
  else none

/-- One escape after its backslash: its character, or `none` for half of a surrogate pair that
stands alone, and what follows it. -/
def escape? : List Char → Option (Option Char × List Char)
  | 'u' :: rest => do
    let (high, rest) ← hexQuad? rest
    if 0xD800 ≤ high && high ≤ 0xDBFF then
      match rest with
      | '\\' :: 'u' :: tail =>
        let (low, tail) ← hexQuad? tail
        if 0xDC00 ≤ low && low ≤ 0xDFFF then
          return (some (Char.ofNat (0x10000 + (high - 0xD800) * 0x400 + (low - 0xDC00))), tail)
        else return (none, rest)
      | _ => return (none, rest)
    else if 0xDC00 ≤ high && high ≤ 0xDFFF then return (none, rest)
    else return (some (Char.ofNat high), rest)
  | c :: rest => (shortEscape? c).map fun c => (some c, rest)
  | [] => none

/-- The rest of a string after its opening quote, with at most `fuel` characters and escapes: its
characters, with `none` where half of a surrogate pair stands alone, and what follows it. -/
def stringBody? : Nat → List Char → Option (List (Option Char) × List Char)
  | 0, _ => none
  | _, [] => none
  | fuel + 1, c :: rest =>
    if c = '"' then some ([], rest)
    else if c = '\\' then do
      let (e, rest) ← escape? rest
      let (cs, rest) ← stringBody? fuel rest
      return (e :: cs, rest)
    else if c.toNat < 0x20 then none
    else do
      let (cs, rest) ← stringBody? fuel rest
      return (some c :: cs, rest)

/-- A string after its opening quote; `none` for its text when half of a surrogate pair stands
alone in it. -/
def string? (s : List Char) : Option (Option String × List Char) := do
  let (cs, rest) ← stringBody? (s.length + 1) s
  return ((cs.mapM id).map String.ofList, rest)

/-- The digits at the front, at least one, and what follows them. -/
def digits? (s : List Char) : Option (List Char × List Char) :=
  let ds := s.takeWhile Char.isDigit
  if ds.isEmpty then none else some (ds, s.dropWhile Char.isDigit)

def digitsValue (ds : List Char) : Nat :=
  ds.foldl (fun n d => n * 10 + (d.toNat - 0x30)) 0

def fraction? : List Char → Option (Option (List Char) × List Char)
  | '.' :: rest => (digits? rest).map fun (ds, rest) => (some ds, rest)
  | s => some (none, s)

def exponent? : List Char → Option (Option Int × List Char)
  | c :: rest =>
    if c = 'e' || c = 'E' then
      match rest with
      | '-' :: rest => (digits? rest).map fun (ds, rest) => (some (-(digitsValue ds : Int)), rest)
      | '+' :: rest => (digits? rest).map fun (ds, rest) => (some (digitsValue ds : Int), rest)
      | _ => (digits? rest).map fun (ds, rest) => (some (digitsValue ds : Int), rest)
    else some (none, c :: rest)
  | [] => some (none, [])

/-- A number. A minus before a bare zero makes a decimal, for there is no whole `-0`. -/
def number? (s : List Char) : Option (Number × List Char) := do
  let (negative, s) := match s with
    | '-' :: rest => (true, rest)
    | _ => (false, s)
  let (whole, s) ← digits? s
  if whole.head? = some '0' && whole.length > 1 then none
  else do
    let (fraction, s) ← fraction? s
    let (exponent, s) ← exponent? s
    let value := digitsValue whole
    match fraction, exponent with
    | none, none =>
      if negative then
        if value = 0 then return (.decimal true 0 0, s) else return (.whole (-(value : Int)), s)
      else return (.whole value, s)
    | fraction, exponent =>
      let fraction := fraction.getD []
      return (.decimal negative (digitsValue (whole ++ fraction))
        (exponent.getD 0 - fraction.length), s)

def after? (word : String) (s : List Char) : Option (List Char) :=
  if word.toList.isPrefixOf s then some (s.drop word.length) else none

/-- A member whose key is a text. -/
def keyed? (member : Option String × Json) : Option (String × Json) :=
  member.1.map fun key => (key, member.2)

mutual

/-- A value that nests at most `fuel` steps deep, and what follows it. A string that is no text,
because half of a surrogate pair stands alone in it, is read as null, and so is an object with
such a key: nothing that must be text accepts it, and what may be anything does. -/
def valueWithin? : Nat → List Char → Option (Json × List Char)
  | 0, _ => none
  | fuel + 1, s =>
    match skipBlanks s with
    | [] => none
    | c :: rest =>
      if c = '"' then (string? rest).map fun (t, rest) => ((t.map Json.text).getD .null, rest)
      else if c = '[' then
        match skipBlanks rest with
        | ']' :: rest => some (.array [], rest)
        | _ => (itemsWithin? fuel rest).map fun (items, rest) => (.array items, rest)
      else if c = '{' then
        match skipBlanks rest with
        | '}' :: rest => some (.object [], rest)
        | _ => (membersWithin? fuel rest).map fun (members, rest) =>
          (((members.mapM keyed?).map Json.object).getD .null, rest)
      else if c = 't' then (after? "rue" rest).map (Json.bool true, ·)
      else if c = 'f' then (after? "alse" rest).map (Json.bool false, ·)
      else if c = 'n' then (after? "ull" rest).map (Json.null, ·)
      else (number? (c :: rest)).map fun (n, rest) => (.number n, rest)

def itemsWithin? : Nat → List Char → Option (List Json × List Char)
  | 0, _ => none
  | fuel + 1, s => do
    let (item, rest) ← valueWithin? fuel s
    match skipBlanks rest with
    | ',' :: rest =>
      let (items, rest) ← itemsWithin? fuel rest
      return (item :: items, rest)
    | ']' :: rest => return ([item], rest)
    | _ => none

def membersWithin? : Nat → List Char → Option (List (Option String × Json) × List Char)
  | 0, _ => none
  | fuel + 1, s =>
    match skipBlanks s with
    | '"' :: rest => do
      let (key, rest) ← string? rest
      match skipBlanks rest with
      | ':' :: rest =>
        let (value, rest) ← valueWithin? fuel rest
        match skipBlanks rest with
        | ',' :: rest =>
          let (members, rest) ← membersWithin? fuel rest
          return ((key, value) :: members, rest)
        | '}' :: rest => return ([(key, value)], rest)
        | _ => none
      | _ => none
    | _ => none

end

/-- The value that a text holds, as the text writes it. A step into the value takes a character at
least every other time, so twice the length bounds the nesting. -/
def ofText? (s : String) : Option Json :=
  let cs := s.toList
  match valueWithin? (2 * cs.length + 2) cs with
  | some (value, rest) => if (skipBlanks rest).isEmpty then some value else none
  | none => none

end OlapSynthesis.Json
