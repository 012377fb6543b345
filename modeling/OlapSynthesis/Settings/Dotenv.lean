import OlapSynthesis.Settings.Environment
import OlapSynthesis.Text.Alphanumeric

namespace OlapSynthesis.Dotenv

/-- Where the end of a line would be met. Only a complete line ends there. -/
inductive Progress
  | complete
  | blank
  | escape
  | quoted (quote : Char)
  | quotedEscape (quote : Char)
deriving DecidableEq, Repr

def Progress.ofBare (c : Char) : Progress :=
  if c = '\\' then .escape
  else if c = '"' ∨ c = '\'' then .quoted c
  else .complete

def Progress.next (c : Char) : Progress → Progress
  | .complete => if Text.isWhiteSpace c ∧ c ≠ '\n' ∧ c ≠ '\r' then .blank else .ofBare c
  | .blank => .ofBare c
  | .escape => .complete
  | .quoted quote =>
    if c = '\\' then .quotedEscape quote else if c = quote then .complete else .quoted quote
  | .quotedEscape quote => .quoted quote

/-- Follows a line to its end, or to a comment: what stands before the comment, if there is one,
and where the line ends. -/
def follow (before : List Char) (progress : Progress) :
    List Char → Option (List Char) × Progress
  | [] => (none, progress)
  | c :: rest =>
    if progress = .blank ∧ c = '#' then (some before.reverse, .complete)
    else follow (c :: before) (progress.next c) rest

def linesOf : List Char → List (List Char)
  | [] => []
  | c :: rest =>
    if c = '\n' then [c] :: linesOf rest
    else
      match linesOf rest with
      | [] => [[c]]
      | line :: lines => (c :: line) :: lines

def withoutEnd (line : List Char) : List Char :=
  match line.reverse with
  | '\n' :: '\r' :: rest | '\n' :: rest => rest.reverse
  | _ => line

/-- Joins lines whose quotes run over their ends. What is left open at the end is no line. -/
def joined (before : List Char) (progress : Progress) :
    List (List Char) → List (Option (List Char))
  | [] => if progress = .complete then [] else [none]
  | line :: rest =>
    let all := before ++ line
    if (all.dropWhile Text.isWhiteSpace).head? = some '#' then some [] :: joined [] .complete rest
    else
      match follow [] progress line with
      | (some front, _) => some (before ++ front) :: joined [] .complete rest
      | (none, .complete) => some (withoutEnd all) :: joined [] .complete rest
      | (none, progress) => joined all progress rest

def isNameChar (c : Char) : Bool :=
  Text.isAlphanumeric c

inductive Mode
  | plain
  /-- Between single quotes. -/
  | strong
  | escaped
  | ended
  /-- In a name after a dollar sign. -/
  | name
  | bracedName
deriving DecidableEq, Repr

structure Reading where
  mode : Mode
  /-- Whether it is between double quotes. -/
  weak : Bool
  /-- The name that is being read, the last character first. -/
  name : List Char
  /-- The value so far, the last character first. -/
  value : List Char

def Reading.refer (environment : Environment) (r : Reading) : Reading :=
  { r with
    name := []
    value :=
      ((environment.get? (String.ofList r.name.reverse)).getD "").toList.reverseAux r.value }

def Reading.put (r : Reading) (c : Char) : Reading :=
  { r with mode := .plain, value := c :: r.value }

/-- Reads the next character of a value: `none` where it cannot be read. -/
def Reading.next? (environment : Environment) (r : Reading) (c : Char) : Option Reading :=
  match r.mode with
  | .ended => if c = ' ' ∨ c = '\t' then some r else none
  | .escaped =>
    if c = '\\' ∨ c = '\'' ∨ c = '"' ∨ c = '$' ∨ c = ' ' then some (r.put c)
    else if c = 'n' then some (r.put '\n')
    else none
  | .strong =>
    if c = '\'' then some { r with mode := .plain }
    else some { r with value := c :: r.value }
  | .name =>
    if isNameChar c then some { r with name := c :: r.name }
    else if c = '{' ∧ r.name.isEmpty then some { r with mode := .bracedName }
    else if c = '$' then some (r.refer environment)
    else some ((r.refer environment).put c)
  | .bracedName =>
    if c = '}' then some { r.refer environment with mode := .plain }
    else some { r with name := c :: r.name }
  | .plain =>
    if c = '$' then some { r with mode := .name }
    else if c = '\\' then some { r with mode := .escaped }
    else if c = '"' then some { r with weak := !r.weak }
    else if r.weak then some (r.put c)
    else if c = '\'' then some { r with mode := .strong }
    else if c = ' ' ∨ c = '\t' then some { r with mode := .ended }
    else some (r.put c)

/-- The value that has been read to its end, unless something is left open. -/
def Reading.result? (environment : Environment) (r : Reading) : Option (List Char) :=
  if r.mode = .bracedName ∨ r.mode = .strong ∨ r.weak then none
  else some (r.refer environment).value.reverse

def Reading.finish? (environment : Environment) (r : Reading) : List Char → Option (List Char)
  | [] => r.result? environment
  | c :: rest =>
    if r.mode = .ended ∧ c = '#' then r.result? environment
    else r.next? environment c >>= fun r => Reading.finish? environment r rest

def value? (environment : Environment) (s : List Char) : Option String :=
  (Reading.finish? environment ⟨.plain, false, [], []⟩ s).map String.ofList

open Scan

def key : Scan String := do
  let first ← one fun c => c.isAlpha || c == '_'
  let rest ← takeWhile fun c => c.isAlphanum || c == '_' || c == '.'
  return String.ofList (first :: rest)

def spaces : Scan Unit :=
  skipWhile Text.isWhiteSpace

/-- The name that a line defines, up to what follows the equals sign. The word `export` may stand
before it, and is a name itself where an equals sign follows. -/
def definedName : Scan String := do
  let name ← key
  spaces
  let name ← if name = "export" then
      (do char '='; return name) <|> (do let name ← key; spaces; char '='; return name)
    else do
      char '='
      pure name
  spaces
  return name

/-- What a line defines, if it defines anything: `none` where it breaks the grammar. -/
def definition? (environment : Environment) (line : List Char) :
    Option (Option (String × String)) :=
  let line := (line.reverse.dropWhile Text.isWhiteSpace).reverse.dropWhile Text.isWhiteSpace
  if line.isEmpty ∨ line.head? = some '#' then some none
  else do
    let (name, rest) ← definedName line
    if rest.isEmpty ∨ rest.head? = some '#' then return some (name, "")
    return some (name, ← value? environment rest)

inductive Ending
  | complete
  | badLine
  /-- At a value that no variable can have. There is no way on from here. -/
  | impossibleValue
deriving DecidableEq, Repr

/-- Carries out lines one by one: the environment after the last good line, and how the reading
ends. A variable without a value can have none with a zero character. -/
def carryOut (environment : Environment) : List (Option (List Char)) → Environment × Ending
  | [] => (environment, .complete)
  | none :: _ => (environment, .badLine)
  | some line :: rest =>
    match definition? environment line with
    | none => (environment, .badLine)
    | some none => carryOut environment rest
    | some (some (name, value)) =>
      if (environment.get? name).isNone ∧ value.toList.contains '\x00' then
        (environment, .impossibleValue)
      else carryOut (environment.define name value) rest

/-- The environment after the definitions of a text, and how the reading of the text ends. A mark
of the byte order in front is passed over. A variable that has a value keeps it. What the lines
before a bad line defined stays defined. -/
def load (environment : Environment) (text : String) : Environment × Ending :=
  let s := match text.toList with
    | '\uFEFF' :: rest => rest
    | s => s
  carryOut environment (joined [] .complete (linesOf s))

end OlapSynthesis.Dotenv
