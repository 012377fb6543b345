import OlapSynthesis.Text

namespace OlapSynthesis

inductive Glob.Token
  /-- The bytes of a character. -/
  | literal (bytes : List UInt8)
  /-- One byte. -/
  | anyByte
  /-- Any bytes. -/
  | anyBytes
  /-- Any parts at the front. -/
  | leadingParts
  /-- Any parts at the end, at least one. -/
  | trailingParts
  /-- Any parts between two slashes. -/
  | innerParts
  /-- One byte that is in one of the ranges, or in none of them. -/
  | byteIn (negated : Bool) (ranges : List (UInt8 × UInt8))
  | oneOf (branches : List (List Glob.Token))
deriving Inhabited

/-- A pattern that was understood, over the bytes of a path. Every choice in it has a branch, and no
branch is empty. `*` and `?` match slashes too. -/
structure Glob where
  tokens : List Glob.Token

namespace Glob

abbrev Marks := List Bool

namespace Marks

def atStart (s : List UInt8) : Marks :=
  true :: s.map fun _ => false

def overByte (wanted : UInt8 → Bool) (s : List UInt8) (marks : Marks) : Marks :=
  false :: List.zipWith (fun b marked => wanted b && marked) s marks

/-- Any number of bytes further; `reached` tells whether an earlier place was marked. -/
def spread (reached : Bool) : Marks → Marks
  | [] => []
  | marked :: rest => (reached || marked) :: spread (reached || marked) rest

def overBytes (marks : Marks) : Marks :=
  marks.spread false

def either (marks other : Marks) : Marks :=
  List.zipWith (· || ·) marks other

def cleared (marks : Marks) : Marks :=
  marks.map fun _ => false

end Marks

def slash : UInt8 :=
  0x2F

def inRanges (ranges : List (UInt8 × UInt8)) (b : UInt8) : Bool :=
  ranges.any fun (low, high) => low ≤ b && b ≤ high

mutual

/-- Where a token can end in some bytes, if it begins at a marked place. -/
def Token.advance (s : List UInt8) (marks : Marks) : Token → Marks
  | .literal bytes => bytes.foldl (fun marks wanted => marks.overByte (· == wanted) s) marks
  | .anyByte => marks.overByte (fun _ => true) s
  | .anyBytes => marks.overBytes
  | .leadingParts => marks.either (marks.overBytes.overByte (· == slash) s)
  | .trailingParts => (marks.overByte (· == slash) s).overBytes
  | .innerParts =>
    let inside := marks.overByte (· == slash) s
    inside.either (inside.overBytes.overByte (· == slash) s)
  | .byteIn negated ranges => marks.overByte (fun b => inRanges ranges b != negated) s
  | .oneOf branches => branchesAdvance s marks branches

def tokensAdvance (s : List UInt8) (marks : Marks) : List Token → Marks
  | [] => marks
  | token :: rest => tokensAdvance s (token.advance s marks) rest

def branchesAdvance (s : List UInt8) (marks : Marks) : List (List Token) → Marks
  | [] => marks.cleared
  | branch :: rest => (tokensAdvance s marks branch).either (branchesAdvance s marks rest)

end

def matchesBytes (glob : Glob) (s : List UInt8) : Bool :=
  (tokensAdvance s (.atStart s) glob.tokens).getLast? == some true

def accepts (glob : Glob) (path : String) : Bool :=
  glob.matchesBytes (Text.bytes path)

/-- How many elements a token puts into a sequence. -/
def Token.width : Token → Nat
  | .literal bytes => bytes.length
  | .trailingParts => 2
  | _ => 1

/-- The level of a list of several things; a thing that stands alone needs no list. -/
def levelOfList (count : Nat) : Nat :=
  if count ≤ 1 then 0 else 1

mutual

def Token.depth : Token → Nat
  | .literal _ | .anyByte => 0
  | .anyBytes | .trailingParts => 1
  | .leadingParts | .innerParts => 4
  | .byteIn _ ranges => 1 + levelOfList ranges.length
  | .oneOf branches => 1 + levelOfList branches.length + branchesDepth branches

def tokensDepth : List Token → Nat
  | [] => 0
  | token :: rest => max token.depth (tokensDepth rest)

def branchesDepth : List (List Token) → Nat
  | [] => 0
  | branch :: rest =>
    max (levelOfList (branch.map Token.width).sum + tokensDepth branch) (branchesDepth rest)

end

/-- How many levels the matcher of the glob has. The whole is always a sequence, because it begins
and ends with the ends of the path. -/
def depth (glob : Glob) : Nat :=
  1 + tokensDepth glob.tokens

def maxDepth : Nat :=
  250

/-- The part of a pattern that was read. The last token read stands first. -/
structure Reading where
  /-- The branch that is being read. -/
  branch : List Token
  /-- The finished branches of the same choice, the last one first. -/
  finished : List (List Token)
  /-- The branches and choices around this one, the nearest first. -/
  outer : List (List Token × List (List Token))

namespace Reading

def start : Reading :=
  ⟨[], [], []⟩

def inChoice (r : Reading) : Bool :=
  !r.outer.isEmpty

def push (r : Reading) (token : Token) : Reading :=
  { r with branch := token :: r.branch }

def openChoice (r : Reading) : Reading :=
  ⟨[], [], (r.branch, r.finished) :: r.outer⟩

def nextBranch (r : Reading) : Reading :=
  ⟨[], r.branch.reverse :: r.finished, r.outer⟩

def closeChoice? (r : Reading) : Option Reading :=
  match r.outer with
  | [] => none
  | (branch, finished) :: outer =>
    some ⟨.oneOf (r.branch.reverse :: r.finished).reverse :: branch, finished, outer⟩

/-- Any parts, after what was read: parts that may be missing anyway take up the new ones. -/
def pushParts (r : Reading) (token : Token) : Reading :=
  match r.branch with
  | .leadingParts :: _ | .trailingParts :: _ => r
  | _ :: branch => { r with branch := token :: branch }
  | [] => r.push token

end Reading

def charBytes (c : Char) : List UInt8 :=
  Text.bytes c.toString

/-- A range of characters as ranges of bytes: the bytes at the ends stand for themselves. -/
def byteRanges (range : Char × Char) : List (UInt8 × UInt8) :=
  let own (b : UInt8) := (b, b)
  let low := charBytes range.1
  if range.1 = range.2 then low.map own
  else
    match low.getLast?, charBytes range.2 with
    | some last, first :: rest => low.dropLast.map own ++ (last, first) :: rest.map own
    | _, _ => []

/-- Puts a character into a class: it ends the range that a hyphen began, or stands alone. The
last range stands first. A range may not run downwards. -/
def extendClass? (ranges : List (Char × Char)) (inRange : Bool) (c : Char) :
    Option (List (Char × Char)) :=
  match inRange, ranges with
  | true, (low, _) :: rest => if c < low then none else some ((low, c) :: rest)
  | _, _ => some ((c, c) :: ranges)

/-- The rest of a class after its first character, and what follows the class. -/
def classBody? (ranges : List (Char × Char)) (inRange : Bool) :
    List Char → Option (List (Char × Char) × List Char)
  | [] => none
  | c :: rest =>
    if c = ']' then some (if inRange then ('-', '-') :: ranges else ranges, rest)
    else if c = '-' ∧ !inRange then classBody? ranges true rest
    else (extendClass? ranges inRange c).bind fun ranges => classBody? ranges false rest

def class? (s : List Char) : Option (Token × List Char) :=
  let (negated, s) := match s with
    | '!' :: rest | '^' :: rest => (true, rest)
    | _ => (false, s)
  match s with
  | [] => none
  | c :: rest => do
    let (ranges, rest) ← classBody? [(c, c)] false rest
    return (.byteIn negated (ranges.reverse.flatMap byteRanges), rest)

/-- Two stars that do not make a whole part. -/
def Reading.pushStars (r : Reading) : Reading :=
  (r.push .anyBytes).push .anyBytes

def stars (r : Reading) (previous : Option Char) (s : List Char) : Reading × List Char :=
  if r.branch.isEmpty then
    match s with
    | [] => (r.push .leadingParts, [])
    | '/' :: rest => (r.push .leadingParts, rest)
    | _ => (r.pushStars, s)
  else if previous ≠ some '/' ∧
      (!r.inChoice ∨ (previous ≠ some ',' ∧ previous ≠ some '{')) then (r.pushStars, s)
  else
    match s with
    | [] => (r.pushParts .trailingParts, [])
    | '/' :: rest => (r.pushParts .innerParts, rest)
    | c :: _ =>
      if r.inChoice ∧ (c = ',' ∨ c = '}') then (r.pushParts .trailingParts, s)
      else (r.pushStars, s)

def readWithin? : Nat → Reading → Option Char → List Char → Option Reading
  | 0, _, _, _ => none
  | _, r, _, [] => some r
  | fuel + 1, r, previous, c :: rest =>
    if c = '?' then readWithin? fuel (r.push .anyByte) (some c) rest
    else if c = '*' then
      match rest with
      | '*' :: after =>
        let (r, remaining) := stars r previous after
        readWithin? fuel r (if remaining.length < after.length then some '/' else some '*')
          remaining
      | _ => readWithin? fuel (r.push .anyBytes) (some c) rest
    else if c = '[' then
      match class? rest with
      | some (token, rest) => readWithin? fuel (r.push token) (some ']') rest
      | none => none
    else if c = '{' then readWithin? fuel r.openChoice (some c) rest
    else if c = '}' then
      match r.closeChoice? with
      | some r => readWithin? fuel r (some c) rest
      | none => none
    else if c = ',' ∧ r.inChoice then readWithin? fuel r.nextBranch (some c) rest
    else if c = '\\' then
      match rest with
      | [] => none
      | escaped :: rest =>
        readWithin? fuel (r.push (.literal (charBytes escaped))) (some escaped) rest
    else readWithin? fuel (r.push (.literal (charBytes c))) (some c) rest

mutual

/-- A token without empty branches: nothing is left of a choice between nothing and nothing. -/
def Token.essential? : Token → Option Token
  | .oneOf branches =>
    match essentialBranches branches with
    | [] => none
    | branches => some (.oneOf branches)
  | token => some token

def essentialTokens : List Token → List Token
  | [] => []
  | token :: rest => token.essential?.toList ++ essentialTokens rest

def essentialBranches : List (List Token) → List (List Token)
  | [] => []
  | branch :: rest =>
    match essentialTokens branch with
    | [] => essentialBranches rest
    | branch => branch :: essentialBranches rest

end

/-- The glob that a pattern describes, if it describes one. Two stars that are the whole pattern
match anything. -/
def ofPattern? (pattern : String) : Option Glob :=
  let s := pattern.toList
  match readWithin? (s.length + 1) .start none s with
  | some ⟨[.leadingParts], _, []⟩ => some ⟨[.anyBytes]⟩
  | some ⟨branch, _, []⟩ => some ⟨essentialTokens branch.reverse⟩
  | _ => none

end Glob

end OlapSynthesis
