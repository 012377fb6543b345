namespace OlapSynthesis

abbrev Scan := StateT (List Char) Option

namespace Scan

/-- The next character, which stays where it is. -/
def peek? : Scan (Option Char) :=
  return (← get).head?

def one (wanted : Char → Bool) : Scan Char := do
  match ← get with
  | c :: rest => if wanted c then set rest; return c else failure
  | [] => failure

def char (c : Char) : Scan Unit := do
  let _ ← one (· == c)

def word (w : String) : Scan Unit :=
  w.toList.forM char

def takeWhile (wanted : Char → Bool) : Scan (List Char) := do
  let s ← get
  set (s.dropWhile wanted)
  return s.takeWhile wanted

/-- The characters up to the first that is not wanted, at least one. -/
def takeSome (wanted : Char → Bool) : Scan (List Char) := do
  match ← takeWhile wanted with
  | [] => failure
  | cs => return cs

def skipWhile (wanted : Char → Bool) : Scan Unit :=
  modify (·.dropWhile wanted)

def optional? (scan : Scan α) : Scan (Option α) := fun s =>
  match scan s with
  | some (a, rest) => some (some a, rest)
  | none => some (none, s)

/-- What a scan takes again and again, at most so many times, and what it leaves. At the end of the
text there is nothing to take. -/
def manyWithin (scan : Scan α) : Nat → List Char → List α × List Char
  | 0, s => ([], s)
  | _, [] => ([], [])
  | count + 1, s =>
    match scan s with
    | none => ([], s)
    | some (a, rest) =>
      let (more, rest) := manyWithin scan count rest
      (a :: more, rest)

/-- What a scan takes again and again. It is meant to take a character at least each time, so that
the length of the text is no limit. -/
def many (scan : Scan α) : Scan (List α) := fun s =>
  some (manyWithin scan s.length s)

def separated (mark : Char) (scan : Scan α) : Scan (List α) := do
  let first ← scan
  let more ← many (do char mark; scan)
  return first :: more

def taken (scan : Scan α) : Scan (List Char) := do
  let before ← get
  let _ ← scan
  return before.take (before.length - (← get).length)

def atEnd : Scan Unit := do
  match ← get with
  | [] => return
  | _ => failure

def whole? (scan : Scan α) (s : String) : Option α :=
  (do let a ← scan; atEnd; return a : Scan α).run' s.toList

end Scan

end OlapSynthesis
