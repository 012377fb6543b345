import OlapSynthesis.Binary64
import OlapSynthesis.Dictionary

namespace OlapSynthesis

/-- A number, kept as it was written: `1` is whole and `1.0` is not. -/
inductive Json.Number
  | whole (value : Int)
  | decimal (negative : Bool) (digits : Nat) (exponent : Int)
deriving DecidableEq, Repr

/-- A JSON value. An object keeps its members in the order in which they were written. -/
inductive Json
  | null
  | bool (value : Bool)
  | number (value : Json.Number)
  | text (value : String)
  | array (items : List Json)
  | object (members : List (String × Json))
deriving Inhabited, Repr

namespace Json

def nat (n : Nat) : Json :=
  .number (.whole n)

def int (i : Int) : Json :=
  .number (.whole i)

def texts (items : List String) : Json :=
  .array (items.map .text)

def member? (key : String) : Json → Option Json
  | .object members => members.lookup key
  | _ => none

/-- The first digits of a number, as many as 64 bits hold, and how many digits follow them. -/
def Number.leading (digits : Nat) : Nat × Nat :=
  if h : digits < Nat.pow 2 64 then (digits, 0)
  else
    have : 0 < digits := Nat.lt_of_lt_of_le (Nat.pow_pos (by decide)) (Nat.le_of_not_lt h)
    let (first, others) := leading (digits / 10)
    (first, others + 1)
termination_by digits
decreasing_by
  exact Nat.div_lt_self this (by decide)

/-- What digits count as of which so many stand behind the point. The first digits and then the
division by a power of ten are rounded, so this need not be the nearest double: 0.9999999999999999
counts as one. -/
def Number.fraction (digits places : Nat) : Binary64 :=
  let (first, others) := leading digits
  if places ≤ others then (Binary64.ofNat first).mul (Binary64.tenTo (others - places))
  else (Binary64.ofNat first).tensAway (places - others)

/-- Whether the number counts as one without a fraction, however it was written. -/
def Number.isIntegral : Number → Bool
  | .whole _ => true
  | .decimal _ digits exponent =>
    match exponent with
    | .ofNat _ => true
    | .negSucc n => (fraction digits (n + 1)).isWhole

def Number.isNegative : Number → Bool
  | .whole value => value < 0
  | .decimal negative digits exponent =>
    match exponent with
    | .ofNat _ => negative && digits != 0
    | .negSucc n => negative && !(fraction digits (n + 1)).isZero

mutual

/-- The same value with the members of every object in key order; of several members under one
key the last counts. -/
def canonical : Json → Json
  | .array items => .array (canonicalItems items)
  | .object members => .object (canonicalMembers members [])
  | value => value

def canonicalItems : List Json → List Json
  | [] => []
  | item :: rest => canonical item :: canonicalItems rest

def canonicalMembers : List (String × Json) → List (String × Json) → List (String × Json)
  | [], sorted => sorted
  | (key, value) :: rest, sorted =>
    canonicalMembers rest (Dictionary.insertEntry key (canonical value) sorted)

end

end Json

end OlapSynthesis
