namespace OlapSynthesis

/-- A number of double precision that is not negative, as a multiple of the smallest, which is two to
the power of -1074: up to 53 bits that count, and zeros after them. None is too large to be one. -/
structure Binary64 where
  units : Nat
deriving DecidableEq, Repr

namespace Binary64

def unitsInOne : Nat :=
  Nat.pow 2 1074

/-- The whole number nearest to a quotient; of two that are equally near, the even one. -/
def nearestQuotient (dividend divisor : Nat) : Nat :=
  let quotient := dividend / divisor
  let twice := 2 * (dividend % divisor)
  if divisor < twice || (twice == divisor && quotient % 2 == 1) then quotient + 1 else quotient

/-- The number nearest to a quotient of units. Next to a quotient of more than 53 bits the numbers
lie a power of two apart. -/
def nearest (dividend divisor : Nat) : Binary64 :=
  let step := Nat.pow 2 (Nat.log2 (dividend / divisor) - 52)
  ⟨nearestQuotient dividend (divisor * step) * step⟩

def ofNat (n : Nat) : Binary64 :=
  nearest (n * unitsInOne) 1

def mul (a b : Binary64) : Binary64 :=
  nearest (a.units * b.units) unitsInOne

def div (a b : Binary64) : Binary64 :=
  nearest (a.units * unitsInOne) b.units

def tenTo (exponent : Nat) : Binary64 :=
  ofNat (Nat.pow 10 exponent)

/-- The largest exponent whose power of ten is not too large. -/
def largestTen : Nat :=
  308

/-- Some divisions by the largest power of ten. Zero stays zero. -/
def largestTensAway : Nat → Binary64 → Binary64
  | 0, a => a
  | n + 1, a => if a.units == 0 then a else largestTensAway n (a.div (tenTo largestTen))

/-- A number divided by ten so many times: by the largest power of ten as long as there are more
divisions than it stands for, and then by what is left. Each step is rounded. -/
def tensAway (times : Nat) (a : Binary64) : Binary64 :=
  let steps := (times - 1) / largestTen
  (largestTensAway steps a).div (tenTo (times - steps * largestTen))

def isZero (a : Binary64) : Bool :=
  a.units == 0

def isWhole (a : Binary64) : Bool :=
  a.units % unitsInOne == 0

end Binary64

end OlapSynthesis
