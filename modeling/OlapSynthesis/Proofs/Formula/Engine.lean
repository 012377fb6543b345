import OlapSynthesis.Synthesis.Measures
import Mathlib.Algebra.Order.Field.Rat

namespace OlapSynthesis

namespace Formula

/-- A formula in postfix order, as the query engine takes it. The engine is not part of this library;
what is written here is what the formulas rely on. -/
inductive Token
  | operand (measure : String)
  | quotient
  | product
  | difference
  | root
deriving DecidableEq, Repr

def Token.ofWord? : String → Option Token
  | "/" => some .quotient
  | "*" => some .product
  | "-" => some .difference
  | "SQRT" => some .root
  | _ => none

-- Parentheses group what is already in postfix order, so that they say no more than a comma.
def isSeparator (c : Char) : Bool :=
  c = ',' || c = ' ' || c = '(' || c = ')'

/-- What the reader is in the middle of, with the letters of it that were read. -/
inductive Reading
  | gap
  | word (letters : List Char)
  | operand (letters : List Char)

/-- The tokens of a text. An operand is closed by the first bracket, whatever stands before it. -/
def read : Reading → List Char → Option (List Token)
  | .gap, [] => some []
  | .gap, c :: rest =>
    if isSeparator c then read .gap rest else read (.word [c]) rest
  | .word letters, [] => (Token.ofWord? (String.ofList letters)).map ([·])
  | .word letters, c :: rest =>
    if c = '[' then
      if String.ofList letters = "aggregatedValue" then read (.operand []) rest else none
    else if isSeparator c then
      match Token.ofWord? (String.ofList letters) with
      | some token => (read .gap rest).map (token :: ·)
      | none => none
    else read (.word (letters ++ [c])) rest
  | .operand _, [] => none
  | .operand letters, c :: rest =>
    if c = ']' then (read .gap rest).map (.operand (String.ofList letters) :: ·)
    else read (.operand (letters ++ [c])) rest

/-- A value on the stack. A root is kept as what it is the root of. -/
inductive Quantity
  | number (value : ℚ)
  | root (radicand : ℚ)
deriving DecidableEq

/-- The stack after a token, if it holds the numbers that the token takes. -/
def Token.apply (resolve : String → Option Quantity) :
    Token → List Quantity → Option (List Quantity)
  | .operand measure, stack => (resolve measure).map (· :: stack)
  | .quotient, .number b :: .number a :: stack =>
    if b = 0 then none else some (.number (a / b) :: stack)
  | .product, .number b :: .number a :: stack => some (.number (a * b) :: stack)
  | .difference, .number b :: .number a :: stack => some (.number (a - b) :: stack)
  | .root, .number a :: stack => some (.root a :: stack)
  | _, _ => none

def run (resolve : String → Option Quantity) (tokens : List Token) (stack : List Quantity) :
    Option (List Quantity) :=
  tokens.foldlM (fun stack token => token.apply resolve stack) stack

/-- The value of a text: the only one that is on the stack in the end. -/
def evaluate (resolve : String → Option Quantity) (text : String) : Option Quantity :=
  match (read .gap text.toList).bind (run resolve · []) with
  | some [quantity] => some quantity
  | _ => none

end Formula

def leafValues (leaves : List (String → ℚ)) (field : String) : List ℚ :=
  leaves.map (· field)

/-- The aggregates that the formulas are built from. -/
def AggregatedMeasure.value? (leaves : List (String → ℚ)) (measure : AggregatedMeasure) :
    Option Formula.Quantity :=
  match measure.aggregation with
  | .sum => some (.number (leafValues leaves measure.field).sum)
  | .squareSum => some (.number ((leafValues leaves measure.field).map (· ^ 2)).sum)
  | _ => none

def NativeMeasure.value? (leaves : List (String → ℚ)) (measure : NativeMeasure) :
    Option Formula.Quantity :=
  match measure.kind with
  | .count => some (.number leaves.length)
  | .lastUpdate => none

/-- The value of the measure of a name in a cell with some leaves, where formulas refer to formulas
at most so many times. -/
def Cube.value? (cube : Cube) (leaves : List (String → ℚ)) :
    Nat → String → Option Formula.Quantity
  | depth, name =>
    match cube.measure? name with
    | some (.aggregated measure) => measure.value? leaves
    | some (.native measure) => measure.value? leaves
    | some (.derived measure) =>
      match depth with
      | 0 => none
      | depth + 1 => measure.expression?.bind (Formula.evaluate (cube.value? leaves depth))
    | none => none

def Cube.formula? (cube : Cube) (name : String) : Option String :=
  (cube.measure? name).bind fun measure => measure.derived?.bind (·.expression?)

namespace Formula

variable {resolve : String → Option Quantity} {tokens : List Token}

@[simp]
theorem run_nil (stack : List Quantity) : run resolve [] stack = some stack := rfl

@[simp]
theorem run_cons (token : Token) (stack : List Quantity) :
    run resolve (token :: tokens) stack = (token.apply resolve stack).bind (run resolve tokens) :=
  rfl

theorem run_append (front back : List Token) (stack : List Quantity) :
    run resolve (front ++ back) stack = (run resolve front stack).bind (run resolve back) :=
  List.foldlM_append

theorem evaluate_of_run {text : String} {quantity : Quantity}
    (hread : read .gap text.toList = some tokens) (hrun : run resolve tokens [] = some [quantity]) :
    evaluate resolve text = some quantity := by
  rw [evaluate, hread, Option.bind_some, hrun]

-- an operand too few, and an operand too many
example : evaluate (fun _ => some (.number 1)) "aggregatedValue[a], /" = none := by decide
example : evaluate (fun _ => some (.number 1)) "aggregatedValue[a], aggregatedValue[b]" = none := by
  decide

theorem read_letters {letters name : List Char} (hname : ']' ∉ name) (rest : List Char) :
    read (.operand letters) (name ++ ']' :: rest) =
      (read .gap rest).map (.operand (String.ofList (letters ++ name)) :: ·) := by
  induction name generalizing letters with
  | nil => rw [List.nil_append, List.append_nil, read, if_pos rfl]
  | cons c name ih =>
    have hc : c ≠ ']' := fun h => hname (h ▸ List.mem_cons_self)
    have htail : ']' ∉ name := fun h => hname (List.mem_cons_of_mem _ h)
    rw [List.cons_append, read, if_neg hc, ih htail, List.append_assoc, List.singleton_append]

theorem toList_aggregatedValue (measure : String) : (aggregatedValue measure).toList =
    "aggregatedValue[".toList ++ measure.toList ++ "]".toList :=
  (String.toList_append ..).trans (congrArg (· ++ "]".toList) (String.toList_append ..))

/-- An operand is read back as the measure that it was written for. -/
theorem read_aggregatedValue {measure : String} (hmeasure : ']' ∉ measure.toList)
    (rest : List Char) : read .gap ((aggregatedValue measure).toList ++ rest) =
      (read .gap rest).map (.operand measure :: ·) := by
  have hopen : read .gap ("aggregatedValue[".toList ++ (measure.toList ++ ']' :: rest)) =
      read (.operand []) (measure.toList ++ ']' :: rest) := rfl
  have hclose : (aggregatedValue measure).toList ++ rest =
      "aggregatedValue[".toList ++ (measure.toList ++ ']' :: rest) := by
    rw [toList_aggregatedValue, List.append_assoc, List.append_assoc]
    rfl
  rw [hclose, hopen, read_letters hmeasure, List.nil_append, String.ofList_toList]

end Formula

end OlapSynthesis
