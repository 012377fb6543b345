import OlapSynthesis.Column

namespace OlapSynthesis

/-- How the engine computes aggregates: on demand, or ahead of time. -/
inductive AggregateMode
  | justInTime
  | bitmap
deriving DecidableEq, Repr, Inhabited

namespace AggregateMode

def name : AggregateMode → String
  | .justInTime => "JUST_IN_TIME"
  | .bitmap => "BITMAP"

/-- A text that names no mode, as it was compared. -/
structure Unknown where
  word : String
deriving DecidableEq, Repr

def Unknown.message (unknown : Unknown) : String :=
  "Validation error: unknown aggregate mode '" ++ unknown.word ++ "'"

/-- The mode that a text names, whatever the case of its letters and the blanks around it. -/
def parse (text : String) : Except Unknown AggregateMode :=
  let word := Text.upper (Text.trim text)
  if word = "JUST_IN_TIME" then .ok .justInTime
  else if word = "BITMAP" then .ok .bitmap
  else .error ⟨word⟩

end AggregateMode

/-- What the configuration says about a store beside its columns. -/
structure StorePolicy where
  /-- The column to partition on, in place of the default. -/
  partitionField : Option String
  cacheSize : Option UInt32
  aggregateMode : AggregateMode
deriving DecidableEq, Repr

inductive StoreError
  | column (cause : ColumnError)
  | noColumns (store : String)
deriving DecidableEq, Repr

def StoreError.message : StoreError → String
  | .column cause => cause.message
  | .noColumns store => "Store '" ++ store ++ "' has no columns"

/-- A store to be synthesized. -/
structure StoreSpec where
  name : String
  partitionField : Option String
  columns : List Column
  cacheSize : Option UInt32
  aggregateMode : AggregateMode
  hasColumns : columns ≠ []
  named : ∀ column ∈ columns, Text.isBlank column.name = false
deriving DecidableEq

namespace StoreSpec

/-- The column asked for as partition key, unless it is blank. -/
def partitionOverride (spec : StoreSpec) : Option String :=
  (spec.partitionField.map Text.trim).filter (· ≠ "")

/-- The first column of a name, up to the case of ASCII letters. -/
def findColumn? (spec : StoreSpec) (name : String) : Option Column :=
  spec.columns.find? (Text.sameIgnoringCase ·.name name)

/-- A spec under construction; its columns are already known to have names. -/
structure Builder where
  name : String
  partitionField : Option String
  columns : List Column
  cacheSize : Option UInt32
  aggregateMode : AggregateMode
  named : ∀ column ∈ columns, Text.isBlank column.name = false
deriving DecidableEq

def builder (name : String) : Builder :=
  ⟨name, none, [], none, .justInTime, fun _ h => nomatch h⟩

namespace Builder

def withPartitionField (b : Builder) (field : String) : Builder :=
  { b with partitionField := some field }

def withCacheSize (b : Builder) (size : Option UInt32) : Builder :=
  { b with cacheSize := size }

def withAggregateMode (b : Builder) (mode : AggregateMode) : Builder :=
  { b with aggregateMode := mode }

/-- Takes all that the policy says, also what it leaves unset. -/
def withPolicy (b : Builder) (policy : StorePolicy) : Builder :=
  { b with
    partitionField := policy.partitionField
    cacheSize := policy.cacheSize
    aggregateMode := policy.aggregateMode }

def addColumn (b : Builder) (column : Column) : Except ColumnError Builder :=
  if h : Text.isBlank column.name = true then .error (.blank column.name column.type.tag)
  else
    .ok { b with
      columns := b.columns ++ [column]
      named := fun c hc => by
        rcases List.mem_append.mp hc with hc | hc
        · exact b.named c hc
        · rw [List.mem_singleton.mp hc]
          exact Bool.eq_false_iff.mpr h }

def addTagged (b : Builder) (name tag : String) : Except ColumnError Builder := do
  b.addColumn (← Column.parse name tag)

def build (b : Builder) : Except StoreError StoreSpec :=
  if h : b.columns = [] then .error (.noColumns b.name)
  else .ok ⟨b.name, b.partitionField, b.columns, b.cacheSize, b.aggregateMode, h, b.named⟩

end Builder

def ofLayout (name : String) (layout : SourceLayout) (policy : StorePolicy) :
    Except StoreError StoreSpec := do
  layout.validate.mapError .column
  let b ← (layout.columns.foldlM Builder.addColumn ((builder name).withPolicy policy)).mapError
    .column
  b.build

end StoreSpec

inductive DatePart
  | year
  | month
  | day
deriving DecidableEq, Repr

/-- A day of the proleptic Gregorian calendar. -/
structure CalendarDate where
  year : Int
  month : Nat
  day : Nat
deriving DecidableEq, Repr

namespace CalendarDate

def isLeapYear (year : Int) : Bool :=
  year % 4 == 0 && (year % 100 != 0 || year % 400 == 0)

def daysInMonth (year : Int) (month : Nat) : Nat :=
  if month = 2 then if isLeapYear year then 29 else 28
  else if month ∈ [4, 6, 9, 11] then 30
  else 31

/-- The day with the given components, if there is one within the years that are kept. -/
def ofComponents? (year month day : Int) : Option CalendarDate :=
  let (m, d) := (month.toNat, day.toNat)
  if -262143 ≤ year ∧ year ≤ 262142 ∧ 1 ≤ month ∧ m ≤ 12 ∧ 1 ≤ day ∧ d ≤ daysInMonth year m then
    some ⟨year, m, d⟩
  else none

end CalendarDate

inductive FieldValue
  | int (value : Int)
  | text (value : String)
deriving DecidableEq, Repr

namespace DatePart

/-- The parts from the coarsest to the finest. -/
def all : List DatePart :=
  [.year, .month, .day]

def suffix : DatePart → String
  | .year => "YEAR"
  | .month => "MONTH"
  | .day => "DAY"

def levelName : DatePart → String
  | .year => "Year"
  | .month => "Month"
  | .day => "Day"

def fieldType : DatePart → ColumnType
  | .year | .day => .int
  | .month => .string

def fieldName (part : DatePart) (column : String) : String :=
  column ++ "." ++ part.suffix

/-- The part of a day. A month has two digits, so that months sort by time. -/
def value (part : DatePart) (date : CalendarDate) : FieldValue :=
  match part with
  | .year => .int date.year
  | .month => .text ((if date.month < 10 then "0" else "") ++ toString date.month)
  | .day => .int date.day

end DatePart

structure DerivedField where
  source : String
  part : DatePart
deriving DecidableEq, Repr

structure Field where
  name : String
  type : ColumnType
  indexed : Bool
  derived : Option DerivedField
deriving DecidableEq, Repr

namespace Field

def ofDatePart (column : String) (part : DatePart) : Field :=
  ⟨part.fieldName column, part.fieldType, true, some ⟨column, part⟩⟩

def ofColumn (column : Column) : Field :=
  ⟨column.name, column.type, column.type.isIndexed, none⟩

/-- A synthetic field has no counterpart in the source. -/
def isSynthetic (field : Field) : Bool :=
  field.derived.isSome

end Field

/-- A split of a store by the value of one field. -/
structure Partitioning where
  field : String
  count : UInt32
deriving DecidableEq, Repr

structure StoreLayout where
  name : String
  fields : List Field
  partitioning : Option Partitioning
deriving DecidableEq, Repr

def StoreLayout.field? (store : StoreLayout) (name : String) : Option Field :=
  store.fields.find? (·.name == name)

end OlapSynthesis
