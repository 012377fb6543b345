import OlapSynthesis.Text

namespace OlapSynthesis

/-- The type of a column's values. A date keeps its whole tag, pattern included. -/
inductive ColumnType
  | int
  | long
  | float
  | double
  | string
  | date (tag : String)
deriving DecidableEq, Repr

inductive ColumnError
  | blank (name tag : String)
  | unknownType (tag : String)
deriving DecidableEq, Repr

def ColumnError.message : ColumnError → String
  | .blank name tag =>
    "Invalid column definition: name '" ++ name ++ "' or type '" ++ tag ++ "' is empty"
  | .unknownType tag => "Unknown column type '" ++ tag ++ "'"

def isDateTag (tag : String) : Bool :=
  Text.startsIgnoringCase "date" tag

namespace ColumnType

def tag : ColumnType → String
  | .int => "int"
  | .long => "long"
  | .float => "float"
  | .double => "double"
  | .string => "string"
  | .date tag => tag

/-- The type that a trimmed tag outside the date family names, in lower case. -/
def named? (word : String) : Option ColumnType :=
  if word = "int" ∨ word = "integer" then some .int
  else if word = "long" then some .long
  else if word = "float" then some .float
  else if word = "double" then some .double
  else if word = "string" then some .string
  else none

/-- The type that a tag names, whatever the case of its letters and the blanks around it. -/
def parse (text : String) : Except ColumnError ColumnType :=
  let tag := Text.trim text
  if tag = "" then .error (.blank "" "")
  else if isDateTag tag then .ok (.date tag)
  else
    match named? (Text.lower tag) with
    | some type => .ok type
    | none => .error (.unknownType tag)

def isNumeric : ColumnType → Bool
  | .int | .long | .float | .double => true
  | .string | .date _ => false

def isIntegerLike : ColumnType → Bool
  | .int | .long => true
  | _ => false

def isDecimal : ColumnType → Bool
  | .float | .double => true
  | _ => false

/-- A pure number is only measured: it is no axis and no partition key. -/
def isPureNumeric : ColumnType → Bool
  | .long | .float | .double => true
  | _ => false

def isDate : ColumnType → Bool
  | .date _ => true
  | _ => false

/-- Whether the engine keeps a dictionary of the values, so that they can be a level. -/
def isIndexed : ColumnType → Bool
  | .int | .string | .date _ => true
  | _ => false

/-- What the default partitioning may choose. Identifiers stay eligible. -/
def isPartitionCandidate (type : ColumnType) : Bool :=
  !type.isPureNumeric

end ColumnType

def decimalFormat : String :=
  "DOUBLE[#,###.00;-#,###.00]"

def integerFormat : String :=
  "INT[#,###;-#,###]"

def dateFormat : String :=
  "DATE[yyyy-MM-dd]"

def ColumnType.numberFormat (type : ColumnType) : String :=
  if type.isIntegerLike then integerFormat else decimalFormat

def isIdentifierName (name : String) : Bool :=
  Text.endsIgnoringCase "id" name

structure Column where
  name : String
  type : ColumnType
deriving DecidableEq, Repr

namespace Column

def parse (name tag : String) : Except ColumnError Column :=
  if Text.isBlank name || Text.isBlank tag then .error (.blank name tag)
  else (ColumnType.parse tag).map (Column.mk name)

def checkName (column : Column) : Except ColumnError Unit :=
  if Text.isBlank column.name then .error (.blank column.name column.type.tag) else .ok ()

def isIdentifier (column : Column) : Bool :=
  isIdentifierName column.name

/-- A numeric identifier is a key: it is neither measured nor an axis. -/
def isNumericIdentifier (column : Column) : Bool :=
  column.type.isNumeric && column.isIdentifier

def isMeasureCandidate (column : Column) : Bool :=
  column.type.isNumeric && !column.isIdentifier

def isDimensionCandidate (column : Column) : Bool :=
  !column.type.isPureNumeric && !column.isNumericIdentifier

end Column

structure SourceLayout where
  /-- The stem of the file that was looked at. -/
  sourceName : String
  separator : Char
  columns : List Column
  origin : Option String
deriving DecidableEq, Repr

namespace SourceLayout

/-- The layout with columns given by name and tag; the first that is no column is the error. -/
def ofTags (sourceName : String) (separator : Char) (columns : List (String × String)) :
    Except ColumnError SourceLayout := do
  let columns ← columns.mapM fun (name, tag) => Column.parse name tag
  return ⟨sourceName, separator, columns, none⟩

def withOrigin (layout : SourceLayout) (origin : String) : SourceLayout :=
  { layout with origin := some origin }

def validate (layout : SourceLayout) : Except ColumnError Unit :=
  match layout.columns.find? (Text.isBlank ·.name) with
  | some column => .error (.blank column.name column.type.tag)
  | none => .ok ()

end SourceLayout

end OlapSynthesis
