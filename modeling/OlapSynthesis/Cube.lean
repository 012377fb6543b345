import OlapSynthesis.Dictionary
import OlapSynthesis.Store

namespace OlapSynthesis

inductive LevelType
  | regular
  | time
deriving DecidableEq, Repr, Inhabited

structure Level where
  name : String
  /-- The field whose values are the members. -/
  field : String
  formatter : Option String
  type : LevelType
deriving DecidableEq, Repr

namespace Level

def bound (name field : String) : Level :=
  ⟨name, field, none, .regular⟩

/-- A level over the field of its own name. -/
def named (name : String) : Level :=
  bound name name

end Level

structure Hierarchy where
  name : String
  levels : List Level
  isDefault : Bool
  /-- The engine's plugin that fills the hierarchy; such a hierarchy has no levels of its own. -/
  pluginKey : Option String
  folder : Option String
  allMembers : Bool
  properties : Dictionary String
deriving DecidableEq

namespace Hierarchy

def ofLevels (name : String) (levels : List Level) : Hierarchy :=
  ⟨name, levels, false, none, none, true, ∅⟩

def analysis (name pluginKey folder : String) (allMembers : Bool) : Hierarchy :=
  ⟨name, [], false, some pluginKey, some folder, allMembers, ∅⟩

def asDefault (h : Hierarchy) : Hierarchy :=
  { h with isDefault := true }

def withProperty (h : Hierarchy) (key value : String) : Hierarchy :=
  { h with properties := h.properties.insert key value }

def level? (h : Hierarchy) (name : String) : Option Level :=
  h.levels.find? (·.name == name)

end Hierarchy

inductive DimensionType
  | standard
  | time
deriving DecidableEq, Repr, Inhabited

structure Dimension where
  name : String
  type : DimensionType
  hierarchies : List Hierarchy
  properties : Dictionary String
deriving DecidableEq

namespace Dimension

def isTime (d : Dimension) : Bool :=
  d.type == .time

def hierarchy? (d : Dimension) (name : String) : Option Hierarchy :=
  d.hierarchies.find? (·.name == name)

end Dimension

inductive Aggregation
  | sum
  | min
  | max
  /-- The sum of the squares. -/
  | squareSum
  /-- A function of the engine, by its key. -/
  | plugin (key : String)
deriving DecidableEq, Repr

namespace Aggregation

/-- The engine's key, which also ends the name of the measure. -/
def key : Aggregation → String
  | .sum => "SUM"
  | .min => "min"
  | .max => "max"
  | .squareSum => "SQ_SUM"
  | .plugin key => key

def measureName (aggregation : Aggregation) (field : String) : String :=
  field ++ "." ++ aggregation.key

end Aggregation

structure ExternalMeasure where
  key : String
  parameters : Dictionary String
  /-- The measures that the plugin reads. -/
  underlying : List String
deriving DecidableEq

namespace ExternalMeasure

def ofKey (key : String) : ExternalMeasure :=
  ⟨key, ∅, []⟩

def withParameter (e : ExternalMeasure) (key value : String) : ExternalMeasure :=
  { e with parameters := e.parameters.insert key value }

def withUnderlying (e : ExternalMeasure) (measure : String) : ExternalMeasure :=
  { e with underlying := e.underlying ++ [measure] }

end ExternalMeasure

inductive Calculation
  /-- A postfix formula over other measures. -/
  | formula (expression : String)
  /-- The number of distinct leaves below some levels. -/
  | leafCount (levels : List String)
  | external (plugin : ExternalMeasure)
deriving DecidableEq

structure AggregatedMeasure where
  name : String
  field : String
  aggregation : Aggregation
  folder : Option String
  formatter : Option String
  visible : Bool
deriving DecidableEq, Repr

/-- The aggregate of a field, visible and without folder or formatter. -/
def AggregatedMeasure.ofField (field : String) (aggregation : Aggregation) : AggregatedMeasure :=
  ⟨aggregation.measureName field, field, aggregation, none, none, true⟩

structure DerivedMeasure where
  name : String
  calculation : Calculation
  folder : Option String
  formatter : Option String
  visible : Bool
deriving DecidableEq

namespace DerivedMeasure

/-- The measure with a calculation, visible and without folder or formatter. -/
def ofCalculation (name : String) (calculation : Calculation) : DerivedMeasure :=
  ⟨name, calculation, none, none, true⟩

def ofFormula (name expression : String) : DerivedMeasure :=
  ofCalculation name (.formula expression)

def expression? (m : DerivedMeasure) : Option String :=
  match m.calculation with
  | .formula expression => some expression
  | _ => none

end DerivedMeasure

inductive NativeKind
  | count
  | lastUpdate
deriving DecidableEq, Repr

def NativeKind.id : NativeKind → String
  | .count => "contributors.COUNT"
  | .lastUpdate => "update.TIMESTAMP"

structure NativeMeasure where
  kind : NativeKind
  label : Option String
  formatter : Option String
  visible : Bool
deriving DecidableEq, Repr

inductive Measure
  | aggregated (measure : AggregatedMeasure)
  | derived (measure : DerivedMeasure)
  | native (measure : NativeMeasure)
deriving DecidableEq

namespace Measure

def name : Measure → String
  | .aggregated m => m.name
  | .derived m => m.name
  | .native m => m.kind.id

def folder : Measure → Option String
  | .aggregated m => m.folder
  | .derived m => m.folder
  | .native _ => none

def formatter : Measure → Option String
  | .aggregated m => m.formatter
  | .derived m => m.formatter
  | .native m => m.formatter

def visible : Measure → Bool
  | .aggregated m => m.visible
  | .derived m => m.visible
  | .native m => m.visible

def aggregated? : Measure → Option AggregatedMeasure
  | .aggregated m => some m
  | _ => none

def derived? : Measure → Option DerivedMeasure
  | .derived m => some m
  | _ => none

def native? : Measure → Option NativeMeasure
  | .native m => some m
  | _ => none

end Measure

structure AggregatesCache where
  size : UInt32
deriving DecidableEq, Repr

/-- The logical model of one store. It may well have no dimension and no measure. -/
structure Cube where
  name : String
  dimensions : List Dimension
  measures : List Measure
  aggregateMode : AggregateMode
  cache : Option AggregatesCache
deriving DecidableEq

namespace Cube

def ofStore (store : String) : Cube :=
  ⟨store, [], [], .justInTime, none⟩

def addDimensions (cube : Cube) (dimensions : List Dimension) : Cube :=
  { cube with dimensions := cube.dimensions ++ dimensions }

def addMeasures (cube : Cube) (measures : List Measure) : Cube :=
  { cube with measures := cube.measures ++ measures }

def addDimension (cube : Cube) (dimension : Dimension) : Cube :=
  cube.addDimensions [dimension]

def addMeasure (cube : Cube) (measure : Measure) : Cube :=
  cube.addMeasures [measure]

/-- Gives the cube a cache of a size; without a size the cube keeps what it has. -/
def withCacheSize (cube : Cube) : Option UInt32 → Cube
  | some size => { cube with cache := some ⟨size⟩ }
  | none => cube

def withAggregateMode (cube : Cube) (mode : AggregateMode) : Cube :=
  { cube with aggregateMode := mode }

def dimension? (cube : Cube) (name : String) : Option Dimension :=
  cube.dimensions.find? (·.name == name)

def measure? (cube : Cube) (name : String) : Option Measure :=
  cube.measures.find? (·.name == name)

def aggregatedMeasures (cube : Cube) : List AggregatedMeasure :=
  cube.measures.filterMap Measure.aggregated?

def derivedMeasures (cube : Cube) : List DerivedMeasure :=
  cube.measures.filterMap Measure.derived?

def nativeMeasures (cube : Cube) : List NativeMeasure :=
  cube.measures.filterMap Measure.native?

def measuresIn (cube : Cube) (folder : String) : List Measure :=
  cube.measures.filter (·.folder == some folder)

end Cube

end OlapSynthesis
