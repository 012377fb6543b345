import OlapSynthesis.Customization
import OlapSynthesis.Synthesis

namespace OlapSynthesis

structure Session where
  registry : Registry
  frozen : Bool
  /-- The handles that are held, by the name they were given. -/
  names : Dictionary Handle
deriving DecidableEq

namespace Session

inductive Fault
  /-- Nothing is held under the name. -/
  | noHandle
  | frozen
  | column (cause : ColumnError)
deriving DecidableEq, Repr

inductive StoreStep
  | getOrCreate (store : String) (label : Option String)
  | get (store : String) (label : Option String)
  | isEmpty
  | setCacheSize (store : String) (size : Option UInt32)
  | setAggregateMode (store : String) (mode : AggregateMode)
  | dimensions (store : String)
  | measures (store : String)
  | natives (store : String)
  | synthesize (spec : StoreSpec) (parallelism : UInt64)
  | freeze

inductive HandleStep
  | name
  | snapshot
  | addDimension (dimension : Dimension)
  | addMeasure (measure : Measure)
  | addDimensionsOf (columns : List Column)
  | addMeasuresOf (columns : List Column)
  | customize (customization : CurrencyCustomization)
  | update (change : Cube → Cube)

inductive Step
  | onRegistry (step : StoreStep)
  | onHandle (label : String) (step : HandleStep)
  | same (label other : String)
  | drop (label : String)

inductive Answer
  | done
  | flag (value : Bool)
  | text (value : String)
  /-- A cube of which only the name and the sizes are told. -/
  | brief (cube : Option Cube)
  | cube (cube : Cube)
  | dimensions (dimensions : List Dimension)
  | measures (measures : List Measure)
  | natives (measures : List NativeMeasure)
  | outcome (outcome : StoreOutcome)
  | cubes (cubes : Dictionary Cube)
deriving DecidableEq

def fresh : Session :=
  ⟨.empty, false, ∅⟩

def handle? (session : Session) (label : String) : Option Handle :=
  session.names.get? label

/-- Holds a handle under a name, if there is one. -/
def hold (session : Session) (handle : Handle) : Option String → Session
  | some label => { session with names := session.names.insert label handle }
  | none => session

def holds (session : Session) (handle : Handle) : Bool :=
  session.names.values.contains handle

def withRegistry (session : Session) (registry : Registry) : Session :=
  { session with registry }

def runOnRegistry (session : Session) : StoreStep → Except ColumnError (Answer × Session)
  | .getOrCreate store label =>
    let (handle, registry) := session.registry.getOrCreate store
    .ok (.brief (registry.read? handle), (session.withRegistry registry).hold handle label)
  | .get store label =>
    match session.registry.get? store with
    | some handle => .ok (.brief (session.registry.read? handle), session.hold handle label)
    | none => .ok (.brief none, session)
  | .isEmpty => .ok (.flag session.registry.isEmpty, session)
  | .setCacheSize store size =>
    .ok (.done, session.withRegistry (session.registry.setCacheSize store size))
  | .setAggregateMode store mode =>
    .ok (.done, session.withRegistry (session.registry.setAggregateMode store mode))
  | .dimensions store =>
    let (cube, registry) := session.registry.cube store
    .ok (.dimensions cube.dimensions, session.withRegistry registry)
  | .measures store =>
    let (cube, registry) := session.registry.cube store
    .ok (.measures cube.measures, session.withRegistry registry)
  | .natives store =>
    let (cube, registry) := session.registry.cube store
    .ok (.natives cube.nativeMeasures, session.withRegistry registry)
  | .synthesize spec parallelism => do
    let (outcome, registry) ← spec.synthesize parallelism session.registry
    return (.outcome outcome, session.withRegistry registry)
  | .freeze =>
    let (cubes, cells) := session.registry.freeze session.holds
    .ok (.cubes cubes, { session with registry := ⟨cells, ∅⟩, frozen := true })

/-- Changes the cube behind a handle and tells its sizes. -/
def change (session : Session) (handle : Handle) (f : Cube → Cube) : Answer × Session :=
  let registry := session.registry.update handle f
  (.brief (registry.read? handle), session.withRegistry registry)

/-- A step through a handle on a cell that holds `cube`. -/
def runOnHandle (session : Session) (handle : Handle) (cube : Cube) :
    HandleStep → Answer × Session
  | .name => (.text cube.name, session)
  | .snapshot => (.cube cube, session)
  | .addDimension dimension => session.change handle (·.addDimension dimension)
  | .addMeasure measure => session.change handle (·.addMeasure measure)
  | .addDimensionsOf columns =>
    session.change handle (·.addDimensions (Dimension.ofColumns columns))
  | .addMeasuresOf columns => session.change handle (·.addMeasures (Measure.ofColumns columns))
  | .customize _ => session.change handle CurrencyCustomization.extend
  | .update change => session.change handle change

def run (session : Session) : Step → Except Fault (Answer × Session)
  | .onRegistry step =>
    if session.frozen then .error .frozen else (session.runOnRegistry step).mapError .column
  | .onHandle label step =>
    match session.handle? label with
    | none => .error .noHandle
    | some handle =>
      match session.registry.read? handle with
      | none => .error .noHandle
      | some cube => .ok (session.runOnHandle handle cube step)
  | .same label other =>
    match session.handle? label, session.handle? other with
    | some handle, some otherHandle => .ok (.flag (handle == otherHandle), session)
    | _, _ => .error .noHandle
  | .drop label =>
    .ok (.flag (session.names.contains label),
      { session with names := session.names.erase label })

end Session

end OlapSynthesis
