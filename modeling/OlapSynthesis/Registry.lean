import OlapSynthesis.Cube

namespace OlapSynthesis

/-- A share in a cube: what is written through one handle is read through every other handle on the
same cell. -/
structure Handle where
  cell : Nat
deriving DecidableEq, Repr

/-- Cells that hold cubes; a cell that was given up is empty. -/
structure Cells where
  slots : List (Option Cube)
deriving DecidableEq

namespace Cells

def none : Cells :=
  ⟨[]⟩

def read? (cells : Cells) (handle : Handle) : Option Cube :=
  cells.slots[handle.cell]?.join

def update (cells : Cells) (handle : Handle) (change : Cube → Cube) : Cells :=
  ⟨cells.slots.modify handle.cell (Option.map change)⟩

def allocate (cells : Cells) (cube : Cube) : Handle × Cells :=
  (⟨cells.slots.length⟩, ⟨cells.slots ++ [some cube]⟩)

def release (cells : Cells) (handle : Handle) : Cells :=
  ⟨cells.slots.modify handle.cell fun _ => Option.none⟩

end Cells

/-- The cells of all stores, and which is whose. -/
structure Registry where
  cells : Cells
  handles : Dictionary Handle
deriving DecidableEq

namespace Registry

def empty : Registry :=
  ⟨.none, ∅⟩

def size (registry : Registry) : Nat :=
  registry.handles.size

def isEmpty (registry : Registry) : Bool :=
  registry.handles.isEmpty

def get? (registry : Registry) (store : String) : Option Handle :=
  registry.handles.get? store

/-- A handle on the cube of a store, which gets an empty cube if it has none. -/
def getOrCreate (registry : Registry) (store : String) : Handle × Registry :=
  match registry.get? store with
  | some handle => (handle, registry)
  | none =>
    let (handle, cells) := registry.cells.allocate (Cube.ofStore store)
    (handle, ⟨cells, registry.handles.insert store handle⟩)

def read? (registry : Registry) (handle : Handle) : Option Cube :=
  registry.cells.read? handle

def update (registry : Registry) (handle : Handle) (change : Cube → Cube) : Registry :=
  { registry with cells := registry.cells.update handle change }

/-- Changes the cube of a store, which gets one if it has none. -/
def updateStore (registry : Registry) (store : String) (change : Cube → Cube) : Registry :=
  let (handle, registry) := registry.getOrCreate store
  registry.update handle change

def cube? (registry : Registry) (store : String) : Option Cube :=
  registry.get? store >>= registry.read?

/-- Gives the cube of a store a cache; without a size nothing happens. -/
def setCacheSize (registry : Registry) (store : String) : Option UInt32 → Registry
  | none => registry
  | some size => registry.updateStore store (·.withCacheSize (some size))

def setAggregateMode (registry : Registry) (store : String) (mode : AggregateMode) : Registry :=
  registry.updateStore store (·.withAggregateMode mode)

/-- The cube of a store, which gets one if it has none. -/
def cube (registry : Registry) (store : String) : Cube × Registry :=
  let (handle, registry) := registry.getOrCreate store
  ((registry.read? handle).getD (Cube.ofStore store), registry)

/-- Takes the cube of a store out of its cell, or copies it if others still hold a handle. -/
def takeCube (inUse : Handle → Bool) (store : String) (handle : Handle) (cells : Cells) :
    Cube × Cells :=
  ((cells.read? handle).getD (Cube.ofStore store),
    if inUse handle then cells else cells.release handle)

def takeCubes (inUse : Handle → Bool) : List (String × Handle) → Cells →
    List (String × Cube) × Cells
  | [], cells => ([], cells)
  | (store, handle) :: rest, cells =>
    let (cube, cells) := takeCube inUse store handle cells
    let (cubes, cells) := takeCubes inUse rest cells
    ((store, cube) :: cubes, cells)

/-- The cubes by store, and the cells that are left to the handles in use. -/
def freeze (registry : Registry) (inUse : Handle → Bool) : Dictionary Cube × Cells :=
  let (cubes, cells) := takeCubes inUse registry.handles.entries registry.cells
  (.ofList cubes, cells)

end Registry

end OlapSynthesis
