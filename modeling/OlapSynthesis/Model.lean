import OlapSynthesis.Cube

namespace OlapSynthesis

inductive Warning
  /-- The column asked for as partition key does not exist. -/
  | unknownPartitionField (store field : String)
  /-- The charset is not known, and another is used. -/
  | unknownCharset (requested fallback : String)
deriving DecidableEq, Repr

def Warning.message : Warning → String
  | .unknownPartitionField store field =>
    "configured partitioning field '" ++ field ++ "' does not exist in the format of store '" ++
      store ++ "'; default partitioning will be used"
  | .unknownCharset requested fallback =>
    "unknown charset '" ++ requested ++ "'; falling back to " ++ fallback

structure Catalog where
  name : String
  cubes : List String
deriving DecidableEq, Repr

def Catalog.ofStore (store : String) : Catalog :=
  ⟨store ++ "_CATALOG", [store]⟩

/-- The fields of a store that its cubes see. -/
structure Selection where
  baseStore : String
  fields : List String
deriving DecidableEq, Repr

structure CubeSchema where
  name : String
  selection : Selection
  cubes : List Cube
deriving DecidableEq

def CubeSchema.ofStore (store : String) (fields : List String) (cube : Cube) : CubeSchema :=
  ⟨store ++ "_SCHEMA", ⟨store, fields⟩, [cube]⟩

/-- What the query engine starts from. -/
structure Manager where
  catalogs : List Catalog
  schemas : List CubeSchema
deriving DecidableEq

namespace Manager

def cube? (manager : Manager) (name : String) : Option Cube :=
  (manager.schemas.flatMap (·.cubes)).find? (·.name == name)

def schema? (manager : Manager) (name : String) : Option CubeSchema :=
  manager.schemas.find? (·.name == name)

end Manager

structure Datastore where
  stores : List StoreLayout
deriving DecidableEq, Repr

def Datastore.store? (datastore : Datastore) (name : String) : Option StoreLayout :=
  datastore.stores.find? (·.name == name)

structure SourceBinding where
  store : String
  separator : Char
  charset : String
  origin : Option String
deriving DecidableEq, Repr

structure Model where
  datastore : Datastore
  manager : Manager
  sources : List SourceBinding
  warnings : List Warning
deriving DecidableEq

end OlapSynthesis
