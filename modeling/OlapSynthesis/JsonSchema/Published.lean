import OlapSynthesis.JsonSchema

namespace OlapSynthesis.JsonSchema

def arrayOf (name : String) (schema : JsonSchema) : JsonSchema :=
  .array (.reference name schema)

def column : JsonSchema :=
  .described "A named, typed column." (.record [("name", .text), ("type", .text)] ["name", "type"])

def sourceLayout : JsonSchema :=
  .described ("Column layout of a data source, as produced once by upstream discovery.\n\n" ++
    "May describe a single sample file standing in for an entire watched\n" ++
    "directory. Never mutated after construction.")
  (.record
    [("source_name",
        .described "Stable source name (file stem of the discovered file)." .text),
      ("separator", .character),
      ("columns", arrayOf "Column" column),
      ("origin", .described "Path of the file the layout was discovered from, if any." .textOrNull)]
    ["source_name", "separator", "columns"])

def datePart : JsonSchema :=
  .described "One component of a decomposed date." (.enumeration ["YEAR", "MONTH", "DAY"])

def derivedField : JsonSchema :=
  .described "Provenance of a synthetic field."
    (.record [("source", .text), ("part", .reference "DatePart" datePart)] ["source", "part"])

def field : JsonSchema :=
  .described "One physical field of a store."
    (.record
      [("name", .text),
        ("type", .text),
        ("indexed", .described "Dictionary-encoding hint." .boolean),
        ("derived",
          .described "Set for synthetic fields that have no counterpart in the source data."
            (.orNull (.reference "DerivedField" derivedField)))]
      ["name", "type", "indexed"])

def partitioning : JsonSchema :=
  .described "Modulo partitioning on one field."
    (.record [("field", .text), ("partition_count", .word32)] ["field", "partition_count"])

def storeLayout : JsonSchema :=
  .described "Physical record layout of one store."
    (.record
      [("name", .text),
        ("fields", arrayOf "FieldDescriptor" field),
        ("partitioning", .orNull (.reference "Partitioning" partitioning))]
      ["name", "fields"])

def levelType : JsonSchema :=
  .enumeration ["regular", "time"]

def level : JsonSchema :=
  .described "One step of a hierarchy, bound to a physical or synthetic field."
    (.record
      [("name", .text),
        ("field", .described "Field the level reads its members from." .text),
        ("formatter", .textOrNull),
        ("level_type", .withDefault (.text "regular") (.reference "LevelType" levelType))]
      ["name", "field"])

def hierarchy : JsonSchema :=
  .described "An ordered drill path of levels."
    (.record
      [("name", .text),
        ("levels", arrayOf "LevelSpec" level),
        ("default_hierarchy", .withDefault (.bool false) .boolean),
        ("plugin_key",
          .described ("Plugin key of an engine-side analysis hierarchy. Such hierarchies have\n" ++
            "no levels of their own: the engine populates them.") .textOrNull),
        ("folder", .textOrNull),
        ("all_members_enabled", .withDefault (.bool true) .boolean),
        ("properties", .dictionary .text)]
      ["name", "levels"])

def dimensionType : JsonSchema :=
  .enumeration ["standard", "time"]

def dimension : JsonSchema :=
  .described "A named axis owning one or more hierarchies."
    (.record
      [("name", .text),
        ("dimension_type",
          .withDefault (.text "standard") (.reference "DimensionType" dimensionType)),
        ("hierarchies", arrayOf "HierarchySpec" hierarchy),
        ("properties", .dictionary .text)]
      ["name", "hierarchies"])

def aggregation : JsonSchema :=
  .described "Aggregation applied to raw leaf values."
    (.oneOf
      [.enumeration ["sum", "min", "max"],
        .described "Sum of squares; feeds the standard deviation formula." (.constant "sq_sum"),
        .described "An engine-side aggregation function referenced by key."
          (.single "plugin" .text)])

def aggregatedMeasure : JsonSchema :=
  .record
    [("name", .text),
      ("field", .described "Source field being aggregated." .text),
      ("function", .reference "AggregationFunction" aggregation),
      ("folder", .textOrNull),
      ("formatter", .textOrNull),
      ("visible", .boolean)]
    ["name", "field", "function", "visible"]

def externalMeasure : JsonSchema :=
  .described ("Opaque reference to an engine-side plugin. The core emits it and never\n" ++
    "inspects its behavior.")
  (.record
    [("key", .text),
      ("parameters", .dictionary .text),
      ("underlying_measures", .array .text)]
    ["key"])

def calculation : JsonSchema :=
  .described "How a derived measure is computed from other measures."
    (.oneOf
      [.described "Postfix formula over `aggregatedValue[<measure>]` operands."
          (.record [("type", .constant "formula"), ("expression", .text)] ["type", "expression"]),
        .described ("Count of distinct contributing leaves, grouped by `level@hierarchy`\n" ++
            "expressions.")
          (.record [("type", .constant "leaf_count"), ("leaf_levels", .array .text)]
            ["type", "leaf_levels"]),
        .tagged "type" "external" "ExternalMeasureRef" externalMeasure])

def derivedMeasure : JsonSchema :=
  .record
    [("name", .text),
      ("calculation", .reference "Calculation" calculation),
      ("folder", .textOrNull),
      ("formatter", .textOrNull),
      ("visible", .boolean)]
    ["name", "calculation", "visible"]

def nativeKind : JsonSchema :=
  .described "Measures every cube has regardless of its columns."
    (.oneOf
      [.described "Number of contributing records." (.constant "count"),
        .described "Timestamp of the last update of a cell." (.constant "last_update")])

def nativeMeasure : JsonSchema :=
  .record
    [("kind", .reference "NativeKind" nativeKind),
      ("alias", .textOrNull),
      ("formatter", .textOrNull),
      ("visible", .boolean)]
    ["kind", "visible"]

def measure : JsonSchema :=
  .described "A named, formatted numeric output of the cube."
    (.oneOf
      [.tagged "measure" "aggregated" "AggregatedMeasure" aggregatedMeasure,
        .tagged "measure" "derived" "DerivedMeasure" derivedMeasure,
        .tagged "measure" "native" "NativeMeasure" nativeMeasure])

def aggregateMode : JsonSchema :=
  .described "How the engine computes aggregates."
    (.oneOf
      [.described "Aggregates computed on demand." (.constant "JUST_IN_TIME"),
        .described "Aggregates precomputed and stored." (.constant "BITMAP")])

def aggregatesCache : JsonSchema :=
  .described "Query-result cache bound to a cube." (.record [("size", .word32)] ["size"])

def cube : JsonSchema :=
  .described ("The logical model of one store.\n\nAn empty description is valid output: a store " ++
    "may have no eligible\ndimension or measure.")
  (.record
    [("name", .text),
      ("dimensions", arrayOf "DimensionSpec" dimension),
      ("measures", arrayOf "MeasureSpec" measure),
      ("aggregate_mode",
        .withDefault (.text "JUST_IN_TIME") (.reference "AggregateMode" aggregateMode)),
      ("cache", .orNull (.reference "AggregatesCache" aggregatesCache))]
    ["name", "dimensions", "measures"])

def catalog : JsonSchema :=
  .described "Groups cubes for query clients. AutoCube emits one per store."
    (.record [("name", .text), ("cubes", .array .text)] ["name", "cubes"])

def selection : JsonSchema :=
  .described "The fields of a base store exposed to the cubes of a schema."
    (.record [("base_store", .text), ("fields", .array .text)] ["base_store", "fields"])

def cubeSchema : JsonSchema :=
  .described "A datastore selection plus the cubes built on top of it."
    (.record
      [("name", .text),
        ("selection", .reference "SelectionDescription" selection),
        ("cubes", arrayOf "CubeDescription" cube)]
      ["name", "selection", "cubes"])

def manager : JsonSchema :=
  .described "Top-level description consumed by the query engine at startup."
    (.record
      [("catalogs", arrayOf "CatalogDescription" catalog),
        ("schemas", arrayOf "SchemaDescription" cubeSchema)]
      ["catalogs", "schemas"])

def datastore : JsonSchema :=
  .described "Physical layout of every store, primary and reference."
    (.record [("stores", arrayOf "StoreDescription" storeLayout)] ["stores"])

def sourceBinding : JsonSchema :=
  .described "How the ingestion side should read the files of a store."
    (.record
      [("store", .text),
        ("separator", .character),
        ("charset", .described "Resolved charset name." .text),
        ("origin", .textOrNull)]
      ["store", "separator", "charset"])

def warning : JsonSchema :=
  .oneOf
    [.described "The configured partition field does not name any column of the store."
        (.record
          [("warning", .constant "unknown_partition_field"), ("store", .text), ("field", .text)]
          ["warning", "store", "field"]),
      .described "The configured charset is not recognised; `fallback` is used instead."
        (.record
          [("warning", .constant "unknown_charset"), ("requested", .text), ("fallback", .text)]
          ["warning", "requested", "fallback"])]

def model : JsonSchema :=
  .record
    [("datastore", .reference "DatastoreSchema" datastore),
      ("manager", .reference "ManagerDescription" manager),
      ("sources", arrayOf "SourceBinding" sourceBinding),
      ("warnings", arrayOf "Warning" warning)]
    ["datastore", "manager", "sources"]

/-- The published schemas: the name of each, its title and the schema. -/
def published : List (String × String × JsonSchema) :=
  [("cube_description", "CubeDescription", cube),
    ("dimension_spec", "DimensionSpec", dimension),
    ("discovered_schema", "DiscoveredSchema", sourceLayout),
    ("generated_model", "GeneratedModel", model),
    ("manager_description", "ManagerDescription", manager),
    ("measure_spec", "MeasureSpec", measure),
    ("store_description", "StoreDescription", storeLayout),
    ("warning", "Warning", warning)]

def publishedNames : List String :=
  published.map (·.1)

def published? (name : String) : Option JsonSchema :=
  (published.lookup name).map (·.2)

inductive Refusal
  | unpublished (name : String)
  | violated (name : String) (violations : List JsonPath)
deriving DecidableEq, Repr

def unpublishedMessage (name : String) : String :=
  "no schema registered under '" ++ name ++ "'"

def validate (name : String) (value : Json) : Except Refusal Unit :=
  match published? name with
  | none => .error (.unpublished name)
  | some schema =>
    match schema.violations value with
    | [] => .ok ()
    | violations => .error (.violated name violations)

end OlapSynthesis.JsonSchema
