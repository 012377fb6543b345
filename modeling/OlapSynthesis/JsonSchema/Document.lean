import OlapSynthesis.JsonSchema.Published

namespace OlapSynthesis.JsonSchema

def typeMember (name : String) : String × Json :=
  ("type", .text name)

def pointerTo (name : String) : Json :=
  .text ("#/$defs/" ++ name)

def constantMembers (value : String) : List (String × Json) :=
  [typeMember "string", ("const", .text value)]

mutual

def keywords : JsonSchema → List (String × Json)
  | .text => [typeMember "string"]
  | .character => [typeMember "string", ("minLength", .nat 1), ("maxLength", .nat 1)]
  | .boolean => [typeMember "boolean"]
  | .word32 => [typeMember "integer", ("format", .text "uint32"), ("minimum", .nat 0)]
  | .textOrNull => [("type", .texts ["string", "null"])]
  | .constant value => constantMembers value
  | .enumeration values => [typeMember "string", ("enum", .texts values)]
  | .array item => [typeMember "array", ("items", .object item.keywords)]
  | .dictionary value =>
    [typeMember "object", ("additionalProperties", .object value.keywords)]
  | .record properties required =>
    [typeMember "object", ("properties", .object (propertyKeywords properties)),
      ("required", .texts required)]
  | .single key value =>
    [typeMember "object", ("properties", .object [(key, .object value.keywords)]),
      ("required", .texts [key]), ("additionalProperties", .bool false)]
  | .oneOf branches => [("oneOf", .array (branchKeywords branches))]
  | .orNull schema =>
    [("anyOf", .array [.object schema.keywords, .object [typeMember "null"]])]
  | .reference name _ => [("$ref", pointerTo name)]
  | .tagged key tag name _ =>
    [typeMember "object", ("$ref", pointerTo name),
      ("properties", .object [(key, .object (constantMembers tag))]), ("required", .texts [key])]
  | .described description schema => ("description", .text description) :: schema.keywords
  | .withDefault default schema => ("default", default) :: schema.keywords

def propertyKeywords : List (String × JsonSchema) → List (String × Json)
  | [] => []
  | (key, schema) :: rest => (key, .object schema.keywords) :: propertyKeywords rest

def branchKeywords : List JsonSchema → List Json
  | [] => []
  | schema :: rest => .object schema.keywords :: branchKeywords rest

end

mutual

/-- What the references in a schema refer to, by name. -/
def definitions : JsonSchema → List (String × Json)
  | .reference name target => (name, .object target.keywords) :: target.definitions
  | .tagged _ _ name target => (name, .object target.keywords) :: target.definitions
  | .array item => item.definitions
  | .dictionary value => value.definitions
  | .record properties _ => propertyDefinitions properties
  | .single _ value => value.definitions
  | .oneOf branches => branchDefinitions branches
  | .orNull schema => schema.definitions
  | .described _ schema => schema.definitions
  | .withDefault _ schema => schema.definitions
  | _ => []

def propertyDefinitions : List (String × JsonSchema) → List (String × Json)
  | [] => []
  | (_, schema) :: rest => schema.definitions ++ propertyDefinitions rest

def branchDefinitions : List JsonSchema → List (String × Json)
  | [] => []
  | schema :: rest => schema.definitions ++ branchDefinitions rest

end

/-- The document of a schema with a title, with all keys in order. -/
def document (title : String) (schema : JsonSchema) : Json :=
  let definitions := schema.definitions
  Json.canonical (.object (
    [("$schema", .text "https://json-schema.org/draft/2020-12/schema"),
      ("title", .text title)] ++
    schema.keywords ++
    if definitions.isEmpty then [] else [("$defs", .object definitions)]))

def publishedDocument? (name : String) : Option Json :=
  (published.lookup name).map fun (title, schema) => document title schema

end OlapSynthesis.JsonSchema
