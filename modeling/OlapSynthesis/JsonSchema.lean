import OlapSynthesis.Json.Basic

namespace OlapSynthesis

/-- The part of JSON Schema that the published documents use. A reference carries the schema that it
refers to, so a schema is finite however it is followed. -/
inductive JsonSchema
  | text
  | character
  | boolean
  /-- A whole number of 32 bits, without sign. -/
  | word32
  | textOrNull
  | constant (value : String)
  | enumeration (values : List String)
  | array (item : JsonSchema)
  /-- An object with any keys. -/
  | dictionary (value : JsonSchema)
  | record (properties : List (String × JsonSchema)) (required : List String)
  /-- An object with one key. -/
  | single (key : String) (value : JsonSchema)
  | oneOf (branches : List JsonSchema)
  | orNull (schema : JsonSchema)
  | reference (name : String) (target : JsonSchema)
  /-- What a reference asks for, and a tag. -/
  | tagged (key tag name : String) (target : JsonSchema)
  | described (description : String) (schema : JsonSchema)
  | withDefault (default : Json) (schema : JsonSchema)
deriving Inhabited

/-- The way from a value to a part of it: keys, and positions as texts. -/
abbrev JsonPath := List String

def pointerChar (c : Char) : List Char :=
  if c = '~' then ['~', '0'] else if c = '/' then ['~', '1'] else [c]

def JsonPath.pointer (path : JsonPath) : String :=
  String.join (path.map fun key => "/" ++ String.ofList (key.toList.flatMap pointerChar))

namespace JsonSchema

/-- A violation at the value itself, unless a test holds. -/
def violationUnless (holds : Bool) : List JsonPath :=
  if holds then [] else [[]]

def isText : Json → Bool
  | .text _ => true
  | _ => false

def isNull : Json → Bool
  | .null => true
  | _ => false

def isBoolean : Json → Bool
  | .bool _ => true
  | _ => false

def isArray : Json → Bool
  | .array _ => true
  | _ => false

def isObject : Json → Bool
  | .object _ => true
  | _ => false

/-- Whether a value is a number without a fraction, however it is written. -/
def isInteger : Json → Bool
  | .number n => n.isIntegral
  | _ => false

def isNegative : Json → Bool
  | .number n => n.isNegative
  | _ => false

def isTextAmong (values : List String) : Json → Bool
  | .text s => values.contains s
  | _ => false

/-- A text must have a length; any other value may be as it is. -/
def hasLength (wanted : Nat → Bool) : Json → Bool
  | .text s => wanted s.length
  | _ => true

def lacking (required : List String) : Json → List String
  | .object members => required.filter fun key => !members.any (·.1 == key)
  | _ => []

def within (key : String) (violations : List JsonPath) : List JsonPath :=
  violations.map (key :: ·)

def inItems (violations : Json → List JsonPath) : Json → List JsonPath
  | .array items => items.zipIdx.flatMap fun (item, i) => within (toString i) (violations item)
  | _ => []

def inMember (key : String) (violations : Json → List JsonPath) (value : Json) :
    List JsonPath :=
  match value.member? key with
  | some member => within key (violations member)
  | none => []

def inMembers (violations : Json → List JsonPath) : Json → List JsonPath
  | .object members => members.flatMap fun (key, member) => within key (violations member)
  | _ => []

def hasOnly (key : String) : Json → Bool
  | .object members => members.all (·.1 == key)
  | _ => true

mutual

/-- The places where a value violates a schema; one place may be violated in several ways. A value of
the wrong type that is also none of the allowed constants violates two keywords. Of a choice between
schemas only the failure is told. -/
def violations : JsonSchema → Json → List JsonPath
  | .text, value => violationUnless (isText value)
  | .character, value =>
    violationUnless (isText value) ++ violationUnless (hasLength (1 ≤ ·) value) ++
      violationUnless (hasLength (· ≤ 1) value)
  | .boolean, value => violationUnless (isBoolean value)
  | .word32, value => violationUnless (isInteger value) ++ violationUnless (!isNegative value)
  | .textOrNull, value => violationUnless (isText value || isNull value)
  | .constant wanted, value =>
    violationUnless (isText value) ++ violationUnless (isTextAmong [wanted] value)
  | .enumeration values, value =>
    violationUnless (isText value) ++ violationUnless (isTextAmong values value)
  | .array item, value => violationUnless (isArray value) ++ inItems item.violations value
  | .dictionary member, value =>
    violationUnless (isObject value) ++ inMembers member.violations value
  | .record properties required, value =>
    violationUnless (isObject value) ++ (lacking required value).map (fun _ => []) ++
      propertyViolations properties value
  | .single key schema, value =>
    violationUnless (isObject value) ++ (lacking [key] value).map (fun _ => []) ++
      violationUnless (hasOnly key value) ++ inMember key schema.violations value
  | .oneOf branches, value => violationUnless (matching branches value == 1)
  | .orNull schema, value => violationUnless (isNull value || (schema.violations value).isEmpty)
  | .reference _ target, value => target.violations value
  | .tagged key tag _ target, value =>
    target.violations value ++ violationUnless (isObject value) ++
      (lacking [key] value).map (fun _ => []) ++
      inMember key
        (fun tagValue =>
          violationUnless (isText tagValue) ++ violationUnless (isTextAmong [tag] tagValue)) value
  | .described _ schema, value => schema.violations value
  | .withDefault _ schema, value => schema.violations value

def propertyViolations : List (String × JsonSchema) → Json → List JsonPath
  | [], _ => []
  | (key, schema) :: rest, value =>
    inMember key schema.violations value ++ propertyViolations rest value

/-- How many of some schemas a value conforms to. -/
def matching : List JsonSchema → Json → Nat
  | [], _ => 0
  | schema :: rest, value =>
    (if (schema.violations value).isEmpty then 1 else 0) + matching rest value

end

def accepts (schema : JsonSchema) (value : Json) : Bool :=
  (schema.violations value).isEmpty

end JsonSchema

end OlapSynthesis
