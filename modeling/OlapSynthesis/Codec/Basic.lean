import OlapSynthesis.Column
import OlapSynthesis.Json.Basic

namespace OlapSynthesis.Codec

/-- Why a value does not decode: it has the wrong shape, or a type tag in it is no type. -/
inductive DecodeError
  | shape
  | typeTag (cause : ColumnError)
deriving DecidableEq, Repr

/-- The complaint about a type tag; a wrong shape has no words of its own. -/
def DecodeError.message? : DecodeError → Option String
  | .shape => none
  | .typeTag cause => some cause.message

abbrev Decoded (α : Type u) := Except DecodeError α

def text : Json → Decoded String
  | .text s => .ok s
  | _ => .error .shape

def bool : Json → Decoded Bool
  | .bool b => .ok b
  | _ => .error .shape

/-- A character is written as the text of it alone. -/
def char : Json → Decoded Char
  | .text s =>
    match s.toList with
    | [c] => .ok c
    | _ => .error .shape
  | _ => .error .shape

/-- A whole number below a bound. A number with a fraction part is never whole, not even `1.0`. -/
def natBelow (bound : Nat) : Json → Decoded Nat
  | .number (.whole (.ofNat n)) => if n < bound then .ok n else .error .shape
  | _ => .error .shape

def word32 (j : Json) : Decoded UInt32 :=
  (natBelow UInt32.size j).map UInt32.ofNat

def word64 (j : Json) : Decoded UInt64 :=
  (natBelow UInt64.size j).map UInt64.ofNat

/-- A list is written as an array; its first bad item is the error. -/
def list (item : Json → Decoded α) : Json → Decoded (List α)
  | .array items => items.mapM item
  | _ => .error .shape

def nullable (decode : Json → Decoded α) : Json → Decoded (Option α)
  | .null => .ok none
  | j => (decode j).map some

def dictionary (decode : Json → Decoded α) : Json → Decoded (Dictionary α)
  | .object members => do
    let entries ← members.mapM fun (key, value) => return (key, ← decode value)
    return .ofList entries
  | _ => .error .shape

def encodeDictionary (encode : α → Json) (d : Dictionary α) : Json :=
  .object (d.entries.map fun (key, value) => (key, encode value))

def whenSome (key : String) (encode : α → Json) : Option α → List (String × Json)
  | some value => [(key, encode value)]
  | none => []

def orNull (encode : α → Json) : Option α → Json
  | some value => encode value
  | none => .null

def whenFilled (key : String) (encode : α → Json) : List α → List (String × Json)
  | [] => []
  | values => [(key, .array (values.map encode))]

def whenEntries (key : String) (encode : α → Json) (d : Dictionary α) : List (String × Json) :=
  if d.isEmpty then [] else [(key, encodeDictionary encode d)]

/-- The members of a record in the order of the value, and whether it has more than it may. -/
structure Members where
  entries : List (String × Json)
  surplus : Bool

def hasTwice (key : String) (entries : List (String × Json)) : Bool :=
  (entries.filter (·.1 == key)).length > 1

/-- The members of a record with the given keys, which is an object or an array of its members in
their declared order. Other members of an object are passed over, but a key of the record may stand
only once. -/
def members (keys : List String) : Json → Decoded Members
  | .object entries =>
    if keys.any (hasTwice · entries) then .error .shape else .ok ⟨entries, false⟩
  | .array items => .ok ⟨keys.zip items, keys.length < items.length⟩
  | _ => .error .shape

namespace Members

def read (m : Members) (key : String) (decode : Json → Decoded α) : Option (Decoded α) :=
  (m.entries.lookup key).map decode

/-- Reports the first error in the order of the value. -/
def settle (m : Members) (errors : List (String × Option DecodeError)) : Decoded Unit :=
  match m.entries.findSome? fun e => (errors.lookup e.1).join with
  | some error => .error error
  | none => if m.surplus then .error .shape else .ok ()

end Members

def fault : Option (Decoded α) → Option DecodeError
  | some (.error error) => some error
  | _ => none

def required : Option (Decoded α) → Decoded α
  | some result => result
  | none => .error .shape

def orElse (default : α) : Option (Decoded α) → Decoded α
  | some result => result
  | none => .ok default

/-- The members of a record in which nothing but shapes can be wrong, so that it does not matter
which error comes first. -/
def plainMembers (keys : List String) (j : Json) : Decoded Members := do
  let m ← members keys j
  m.settle []
  return m

/-- Where a value stands. The members of a tagged value are set aside until its tag is known, and
what was set aside is read a little more freely. -/
inductive Place
  | direct
  | setAside
deriving DecidableEq, Repr

/-- The name of a variant and what is written with it: a bare text, or an object with the name as
its one key. -/
def variant : Json → Decoded (String × Option Json)
  | .text name => .ok (name, none)
  | .object [(name, content)] => .ok (name, some content)
  | _ => .error .shape

def nothing (place : Place) : Option Json → Decoded Unit
  | none | some .null => .ok ()
  | some (.object []) =>
    match place with
    | .setAside => .ok ()
    | .direct => .error .shape
  | some _ => .error .shape

def oneOf (place : Place) (names : List (String × α)) (j : Json) : Decoded α := do
  let (name, content) ← variant j
  match names.lookup name with
  | some value =>
    nothing place content
    return value
  | none => .error .shape

/-- The tag of a tagged value, and its other members. In an array the tag comes first. -/
def tagged (key : String) : Json → Decoded (Json × Json)
  | .object entries =>
    match entries.lookup key with
    | some tag => .ok (tag, .object (entries.filter (·.1 != key)))
    | none => .error .shape
  | .array (tag :: rest) => .ok (tag, .array rest)
  | _ => .error .shape

/-- Which of some tags is meant; in a value set aside a tag may also be given by its position. -/
def tagOf (place : Place) (tags : List (String × α)) : Json → Decoded α
  | .text name =>
    match tags.lookup name with
    | some value => .ok value
    | none => .error .shape
  | .number (.whole (.ofNat n)) =>
    match place, tags[n]? with
    | .setAside, some (_, value) => .ok value
    | _, _ => .error .shape
  | _ => .error .shape

end OlapSynthesis.Codec
