import OlapSynthesis.Dictionary

namespace OlapSynthesis

inductive Setting
  | text (value : String)
  | whole (value : Int)
  /-- A number with a fraction. No setting is one, so its value does not matter. -/
  | real
  | truth (value : Bool)
  | list (items : List Setting)
  /-- The entries are in the order of their keys. -/
  | table (entries : List (String × Setting))
deriving Inhabited

namespace Setting

def emptyTable : Setting :=
  .table []

def nested : List String → Setting → Setting
  | [], setting => setting
  | key :: path, setting => .table [(key, nested path setting)]

mutual

/-- A setting with a higher one over it. Tables are put together entry by entry; of anything else
only the higher one is left. -/
def overlay (low high : Setting) : Setting :=
  match low, high with
  | .table low, .table high => .table (overlayEntries low high)
  | _, high => high
termination_by structural high

def overlayEntries (low high : List (String × Setting)) : List (String × Setting) :=
  match high with
  | [] => low
  | (key, value) :: rest =>
    let value := match low.lookup key with
      | some setting => overlay setting value
      | none => value
    overlayEntries (Dictionary.insertEntry key value low) rest
termination_by structural high

end

def at? : List String → Setting → Option Setting
  | [], setting => some setting
  | key :: path, .table entries => entries.lookup key >>= at? path
  | _ :: _, _ => none

end Setting

end OlapSynthesis
