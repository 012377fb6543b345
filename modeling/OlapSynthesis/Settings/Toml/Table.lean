import OlapSynthesis.Settings.Setting

namespace OlapSynthesis.Toml

inductive Origin
  /-- It has a header. -/
  | header
  /-- A header of a table within it implied it. -/
  | implied
  /-- Dotted keys made it. -/
  | dotted
deriving DecidableEq, Repr

inductive Item
  | value (setting : Setting)
  | table (origin : Origin) (entries : List (String × Item))
  /-- An array of tables, of which only the last can still grow. -/
  | tables (earlier : List (List (String × Item))) (last : List (String × Item))
deriving Inhabited

abbrev Entries := List (String × Item)

def put (key : String) (item : Item) : Entries → Entries
  | [] => [(key, item)]
  | entry :: rest => if entry.1 = key then (key, item) :: rest else entry :: put key item rest

/-- Changes the entries of the table under a path. Tables that are missing on the way come about
as `made` says; when dotted keys lead the way, it may not pass a table with a header. -/
def within (made : Origin) (change : Origin → Entries → Option Entries) :
    List String → Origin → Entries → Option Entries
  | [], origin, entries => change origin entries
  | key :: path, _, entries =>
    match entries.lookup key with
    | none => do
      let below ← within made change path made []
      return put key (.table made below) entries
    | some (.value _) => none
    | some (.tables earlier last) => do
      let below ← within made change path .header last
      return put key (.tables earlier below) entries
    | some (.table origin below) =>
      if made = .dotted ∧ origin = .header then none
      else do
        let below ← within made change path origin below
        return put key (.table origin below) entries

/-- A key with the value that it is given: the last part of the key and the parts before it. -/
structure Assignment where
  path : List String
  key : String
  value : Setting

/-- Carries out an assignment. A key may be given one value, and dotted keys may only fill tables
that dotted keys made. -/
def assign (entries : Entries) (assignment : Assignment) : Option Entries :=
  within .dotted (fun origin entries =>
    if (origin = .dotted) ≠ (assignment.path ≠ []) then none
    else if (entries.lookup assignment.key).isSome then none
    else some (put assignment.key (.value assignment.value) entries))
    assignment.path .header entries

def assignAll (entries : Entries) (assignments : List Assignment) : Option Entries :=
  assignments.foldlM assign entries

structure Section where
  path : List String
  key : String
  /-- Whether the header adds a table to an array of them. -/
  isArray : Bool
  assignments : List Assignment

def addSection (entries : Entries) (s : Section) : Option Entries :=
  within .implied (fun _ entries =>
    match s.isArray, entries.lookup s.key with
    | false, none => do
      return put s.key (.table .header (← assignAll [] s.assignments)) entries
    | false, some (.table .implied below) => do
      return put s.key (.table .header (← assignAll below s.assignments)) entries
    | true, none => do
      return put s.key (.tables [] (← assignAll [] s.assignments)) entries
    | true, some (.tables earlier last) => do
      return put s.key (.tables (earlier ++ [last]) (← assignAll [] s.assignments)) entries
    | _, _ => none)
    s.path .header entries

mutual

def Item.setting : Item → Setting
  | .value setting => setting
  | .table _ entries => .table (entriesSettings entries)
  | .tables earlier last =>
    .list (tableSettings earlier ++ [.table (entriesSettings last)])

def entriesSettings : List (String × Item) → List (String × Setting)
  | [] => []
  | (key, item) :: rest => Dictionary.insertEntry key item.setting (entriesSettings rest)

def tableSettings : List (List (String × Item)) → List Setting
  | [] => []
  | entries :: rest => .table (entriesSettings entries) :: tableSettings rest

end

structure Document where
  assignments : List Assignment
  sections : List Section

/-- What a document says, unless it defines something twice. -/
def Document.setting? (document : Document) : Option Setting := do
  let entries ← assignAll [] document.assignments
  let entries ← document.sections.foldlM addSection entries
  return .table (entriesSettings entries)

def inlineTable? (assignments : List Assignment) : Option Setting :=
  (assignAll [] assignments).map fun entries => .table (entriesSettings entries)

end OlapSynthesis.Toml
