import OlapSynthesis.Discovery.Path

namespace OlapSynthesis

inductive EntryKind
  | file
  | directory
  | other
deriving DecidableEq, Repr

/-- What a walk comes by. -/
structure Entry where
  path : String
  kind : EntryKind
deriving DecidableEq, Repr

def Entry.isFile (entry : Entry) : Bool :=
  entry.kind == .file

/-- A way to walk directories. The paths of the entries lead through the directory. -/
structure Walk where
  /-- Everything in a directory, at any depth, and the directory itself, in any order. -/
  list? : String → Option (List Entry)
  within : ∀ {directory entries}, list? directory = some entries →
    ∀ entry ∈ entries, ∃ path, entry.path = Path.below directory path

structure Files where
  /-- The content of a regular file. -/
  read? : String → Option ByteArray
  walk : Walk
  /-- Whether there is something under a path. -/
  present : String → Bool
  writable : String → Bool

namespace Files

/-- The content of a file that holds text. -/
def readText? (files : Files) (path : String) : Option String :=
  files.read? path >>= String.fromUTF8?

end Files

/-- A file, a directory with what is in it, or something that can be met but not read. -/
inductive FileTree
  | file (content : ByteArray)
  | directory (entries : List (String × FileTree))
  | other

namespace FileTree

def emptyDirectory : FileTree :=
  .directory []

def replaceEntry (name : String) (tree : FileTree) :
    List (String × FileTree) → List (String × FileTree)
  | [] => [(name, tree)]
  | entry :: rest =>
    if entry.1 = name then (name, tree) :: rest else entry :: replaceEntry name tree rest

/-- Puts a tree at a place given by names, with directories on the way. -/
def insert (tree : FileTree) : List String → FileTree → FileTree
  | [], _ => tree
  | name :: rest, place =>
    let entries := match place with
      | .directory entries => entries
      | _ => []
    let below := (entries.lookup name).getD emptyDirectory
    .directory (replaceEntry name (insert tree rest below) entries)

/-- Follows the parts of a path. `above` holds the directories passed on the way, the nearest
first; above the topmost directory there is only itself. -/
def follow? : List String → List FileTree → FileTree → Option FileTree
  | [], _, place => some place
  | part :: rest, above, place =>
    match place with
    | .file _ | .other => none
    | .directory entries =>
      if Path.isIdle part then follow? rest above place
      else if part = ".." then
        match above with
        | [] => follow? rest [] place
        | nearest :: above => follow? rest above nearest
      else
        match entries.lookup part with
        | some below => follow? rest (place :: above) below
        | none => none

/-- What a path names in a tree, seen from the directory with the absolute path `here`. -/
def find? (root : FileTree) (here path : String) : Option FileTree :=
  if Path.isFollowable path then follow? (Path.parts (Path.join here path)) [] root else none

def kind : FileTree → EntryKind
  | .file _ => .file
  | .directory _ => .directory
  | .other => .other

mutual

/-- Everything in a tree, by its path from the top, and the tree itself. -/
def nodes : FileTree → List (List String × EntryKind)
  | .file _ => [([], .file)]
  | .directory entries => ([], .directory) :: nodesWithin entries
  | .other => [([], .other)]

def nodesWithin : List (String × FileTree) → List (List String × EntryKind)
  | [] => []
  | (name, tree) :: rest =>
    (nodes tree).map (fun (names, kind) => (name :: names, kind)) ++ nodesWithin rest

end

def content? : FileTree → Option ByteArray
  | .file content => some content
  | _ => none

/-- What a walk comes by in a tree that is met under a path, if all directories of the tree can be
entered. The path of a file may be too long to follow. -/
def list? (path : String) (tree : FileTree) : Option (List Entry) :=
  let entries := tree.nodes.map fun (names, kind) =>
    ⟨Path.below path (String.intercalate "/" names), kind⟩
  if entries.all fun entry => entry.kind != .directory || Path.isFollowable entry.path then
    some entries
  else none

/-- Whether a file can be written: its directory is there, and nothing but a file is in its place. -/
def isWritable (root : FileTree) (here path : String) : Bool :=
  let target := Path.join here path
  Path.isFollowable path && match (Path.parts target).getLast? with
  | none | some "" | some "." | some ".." => false
  | some name =>
    match follow? (Path.parts target).dropLast [] root with
    | some (.directory entries) => ((entries.lookup name).map kind).getD .file == .file
    | _ => false

def walk (root : FileTree) (here : String) : Walk where
  list? path := root.find? here path >>= list? path
  within := by
    intro directory entries h entry hentry
    obtain ⟨tree, -, hlisted⟩ := Option.bind_eq_some_iff.mp h
    rw [list?, Option.ite_none_right_eq_some] at hlisted
    rw [← Option.some.inj hlisted.2] at hentry
    obtain ⟨⟨names, kind⟩, -, rfl⟩ := List.mem_map.mp hentry
    exact ⟨_, rfl⟩

def files (root : FileTree) (here : String) : Files where
  read? path := root.find? here path >>= content?
  walk := root.walk here
  present path := (root.find? here path).isSome
  writable path := root.isWritable here path

end FileTree

end OlapSynthesis
