import OlapSynthesis.Text

namespace OlapSynthesis.Path

def isAbsolute (path : String) : Bool :=
  path.toList.head? == some '/'

/-- A path within a directory; an absolute path is within none. -/
def join (directory path : String) : String :=
  if isAbsolute path then path
  else if directory.isEmpty || directory.toList.getLast? == some '/' then directory ++ path
  else directory ++ "/" ++ path

/-- The path of a file that was found below a directory, by its path from there. A directory that
is a file itself is found by the empty path. -/
def below (directory path : String) : String :=
  if path.isEmpty then directory else join directory path

def parts (path : String) : List String :=
  (Text.splitAt '/' path.toList).map String.ofList

/-- A part that leads nowhere. -/
def isIdle (part : String) : Bool :=
  part == "" || part == "."

def maxSize : Nat :=
  4095

def maxPartSize : Nat :=
  255

/-- Whether a path leads anywhere at all: it is not empty, and no part of it nor the whole is too
long. -/
def isFollowable (path : String) : Bool :=
  !path.isEmpty && path.utf8ByteSize ≤ maxSize &&
    (parts path).all fun part => part.utf8ByteSize ≤ maxPartSize

/-- The parts that lead somewhere. -/
def names (path : String) : List String :=
  (parts path).filter fun part => !isIdle part

/-- The root, or the dot that a relative path begins with. -/
def origin? (path : String) : Option String :=
  if isAbsolute path then some "/"
  else if (parts path).head? = some "." then some "." else none

/-- What a path is made of. A dot counts at the very beginning only. -/
def components (path : String) : List String :=
  (origin? path).toList ++ names path

/-- The root goes first, then the dot, then the step upwards, and names go last. -/
def rank (component : String) : Nat :=
  if component = "/" then 0 else if component = "." then 1 else if component = ".." then 2 else 3

def componentPrecedes (component other : String) : Bool :=
  rank component < rank other || (rank component == rank other && component < other)

def componentsPrecede : List String → List String → Bool
  | [], _ => true
  | _ :: _, [] => false
  | component :: rest, other :: rest' =>
    componentPrecedes component other || (component == other && componentsPrecede rest rest')

/-- The order of paths, component by component, which is not the order of the texts: a name may hold
a character below the slash. -/
def precedes (path other : String) : Bool :=
  componentsPrecede (components path) (components other)

/-- A path as it is seen from a directory, if it begins with the components of the directory. -/
def strip? (directory path : String) : Option String :=
  ((components directory).isPrefixOf? (components path)).map (String.intercalate "/")

/-- A file name without its last extension. What begins with the only dot has no extension. -/
def stemOfName (name : String) : String :=
  if name = ".." then name
  else
    match (Text.splitAt '.' name.toList).reverse with
    | _ :: stem :: rest =>
      if rest.isEmpty && stem.isEmpty then name
      else String.ofList (List.intercalate ['.'] (stem :: rest).reverse)
    | _ => name

def stem (path : String) : String :=
  match (names path).getLast? with
  | some name => stemOfName name
  | none => ""

/-- The path without its last name. A path of one name is within the empty path; the root is
within nothing. -/
def parent? (path : String) : Option String :=
  match (parts path).reverse.dropWhile isIdle with
  | [] => if path.isEmpty || isAbsolute path then none else some ""
  | _ :: above =>
    match above.dropWhile isIdle with
    | [] =>
      some (if isAbsolute path then "/" else if (parts path).head? = some "." then "." else "")
    | above => some (String.intercalate "/" above.reverse)

/-- The names that lead from the root to a path seen from a directory. A step upwards takes back
the name before it. -/
def destination (directory path : String) : List String :=
  ((names (join directory path)).foldl
    (fun passed name => if name = ".." then passed.drop 1 else name :: passed) []).reverse

/-- The absolute paths from names, the last one first, up to the root. -/
def upwards : List String → List String
  | [] => ["/"]
  | name :: above => ("/" ++ String.intercalate "/" (name :: above).reverse) :: upwards above

/-- An absolute path and all directories above it, the nearest first. -/
def ancestors (path : String) : List String :=
  upwards (names path).reverse

end OlapSynthesis.Path
