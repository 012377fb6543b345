namespace OlapSynthesis.Text

/-- The Unicode property `White_Space`. -/
def isWhiteSpace (c : Char) : Bool :=
  let n := c.toNat
  (0x09 ≤ n && n ≤ 0x0D) || n == 0x20 || n == 0x85 || n == 0xA0 || n == 0x1680 ||
    (0x2000 ≤ n && n ≤ 0x200A) || n == 0x2028 || n == 0x2029 || n == 0x202F || n == 0x205F ||
    n == 0x3000

def trimmed (s : String) : List Char :=
  ((s.toList.dropWhile isWhiteSpace).reverse.dropWhile isWhiteSpace).reverse

def trim (s : String) : String :=
  String.ofList (trimmed s)

/-- A blank text holds nothing but white space. -/
def isBlank (s : String) : Bool :=
  s.toList.all isWhiteSpace

theorem dropWhile_eq_nil_iff {p : α → Bool} {l : List α} :
    l.dropWhile p = [] ↔ l.all p = true := by
  induction l with
  | nil => simp
  | cons a l ih =>
    cases h : p a <;> simp_all

theorem all_dropWhile {p : α → Bool} {l : List α} (h : (l.dropWhile p).all p = true) :
    l.all p = true := by
  induction l with
  | nil => rfl
  | cons a l ih =>
    cases ha : p a with
    | false => simp [ha] at h
    | true =>
      rw [List.dropWhile_cons, if_pos ha] at h
      simpa [ha] using ih h

theorem trim_eq_empty_iff {s : String} : trim s = "" ↔ isBlank s = true := by
  constructor
  · intro h
    have hs : trimmed s = [] := by
      have := congrArg String.toList h
      simpa [trim] using this
    have hd : ((s.toList.dropWhile isWhiteSpace).reverse).dropWhile isWhiteSpace = [] := by
      simpa [trimmed] using hs
    have ha := dropWhile_eq_nil_iff.mp hd
    rw [List.all_reverse] at ha
    exact all_dropWhile ha
  · intro h
    have hd : s.toList.dropWhile isWhiteSpace = [] := dropWhile_eq_nil_iff.mpr h
    simp [trim, trimmed, hd]

def lower (s : String) : String :=
  String.ofList (s.toList.map Char.toLower)

def upper (s : String) : String :=
  String.ofList (s.toList.map Char.toUpper)

/-- Equality up to the case of ASCII letters. -/
def sameIgnoringCase (s t : String) : Bool :=
  s.toList.map Char.toLower == t.toList.map Char.toLower

@[simp] theorem sameIgnoringCase_self (s : String) : sameIgnoringCase s s = true := by
  simp [sameIgnoringCase]

def startsIgnoringCase (start s : String) : Bool :=
  (s.toList.take start.length).map Char.toLower == start.toList.map Char.toLower

def endsIgnoringCase (ending s : String) : Bool :=
  (s.toList.reverse.take ending.length).reverse.map Char.toLower ==
    ending.toList.map Char.toLower

/-- What follows `start`, where the text begins with it. -/
def without? (start s : String) : Option String :=
  if start.toList.isPrefixOf s.toList then some (String.ofList (s.toList.drop start.length))
  else none

/-- The pieces of a list between the elements equal to `mark`. -/
def splitAt [BEq α] (mark : α) : List α → List (List α)
  | [] => [[]]
  | a :: rest =>
    if a == mark then [] :: splitAt mark rest
    else
      match splitAt mark rest with
      | [] => [[a]]
      | piece :: pieces => (a :: piece) :: pieces

/-- What stands before and after the first `mark`, where there is one. -/
def cut? (mark : Char) (s : String) : Option (String × String) :=
  match s.toList.dropWhile (· != mark) with
  | [] => none
  | _ :: after => some (String.ofList (s.toList.takeWhile (· != mark)), String.ofList after)

/-- The characters that the first `n` bytes of a text hold, unless these end within a
character. -/
def firstBytes? : Nat → List Char → Option (List Char)
  | 0, _ | _, [] => some []
  | n, c :: rest =>
    if c.utf8Size ≤ n then (firstBytes? (n - c.utf8Size) rest).map (c :: ·) else none

def bytes (s : String) : List UInt8 :=
  s.toUTF8.toList

end OlapSynthesis.Text
