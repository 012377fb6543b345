import Mathlib.Data.Prod.Lex
import Mathlib.Data.String.Basic
import OlapSynthesis.Discovery.Path
import OlapSynthesis.Proofs.Text

namespace OlapSynthesis.Path

/-- Components compare by rank first. -/
def key (component : String) : Nat ×ₗ String :=
  toLex (rank component, component)

theorem key_injective : Function.Injective key := by
  intro component other h
  exact congrArg (fun key => (ofLex key).2) h

theorem componentPrecedes_iff {component other : String} :
    componentPrecedes component other = true ↔ key component < key other := by
  rw [key, key, Prod.Lex.toLex_lt_toLex, componentPrecedes, Bool.or_eq_true, Bool.and_eq_true,
    beq_iff_eq, decide_eq_true_eq, decide_eq_true_eq]

theorem componentsPrecede_iff {components others : List String} :
    componentsPrecede components others = true ↔ components.map key ≤ others.map key := by
  induction components generalizing others with
  | nil => exact iff_of_true rfl (not_lt.mp (List.not_lt_nil _))
  | cons component components ih =>
    cases others with
    | nil => simp [componentsPrecede]
    | cons other others =>
      rw [List.map_cons, List.map_cons, le_iff_lt_or_eq, List.cons_lt_cons_iff, List.cons.injEq,
        componentsPrecede, Bool.or_eq_true, Bool.and_eq_true, beq_iff_eq, componentPrecedes_iff, ih,
        le_iff_lt_or_eq, key_injective.eq_iff]
      tauto

theorem precedes_iff {path other : String} : precedes path other = true ↔
    (components path).map key ≤ (components other).map key :=
  componentsPrecede_iff

theorem precedes_trans (path middle other : String) (h : precedes path middle = true)
    (hlater : precedes middle other = true) : precedes path other = true := by
  rw [precedes_iff] at *
  exact le_trans h hlater

theorem precedes_total (path other : String) :
    (precedes path other || precedes other path) = true := by
  rw [Bool.or_eq_true, precedes_iff, precedes_iff]
  exact le_total _ _

/-- What a file or a directory can be called. -/
structure IsName (name : String) : Prop where
  nonempty : name ≠ ""
  unbroken : '/' ∉ name.toList
  notHere : name ≠ "."
  notAbove : name ≠ ".."

instance (name : String) : Decidable (IsName name) :=
  decidable_of_iff (name ≠ "" ∧ '/' ∉ name.toList ∧ name ≠ "." ∧ name ≠ "..")
    ⟨fun ⟨h, hslash, hhere, habove⟩ => ⟨h, hslash, hhere, habove⟩,
      fun ⟨h, hslash, hhere, habove⟩ => ⟨h, hslash, hhere, habove⟩⟩

theorem IsName.not_isIdle {name : String} (h : IsName name) : isIdle name = false := by
  rw [isIdle, Bool.or_eq_false_iff, beq_eq_false_iff_ne, beq_eq_false_iff_ne]
  exact ⟨h.nonempty, h.notHere⟩

theorem IsName.key_eq {name : String} (h : IsName name) : key name = toLex (3, name) := by
  have hroot : name ≠ "/" := by
    rintro rfl
    exact h.unbroken (List.mem_singleton_self '/')
  rw [key, rank, if_neg hroot, if_neg h.notHere, if_neg h.notAbove]

def ofNames (names : List String) : String :=
  String.intercalate "/" names

theorem ofNames_cons_cons (name second : String) (names : List String) :
    ofNames (name :: second :: names) = name ++ "/" ++ ofNames (second :: names) :=
  String.intercalate_cons_cons

theorem parts_append (path other : String) :
    parts (path ++ "/" ++ other) = parts path ++ parts other := by
  have hslash : (path ++ "/" ++ other).toList = path.toList ++ '/' :: other.toList := by simp
  rw [parts, hslash, Text.splitAt_append_cons, List.map_append]
  rfl

theorem parts_append_slash (path : String) : parts (path ++ "/") = parts path ++ [""] := by
  have hparts := parts_append path ""
  rwa [String.append_empty] at hparts

theorem names_append (path other : String) :
    Path.names (path ++ "/" ++ other) = Path.names path ++ Path.names other := by
  rw [Path.names, parts_append, List.filter_append]
  rfl

theorem names_append_slash (path : String) : Path.names (path ++ "/") = Path.names path := by
  rw [Path.names, parts_append_slash, List.filter_append]
  exact List.append_nil _

theorem parts_ne_nil (path : String) : parts path ≠ [] := by
  rw [parts, ne_eq, List.map_eq_nil_iff]
  exact Text.splitAt_ne_nil path.toList

theorem IsName.parts_eq {name : String} (h : IsName name) : parts name = [name] := by
  rw [parts, Text.splitAt_of_notMem h.unbroken, List.map_singleton, String.ofList_toList]

theorem isAbsolute_append {path : String} (h : path ≠ "") (rest : String) :
    isAbsolute (path ++ rest) = isAbsolute path := by
  rw [isAbsolute, isAbsolute, String.toList_append,
    List.head?_append_of_ne_nil _ (String.toList_eq_nil_iff.not.mpr h)]

variable {names other : List String}

theorem parts_ofNames (hne : names ≠ []) (h : ∀ name ∈ names, IsName name) :
    parts (ofNames names) = names := by
  induction names with
  | nil => exact absurd rfl hne
  | cons name names ih =>
    obtain ⟨hname, hnames⟩ := List.forall_mem_cons.mp h
    cases names with
    | nil =>
      rw [ofNames, String.intercalate_singleton]
      exact hname.parts_eq
    | cons second names =>
      rw [ofNames_cons_cons, parts_append, hname.parts_eq, ih (List.cons_ne_nil _ _) hnames]
      rfl

theorem names_ofNames (h : ∀ name ∈ names, IsName name) : Path.names (ofNames names) = names := by
  by_cases hne : names = []
  · rw [hne]
    rfl
  rw [Path.names, parts_ofNames hne h, List.filter_eq_self]
  intro name hname
  rw [(h name hname).not_isIdle]
  rfl

theorem exists_ofNames_cons (name : String) (names : List String) :
    ∃ rest, ofNames (name :: names) = name ++ rest := by
  cases names with
  | nil => exact ⟨"", String.intercalate_singleton.trans String.append_empty.symm⟩
  | cons second names =>
    rw [ofNames_cons_cons, String.append_assoc]
    exact ⟨_, rfl⟩

theorem ofNames_ne_empty (hne : names ≠ []) (h : ∀ name ∈ names, IsName name) :
    ofNames names ≠ "" := by
  intro hempty
  have hparts := parts_ofNames hne h
  rw [hempty] at hparts
  have hname := h "" (hparts ▸ List.mem_singleton_self "")
  exact hname.nonempty rfl

theorem isAbsolute_ofNames (h : ∀ name ∈ names, IsName name) :
    isAbsolute (ofNames names) = false := by
  cases names with
  | nil => rfl
  | cons name names =>
    obtain ⟨rest, hrest⟩ := exists_ofNames_cons name names
    have hname := h name List.mem_cons_self
    rw [hrest, isAbsolute_append hname.nonempty, isAbsolute, beq_eq_false_iff_ne]
    intro hslash
    exact hname.unbroken (List.mem_of_head? hslash)

/-- Names that come after a slash come after the components before it. -/
theorem components_append_ofNames (front : String) (h : ∀ name ∈ names, IsName name) :
    components (front ++ "/" ++ ofNames names) = components (front ++ "/") ++ names := by
  have hslash : front ++ "/" ≠ "" := by
    rw [ne_eq, ← String.toList_inj]
    simp
  have horigin : origin? (front ++ "/" ++ ofNames names) = origin? (front ++ "/") := by
    rw [origin?, origin?, isAbsolute_append hslash, parts_append, parts_append_slash,
      List.head?_append_of_ne_nil _ (parts_ne_nil front),
      List.head?_append_of_ne_nil _ (parts_ne_nil front)]
  rw [components, components, horigin, names_append, names_append_slash, names_ofNames h,
    List.append_assoc]

theorem components_append_slash {path : String} (h : path ≠ "") :
    components (path ++ "/") = components path := by
  rw [components, components, origin?, origin?, isAbsolute_append h, names_append_slash,
    parts_append_slash, List.head?_append_of_ne_nil _ (parts_ne_nil path)]

theorem components_ofNames (h : ∀ name ∈ names, IsName name) :
    components (ofNames names) = names := by
  have horigin : origin? (ofNames names) = none := by
    cases names with
    | nil => rfl
    | cons name names =>
      have hhere : ¬ some name = some "." := fun heq =>
        (h name List.mem_cons_self).notHere (Option.some.inj heq)
      rw [origin?, isAbsolute_ofNames h, parts_ofNames (List.cons_ne_nil _ _) h, List.head?_cons,
        if_neg Bool.false_ne_true, if_neg hhere]
  rw [components, horigin, names_ofNames h]
  rfl

theorem components_below (directory : String) (h : ∀ name ∈ names, IsName name) :
    components (below directory (ofNames names)) = components directory ++ names := by
  by_cases hne : names = []
  · rw [hne]
    exact (List.append_nil _).symm
  have hempty : ¬ (ofNames names).isEmpty = true := by
    rw [String.isEmpty_iff]
    exact ofNames_ne_empty hne h
  rw [below, if_neg hempty, join, isAbsolute_ofNames h, if_neg Bool.false_ne_true]
  -- a slash is put between the two unless the directory brings one, or is empty
  split
  · next hopen =>
    rw [Bool.or_eq_true, String.isEmpty_iff, beq_iff_eq, List.getLast?_eq_some_iff] at hopen
    rcases hopen with rfl | ⟨front, hfront⟩
    · rw [String.empty_append]
      exact components_ofNames h
    · have hdirectory : directory = String.ofList front ++ "/" := by
        rw [← String.toList_inj, hfront]
        simp
      rw [hdirectory]
      exact components_append_ofNames _ h
  · next hopen =>
    have hdirectory : directory ≠ "" := by
      rintro rfl
      exact hopen rfl
    rw [components_append_ofNames directory h, components_append_slash hdirectory]

theorem strip?_below (directory : String) (h : ∀ name ∈ names, IsName name) :
    strip? directory (below directory (ofNames names)) = some (ofNames names) := by
  have hprefix : (components directory).isPrefixOf? (components directory ++ names) = some names := by
    induction components directory with
    | nil => rfl
    | cons component components ih => simp [List.isPrefixOf?, ih]
  rw [strip?, components_below directory h, hprefix]
  rfl

theorem below_injective (directory : String) (h : ∀ name ∈ names, IsName name)
    (hother : ∀ name ∈ other, IsName name)
    (heq : below directory (ofNames names) = below directory (ofNames other)) : names = other := by
  have hcomponents := congrArg components heq
  rw [components_below directory h, components_below directory hother] at hcomponents
  exact List.append_cancel_left hcomponents

theorem components_below_lt (directory : String) (h : ∀ name ∈ names, IsName name)
    (hother : ∀ name ∈ other, IsName name) (hlt : names < other) :
    components (below directory (ofNames names)) < components (below directory (ofNames other)) := by
  rw [components_below directory h, components_below directory hother]
  exact List.append_left_lt hlt

theorem precedes_below_iff (directory : String) (h : ∀ name ∈ names, IsName name)
    (hother : ∀ name ∈ other, IsName name) :
    precedes (below directory (ofNames names)) (below directory (ofNames other)) = true ↔
      names ≤ other := by
  have hkeys {names : List String} (h : ∀ name ∈ names, IsName name) :
      names.map key = names.map fun name => toLex (3, name) :=
    List.map_congr_left fun name hname => (h name hname).key_eq
  have hlt {names other : List String} (h : ∀ name ∈ names, IsName name)
      (hother : ∀ name ∈ other, IsName name) (hlt : names < other) :
      (components directory ++ names).map key < (components directory ++ other).map key := by
    rw [List.map_append, List.map_append, hkeys h, hkeys hother]
    apply List.append_left_lt
    apply List.map_lt _ hlt
    intro name later hname
    exact Prod.Lex.toLex_lt_toLex.mpr (.inr ⟨rfl, hname⟩)
  rw [precedes_iff, components_below directory h, components_below directory hother]
  constructor
  · intro hle
    by_contra hnot
    exact absurd hle (hlt hother h (not_le.mp hnot)).not_ge
  · intro hle
    rcases hle.lt_or_eq with hless | rfl
    · exact (hlt h hother hless).le
    · exact le_rfl

end OlapSynthesis.Path
